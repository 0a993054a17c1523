import RelaxCompact.Proofs.Assembly.Sites
import RelaxCompact.Proofs.Lists
import RelaxCompact.Proofs.Ordering.Criterion

/-!
What a successful run leaves behind in the bookkeeping of an assembly: which names the override
blocks in effect have suppressed, and which environments are noted. Both are just those of the
definitions and includes that the run goes through.
-/

namespace RelaxCompact

open Surface

/-- An override block that has gone on suppressing what it defines. -/
structure OverrideFrame.Marked (defined : DefineName → Prop) (f f' : OverrideFrame) : Prop where
  href : f'.href = f.href
  spans : f'.spans = f.spans
  hits : ∀ name, name ∈ f'.hits ↔
    name ∈ f.hits ∨ f.spans.contains name = true ∧ defined name

theorem OverrideFrame.Marked.idle {defined : DefineName → Prop} (h : ∀ name, ¬ defined name)
    (f : OverrideFrame) : f.Marked defined f :=
  ⟨rfl, rfl, fun name => by simp only [h name, and_false, or_false]⟩

theorem OverrideFrame.Marked.trans {f f' f'' : OverrideFrame} {D D' : DefineName → Prop}
    (h : f.Marked D f') (h' : f'.Marked D' f'') : f.Marked (fun name => D name ∨ D' name) f'' where
  href := h'.href.trans h.href
  spans := h'.spans.trans h.spans
  hits name := by
    rw [h'.hits, h.hits, h.spans]
    tauto

namespace Expand

/-- A run from `s` to `t` has met definitions of just the names that are `defined`. It has noted
environments for new grammars, and for the others those that are `included`. -/
structure Traced (catalog : Catalog) (defined : DefineName → Prop) (included : Nat → Locus → Prop)
    (s t : Expansion) : Prop where
  sources : t.source.sources catalog = s.source.sources catalog
  frames : List.Forall₂ (OverrideFrame.Marked defined) s.frames t.frames
  environments : ∀ n key first, t.environments.get? (n, key) = some first →
    s.environments.get? (n, key) = some first ∨
      (s.grammars.length ≤ n ∧ n < t.grammars.length) ∨
      ∃ inner, included n inner ∧ inner.file = key ∧ inner.environment = first.1
  grammars : s.grammars.length ≤ t.grammars.length

/-- A run that meets no definition, and notes environments for new grammars only. -/
abbrev Idle (catalog : Catalog) (s t : Expansion) : Prop :=
  Traced catalog (fun _ => False) (fun _ _ => False) s t

section

variable {catalog : Catalog} {D D' : DefineName → Prop} {I I' : Nat → Locus → Prop}
  {s t u : Expansion}

theorem Traced.mono (h : Traced catalog D I s t) (hD : ∀ name, D' name ↔ D name)
    (hI : ∀ n inner, I n inner → I' n inner) : Traced catalog D' I' s t where
  sources := h.sources
  frames := h.frames.imp fun _ _ hm => ⟨hm.href, hm.spans, fun name => by rw [hm.hits, hD]⟩
  environments n key first hfirst := by
    rcases h.environments n key first hfirst with hs | hn | ⟨inner, hi, hrest⟩
    · exact .inl hs
    · exact .inr (.inl hn)
    · exact .inr (.inr ⟨inner, hI n inner hi, hrest⟩)
  grammars := h.grammars

theorem Traced.trans (h : Traced catalog D I s u) (h' : Traced catalog D' I' u t) :
    Traced catalog (fun name => D name ∨ D' name) (fun n inner => I n inner ∨ I' n inner) s t where
  sources := h'.sources.trans h.sources
  frames := forall₂_of_common h.frames.flip h'.frames fun _ _ _ _ hm hm' => hm.trans hm'
  environments n key first hfirst := by
    have hsu := h.grammars
    have hut := h'.grammars
    rcases h'.environments n key first hfirst with hu | hn | ⟨inner, hi, hrest⟩
    · rcases h.environments n key first hu with hs | hn | ⟨inner, hi, hrest⟩
      · exact .inl hs
      · exact .inr (.inl ⟨hn.1, by omega⟩)
      · exact .inr (.inr ⟨inner, .inl hi, hrest⟩)
    · exact .inr (.inl ⟨by omega, hn.2⟩)
    · exact .inr (.inr ⟨inner, .inr hi, hrest⟩)
  grammars := Nat.le_trans h.grammars h'.grammars

theorem Traced.after (h : Traced catalog D I u t) (hidle : Idle catalog s u) :
    Traced catalog D I s t :=
  (hidle.trans h).mono (fun _ => by rw [false_or]) fun _ _ hi => hi.resolve_left id

theorem Traced.before (h : Traced catalog D I s u) (hidle : Idle catalog u t) :
    Traced catalog D I s t :=
  (h.trans hidle).mono (fun _ => by rw [or_false]) fun _ _ hi => hi.resolve_right id

/-- Which files are being expanded makes no difference. -/
theorem Traced.restack {stack stack' : List Text} (h : Traced catalog D I { s with stack } t) :
    Traced catalog D I s { t with stack := stack' } :=
  ⟨h.sources, h.frames, h.environments, h.grammars⟩

/-- Nothing is done to override blocks and environments. -/
theorem Idle.of_eq (hsource : t.source.sources catalog = s.source.sources catalog)
    (hframes : t.frames = s.frames) (henvironments : t.environments = s.environments)
    (hgrammars : s.grammars.length ≤ t.grammars.length) : Idle catalog s t where
  sources := hsource
  frames := by
    rw [hframes]
    exact List.forall₂_same.2 fun f _ => .idle (fun _ => id) f
  environments n key first hfirst := .inl (henvironments ▸ hfirst)
  grammars := hgrammars

theorem Idle.refl (s : Expansion) : Idle catalog s s := .of_eq rfl rfl rfl (Nat.le_refl _)

/-! The single steps -/

theorem report_idle {message : Text} (h : report message s = .ok () t) : Idle catalog s t := by
  have hsources : t.source.sources catalog = s.source.sources catalog := (report_ok h).sources
  obtain ⟨source, -, rfl⟩ := fetching_ok h
  exact .of_eq hsources rfl rfl (Nat.le_refl _)

theorem fetch_idle {key href : Text} {span : Span} {file : File}
    (h : fetch catalog key href span s = .ok file t) : Idle catalog s t := by
  obtain ⟨-, -, hquiet⟩ := fetch_ok h
  refine .of_eq hquiet.sources hquiet.frames ?_ (Nat.le_of_eq (by rw [hquiet.grammars]))
  obtain ⟨_, _, hget, h₁⟩ := Run.bind_ok h
  cases hget
  dsimp only at h₁
  split at h₁
  · obtain ⟨_, _, hrefuse, _⟩ := Run.bind_ok h₁
    exact (Run.not_throw_ok hrefuse).elim
  · obtain ⟨result, u, hattempt, h₂⟩ := Run.bind_ok h₁
    obtain ⟨source, -, rfl⟩ := fetching_ok hattempt
    split at h₂
    · obtain ⟨_, v, hmodify, h₃⟩ := Run.bind_ok h₂
      cases hmodify
      cases h₃
      rfl
    · exact (Run.not_throw_ok h₂).elim
    · exact (Run.not_throw_ok h₂).elim

theorem openScope_idle {place inner : Place} {kind : ScopeKind} {label : Text}
    (h : openScope place kind label s = .ok inner t) :
    Idle catalog s t ∧ inner.locus = place.locus ∧ inner.grammar = place.grammar := by
  obtain ⟨number, rfl, rfl⟩ := openScope_ok h
  exact ⟨.of_eq rfl rfl rfl (Nat.le_of_eq (List.length_modify _ _ _).symm), rfl, rfl⟩

theorem claim_idle {grammar : Nat} {o : Occurrence} {seen : Bool}
    (h : claim grammar o s = .ok seen t) : Idle catalog s t := by
  rcases claim_ok h with ⟨-, -, rfl⟩ | ⟨-, -, rfl⟩
  · exact .refl _
  · exact .of_eq rfl rfl rfl (Nat.le_refl _)

theorem addSite_idle {place : Place} {name : DefineName} {site : Site}
    (h : addSite place name site s = .ok () t) : Idle catalog s t := by
  obtain ⟨d, -, rfl⟩ := addSite_joins h
  exact .of_eq rfl rfl rfl (Nat.le_of_eq (List.length_modify _ _ _).symm)

theorem suppressed_traced {name : DefineName} {covered : Bool}
    (h : suppressed name s = .ok covered t) :
    Traced catalog (· = name) (fun _ _ => False) s t := by
  obtain ⟨_, _, hget, h₁⟩ := Run.bind_ok h
  cases hget
  obtain ⟨_, _, hmodify, h₂⟩ := Run.bind_ok h₁
  cases hmodify
  cases h₂
  refine ⟨rfl, ?_, fun _ _ _ hfirst => .inl hfirst, Nat.le_refl _⟩
  refine List.forall₂_map_right_iff.2 (List.forall₂_same.2 fun f _ => ?_)
  by_cases hf : f.spans.contains name = true ∧ name ∉ f.hits
  · rw [if_pos hf]
    refine ⟨rfl, rfl, fun other => ?_⟩
    rw [List.mem_cons]
    constructor
    · rintro (rfl | hm)
      · exact .inr ⟨hf.1, rfl⟩
      · exact .inl hm
    · rintro (hm | ⟨-, rfl⟩)
      · exact .inr hm
      · exact .inl rfl
  · rw [if_neg hf]
    refine ⟨rfl, rfl, fun other => ⟨.inl, ?_⟩⟩
    rintro (hm | ⟨hc, rfl⟩)
    · exact hm
    · exact Classical.not_not.1 fun hm => hf ⟨hc, hm⟩

/-- Checking an environment notes it, if none is noted. -/
theorem checkEnvironment_traced {grammar : Nat} {href : Text} {span : Span} {inner : Locus}
    (h : checkEnvironment grammar inner.file href span inner.environment s = .ok () t) :
    Traced catalog (fun _ => False) (fun n l => n = grammar ∧ l = inner) s t := by
  have hquiet : Quiet catalog s t := checkEnvironment_ok h
  refine ⟨hquiet.sources, ?_, fun n key first hfirst => ?_,
    Nat.le_of_eq (by rw [hquiet.grammars])⟩
  · rw [hquiet.frames]
    exact List.forall₂_same.2 fun f _ => .idle (fun _ => id) f
  · obtain ⟨_, _, hget, h₁⟩ := Run.bind_ok h
    cases hget
    cases hk : s.environments.get? (grammar, inner.file) with
    | none =>
      simp only [hk] at h₁
      cases h₁
      by_cases he : (n, key) = (grammar, inner.file)
      · cases he
        rw [Table.get?_insert_self] at hfirst
        cases hfirst
        exact .inr (.inr ⟨inner, ⟨rfl, rfl⟩, rfl, rfl⟩)
      · rw [Table.get?_insert_of_ne _ he] at hfirst
        exact .inl hfirst
    | some noted =>
      simp only [hk] at h₁
      split at h₁
      · exact (Run.not_throw_ok h₁).elim
      · cases h₁
        exact .inl hfirst

/-- A grammar of its own is new, and no override block around it is told of it. -/
theorem isolated_idle {label : Text} {parent : Option Nat} {body : Nat → Expand Unit} {number : Nat}
    (h : isolated label parent body s = .ok number t)
    (hbody : ∀ u v, u.source = s.source → body number u = .ok () v →
      Traced catalog D (fun n inner => n = number ∧ I n inner) u v) : Idle catalog s t := by
  obtain ⟨rfl, u, hu, rfl⟩ := isolated_ok h
  have htraced :=
    hbody { s with grammars := s.grammars ++ [{ label, parent }], frames := [] } u rfl hu
  have hlength := htraced.grammars
  dsimp only at hlength
  rw [List.length_append, List.length_singleton] at hlength
  refine ⟨htraced.sources, List.forall₂_same.2 fun f _ => .idle (fun _ => id) f,
    fun n key first hfirst => ?_, Nat.le_of_succ_le hlength⟩
  rcases htraced.environments n key first hfirst with hs | hn | ⟨inner, ⟨rfl, -⟩, -⟩
  · exact .inl hs
  · rw [List.length_append, List.length_singleton] at hn
    exact .inr (.inl ⟨by omega, hn.2⟩)
  · exact .inr (.inl ⟨Nat.le_refl _, hlength⟩)

end

/-! Whole components -/

/-- What runs through components come to, if they are expanded in this way. -/
def Traces (catalog : Catalog) (src : Sources) (number : Nat) (l : Locus) (cs : List Component)
    (x : Expand Unit) : Prop :=
  ∀ s t, s.source.sources catalog = src → x s = .ok () t →
    Traced catalog (DefinesIn src l cs) (fun n inner => n = number ∧ Includes src l cs inner) s t

section

variable {setup : Setup} {descend : Descend} {src : Sources} {s t : Expansion}

theorem external_idle
    (hd : ∀ place cs, Traces setup.catalog src place.grammar place.locus cs (descend place cs))
    {place : Place} {href : Text} {inherit : Option String} {span : Span} {number : Nat}
    (hsrc : s.source.sources setup.catalog = src)
    (h : external setup descend place href inherit span s = .ok number t) :
    Idle setup.catalog s t := by
  obtain ⟨key, s', hcanonical, h₁⟩ := Run.bind_ok h
  obtain ⟨-, hs⟩ := Run.liftExcept_ok hcanonical
  subst s'
  obtain ⟨file, u, hfetch, h₂⟩ := Run.bind_ok h₁
  have hsu : Idle setup.catalog s u := fetch_idle hfetch
  obtain ⟨ns, u', hinherit, h₃⟩ := Run.bind_ok h₂
  obtain ⟨-, hu⟩ := inheritedNamespace_ok hinherit
  subst u'
  obtain ⟨_, v, henter, h₄⟩ := Run.bind_ok h₃
  cases henter
  obtain ⟨w, hw, rfl⟩ := ensuring_ok h₄
  have huw : Idle setup.catalog { u with stack := key :: u.stack } w := by
    refine isolated_idle hw fun v x hv hx => hd _ _ v x ?_ hx
    rw [hv]
    exact hsu.sources.trans hsrc
  exact (Traced.restack huw).after hsu

/-- The fragment of an include tells the override blocks around it what it defines. If blocks are
strict, it defines all that the block of the include does. -/
theorem includeFragment_traced
    (hd : ∀ place cs, Traces setup.catalog src place.grammar place.locus cs (descend place cs))
    {place : Place} {file : File} {key href : Text} {inherit : Option String}
    {overrides : List Component} {span : Span} (hsrc : s.source.sources setup.catalog = src)
    (h : includeFragment setup descend place file key href inherit overrides span s = .ok () t) :
    ∃ (ns : Text) (inner : Place) (w x : Expansion),
      place.environment.Passes inherit ns ∧
      inner.locus = ⟨Environment.ofDeclarations file.declarations ns, key, []⟩ ∧
      descend inner file.components w = .ok () x ∧
      w.source.sources setup.catalog = src ∧ w.stack = key :: s.stack ∧
      Traced setup.catalog (DefinesIn src inner.locus file.components)
        (fun n l => n = place.grammar ∧
          (l = inner.locus ∨ Includes src inner.locus file.components l)) s t ∧
      (setup.strict = true → ∀ name ∈ definedNames overrides,
        DefinesIn src inner.locus file.components name) := by
  obtain ⟨u, u', v, w, ns, inner, hpush, hreport, hns, hcheck, hopen, x, hx, rfl, hhits⟩ :=
    includeFragment_ok h
  obtain ⟨hvw, hlocus, hgrammar⟩ : Idle setup.catalog v w ∧ _ := openScope_idle hopen
  have huv : Traced setup.catalog (fun _ => False)
      (fun n l => n = place.grammar ∧
        l = ⟨Environment.ofDeclarations file.declarations ns, key, []⟩) u v :=
    (checkEnvironment_traced hcheck).after (report_idle hreport)
  have hstack : w.stack = u.stack := by
    rw [(openScope_advances _ _ _ _ _ _ hopen : Onward setup.catalog v w).stack,
      (checkEnvironment_ok hcheck : Quiet setup.catalog u' v).stack,
      (report_ok hreport : Quiet setup.catalog u u').stack]
  have hpushed : u.source = s.source ∧ u.stack = s.stack := by
    rcases hpush with ⟨-, hpush⟩ | ⟨-, rfl⟩
    · obtain ⟨f, -, -, rfl⟩ := pushFrame_ok hpush
      exact ⟨rfl, rfl⟩
    · exact ⟨rfl, rfl⟩
  have hsources : w.source.sources setup.catalog = src := by
    rw [hvw.sources, huv.sources, hpushed.1, hsrc]
  have hux : Traced setup.catalog (DefinesIn src inner.locus file.components)
      (fun n l => n = place.grammar ∧
        (l = inner.locus ∨ Includes src inner.locus file.components l)) u
      { x with stack := x.stack.tail } := by
    have hwx := hd inner _ { w with stack := key :: w.stack } x hsources hx
    refine ((huv.before hvw).trans (Traced.restack hwx)).mono
      (fun _ => by rw [false_or]) fun n l hi => ?_
    rw [hlocus]
    rw [hlocus, hgrammar] at hi
    exact hi.elim (fun ⟨hn, hl⟩ => ⟨hn, .inl hl⟩) fun ⟨hn, hl⟩ => ⟨hn, .inr hl⟩
  refine ⟨ns, inner, _, x, hns, hlocus, hx, hsources,
    congrArg _ (hstack.trans hpushed.2), ?_⟩
  rcases hpush with ⟨hsome, hpush⟩ | ⟨hnone, rfl⟩
  · obtain ⟨f, hspans, hnew, rfl⟩ := pushFrame_ok hpush
    rw [hsome]
    obtain ⟨f', frames, hmarked, hframes, heq⟩ := List.forall₂_cons_left_iff.1 hux.frames
    change x.frames = f' :: frames at heq
    refine ⟨⟨hux.sources, ?_, hux.environments, hux.grammars⟩, fun hstrict name hname => ?_⟩
    · change List.Forall₂ _ _ x.frames.tail
      rw [heq]
      exact hframes
    · -- The block was told of what the fragment defines, and of nothing else.
      have hhit := hhits hsome hstrict f' (by rw [heq]; rfl) name
        (by rw [hmarked.spans]; exact (hspans name).2 hname)
      rw [hmarked.hits, hnew] at hhit
      exact (hhit.resolve_left List.not_mem_nil).2
  · rw [hnone]
    refine ⟨⟨hux.sources, hux.frames, hux.environments, hux.grammars⟩, fun _ name hname => ?_⟩
    rw [List.isEmpty_iff.1 hnone] at hname
    cases hname

/-- The override blocks in effect are told of every definition, be it taken or not. -/
theorem register_traced {place : Place} {d : Define} {lower : Expand Content}
    (hlower : ∀ s c t, s.source.sources setup.catalog = src → lower s = .ok c t →
      Idle setup.catalog s t)
    (hsrc : s.source.sources setup.catalog = src) (h : register place d lower s = .ok () t) :
    Traced setup.catalog (· = d.name) (fun _ _ => False) s t := by
  obtain ⟨covered, u, hsuppressed, h₁⟩ := Run.bind_ok h
  have hsu : Traced setup.catalog (· = d.name) (fun _ _ => False) s u :=
    suppressed_traced hsuppressed
  refine hsu.before ?_
  cases covered with
  | true => exact report_idle h₁
  | false =>
    obtain ⟨seen, v, hclaim, h₂⟩ := Run.bind_ok h₁
    have huv : Idle setup.catalog u v := claim_idle hclaim
    cases seen with
    | true =>
      cases h₂
      exact huv
    | false =>
      obtain ⟨c, w, hw, h₃⟩ := Run.bind_ok h₂
      have hvw := hlower _ _ _ (huv.sources.trans (hsu.sources.trans hsrc)) hw
      exact (huv.before hvw).before (addSite_idle h₃)

/-- An include tells what its override block defines, and then what its fragment does. -/
theorem incl_traced
    (hd : ∀ place cs, Traces setup.catalog src place.grammar place.locus cs (descend place cs))
    {place : Place} {href : Text} {inherit : Option String} {overrides : List Component}
    {span : Span}
    (hoverrides : ∀ inner : Place, Traces setup.catalog src inner.grammar inner.locus overrides
      (expandAll setup descend inner 0 overrides)) :
    Traces setup.catalog src place.grammar place.locus [.incl href inherit overrides span]
      (expand setup descend place (.incl href inherit overrides span)) := by
  intro s t hsrc h
  obtain ⟨key, s', hcanonical, h₁⟩ := Run.bind_ok h
  obtain ⟨hkey, hs⟩ := Run.liftExcept_ok hcanonical
  subst s'
  obtain ⟨file, u, hfetch, h₂⟩ := Run.bind_ok h₁
  obtain ⟨-, hfile, -⟩ := fetch_ok hfetch
  have hsu : Idle setup.catalog s u := fetch_idle hfetch
  dsimp only at h₂
  split at h₂
  · obtain ⟨_, _, hrefuse, _⟩ := Run.bind_ok h₂
    exact (Run.not_throw_ok hrefuse).elim
  · obtain ⟨scope, v, hopen, h₃⟩ := Run.bind_ok h₂
    obtain ⟨huv, hlocus, hgrammar⟩ : Idle setup.catalog u v ∧ _ := openScope_idle hopen
    have hsv : Idle setup.catalog s v := huv.after hsu
    obtain ⟨_, w, hw, h₄⟩ := Run.bind_ok h₃
    have hsw := (hoverrides scope v w (hsv.sources.trans hsrc) hw).after hsv
    obtain ⟨ns, inner, w', x, hns, hinner, -, -, -, hwt, -⟩ :=
      includeFragment_traced hd (hsw.sources.trans hsrc) h₄
    have hopens : src.Opens place.locus href inherit inner.locus file := by
      refine ⟨key, ns, ?_, ?_, ?_, hinner⟩
      · rw [← hsrc]
        exact hkey
      · rw [← hsrc]
        exact hfile
      · have henv : scope.environment = place.environment := congrArg Locus.environment hlocus
        change place.environment.Passes inherit ns
        rw [← henv]
        exact hns
    rw [hlocus] at hsw
    refine (hsw.trans hwt).mono (fun _ => definesIn_incl hopens) fun n l hi => ?_
    rw [hgrammar] at hi
    rcases hi with ⟨hn, hl⟩ | ⟨hn, rfl | hl⟩
    · exact ⟨hn, .overrides List.mem_cons_self hl⟩
    · exact ⟨hn, .here List.mem_cons_self hopens⟩
    · exact ⟨hn, .fragment List.mem_cons_self hopens hl⟩

/-- Lowering patterns and expanding components of one file is traced if other files are expanded
so. -/
theorem expansion_traces
    (hd : ∀ place cs, Traces setup.catalog src place.grammar place.locus cs (descend place cs)) :
    (∀ place p s c t, s.source.sources setup.catalog = src →
      lower setup descend place p s = .ok c t → Idle setup.catalog s t) ∧
    (∀ place i cs, Traces setup.catalog src place.grammar place.locus cs
      (expandAll setup descend place i cs)) ∧
    ∀ place c, Traces setup.catalog src place.grammar place.locus [c]
      (expand setup descend place c) := by
  refine lower.mutual_induct_unfolding setup descend
    (fun _ _ step => ∀ s c t, s.source.sources setup.catalog = src → step s = .ok c t →
      Idle setup.catalog s t)
    (fun place _ cs step => Traces setup.catalog src place.grammar place.locus cs step)
    (fun place c step => Traces setup.catalog src place.grammar place.locus [c] step)
    ?binary ?unary ?leaf ?named ?ref ?parentRef ?data ?dataExcept ?value ?external ?grammar
    ?define ?div ?incl ?nil ?cons
  case binary =>
    intro place op left right span ihLeft ihRight s c t hsrc h
    obtain ⟨c₁, u, hLeft, h₁⟩ := Run.bind_ok h
    obtain ⟨c₂, v, hRight, h₂⟩ := Run.bind_ok h₁
    cases h₂
    have hsu := ihLeft _ _ _ hsrc hLeft
    exact (ihRight _ _ _ (hsu.sources.trans hsrc) hRight).after hsu
  case unary =>
    intro place modifier content span ih s c t hsrc h
    obtain ⟨c₁, u, hContent, h₁⟩ := Run.bind_ok h
    cases h₁
    exact ih _ _ _ hsrc hContent
  case named =>
    intro place holder name content span ih s c t hsrc h
    obtain ⟨name', u, hname, h₁⟩ := Run.bind_ok h
    obtain ⟨-, rfl⟩ := schema_ok hname
    obtain ⟨c₁, v, hContent, h₂⟩ := Run.bind_ok h₁
    cases h₂
    exact ih _ _ _ hsrc hContent
  case data =>
    intro place type params span s c t hsrc h
    obtain ⟨library, u, hlibrary, h₁⟩ := Run.bind_ok h
    obtain ⟨-, rfl⟩ := schema_ok hlibrary
    cases h₁
    exact .refl _
  case dataExcept =>
    intro place type params except span ih s c t hsrc h
    obtain ⟨library, u, hlibrary, h₁⟩ := Run.bind_ok h
    obtain ⟨-, rfl⟩ := schema_ok hlibrary
    obtain ⟨c₁, v, hExcept, h₂⟩ := Run.bind_ok h₁
    cases h₂
    exact ih _ _ _ hsrc hExcept
  case value =>
    intro place literal type span s c t hsrc h
    obtain ⟨library, u, hlibrary, h₁⟩ := Run.bind_ok h
    obtain ⟨-, rfl⟩ := schema_ok hlibrary
    cases h₁
    exact .refl _
  case external =>
    intro place href inherit span s c t hsrc h
    obtain ⟨n, u, hexternal, h₁⟩ := Run.bind_ok h
    cases h₁
    exact external_idle hd hsrc hexternal
  case grammar =>
    intro place components span ih s c t hsrc h
    obtain ⟨n, u, hisolated, h₁⟩ := Run.bind_ok h
    cases h₁
    exact isolated_idle hisolated fun v w hv hw => ih n v w (hv ▸ hsrc) hw
  case define =>
    intro place name operator pattern documentation span ih s t hsrc h
    exact (register_traced ih hsrc h).mono (fun _ => definesIn_define) fun _ _ => False.elim
  case div =>
    intro place components span ih s t hsrc h
    obtain ⟨inner, u, hopen, h₁⟩ := Run.bind_ok h
    obtain ⟨hsu, hlocus, hgrammar⟩ : Idle setup.catalog s u ∧ _ := openScope_idle hopen
    have hut := (ih inner u t (hsu.sources.trans hsrc) h₁).after hsu
    rw [hlocus, hgrammar] at hut
    exact hut.mono (fun _ => definesIn_div) fun _ _ hi => ⟨hi.1, .div List.mem_cons_self hi.2⟩
  case incl =>
    intro place href inherit overrides span ih
    exact incl_traced hd ih
  case nil =>
    intro place i s t hsrc h
    cases h
    exact (Idle.refl _).mono (fun _ => iff_of_false definesIn_nil id) fun _ _ => False.elim
  case cons =>
    intro place i c cs ihFirst ihRest s t hsrc h
    obtain ⟨_, u, hFirst, hRest⟩ := Run.bind_ok h
    have hsu := ihFirst _ _ hsrc hFirst
    have hut := ihRest _ _ (hsu.sources.trans hsrc) hRest
    refine (hsu.trans hut).mono (fun name => ?_) fun n l hi => ?_
    · rw [definesIn_cons]
      exact or_congr_left ⟨(·.moved rfl rfl), (·.moved rfl rfl)⟩
    · rcases hi with ⟨hn, hl⟩ | ⟨hn, hl⟩
      · have hl' : Includes src place.locus [c] l := hl.moved rfl rfl
        exact ⟨hn, hl'.mono (List.cons_subset_cons _ (List.nil_subset _))⟩
      · exact ⟨hn, hl.mono (List.subset_cons_self _ _)⟩
  all_goals
    intros
    rename_i h
    cases h
    exact .refl _

/-- Files are traced to any depth. -/
theorem expandFile_traces (setup : Setup) (src : Sources) (budget : Nat) (place : Place)
    (cs : List Component) : Traces setup.catalog src place.grammar place.locus cs
      (expandFile setup budget place cs) := by
  induction budget generalizing place cs with
  | zero => exact fun _ _ _ h => (Run.not_throw_ok h).elim
  | succ budget ih => exact (expansion_traces ih).2.1 place 0 cs

end

end Expand

end RelaxCompact
