import RelaxCompact.Proofs.Assembly.Grammars
import RelaxCompact.Proofs.Assembly.Environments
import RelaxCompact.Proofs.Ordering.Placing
import RelaxCompact.Proofs.Ordering.Tracing

/-!
What holds of a grammar that was assembled. A run looks into each definition once, when it is taken.
That says enough of every path to it, as no fragment has two environments, and as files on the path
taken do not matter to what is nested in the definition.
-/

namespace RelaxCompact

open Surface

namespace Passage

theorem mem_seen_or_fresh {seen : List Occurrence} {ps : List Passage} {p : Passage}
    (h : p ∈ ps) : p.occurrence ∈ seen ∨ ∃ q ∈ fresh seen ps, q.occurrence = p.occurrence := by
  induction ps generalizing seen with
  | nil => cases h
  | cons first ps ih =>
    rw [fresh]
    split
    next hseen =>
      rcases List.mem_cons.1 h with rfl | h
      · exact .inl hseen
      · exact ih h
    next =>
      rcases List.mem_cons.1 h with rfl | h
      · exact .inr ⟨p, List.mem_cons_self, rfl⟩
      · rcases ih h with hm | ⟨q, hq, he⟩
        · rcases List.mem_append.1 hm with hm | hm
          · exact .inl hm
          · exact .inr ⟨first, List.mem_cons_self, (List.mem_singleton.1 hm).symm⟩
        · exact .inr ⟨q, List.mem_cons_of_mem _ hq, he⟩

/-- Every exposed definition counts along one of the ways to it. -/
theorem exists_effective {ps : List Passage} {p : Passage} (hp : p ∈ ps)
    (hexposed : p.exposed = true) : ∃ q ∈ effective ps, q.occurrence = p.occurrence :=
  (mem_seen_or_fresh (List.mem_filter.2 ⟨hp, hexposed⟩)).resolve_left List.not_mem_nil

/-- The occurrence tells which definition a passage is through, and where. -/
def Determined (ps : List Passage) : Prop :=
  ∀ p ∈ ps, ∀ q ∈ ps, p.occurrence = q.occurrence → p.locus = q.locus ∧ p.define = q.define

/-- What the sites of each name have in common makes any two of the definitions combine. -/
theorem combine_of_compatible {ps : List Passage} (hps : Determined ps)
    (h : ∀ name, operators ps name ≠ [] → Compatible (operators ps name)) : Combine ps := by
  intro p hp q hq hpe hqe hname hne
  obtain ⟨p', hp', hpo⟩ := exists_effective hp hpe
  obtain ⟨q', hq', hqo⟩ := exists_effective hq hqe
  have hpd := (hps p' (mem_of_mem_effective hp') p hp hpo).2
  have hqd := (hps q' (mem_of_mem_effective hq') q hq hqo).2
  have hmem {r r' : Passage} (hr : r ∈ effective ps) (hd : r.define = r'.define)
      (hn : r'.name = p.name) : r ∈ (effective ps).filter fun r => r.name = p.name := by
    refine List.mem_filter.2 ⟨hr, decide_eq_true ?_⟩
    rw [← hn]
    exact congrArg Define.name hd
  have hp'' := hmem hp' hpd rfl
  have hq'' := hmem hq' hqd hname.symm
  have hoperators : operators ps p.name =
      ((effective ps).filter fun r => r.name = p.name).map fun r => r.define.operator := rfl
  have hpm : p.define.operator ∈ operators ps p.name := by
    rw [hoperators, ← hpd]
    exact List.mem_map_of_mem hp''
  have hqm : q.define.operator ∈ operators ps p.name := by
    rw [hoperators, ← hqd]
    exact List.mem_map_of_mem hq''
  rcases h p.name (List.ne_nil_of_mem hpm) with hone | ⟨-, hall | hall⟩
  · -- One definition alone would be that of both passages.
    rw [hoperators, List.length_map] at hone
    obtain ⟨r, hr⟩ := List.length_eq_one_iff.1 hone
    rw [hr] at hp'' hq''
    refine absurd ?_ hne
    rw [← hpo, ← hqo, List.mem_singleton.1 hp'', List.mem_singleton.1 hq'']
  · exact Definition.conflict?_eq_none.2 (.inl ⟨hall _ hpm, hall _ hqm⟩)
  · exact Definition.conflict?_eq_none.2 (.inr ⟨hall _ hpm, hall _ hqm⟩)

end Passage

theorem Origin.Unfolds.determined {src : Sources} {o : Origin} {ps : List Passage}
    (h : o.Unfolds src ps) (hcoherent : o.Coherent src) : Passage.Determined ps :=
  fun _ hp _ hq hpq => RelaxCompact.Unfolds.determined h hcoherent.own hcoherent.once hp hq hpq

namespace Expand

section

variable {setup : Setup} {descend : Descend} {src : Sources} {s t u : Expansion} {b : Ledger}

/-! Includes -/

/-- Expanding components of one file goes along includes that can be gone along, if that is so for
other files. -/
theorem expandAll_includable
    (ha : ∀ place cs, Advances setup.catalog (descend place cs))
    (ht : ∀ place cs, Traces setup.catalog src place.grammar place.locus cs (descend place cs))
    (hd : ∀ place cs s t, s.source.sources setup.catalog = src → descend place cs s = .ok () t →
      ∀ c ∈ cs, Includable src setup.strict s.stack place.locus c)
    (place : Place) (i : Nat) (cs : List Component) (s t : Expansion)
    (hsrc : s.source.sources setup.catalog = src)
    (h : expandAll setup descend place i cs s = .ok () t) :
    ∀ c ∈ cs, Includable src setup.strict s.stack place.locus c := by
  revert s t
  refine expandAll.induct_unfolding setup descend (fun _ _ _ => True)
    (fun place _ cs step => ∀ s t, s.source.sources setup.catalog = src → step s = .ok () t →
      ∀ c ∈ cs, Includable src setup.strict s.stack place.locus c)
    (fun place c step => ∀ s t, s.source.sources setup.catalog = src → step s = .ok () t →
      Includable src setup.strict s.stack place.locus c)
    ?binary ?unary ?leaf ?named ?ref ?parentRef ?data ?dataExcept ?value ?external ?grammar
    ?define ?div ?incl ?nil ?cons place i cs
  case define =>
    intros
    exact .define
  case div =>
    intro place components span ih s t hsrc h
    obtain ⟨inner, u, hopen, h₁⟩ := Run.bind_ok h
    have hsu : Onward setup.catalog s u := openScope_advances _ _ _ _ _ _ hopen
    obtain ⟨-, hlocus, -⟩ : Idle setup.catalog s u ∧ _ := openScope_idle hopen
    rw [← hsu.stack, ← hlocus]
    exact .div (ih _ _ _ (hsu.sources.trans hsrc) h₁)
  case incl =>
    intro place href inherit overrides span ih s t hsrc h
    obtain ⟨key, s', hcanonical, h₁⟩ := Run.bind_ok h
    obtain ⟨hkey, hs⟩ := Run.liftExcept_ok hcanonical
    subst s'
    obtain ⟨file, u, hfetch, h₂⟩ := Run.bind_ok h₁
    obtain ⟨hfresh, hfile, -⟩ := fetch_ok hfetch
    have hsu : Onward setup.catalog s u := fetch_advances _ _ _ _ _ _ hfetch
    dsimp only at h₂
    split at h₂
    · obtain ⟨_, _, hrefuse, _⟩ := Run.bind_ok h₂
      exact (Run.not_throw_ok hrefuse).elim
    next hgrammar =>
      obtain ⟨scope, v, hopen, h₃⟩ := Run.bind_ok h₂
      have hsv : Onward setup.catalog s v := hsu.trans (openScope_advances _ _ _ _ _ _ hopen)
      obtain ⟨-, hlocus, -⟩ : Idle setup.catalog u v ∧ _ := openScope_idle hopen
      obtain ⟨_, w, hw, h₄⟩ := Run.bind_ok h₃
      have hsw := hsv.trans ((expansion_advances ha).2.1 _ _ _ _ _ _ hw)
      obtain ⟨ns, inner, w', x, hns, hinner, hx, hw', hstack, -, hmet⟩ :=
        includeFragment_traced ht (hsw.sources.trans hsrc) h₄
      have hopens : src.Opens scope.locus href inherit inner.locus file := by
        refine ⟨key, ns, ?_, ?_, hns, hinner⟩
        · rw [hlocus, ← hsrc]
          exact hkey
        · rw [← hsrc]
          exact hfile
      have hinnerFile : inner.locus.file = key := by rw [hinner]
      rw [← hlocus]
      refine .incl hopens (hinnerFile ▸ hfresh) (Bool.not_eq_true _ ▸ hgrammar) hmet ?_ ?_
      · rw [← hsv.stack]
        exact ih _ _ _ (hsv.sources.trans hsrc) hw
      · rw [hinnerFile, ← hsw.stack, ← hstack]
        exact hd _ _ _ _ hw' hx
  case nil =>
    intro place i s t hsrc h
    exact List.forall_mem_nil _
  case cons =>
    intro place i c cs ihFirst ihRest s t hsrc h
    obtain ⟨_, u, hFirst, hRest⟩ := Run.bind_ok h
    have hsu := (expansion_advances ha).2.2 _ _ _ _ _ hFirst
    refine List.forall_mem_cons.2 ⟨(ihFirst _ _ hsrc hFirst).moved rfl rfl, ?_⟩
    rw [← hsu.stack]
    exact ihRest _ _ (hsu.sources.trans hsrc) hRest
  all_goals intros; trivial

/-- Files go along includes that can be gone along, to any depth. -/
theorem expandFile_includable (setup : Setup) (src : Sources) (budget : Nat) (place : Place)
    (cs : List Component) (s t : Expansion) (hsrc : s.source.sources setup.catalog = src)
    (h : expandFile setup budget place cs s = .ok () t) :
    ∀ c ∈ cs, Includable src setup.strict s.stack place.locus c := by
  induction budget generalizing place cs s t with
  | zero => exact (Run.not_throw_ok h).elim
  | succ budget ih =>
    exact expandAll_includable (expandFile_advances setup budget)
      (expandFile_traces setup src budget) ih place 0 cs s t hsrc h

/-! Patterns -/

/-- A run from `s` that has expanded components has lowered each definition that it took, above the
files `base` that were being expanded when the grammar was opened. -/
def Checked (setup : Setup) (src : Sources) (number : Nat) (l : Locus) (i : Nat)
    (cs : List Component) (s : Expansion) : Prop :=
  ∀ (b : Ledger) (a : Account) (covers : List (List DefineName)) (base : List Text)
    (ps : List Passage), Books setup.catalog src b s → b[number]? = some a →
    Guards s.frames covers → l.file ∈ s.stack → base ⊆ s.stack →
    (∀ g ∈ s.grammars, g.Combined) → Unfolds src covers l i cs ps →
    ∀ p ∈ Passage.fresh a.claimed (ps.filter Passage.exposed),
      ∀ q ∈ p.define.pattern.preorder, Lowerable src setup.strict (p.locus.file :: base) p.locus q

/-- Other files are expanded in a way that keeps the books and checks what it takes. -/
structure Thorough (setup : Setup) (src : Sources) (descend : Descend) : Prop where
  faithful : Faithful setup.catalog src descend
  includable : ∀ place cs s t, s.source.sources setup.catalog = src →
    descend place cs s = .ok () t → ∀ c ∈ cs, Includable src setup.strict s.stack place.locus c
  checked : ∀ place cs s t, descend place cs s = .ok () t →
    Checked setup src place.grammar place.locus 0 cs s

/-- All that is known of a run from `s` to `t` through components. -/
structure Examined (setup : Setup) (src : Sources) (number : Nat) (l : Locus)
    (cs : List Component) (s t : Expansion) : Prop where
  expanded : Expanded setup.catalog src number l 0 cs s t
  noted : Noted setup.catalog src number l cs s t
  onward : Onward setup.catalog s t
  includable : s.source.sources setup.catalog = src →
    ∀ c ∈ cs, Includable src setup.strict s.stack l c
  checked : Checked setup src number l 0 cs s

theorem Thorough.examined (hd : Thorough setup src descend) {place : Place} {cs : List Component}
    (h : descend place cs s = .ok () t) :
    Examined setup src place.grammar place.locus cs s t where
  expanded := hd.faithful.expands _ _ _ _ h
  noted := hd.faithful.notes _ _ _ _ h
  onward := hd.faithful.advances _ _ _ _ _ h
  includable hsrc := hd.includable _ _ _ _ hsrc h
  checked := hd.checked _ _ _ _ h

/-- A grammar that was expanded from its opening to its end makes up a grammar in the sense of the
criterion: what it took, it looked into. -/
theorem Examined.assemblable {o : Origin}
    (h : Examined setup src b.length o.locus o.components u t)
    (hu : Books setup.catalog src (b ++ [⟨o, [], []⟩]) u)
    (hframes : u.frames = []) (hf : o.locus.file ∈ u.stack)
    (hcombined : ∀ g ∈ u.grammars, g.Combined) :
    Assemblable src setup.strict u.stack o.locus o.components := by
  have hguards : Guards u.frames [] := by
    rw [hframes]
    exact .nil
  have haccount : (b ++ [⟨o, [], []⟩])[b.length]? = some ⟨o, [], []⟩ := by
    rw [List.getElem?_append_right (Nat.le_refl _), Nat.sub_self]
    rfl
  obtain ⟨ps, new, hps, -, ht, -⟩ := h.expanded _ [] hu hguards
    (by rw [List.length_append]; exact Nat.lt_succ_self _) hf
  have hcoherent : o.Coherent src := h.noted.coherent hu.sources hf
  have hdetermined : Passage.Determined ps := Origin.Unfolds.determined hps hcoherent
  have hlowerable (p : Passage) (q : Pattern) (hq : Passage.Holds ps p q) :
      Lowerable src setup.strict (p.locus.file :: u.stack) p.locus q := by
    obtain ⟨p', hp', ho⟩ := Passage.exists_effective hq.mem hq.exposed
    obtain ⟨hlocus, hdefine⟩ := hdetermined p' (Passage.mem_of_mem_effective hp') p hq.mem ho
    rw [← hlocus]
    exact h.checked _ _ _ _ _ hu haccount hguards hf (List.Subset.refl _) hcombined hps p' hp' q
      (hdefine ▸ hq.part)
  refine .intro hps (h.includable hu.sources) hcoherent.once ?combine
    (fun p q hq => (hlowerable p q hq).readable) (fun p q hq => (hlowerable p q hq).fresh)
    fun p q hq => (hlowerable p q hq).nested
  case combine =>
    rw [modify_append_length, List.append_assoc] at ht
    have hn : (b ++ ([Account.take (ps.filter Passage.exposed) ⟨o, [], []⟩] ++ new))[b.length]? =
        some (Account.take (ps.filter Passage.exposed) ⟨o, [], []⟩) := by
      rw [List.getElem?_append_right (Nat.le_refl _), Nat.sub_self]
      rfl
    obtain ⟨hlt, -⟩ := List.getElem?_eq_some_iff.1 hn
    rw [ht.length] at hlt
    have hg := List.getElem?_eq_getElem hlt
    obtain ⟨-, hacc⟩ := ht.accounts _ _ _ hn hg
    refine Passage.combine_of_compatible hdetermined fun name hname => ?_
    have hoperators : _ = Passage.operators ps name := Grammar.Accounts.operators hacc name
    rw [← hoperators] at hname ⊢
    exact (h.onward.combined hcombined _ (List.getElem_mem hlt)).compatible
      fun hnil => hname (congrArg (List.map Site.operator) hnil)

theorem isolated_assemblable {label : Text} {o : Origin} {body : Nat → Expand Unit} {number : Nat}
    (h : isolated label o.parent body s = .ok number t)
    (hbody : ∀ u v, body number u = .ok () v →
      Examined setup src number o.locus o.components u v)
    (hb : Books setup.catalog src b s) (hf : o.locus.file ∈ s.stack)
    (hcombined : ∀ g ∈ s.grammars, g.Combined) :
    Assemblable src setup.strict s.stack o.locus o.components := by
  obtain ⟨rfl, u, hu, -⟩ := isolated_ok h
  have hopened : Books setup.catalog src (b ++ [⟨o, [], []⟩])
      { s with grammars := s.grammars ++ [{ label, parent := o.parent }], frames := [] } :=
    hb.opened rfl rfl rfl
  have hexamined := hbody _ _ hu
  rw [← hb.length] at hexamined
  refine hexamined.assemblable hopened rfl hf (List.forall_mem_append.2 ⟨hcombined, fun g hg => ?_⟩)
  cases List.mem_singleton.1 hg
  exact fun _ _ hd => nomatch hd

/-- A run from `s` that has lowered a pattern has looked into all of its parts. -/
def Sifted (setup : Setup) (src : Sources) (l : Locus) (p : Pattern) (s : Expansion) : Prop :=
  ∀ b : Ledger, Books setup.catalog src b s → l.file ∈ s.stack →
    (∀ g ∈ s.grammars, g.Combined) →
    ∀ q ∈ p.preorder, Lowerable src setup.strict s.stack l q

theorem external_sifted (hd : Thorough setup src descend) {place : Place} {href : Text}
    {inherit : Option String} {span : Span} {number : Nat}
    (h : external setup descend place href inherit span s = .ok number t) :
    Sifted setup src place.locus (.external href inherit span) s := by
  intro b hb hf hcombined q hq
  cases List.mem_singleton.1 hq
  obtain ⟨key, s', hcanonical, h₁⟩ := Run.bind_ok h
  obtain ⟨hkey, hs⟩ := Run.liftExcept_ok hcanonical
  subst s'
  obtain ⟨file, u, hfetch, h₂⟩ := Run.bind_ok h₁
  obtain ⟨hfresh, hfile, hquiet⟩ := fetch_ok hfetch
  obtain ⟨ns, u', hinherit, h₃⟩ := Run.bind_ok h₂
  obtain ⟨hns, hu⟩ := inheritedNamespace_ok hinherit
  subst u'
  obtain ⟨_, v, henter, h₄⟩ := Run.bind_ok h₃
  cases henter
  obtain ⟨w, hw, -⟩ := ensuring_ok h₄
  have hopens : src.Opens place.locus href inherit
      ⟨Environment.ofDeclarations file.declarations ns, key, []⟩ file := by
    refine ⟨key, ns, ?_, ?_, hns, rfl⟩
    · rw [← hb.sources]
      exact hkey
    · rw [← hb.sources]
      exact hfile
  have hassemblable := isolated_assemblable
    (o := ⟨none, ⟨Environment.ofDeclarations file.declarations ns, key, []⟩, file.components⟩)
    hw (fun _ _ hv => hd.examined hv) ((hquiet.books hb).quiet rfl rfl rfl) List.mem_cons_self
    (by rw [hquiet.grammars]; exact hcombined)
  change Assemblable _ _ (key :: u.stack) _ _ at hassemblable
  rw [hquiet.stack] at hassemblable
  refine ⟨⟨_, _, hopens⟩, fun entered inner cs hn k hk => ?_, fun entered inner cs hn => ?_⟩
  · cases hn with
    | external hopens' =>
      obtain ⟨rfl, -⟩ := hopens'.unique hopens
      cases List.mem_singleton.1 hk
      exact hfresh
  · cases hn with
    | external hopens' =>
      obtain ⟨rfl, rfl⟩ := hopens'.unique hopens
      exact hassemblable

theorem grammar_sifted {place : Place} {components : List Component} {span : Span} {label : Text}
    {number : Nat}
    (hbody : ∀ m u v,
      expandAll setup descend { place with grammar := m, chain := [] } 0 components u = .ok () v →
      Examined setup src m place.locus components u v)
    (h : isolated label (some place.grammar) (fun m =>
      expandAll setup descend { place with grammar := m, chain := [] } 0 components) s =
        .ok number t) :
    Sifted setup src place.locus (.grammar components span) s := by
  intro b hb hf hcombined q hq
  cases List.mem_singleton.1 hq
  have hassemblable := isolated_assemblable
    (o := ⟨some place.grammar, place.locus, components⟩) h (hbody number) hb hf hcombined
  refine ⟨trivial, fun entered inner cs hn k hk => ?_, fun entered inner cs hn => ?_⟩
  · cases hn
    cases hk
  · cases hn
    exact hassemblable

/-- A definition that is taken is looked into. Where the definition is not taken there is nothing to
say. -/
theorem register_checked {place : Place} {l : Locus} {i : Nat}
    {name : DefineName} {operator : Assignment} {pattern : Pattern} {documentation : Option String}
    {span : Span} {step : Expand Content} (hl : place.locus = l.part i)
    (hstep : ∀ s t c, step s = .ok c t → Sifted setup src place.locus pattern s)
    (h : register place ⟨name, operator, pattern, documentation, span⟩ step s = .ok () t) :
    Checked setup src place.grammar l i [.define name operator pattern documentation span] s := by
  intro b a covers base ps hb ha hg hf hbase hcombined hps p hp q hq
  cases hps with
  | define hnil =>
  cases hnil
  let first : Passage := ⟨l.part i, ⟨name, operator, pattern, documentation, span⟩, covers⟩
  have hfirst : first.exposed = true ∧ first.occurrence ∉ a.claimed ∧ p = first := by
    rw [List.filter_singleton] at hp
    cases he : first.exposed with
    | false =>
      rw [he] at hp
      cases hp
    | true =>
      rw [he, cond_true, Passage.fresh] at hp
      split at hp
      · cases hp
      next hnot => exact ⟨rfl, hnot, List.mem_singleton.1 hp⟩
  obtain ⟨hexposed, hnot, rfl⟩ := hfirst
  have hocc : (⟨place.file, place.address⟩ : Occurrence) = first.occurrence :=
    congrArg (fun l : Locus => (⟨l.file, l.address⟩ : Occurrence)) hl
  obtain ⟨r, u, hsupp, h₁⟩ := Run.bind_ok h
  obtain ⟨hr, hit, hhit, rfl⟩ := suppressed_ok hsupp
  have hguard : first.exposed = !r := by
    rw [hr]
    exact hg.exposed
  rw [hexposed] at hguard
  cases r with
  | true => cases hguard
  | false =>
    obtain ⟨r, u, hclaim, h₂⟩ := Run.bind_ok h₁
    rw [hocc] at hclaim
    have hb' : Books setup.catalog src b { s with frames := s.frames.map hit } :=
      hb.quiet rfl rfl rfl
    rcases claim_ok hclaim with ⟨-, hseen, -⟩ | ⟨hr, -, hu⟩
    · obtain ⟨a', ha', ho⟩ := (hb'.registered _ _).1 hseen
      cases ha.symm.trans ha'
      exact absurd ho hnot
    · subst r u
      obtain ⟨c, v, hlower, -⟩ := Run.bind_ok h₂
      obtain ⟨hn, -⟩ := List.getElem?_eq_some_iff.1 ha
      have hlowerable := hstep _ _ _ hlower _ (claim_books hb' hn) (hl ▸ hf) hcombined q hq
      rw [hl] at hlowerable
      exact hlowerable.restack (.of_subset (List.cons_subset.2 ⟨hf, hbase⟩))

/-- The fragment of an include is looked into where it is expanded. -/
theorem includeFragment_checked (hd : Thorough setup src descend) {place : Place}
    {file : File} {key href : Text} {inherit : Option String} {overrides : List Component}
    {span : Span} (hkey : src.key href place.file = .ok key) (hfile : src.file key = .ok file)
    (h : includeFragment setup descend place file key href inherit overrides span s = .ok () t)
    (hb : Books setup.catalog src b s) {a : Account} (ha : b[place.grammar]? = some a)
    {covers : List (List DefineName)} (hg : Guards s.frames covers) {base : List Text}
    (hbase : base ⊆ s.stack) (hcombined : ∀ g ∈ s.grammars, g.Combined) {inner : Locus}
    (hopens : src.Opens place.locus href inherit inner file) {qs : List Passage}
    (hqs : Unfolds src (definedNames overrides :: covers) inner 0 file.components qs) :
    ∀ p ∈ Passage.fresh a.claimed (qs.filter Passage.exposed),
      ∀ q ∈ p.define.pattern.preorder,
        Lowerable src setup.strict (p.locus.file :: base) p.locus q := by
  obtain ⟨ns, scope, w, x, hns, hlocus, hgrammar, hw, hgw, hstack, -, hcombined', hx, -⟩ :=
    includeFragment_opened h hb hg
  obtain ⟨rfl, -⟩ := hopens.unique ⟨key, ns, hkey, hfile, hns, rfl⟩
  rw [← hlocus] at hqs
  refine hd.checked _ _ _ _ hx b a _ base qs hw (hgrammar ▸ ha) hgw ?_ ?_ (hcombined' hcombined) hqs
  · rw [hlocus, hstack]
    exact List.mem_cons_self
  · rw [hstack]
    exact List.Subset.trans hbase (List.subset_cons_self _ _)

theorem getElem?_modify_append {α : Type} {l : List α} {n : Nat} {a : α} (h : l[n]? = some a)
    (f : α → α) (more : List α) : (l.modify n f ++ more)[n]? = some (f a) := by
  obtain ⟨hn, -⟩ := List.getElem?_eq_some_iff.1 h
  rw [List.getElem?_append_left (by rw [List.length_modify]; exact hn), List.getElem?_modify_eq, h]
  rfl

/-- What is taken from two runs of passages is taken from the first, or then from the second. -/
theorem mem_fresh_append {a : Account} {ps qs : List Passage} {p : Passage}
    (h : p ∈ Passage.fresh a.claimed (ps ++ qs)) :
    p ∈ Passage.fresh a.claimed ps ∨ p ∈ Passage.fresh (a.take ps).claimed qs := by
  rw [Passage.fresh_append] at h
  exact List.mem_append.1 h

/-- An include is looked into with its override block first and its fragment then. -/
theorem incl_checked (hd : Thorough setup src descend) {place : Place} {l : Locus}
    {i : Nat} {href : Text} {inherit : Option String} {overrides : List Component} {span : Span}
    (hl : place.locus = l.part i)
    (hoverrides : ∀ inner s t, expandAll setup descend inner 0 overrides s = .ok () t →
      Checked setup src inner.grammar inner.locus 0 overrides s)
    (h : expand setup descend place (.incl href inherit overrides span) s = .ok () t) :
    Checked setup src place.grammar l i [.incl href inherit overrides span] s := by
  intro b a covers base ps hb ha hg hf hbase hcombined hps
  obtain ⟨hn, -⟩ := List.getElem?_eq_some_iff.1 ha
  obtain ⟨key, s', hcanonical, h₁⟩ := Run.bind_ok h
  obtain ⟨hkey, hs⟩ := Run.liftExcept_ok hcanonical
  subst s'
  obtain ⟨file, u, hfetch, h₂⟩ := Run.bind_ok h₁
  obtain ⟨-, hfile, hquiet⟩ := fetch_ok hfetch
  rw [hb.sources] at hfile
  dsimp only at h₂
  split at h₂
  · obtain ⟨_, _, hrefuse, _⟩ := Run.bind_ok h₂
    exact (Run.not_throw_ok hrefuse).elim
  · obtain ⟨inner, v, hopen, h₃⟩ := Run.bind_ok h₂
    obtain ⟨hv, hsteady, hlocus, hgrammar⟩ := openScope_books hopen (hquiet.books hb)
    have hsv : Steady s v := hquiet.steady.trans hsteady
    have hvc : ∀ g ∈ v.grammars, g.Combined := by
      refine (show Onward setup.catalog _ _ from openScope_advances _ _ _ _ _ _ hopen).combined ?_
      rw [hquiet.grammars]
      exact hcombined
    obtain ⟨_, w, hover, h₄⟩ := Run.bind_ok h₃
    have hvf : inner.locus.file ∈ v.stack := by
      rw [hlocus, hl, hsv.stack]
      exact hf
    obtain ⟨ps', new, hps', -, hw, hvw⟩ := expandAll_expanded hd.faithful _ _ _ _ _ hover b covers
      hv (hg.of_spans hsv.frames) (hgrammar ▸ hn) hvf
    have hwc := ((expansion_advances hd.faithful.advances).2.1 _ _ _ _ _ _ hover).combined hvc
    have hsw : Steady s w := hsv.trans hvw
    cases hps with
    | incl hopens hps hqs hrs =>
    cases hrs
    rw [← hl, ← hlocus] at hps
    obtain rfl := hps.unique hps'
    have hkey' : src.key href inner.file = .ok key := by
      have hfile' : inner.file = place.file := congrArg Locus.file hlocus
      rw [hfile', ← hb.sources]
      exact hkey
    have hopens' : src.Opens inner.locus href inherit _ _ :=
      hopens.moved (by rw [hlocus, hl]; rfl) (by rw [hlocus, hl]; rfl)
    obtain ⟨key', ns, hkey'', hfile', -, rfl⟩ := id hopens'
    cases Except.ok.inj (hkey'.symm.trans hkey'')
    cases Except.ok.inj (hfile.symm.trans hfile')
    intro p hp q hq
    rw [List.append_nil, List.filter_append] at hp
    rcases mem_fresh_append hp with hp | hp
    · refine hoverrides _ _ _ hover b a covers base _ hv (hgrammar ▸ ha) (hg.of_spans hsv.frames)
        hvf ?_ hvc hps p hp q hq
      rw [hsv.stack]
      exact hbase
    · refine includeFragment_checked hd hkey' hfile h₄ hw ?_ (hg.of_spans hsw.frames) ?_ hwc hopens'
        hqs p hp q hq
      · rw [hgrammar]
        exact getElem?_modify_append ha _ _
      · rw [hsw.stack]
        exact hbase

theorem div_checked {place : Place} {l : Locus} {i : Nat}
    {components : List Component} {span : Span} (hl : place.locus = l.part i)
    (hcomponents : ∀ inner s t, expandAll setup descend inner 0 components s = .ok () t →
      Checked setup src inner.grammar inner.locus 0 components s)
    (h : expand setup descend place (.div components span) s = .ok () t) :
    Checked setup src place.grammar l i [.div components span] s := by
  intro b a covers base ps hb ha hg hf hbase hcombined hps
  obtain ⟨inner, u, hopen, h₁⟩ := Run.bind_ok h
  obtain ⟨hu, hsteady, hlocus, hgrammar⟩ := openScope_books hopen hb
  cases hps with
  | div hps hnil =>
  cases hnil
  rw [← hl, ← hlocus] at hps
  rw [List.append_nil]
  have honward : Onward setup.catalog _ _ := openScope_advances _ _ _ _ _ _ hopen
  refine hcomponents _ _ _ h₁ b a covers base _ hu (hgrammar ▸ ha) (hg.of_spans hsteady.frames)
    ?_ ?_ (honward.combined hcombined) hps
  · rw [hlocus, hl, hsteady.stack]
    exact hf
  · rw [hsteady.stack]
    exact hbase

theorem Checked.cons {number : Nat} {l : Locus} {i : Nat} {c : Component} {cs : List Component}
    (he : Expanded setup.catalog src number l i [c] s u) (hsu : Onward setup.catalog s u)
    (h : Checked setup src number l i [c] s) (hs : Checked setup src number l (i + 1) cs u) :
    Checked setup src number l i (c :: cs) s := by
  intro b a covers base ps hb ha hg hf hbase hcombined hps p hp q hq
  obtain ⟨hn, -⟩ := List.getElem?_eq_some_iff.1 ha
  obtain ⟨ps₁, new, hps₁, -, hu, hst⟩ := he b covers hb hg hn hf
  obtain ⟨ps₂, hps₂⟩ : ∃ ps₂, Unfolds src covers l (i + 1) cs ps₂ := by
    cases hps with
    | define hs => exact ⟨_, hs⟩
    | div _ hs => exact ⟨_, hs⟩
    | incl _ _ _ hs => exact ⟨_, hs⟩
  obtain rfl := hps.unique (hps₁.cons hps₂)
  rw [List.filter_append] at hp
  rcases mem_fresh_append hp with hp | hp
  · exact h b a covers base ps₁ hb ha hg hf hbase hcombined hps₁ p hp q hq
  · exact hs _ _ covers base ps₂ hu (getElem?_modify_append ha _ _) (hg.of_spans hst.frames)
      (hst.stack ▸ hf) (hst.stack ▸ hbase) (hsu.combined hcombined) hps₂ p hp q hq

/-- A part of a pattern is the pattern itself, or a part of its content. -/
theorem Sifted.wrap {l : Locus} {p p' : Pattern} (h : Sifted setup src l p s)
    (hparts : p'.preorder = p' :: p.preorder) (hreadable : Readable src l p')
    (hgrammar : IsGrammar p' = false) : Sifted setup src l p' s := by
  intro b hb hf hcombined q hq
  rw [hparts] at hq
  rcases List.mem_cons.1 hq with rfl | hq
  · exact .of_readable hreadable hgrammar
  · exact h b hb hf hcombined q hq

/-- A pattern without parts that is no grammar. -/
theorem Sifted.single {l : Locus} {p : Pattern} (hparts : p.preorder = [p])
    (hreadable : Readable src l p) (hgrammar : IsGrammar p = false) : Sifted setup src l p s := by
  intro b hb hf hcombined q hq
  rw [hparts] at hq
  cases List.mem_singleton.1 hq
  exact .of_readable hreadable hgrammar

/-- Expanding components of one file checks what it takes if other files are expanded so. -/
theorem expandAll_checked (hd : Thorough setup src descend)
    (ht : ∀ place cs, Traces setup.catalog src place.grammar place.locus cs (descend place cs))
    (place : Place) (i : Nat) (cs : List Component) (s t : Expansion)
    (h : expandAll setup descend place i cs s = .ok () t) :
    Checked setup src place.grammar place.locus i cs s := by
  have hadvances := expansion_advances hd.faithful.advances
  have hexpanded := expansion_expanded hd.faithful
  revert s t
  refine expandAll.induct_unfolding setup descend
    (fun place p step => ∀ s t c, lower setup descend place p s = .ok c t →
      Sifted setup src place.locus p s)
    (fun place i cs step => ∀ s t, step s = .ok () t →
      Checked setup src place.grammar place.locus i cs s)
    (fun place c step => ∀ l i, place.locus = Locus.part l i → ∀ s t, step s = .ok () t →
      Checked setup src place.grammar l i [c] s)
    ?binary ?unary ?leaf ?named ?ref ?parentRef ?data ?dataExcept ?value ?external ?grammar
    ?define ?div ?incl ?nil ?cons place i cs
  case binary =>
    intro place op left right span ihLeft ihRight s t c h
    rw [lower] at h
    obtain ⟨c₁, u, hLeft, h₁⟩ := Run.bind_ok h
    obtain ⟨c₂, v, hRight, -⟩ := Run.bind_ok h₁
    intro b hb hf hcombined q hq
    rcases List.mem_cons.1 hq with rfl | hq
    · exact .of_readable trivial rfl
    · rcases List.mem_append.1 hq with hq | hq
      · exact ihLeft _ _ _ hLeft b hb hf hcombined q hq
      · obtain ⟨new, -, hu, hsu, -⟩ := hexpanded.1 _ _ _ _ _ hLeft b hb hf
        have honward := hadvances.1 _ _ _ _ _ hLeft
        rw [← hsu.stack]
        exact ihRight _ _ _ hRight _ hu (hsu.stack ▸ hf) (honward.combined hcombined) q hq
  case unary =>
    intro place modifier content span ih s t c h
    rw [lower] at h
    obtain ⟨c₁, u, hContent, -⟩ := Run.bind_ok h
    exact (ih _ _ _ hContent).wrap rfl trivial rfl
  case leaf => exact fun _ _ _ _ _ _ _ => .single rfl trivial rfl
  case named =>
    intro place holder name content span ih s t c h
    rw [lower] at h
    obtain ⟨name', u, hname, h₁⟩ := Run.bind_ok h
    obtain ⟨hbound, rfl⟩ := schema_ok hname
    obtain ⟨c₁, v, hContent, -⟩ := Run.bind_ok h₁
    exact (ih _ _ _ hContent).wrap rfl ⟨_, hbound⟩ rfl
  case ref => exact fun _ _ _ _ _ _ _ => .single rfl trivial rfl
  case parentRef => exact fun _ _ _ _ _ _ _ => .single rfl trivial rfl
  case data =>
    intro place type params span s t c h
    rw [lower] at h
    obtain ⟨library, u, hlibrary, -⟩ := Run.bind_ok h
    exact .single rfl ⟨_, (schema_ok hlibrary).1⟩ rfl
  case dataExcept =>
    intro place type params except span ih s t c h
    rw [lower] at h
    obtain ⟨library, u, hlibrary, h₁⟩ := Run.bind_ok h
    obtain ⟨hbound, rfl⟩ := schema_ok hlibrary
    obtain ⟨c₁, v, hExcept, -⟩ := Run.bind_ok h₁
    exact (ih _ _ _ hExcept).wrap rfl ⟨_, hbound⟩ rfl
  case value =>
    intro place literal type span s t c h
    rw [lower] at h
    obtain ⟨library, u, hlibrary, -⟩ := Run.bind_ok h
    exact .single rfl ⟨_, (schema_ok hlibrary).1⟩ rfl
  case external =>
    intro place href inherit span s t c h
    rw [lower] at h
    obtain ⟨n, u, hexternal, -⟩ := Run.bind_ok h
    exact external_sifted hd hexternal
  case grammar =>
    intro place components span ih s t c h
    rw [lower] at h
    obtain ⟨n, u, hisolated, -⟩ := Run.bind_ok h
    refine grammar_sifted (fun m u v hv => ?_) hisolated
    exact {
      expanded := hexpanded.2.1 _ _ _ _ _ hv
      noted := expandAll_noted hd.faithful.advances hd.faithful.notes _ _ _ _ _ hv
      onward := hadvances.2.1 _ _ _ _ _ _ hv
      includable := fun hsrc => expandAll_includable hd.faithful.advances ht hd.includable
        { place with grammar := m, chain := [] } _ _ _ _ hsrc hv
      checked := ih m _ _ hv }
  case define =>
    intro place name operator pattern documentation span ih l i hl s t h
    exact register_checked hl ih h
  case div =>
    intro place components span ih l i hl s t h
    exact div_checked hl ih h
  case incl =>
    intro place href inherit overrides span ih l i hl s t h
    exact incl_checked hd hl ih h
  case nil =>
    intro place i s t h b a covers base ps hb ha hg hf hbase hcombined hps p hp
    cases hps
    cases hp
  case cons =>
    intro place i c cs ihFirst ihRest s t h
    obtain ⟨_, u, hFirst, hRest⟩ := Run.bind_ok h
    exact .cons (hexpanded.2.2 _ _ _ _ (place.locus_part i) _ _ hFirst)
      (hadvances.2.2 _ _ _ _ _ hFirst) (ihFirst _ _ (place.locus_part i) _ _ hFirst)
      (ihRest _ _ hRest)

/-- Files are expanded so to any depth. -/
theorem expandFile_thorough (setup : Setup) (src : Sources) (budget : Nat) :
    Thorough setup src (expandFile setup budget) := by
  refine ⟨expandFile_faithful setup src budget, expandFile_includable setup src budget, ?_⟩
  induction budget with
  | zero => exact fun _ _ _ _ h => (Run.not_throw_ok h).elim
  | succ budget ih =>
    intro place cs s t h
    exact expandAll_checked
      ⟨expandFile_faithful setup src budget, expandFile_includable setup src budget, ih⟩
      (expandFile_traces setup src budget) place 0 cs s t h

end

end Expand

/-- What was assembled can be assembled in the sense of the criterion. -/
theorem assemblable_of_assemble {setup : Expand.Setup} {root : File} {key : Option Text}
    {s t : Fragments} {a : Assembled} (h : assemble setup root key s = .ok a t) :
    Assemblable (s.sources setup.catalog) setup.strict [rootKey root key]
      (rootOrigin root key).locus root.components := by
  obtain ⟨budget, label, u, hu, -⟩ := assemble_ok h
  have hthorough := Expand.expandFile_thorough setup (s.sources setup.catalog) budget
  have hexamined := hthorough.examined hu
  refine hexamined.assemblable (b := []) (o := rootOrigin root key) (Books.start rfl rfl rfl) rfl
    List.mem_cons_self fun g hg => ?_
  cases List.mem_singleton.1 hg
  exact fun _ _ hd => nomatch hd

end RelaxCompact
