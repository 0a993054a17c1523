import RelaxCompact.Proofs.Assembly.Including

/-!
A run of an assembly keeps its books: each grammar takes exactly the passages of its reference
expansion that count. Each step of the expansion keeps them if the expansion of other files does,
and so whole runs do, by induction on how deep files go into one another.
-/

namespace RelaxCompact

/-- A finished grammar has taken what its reference expansion says, and is coherent. -/
structure Account.Finished (src : Sources) (a : Account) : Prop where
  settled : a.Settled src
  coherent : a.origin.Coherent src

namespace Expand

open Surface

/-- A run from `s` to `t` has expanded components at a locus of grammar number `number`: the grammar
has taken the passages of their expansion, and all grammars opened on the way are finished. -/
def Expanded (catalog : Catalog) (src : Sources) (number : Nat) (l : Locus) (i : Nat)
    (cs : List Component) (s t : Expansion) : Prop :=
  ∀ (b : Ledger) (covers : List (List DefineName)), Books catalog src b s →
    Guards s.frames covers → number < b.length → l.file ∈ s.stack →
    ∃ (ps : List Passage) (new : Ledger), Unfolds src covers l i cs ps ∧
      (∀ a ∈ new, a.Finished src) ∧
      Books catalog src (b.modify number (·.take (ps.filter Passage.exposed)) ++ new) t ∧
      Steady s t

/-- A run from `s` to `t` has lowered a pattern written at a locus of grammar number `number`. -/
def Lowered (catalog : Catalog) (src : Sources) (number : Nat) (l : Locus) (p : Pattern)
    (c : Content) (s t : Expansion) : Prop :=
  ∀ b : Ledger, Books catalog src b s → l.file ∈ s.stack →
    ∃ new : Ledger, (∀ a ∈ new, a.Finished src) ∧ Books catalog src (b ++ new) t ∧ Steady s t ∧
      Lowers src (Ledger.origins (b ++ new)) number l p c

section

variable {setup : Setup} {descend : Descend} {src : Sources} {s t u : Expansion} {b : Ledger}

/-- The way in which other files are expanded keeps the books, and notes what is included. -/
structure Faithful (catalog : Catalog) (src : Sources) (descend : Descend) : Prop where
  advances : ∀ place cs, Advances catalog (descend place cs)
  notes : ∀ place cs s t, descend place cs s = .ok () t →
    Noted catalog src place.grammar place.locus cs s t
  expands : ∀ place cs s t, descend place cs s = .ok () t →
    Expanded catalog src place.grammar place.locus 0 cs s t

theorem Expanded.nil (catalog : Catalog) (src : Sources) (number : Nat) (l : Locus) (i : Nat)
    (s : Expansion) : Expanded catalog src number l i [] s s := by
  intro b covers hb _ _ _
  refine ⟨[], [], .nil, by simp, ?_, .refl s⟩
  have hid : (fun a : Account => a.take (List.filter Passage.exposed [])) = id :=
    funext Account.take_nil
  rw [hid, List.modify_id, List.append_nil]
  exact hb

/-- Two runs of passages into one account, one after the other. -/
theorem take_books {number : Nat} {catalog : Catalog} {new new' : Ledger}
    {ps qs : List Passage} (hn : number < b.length)
    (h : Books catalog src ((b.modify number (·.take ps) ++ new).modify number (·.take qs) ++ new')
      t) :
    Books catalog src (b.modify number (·.take (ps ++ qs)) ++ (new ++ new')) t := by
  have hn' : number < (b.modify number (·.take ps)).length := by
    rw [List.length_modify]
    exact hn
  rw [modify_append_of_lt hn', List.modify_modify_eq, List.append_assoc] at h
  have hcomp : (fun a : Account => a.take qs) ∘ (fun a : Account => a.take ps) =
      fun a : Account => a.take (ps ++ qs) :=
    funext (Account.take_take ps qs)
  rwa [hcomp] at h

theorem Expanded.cons {catalog : Catalog} {number : Nat} {l : Locus} {i : Nat} {c : Component}
    {cs : List Component} (h : Expanded catalog src number l i [c] s u)
    (hs : Expanded catalog src number l (i + 1) cs u t) :
    Expanded catalog src number l i (c :: cs) s t := by
  intro b covers hb hg hn hf
  obtain ⟨ps, new, hps, hnew, hb, hst⟩ := h b covers hb hg hn hf
  have hn' : number < (b.modify number (·.take (ps.filter Passage.exposed)) ++ new).length := by
    rw [List.length_append, List.length_modify]
    omega
  obtain ⟨qs, new', hqs, hnew', hb, hst'⟩ :=
    hs _ covers hb (hg.of_spans hst.frames) hn' (hst.stack ▸ hf)
  refine ⟨ps ++ qs, new ++ new', hps.cons hqs, List.forall_mem_append.2 ⟨hnew, hnew'⟩, ?_,
    hst.trans hst'⟩
  rw [List.filter_append]
  exact take_books hn hb

theorem openScope_books {catalog : Catalog} {place inner : Place} {kind : ScopeKind} {label : Text}
    (h : openScope place kind label s = .ok inner t) (hb : Books catalog src b s) :
    Books catalog src b t ∧ Steady s t ∧ inner.locus = place.locus ∧
      inner.grammar = place.grammar := by
  obtain ⟨number, rfl, rfl⟩ := openScope_ok h
  refine ⟨?_, ⟨rfl, rfl⟩, rfl, rfl⟩
  have hid := List.modify_id place.grammar b
  rw [← hid]
  refine hb.modify (fun _ => rfl) rfl rfl (fun m o => ?_) fun a g _ _ hacc =>
    ⟨rfl, hacc.scopes _⟩
  rw [hid]
  exact hb.registered m o

/-- A grammar of its own gets an account, which is settled when it is finished. -/
theorem isolated_books {catalog : Catalog} {label : Text} {o : Origin} {body : Nat → Expand Unit}
    {number : Nat} (h : isolated label o.parent body s = .ok number t)
    (hbody : ∀ u v, body number u = .ok () v →
      Expanded catalog src number o.locus 0 o.components u v ∧
        Noted catalog src number o.locus o.components u v)
    (hb : Books catalog src b s) (hf : o.locus.file ∈ s.stack) :
    ∃ new : Ledger, (∀ a ∈ new, a.Finished src) ∧ Books catalog src (b ++ new) t ∧ Steady s t ∧
      (Ledger.origins (b ++ new))[number]? = some o := by
  obtain ⟨rfl, u, hu, rfl⟩ := isolated_ok h
  have hopened : Books catalog src (b ++ [⟨o, [], []⟩])
      { s with grammars := s.grammars ++ [{ label, parent := o.parent }], frames := [] } :=
    hb.opened rfl rfl rfl
  obtain ⟨hexpanded, hnoted⟩ := hbody _ _ hu
  have hn : s.grammars.length < b.length + 1 := by
    rw [← hb.length]
    exact Nat.lt_succ_self _
  obtain ⟨ps, new, hps, hnew, hu, hst⟩ := hexpanded _ [] hopened .nil
    (by rwa [List.length_append]) hf
  rw [← hb.length, modify_append_length, List.append_assoc, List.singleton_append] at hu
  refine ⟨_ :: new, ?_, hu.quiet rfl rfl rfl, ⟨hst.stack, rfl⟩, ?_⟩
  · intro a ha
    rcases List.mem_cons.1 ha with rfl | ha
    · have hcoherent : o.Coherent src := hnoted.coherent hb.sources hf
      exact ⟨⟨ps, hps, List.nil_append _⟩, hcoherent⟩
    · exact hnew a ha
  · rw [← hb.length, Ledger.origins_append,
      List.getElem?_append_right (Nat.le_of_eq (Ledger.length_origins b)), Ledger.length_origins,
      Nat.sub_self]
    rfl

theorem external_lowered (hd : Faithful setup.catalog src descend) {place : Place} {href : Text}
    {inherit : Option String} {span : Span} {number : Nat}
    (h : external setup descend place href inherit span s = .ok number t) :
    Lowered setup.catalog src place.grammar place.locus (.external href inherit span)
      (.grammar number span) s t := by
  intro b hb _
  obtain ⟨key, s', hcanonical, h₁⟩ := Run.bind_ok h
  obtain ⟨hkey, hs⟩ := Run.liftExcept_ok hcanonical
  subst s'
  obtain ⟨file, u, hfetch, h₂⟩ := Run.bind_ok h₁
  obtain ⟨_, hfile, hquiet⟩ := fetch_ok hfetch
  obtain ⟨ns, u', hinherit, h₃⟩ := Run.bind_ok h₂
  obtain ⟨hns, hu⟩ := inheritedNamespace_ok hinherit
  subst u'
  obtain ⟨_, v, henter, h₄⟩ := Run.bind_ok h₃
  cases henter
  obtain ⟨w, hw, ht⟩ := ensuring_ok h₄
  subst t
  rw [hb.sources] at hfile
  have hb' : Books setup.catalog src b { u with stack := key :: u.stack } :=
    (hquiet.books hb).quiet rfl rfl rfl
  obtain ⟨new, hnew, hw, hst, ho⟩ := isolated_books
    (o := ⟨none, ⟨Environment.ofDeclarations file.declarations ns, key, []⟩, file.components⟩)
    hw (fun _ _ hv => ⟨hd.expands _ _ _ _ hv, hd.notes _ _ _ _ hv⟩) hb' List.mem_cons_self
  refine ⟨new, hnew, hw.quiet rfl rfl rfl, ⟨?_, hst.frames.trans hquiet.steady.frames⟩, ?_⟩
  · change w.stack.tail = _
    rw [hst.stack]
    exact hquiet.stack
  · refine .external ⟨key, ns, ?_, hfile, hns, rfl⟩ ho
    rw [← hb.sources]
    exact hkey

/-- A definition is claimed for a grammar. -/
theorem claim_books {catalog : Catalog} {number : Nat} {o : Occurrence}
    (h : Books catalog src b s) (hn : number < b.length) :
    Books catalog src (b.modify number (·.claim o))
      { s with registered := (number, o) :: s.registered } := by
  refine h.modify (f := id) (fun _ => rfl) rfl (List.modify_id _ _).symm (fun m o' => ?_)
    fun _ _ _ _ hacc => ⟨rfl, hacc⟩
  rw [List.mem_cons, Prod.mk.injEq, h.registered]
  by_cases hm : number = m
  · subst m
    have ha : b[number]? = some b[number] := List.getElem?_eq_getElem hn
    simp only [List.getElem?_modify_eq, ha, Option.map_eq_map, Option.map_some,
      Option.some.injEq, exists_eq_left', true_and, Account.claim, List.mem_append,
      List.mem_singleton]
    exact Or.comm
  · rw [List.getElem?_modify_ne _ _ hm]
    simp only [Ne.symm hm, false_and, false_or]

/-- A site that records a passage is added. -/
theorem enter_books {catalog : Catalog} {place : Place} {p : Passage} {site : Site}
    (h : Books catalog src b s) (hn : place.grammar < b.length)
    (hr : p.Recorded src b.origins place.grammar site)
    (hadd : addSite place p.name site s = .ok () t) :
    Books catalog src (b.modify place.grammar (·.enter p)) t ∧ Steady s t := by
  obtain ⟨d, hd, rfl⟩ := addSite_ok hadd (List.getElem?_eq_getElem (h.length ▸ hn))
  refine ⟨h.modify (fun _ => rfl) rfl rfl (h.registered_modify (fun _ => rfl) rfl) ?_, rfl, rfl⟩
  intro a g ha hg hacc
  rw [List.getElem?_eq_getElem (h.length ▸ hn)] at hg
  cases hg
  exact ⟨rfl, hacc.define hr hd _⟩

/-- A definition is taken if no block in effect defines its name and it was not taken before. -/
theorem register_expanded {catalog : Catalog} {place : Place} {l : Locus} {i : Nat}
    {name : DefineName} {operator : Assignment} {pattern : Pattern} {documentation : Option String}
    {span : Span} {step : Expand Content} (hl : place.locus = l.part i)
    (hstep : ∀ s t c, step s = .ok c t →
      Lowered catalog src place.grammar place.locus pattern c s t)
    (h : register place ⟨name, operator, pattern, documentation, span⟩ step s = .ok () t) :
    Expanded catalog src place.grammar l i [.define name operator pattern documentation span]
      s t := by
  intro b covers hb hg hn hf
  let p : Passage := ⟨l.part i, ⟨name, operator, pattern, documentation, span⟩, covers⟩
  have hps : Unfolds src covers l i [.define name operator pattern documentation span] [p] :=
    .define .nil
  have hocc : (⟨place.file, place.address⟩ : Occurrence) = p.occurrence :=
    congrArg (fun l : Locus => (⟨l.file, l.address⟩ : Occurrence)) hl
  have hexposed : p.exposed = !s.frames.any fun f => f.spans.contains p.name := hg.exposed
  obtain ⟨r, u, hsupp, h₁⟩ := Run.bind_ok h
  obtain ⟨hr, hit, hhit, hu⟩ := suppressed_ok hsupp
  subst u
  have hsteady : Steady s { s with frames := s.frames.map hit } := by
    refine ⟨rfl, ?_⟩
    rw [List.map_map]
    exact List.map_congr_left fun f _ => hhit f
  have hb' : Books catalog src b { s with frames := s.frames.map hit } := hb.quiet rfl rfl rfl
  -- Where nothing is taken, the account stays as it is.
  have hsame (φ : Account → Account) (hφ : ∀ a, b[place.grammar]? = some a → φ a = a) :
      b.modify place.grammar φ ++ [] = b := by
    rw [List.append_nil, modify_congr_at (g := id) hφ, List.modify_id]
  change r = s.frames.any fun f => f.spans.contains p.name at hr
  rw [← hr] at hexposed
  cases r with
  | true =>
    have hquiet : Quiet catalog _ t := report_ok h₁
    have hno : [p].filter Passage.exposed = [] := by rw [List.filter_singleton, hexposed]; rfl
    refine ⟨[p], [], hps, by simp, ?_, hsteady.trans hquiet.steady⟩
    rw [hno, hsame _ fun a _ => a.take_nil]
    exact hquiet.books hb'
  | false =>
    have hone : [p].filter Passage.exposed = [p] := by rw [List.filter_singleton, hexposed]; rfl
    obtain ⟨r, u, hclaim, h₂⟩ := Run.bind_ok h₁
    rw [hocc] at hclaim
    rcases claim_ok hclaim with ⟨hr, hseen, hu⟩ | ⟨hr, hseen, hu⟩
    · subst r u
      cases h₂
      refine ⟨[p], [], hps, by simp, ?_, hsteady⟩
      rw [hone, hsame]
      · exact hb'
      · intro a ha
        obtain ⟨a', ha', ho⟩ := (hb'.registered _ _).1 hseen
        rw [ha] at ha'
        cases ha'
        exact Account.take_of_mem ho
    · subst r u
      obtain ⟨c, v, hlower, h₃⟩ := Run.bind_ok h₂
      obtain ⟨new, hnew, hv, hst, hc⟩ := hstep _ _ _ hlower _ (claim_books hb' hn) (hl ▸ hf)
      rw [hl] at hc
      have hn' : place.grammar < (b.modify place.grammar (·.claim p.occurrence)).length := by
        rw [List.length_modify]
        exact hn
      obtain ⟨ht, hst'⟩ := enter_books (p := p) hv
        (by rw [List.length_append]; exact Nat.lt_of_lt_of_le hn' (Nat.le_add_right _ _))
        ⟨hocc, rfl, rfl, rfl, hc⟩ h₃
      refine ⟨[p], new, hps, hnew, ?_, hsteady.trans (Steady.trans ⟨hst.stack, hst.frames⟩ hst')⟩
      rw [modify_append_of_lt hn', List.modify_modify_eq] at ht
      rw [hone, ← modify_congr_at fun a ha => ?_]
      · exact ht
      · refine Account.take_of_not_mem fun ho => hseen ?_
        exact (hb'.registered _ _).2 ⟨a, ha, ho⟩

/-- The override block of an include covers what its fragment comes to. -/
theorem pushed_books {overrides : List Component} {href : Text} {catalog : Catalog}
    (h : overrides.isEmpty = false ∧ pushFrame href overrides s = .ok () u ∨
      overrides.isEmpty = true ∧ u = s)
    (hb : Books catalog src b s) {covers : List (List DefineName)} (hg : Guards s.frames covers) :
    Books catalog src b u ∧ Guards u.frames (definedNames overrides :: covers) ∧
      u.stack = s.stack ∧
      s.frames = if overrides.isEmpty then u.frames else u.frames.tail := by
  rcases h with ⟨hov, hpush⟩ | ⟨hov, rfl⟩
  · obtain ⟨f, hf, -, rfl⟩ := pushFrame_ok hpush
    rw [hov]
    exact ⟨hb.quiet rfl rfl rfl, hg.push hf, rfl, rfl⟩
  · rw [List.isEmpty_iff.1 hov]
    exact ⟨hb, hg.empty, rfl, rfl⟩

/-- The fragment of an include is expanded with its key on the stack of files, and with the override
block in effect around it. -/
theorem includeFragment_opened {place : Place} {file : File} {key href : Text}
    {inherit : Option String} {overrides : List Component} {span : Span}
    (h : includeFragment setup descend place file key href inherit overrides span s = .ok () t)
    (hb : Books setup.catalog src b s) {covers : List (List DefineName)}
    (hg : Guards s.frames covers) :
    ∃ (ns : Text) (inner : Place) (w x : Expansion),
      place.environment.Passes inherit ns ∧
      inner.locus = ⟨Environment.ofDeclarations file.declarations ns, key, []⟩ ∧
      inner.grammar = place.grammar ∧ Books setup.catalog src b w ∧
      Guards w.frames (definedNames overrides :: covers) ∧ w.stack = key :: s.stack ∧
      s.frames.map OverrideFrame.spans =
        (if overrides.isEmpty then w.frames else w.frames.tail).map OverrideFrame.spans ∧
      ((∀ g ∈ s.grammars, g.Combined) → ∀ g ∈ w.grammars, g.Combined) ∧
      descend inner file.components w = .ok () x ∧
      t = { x with
        stack := x.stack.tail
        frames := if overrides.isEmpty then x.frames else x.frames.tail } := by
  obtain ⟨u, _, v, w, ns, inner, hpush, hreport, hns, hcheck, hopen, x, hx, ht, -⟩ :=
    includeFragment_ok h
  have hquiet : Quiet setup.catalog u v := (report_ok hreport).trans (checkEnvironment_ok hcheck)
  obtain ⟨hu, hgu, hstack, hframes⟩ := pushed_books hpush hb hg
  obtain ⟨hw, hsteady, hlocus, hgrammar⟩ := openScope_books hopen (hquiet.books hu)
  have huw : Steady u w := hquiet.steady.trans hsteady
  refine ⟨ns, inner, { w with stack := key :: w.stack }, x, hns, hlocus, hgrammar,
    hw.quiet rfl rfl rfl, hgu.of_spans huw.frames, ?_, ?_, fun hcombined => ?_, hx, ht⟩
  · exact congrArg _ (huw.stack.trans hstack)
  · rw [hframes]
    split
    · exact huw.frames.symm
    · rw [List.map_tail, List.map_tail]
      exact congrArg List.tail huw.frames.symm
  · have hpushed : ∀ g ∈ u.grammars, g.Combined := by
      rcases hpush with ⟨-, hpush⟩ | ⟨-, rfl⟩
      · have honward : Onward setup.catalog _ _ := pushFrame_advances _ _ _ _ _ hpush
        exact honward.combined hcombined
      · exact hcombined
    refine (show Onward setup.catalog _ _ from openScope_advances _ _ _ _ _ _ hopen).combined ?_
    rw [hquiet.grammars]
    exact hpushed

theorem includeFragment_expanded (hd : Faithful setup.catalog src descend) {place : Place}
    {file : File} {key href : Text} {inherit : Option String} {overrides : List Component}
    {span : Span} (hkey : src.key href place.file = .ok key) (hfile : src.file key = .ok file)
    (h : includeFragment setup descend place file key href inherit overrides span s = .ok () t)
    (hb : Books setup.catalog src b s) {covers : List (List DefineName)}
    (hg : Guards s.frames covers) (hn : place.grammar < b.length) :
    ∃ (inner : Locus) (qs : List Passage) (new : Ledger),
      src.Opens place.locus href inherit inner file ∧
      Unfolds src (definedNames overrides :: covers) inner 0 file.components qs ∧
      (∀ a ∈ new, a.Finished src) ∧
      Books setup.catalog src
        (b.modify place.grammar (·.take (qs.filter Passage.exposed)) ++ new) t ∧
      Steady s t := by
  obtain ⟨ns, inner, w, x, hns, hlocus, hgrammar, hw, hgw, hstack, hframes, -, hx, rfl⟩ :=
    includeFragment_opened h hb hg
  have hmem : inner.locus.file ∈ w.stack := by
    rw [hlocus, hstack]
    exact List.mem_cons_self
  obtain ⟨qs, new, hqs, hnew, hx, hst⟩ :=
    hd.expands _ _ _ _ hx b _ hw hgw (hgrammar ▸ hn) hmem
  rw [hlocus] at hqs
  rw [hgrammar] at hx
  refine ⟨_, qs, new, ⟨key, ns, hkey, hfile, hns, rfl⟩, hqs, hnew, hx.quiet rfl rfl rfl, ?_, ?_⟩
  · change x.stack.tail = _
    rw [hst.stack, hstack]
    rfl
  · rw [hframes]
    change List.map _ (if _ then _ else _) = _
    split
    · exact hst.frames
    · rw [List.map_tail, List.map_tail, hst.frames]

/-- An include is its override block and then its fragment. -/
theorem incl_expanded (hd : Faithful setup.catalog src descend) {place : Place} {l : Locus}
    {i : Nat} {href : Text} {inherit : Option String} {overrides : List Component} {span : Span}
    (hl : place.locus = l.part i)
    (hoverrides : ∀ inner s t, expandAll setup descend inner 0 overrides s = .ok () t →
      Expanded setup.catalog src inner.grammar inner.locus 0 overrides s t)
    (h : expand setup descend place (.incl href inherit overrides span) s = .ok () t) :
    Expanded setup.catalog src place.grammar l i [.incl href inherit overrides span] s t := by
  intro b covers hb hg hn hf
  obtain ⟨key, s', hcanonical, h₁⟩ := Run.bind_ok h
  obtain ⟨hkey, hs⟩ := Run.liftExcept_ok hcanonical
  subst s'
  obtain ⟨file, u, hfetch, h₂⟩ := Run.bind_ok h₁
  obtain ⟨_, hfile, hquiet⟩ := fetch_ok hfetch
  rw [hb.sources] at hfile
  have hkey' : src.key href place.file = .ok key := by
    rw [← hb.sources]
    exact hkey
  dsimp only at h₂
  split at h₂
  · obtain ⟨_, _, hrefuse, _⟩ := Run.bind_ok h₂
    exact (Run.not_throw_ok hrefuse).elim
  · obtain ⟨inner, v, hopen, h₃⟩ := Run.bind_ok h₂
    obtain ⟨hv, hsteady, hlocus, hgrammar⟩ := openScope_books hopen (hquiet.books hb)
    obtain ⟨_, w, hover, h₄⟩ := Run.bind_ok h₃
    have hfv : inner.locus.file ∈ v.stack := by
      rw [hlocus, hl, hsteady.stack, hquiet.stack]
      exact hf
    obtain ⟨ps, new, hps, hnew, hw, hst⟩ := hoverrides _ _ _ hover b covers hv
      (hg.of_spans (hsteady.frames.trans hquiet.steady.frames)) (hgrammar ▸ hn) hfv
    have hsw : Steady s w := hquiet.steady.trans (hsteady.trans hst)
    have hnw : inner.grammar <
        (b.modify inner.grammar (·.take (ps.filter Passage.exposed)) ++ new).length := by
      rw [List.length_append, List.length_modify, hgrammar]
      omega
    have hkey'' : src.key href inner.file = .ok key := by
      have hfile' : inner.file = place.file := congrArg Locus.file hlocus
      rw [hfile']
      exact hkey'
    obtain ⟨inner', qs, new', hopens, hqs, hnew', ht, hst'⟩ :=
      includeFragment_expanded hd hkey'' hfile h₄ hw (hg.of_spans hsw.frames) hnw
    rw [hgrammar] at ht
    rw [hlocus, hl] at hps hopens
    refine ⟨ps ++ qs ++ [], new ++ new', .incl hopens hps hqs .nil,
      List.forall_mem_append.2 ⟨hnew, hnew'⟩, ?_, hsw.trans hst'⟩
    rw [List.append_nil, List.filter_append]
    exact take_books hn ht

end

end Expand

end RelaxCompact
