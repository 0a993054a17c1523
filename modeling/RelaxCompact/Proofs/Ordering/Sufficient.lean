import RelaxCompact.Proofs.Caching.Prefetching
import RelaxCompact.Proofs.Ordering.Necessary
import RelaxCompact.Proofs.Ordering.Succeeding

/-!
What can be assembled in the sense of the criterion is assembled. A run comes to every component
with the books in order, and to every definition above files that all lead back to its own.
-/

namespace RelaxCompact

open Surface

/-! Files on the way -/

/-- What a component leads to leads on. -/
theorem LeadsTo.trans {src : Sources} {base key key' : Text} {c : Component}
    (h : LeadsTo src base c key) (h' : src.LeadsTo key key') : LeadsTo src base c key' := by
  induction h with
  | incl hkey =>
    obtain ⟨file, hfile, c, hc, hl⟩ := h'
    exact .fragment hkey hfile hc hl
  | fragment hkey hfile hc _ ih => exact .fragment hkey hfile hc (ih h')
  | overrides hc _ ih => exact .overrides hc (ih h')
  | div hc _ ih => exact .div hc (ih h')

theorem Sources.LeadsTo.trans {src : Sources} {key key' key'' : Text} (h : src.LeadsTo key key')
    (h' : src.LeadsTo key' key'') : src.LeadsTo key key'' := by
  obtain ⟨file, hfile, c, hc, hl⟩ := h
  exact ⟨file, hfile, c, hc, hl.trans h'⟩

/-- When a file is entered, those before it lead back to it, or to the files below the grammar. -/
theorem Backed.enter {src : Sources} {stack base : List Text} {file key : Text}
    (h : Backed src (file :: base) stack) (hkey : file ∈ base ∨ src.LeadsTo file key) :
    Backed src (key :: base) (key :: stack) := by
  intro other hm
  rcases List.mem_cons.1 hm with rfl | hm
  · exact .inl List.mem_cons_self
  rcases h other hm with hin | ⟨back, hback, hl⟩
  · rcases List.mem_cons.1 hin with rfl | hin
    · rcases hkey with hin | hl
      · exact .inl (List.mem_cons_of_mem _ hin)
      · exact .inr ⟨key, List.mem_cons_self, hl⟩
    · exact .inl (List.mem_cons_of_mem _ hin)
  · rcases List.mem_cons.1 hback with rfl | hback
    · rcases hkey with hin | hl'
      · exact .inr ⟨back, List.mem_cons_of_mem _ hin, hl⟩
      · exact .inr ⟨key, List.mem_cons_self, hl.trans hl'⟩
    · exact .inr ⟨back, List.mem_cons_of_mem _ hback, hl⟩

/-- The first site of a name is that of a passage through a definition of the name. -/
theorem Grammar.Accounts.first {src : Sources} {origins : List Origin} {number : Nat}
    {g : Grammar} {qs : List Passage} (h : g.Accounts src origins number qs) {name : DefineName}
    {d : Definition}
    (hd : g.definitions.get? name = some d) :
    ∃ q ∈ qs, q.name = name ∧ q.define.operator = d.operator := by
  have hfirst : d.first ∈ g.sites name := by
    unfold Grammar.sites
    rw [hd]
    exact List.mem_cons_self
  obtain ⟨q, hq, hrecorded⟩ := exists_of_forall₂ (h.sites name).flip hfirst
  obtain ⟨hq, hname⟩ := List.mem_filter.1 hq
  exact ⟨q, hq, of_decide_eq_true hname, hrecorded.operator.symm⟩

namespace Expand

open Run

/-- What the criterion says of a grammar with passages `ps`, above the files `base`. -/
structure Plan (src : Sources) (strict : Bool) (base : List Text) (o : Origin)
    (ps : List Passage) : Prop where
  uniform : Uniform src o.locus o.components
  combine : Passage.Combine ps
  lowerable : ∀ p q, Passage.Holds ps p q →
    Lowerable src strict (p.locus.file :: base) p.locus q

/-- Components that a run of a grammar comes to while the files of a stack are being expanded. -/
structure Pending (src : Sources) (strict : Bool) (base : List Text) (o : Origin)
    (ps : List Passage) (stack : List Text) (covers : List (List DefineName)) (l : Locus) (i : Nat)
    (cs : List Component) : Prop where
  includable : ∀ c ∈ cs, Includable src strict stack l c
  leads : l.file ∈ base ∨ ∀ c ∈ cs, ∀ key, LeadsTo src l.file c key → src.LeadsTo l.file key
  includes : ∀ inner, Includes src l cs inner → Includes src o.locus o.components inner
  unfolds : ∃ qs, Unfolds src covers l i cs qs ∧ qs ⊆ ps

/-- Environments are noted for grammars only that are open. -/
def Charted (s : Expansion) : Prop :=
  ∀ n key first, s.environments.get? (n, key) = some first → n < s.grammars.length

/-- The books are in order for a grammar with account `a` that is being expanded in `file`. -/
structure Poised (setup : Setup) (src : Sources) (base : List Text) (ps : List Passage)
    (covers : List (List DefineName)) (number : Nat) (file : Text) (b : Ledger) (a : Account)
    (s : Expansion) : Prop where
  plan : Plan src setup.strict base a.origin ps
  books : Books setup.catalog src b s
  account : b[number]? = some a
  guards : Guards s.frames covers
  written : file ∈ s.stack
  above : base ⊆ s.stack
  backed : Backed src (file :: base) s.stack
  charted : Charted s
  noted : ∀ key first, s.environments.get? (number, key) = some first → ∃ inner,
    Includes src a.origin.locus a.origin.components inner ∧ inner.file = key ∧
      inner.environment = first.1
  taken : ∀ q ∈ a.taken, q ∈ ps ∧ q.exposed = true ∧ q.occurrence ∈ a.claimed

section

variable {setup : Setup} {src : Sources} {strict : Bool} {base stack : List Text} {o : Origin}
  {ps : List Passage} {covers : List (List DefineName)} {number : Nat} {l : Locus} {i : Nat}
  {c : Component} {cs : List Component} {file : Text} {b b' : Ledger} {a a' : Account}
  {s t : Expansion} {D : DefineName → Prop} {I : Locus → Prop}

/-! Components that are pending -/

theorem Pending.head (h : Pending src strict base o ps stack covers l i (c :: cs)) :
    Pending src strict base o ps stack covers l i [c] where
  includable := List.forall_mem_singleton.2 (h.includable c List.mem_cons_self)
  leads := h.leads.imp_right fun hl => List.forall_mem_singleton.2 (hl c List.mem_cons_self)
  includes inner hi :=
    h.includes inner (hi.mono (List.cons_subset_cons c (List.nil_subset cs)))
  unfolds := by
    obtain ⟨_, hps, hsub⟩ := h.unfolds
    obtain ⟨qs, rs, hqs, -, rfl⟩ := hps.uncons
    exact ⟨qs, hqs, List.Subset.trans (List.subset_append_left _ _) hsub⟩

theorem Pending.tail (h : Pending src strict base o ps stack covers l i (c :: cs)) :
    Pending src strict base o ps stack covers l (i + 1) cs where
  includable := (List.forall_mem_cons.1 h.includable).2
  leads := h.leads.imp_right fun hl => (List.forall_mem_cons.1 hl).2
  includes inner hi := h.includes inner (hi.mono (List.subset_cons_self c cs))
  unfolds := by
    obtain ⟨_, hps, hsub⟩ := h.unfolds
    obtain ⟨qs, rs, -, hrs, rfl⟩ := hps.uncons
    exact ⟨rs, hrs, List.Subset.trans (List.subset_append_right _ _) hsub⟩

theorem Pending.div {components : List Component} {span : Span}
    (h : Pending src strict base o ps stack covers l i [.div components span]) :
    Pending src strict base o ps stack covers (l.part i) 0 components where
  includable := by
    cases h.includable _ (List.mem_singleton_self _) with
    | div hcomponents => exact fun c hc => (hcomponents c hc).moved rfl rfl
  leads := h.leads.imp_right fun hl c hc key hk => hl _ (List.mem_singleton_self _) key (.div hc hk)
  includes inner hi := h.includes inner (.div (List.mem_singleton_self _) (hi.moved rfl rfl))
  unfolds := by
    obtain ⟨qs, hqs, hsub⟩ := h.unfolds
    cases hqs with
    | div hqs hnil => exact ⟨_, hqs, List.Subset.trans (List.subset_append_left _ _) hsub⟩

section

variable {href : Text} {inherit : Option String} {overrides : List Component} {span : Span}

theorem Pending.block
    (h : Pending src strict base o ps stack covers l i [.incl href inherit overrides span]) :
    Pending src strict base o ps stack covers (l.part i) 0 overrides where
  includable := by
    cases h.includable _ (List.mem_singleton_self _) with
    | incl _ _ _ _ hoverrides => exact fun c hc => (hoverrides c hc).moved rfl rfl
  leads := h.leads.imp_right fun hl c hc key hk =>
    hl _ (List.mem_singleton_self _) key (.overrides hc hk)
  includes inner hi := h.includes inner (.overrides (List.mem_singleton_self _) (hi.moved rfl rfl))
  unfolds := by
    obtain ⟨qs, hqs, hsub⟩ := h.unfolds
    cases hqs with
    | incl _ hqs _ _ =>
      refine ⟨_, hqs, fun q hq => hsub ?_⟩
      exact List.mem_append_left _ (List.mem_append_left _ hq)

/-- The fragment of an include is pending with its key on the stack. -/
theorem Pending.fragment
    (h : Pending src strict base o ps stack covers l i [.incl href inherit overrides span])
    {inner : Locus} {file : File} (ho : src.Opens l href inherit inner file) :
    Pending src strict base o ps (inner.file :: stack) (definedNames overrides :: covers) inner 0
      file.components where
  includable := by
    cases h.includable _ (List.mem_singleton_self _) with
    | incl ho' _ _ _ _ hfragment =>
      obtain ⟨rfl, rfl⟩ := ho.unique ho'
      exact hfragment
  leads := .inr fun c hc key hk => ⟨file, ho.file_eq, c, hc, hk⟩
  includes inner' hi := h.includes inner' (.fragment (List.mem_singleton_self _) ho hi)
  unfolds := by
    obtain ⟨qs, hqs, hsub⟩ := h.unfolds
    cases hqs with
    | incl ho' _ hqs _ =>
      obtain ⟨rfl, rfl⟩ := ho.unique ho'
      refine ⟨_, hqs, fun q hq => hsub ?_⟩
      exact List.mem_append_left _ (List.mem_append_right _ hq)

/-- The file of a grammar leads to the fragments that it includes. -/
theorem Pending.leadsTo
    (h : Pending src strict base o ps stack covers l i [.incl href inherit overrides span])
    {inner : Locus} {file : File} (ho : src.Opens l href inherit inner file) :
    l.file ∈ base ∨ src.LeadsTo l.file inner.file := by
  obtain ⟨key, ns, hkey, -, -, rfl⟩ := ho
  exact h.leads.imp_right fun hl => hl _ (List.mem_singleton_self _) key (.incl hkey)

end

/-! Books in order -/

/-- A run leaves the books in order if the account is in order afterwards. -/
theorem Poised.traced (h : Poised setup src base ps covers number file b a s)
    (hb : Books setup.catalog src b' t) (ha : b'[number]? = some a')
    (horigin : a'.origin = a.origin)
    (htaken : ∀ q ∈ a'.taken, q ∈ ps ∧ q.exposed = true ∧ q.occurrence ∈ a'.claimed)
    (hst : Steady s t)
    (htraced : Traced setup.catalog D (fun n inner => n = number ∧ I inner) s t)
    (hincludes : ∀ inner, I inner → Includes src a.origin.locus a.origin.components inner) :
    Poised setup src base ps covers number file b' a' t where
  plan := horigin ▸ h.plan
  books := hb
  account := ha
  guards := h.guards.of_spans hst.frames
  written := hst.stack ▸ h.written
  above := hst.stack ▸ h.above
  backed := hst.stack ▸ h.backed
  charted := by
    intro n key first hfirst
    have hlength := htraced.grammars
    rcases htraced.environments n key first hfirst with hs | hn | ⟨inner, ⟨rfl, -⟩, -⟩
    · exact Nat.lt_of_lt_of_le (h.charted n key first hs) hlength
    · exact hn.2
    · rw [← hb.length]
      exact (List.getElem?_eq_some_iff.1 ha).1
  noted := by
    intro key first hfirst
    rw [horigin]
    rcases htraced.environments number key first hfirst with hs | hn | ⟨inner, ⟨-, hi⟩, hrest⟩
    · exact h.noted key first hs
    · obtain ⟨hlt, -⟩ := List.getElem?_eq_some_iff.1 h.account
      rw [h.books.length] at hlt
      omega
    · exact ⟨inner, hincludes inner hi, hrest⟩
  taken := htaken

/-- What is neither about definitions nor about includes leaves the books in order. -/
theorem Poised.idle (h : Poised setup src base ps covers number file b a s)
    (hb : Books setup.catalog src b t) (hst : Steady s t) (hidle : Idle setup.catalog s t) :
    Poised setup src base ps covers number file b a t :=
  h.traced (I := fun _ => False) hb h.account rfl h.taken hst
    (hidle.mono (fun _ => Iff.rfl) fun _ _ => False.elim) fun _ => False.elim

/-- A run through components that were pending leaves the books in order. -/
theorem Poised.expanded (h : Poised setup src base ps covers number l.file b a s)
    (hp : Pending src setup.strict base a.origin ps s.stack covers l i cs)
    (he : Expanded setup.catalog src number l i cs s t)
    (htraced : Traced setup.catalog D (fun n inner => n = number ∧ Includes src l cs inner) s t) :
    ∃ b' a', a'.origin = a.origin ∧ Steady s t ∧
      Poised setup src base ps covers number l.file b' a' t := by
  obtain ⟨hn, -⟩ := List.getElem?_eq_some_iff.1 h.account
  obtain ⟨qs, new, hqs, -, hb, hst⟩ := he b covers h.books h.guards hn h.written
  obtain ⟨qs', hqs', hsub⟩ := hp.unfolds
  obtain rfl := hqs.unique hqs'
  refine ⟨_, a.take (qs.filter Passage.exposed), rfl, hst, h.traced hb
    (getElem?_modify_append h.account _ _) rfl (fun q hq => ?_) hst htraced hp.includes⟩
  rcases List.mem_append.1 hq with hq | hq
  · obtain ⟨hmem, hexposed, hclaimed⟩ := h.taken q hq
    exact ⟨hmem, hexposed, List.mem_append_left _ hclaimed⟩
  · obtain ⟨hmem, hexposed⟩ := List.mem_filter.1 (Passage.mem_of_mem_fresh hq)
    exact ⟨hsub hmem, hexposed, List.mem_append_right _ (List.mem_map_of_mem hq)⟩

/-- A grammar that can be assembled is opened with the books in order. -/
theorem Assemblable.poised {u : Expansion}
    (h : Assemblable src setup.strict u.stack o.locus o.components)
    (hb : Books setup.catalog src (b ++ [⟨o, [], []⟩]) u) (hframes : u.frames = [])
    (hf : o.locus.file ∈ u.stack) (hcharted : Charted u)
    (hnew : ∀ key, u.environments.get? (b.length, key) = none) :
    ∃ ps, Poised setup src u.stack ps [] b.length o.locus.file (b ++ [⟨o, [], []⟩]) ⟨o, [], []⟩ u ∧
      Pending src setup.strict u.stack o ps u.stack [] o.locus 0 o.components := by
  cases h with
  | intro unfolds includable uniform combine readable fresh nested =>
    refine ⟨_, ?_, includable, .inl hf, fun _ => id, _, unfolds, List.Subset.refl _⟩
    exact {
      plan := ⟨uniform, combine, fun p q hq => ⟨readable p q hq, fresh p q hq, nested p q hq⟩⟩
      books := hb
      account := by
        rw [List.getElem?_append_right (Nat.le_refl _), Nat.sub_self]
        rfl
      guards := by
        rw [hframes]
        exact .nil
      written := hf
      above := List.Subset.refl _
      backed := .of_subset (List.subset_cons_self _ _)
      charted := hcharted
      noted := fun key first hfirst => nomatch (hnew key).symm.trans hfirst
      taken := nofun }

/-! Runs -/

theorem Charted.idle (h : Charted s) (hidle : Idle setup.catalog s t) : Charted t := by
  intro n key first hfirst
  rcases hidle.environments n key first hfirst with hs | hn | ⟨_, hi, -⟩
  · exact Nat.lt_of_lt_of_le (h n key first hs) hidle.grammars
  · exact hn.2
  · exact hi.elim

/-- A way to expand other files, at most `budget` deep, that comes to an end. Of the keys on the way
only `keys` have files. -/
structure Sure (setup : Setup) (src : Sources) (keys : List Text) (budget : Nat)
    (descend : Descend) : Prop where
  faithful : Faithful setup.catalog src descend
  traces : ∀ place cs, Traces setup.catalog src place.grammar place.locus cs (descend place cs)
  succeeds : ∀ place cs s base ps covers b a,
    Poised setup src base ps covers place.grammar place.file b a s →
    Pending src setup.strict base a.origin ps s.stack covers place.locus 0 cs →
    room keys s.stack < budget → Succeeds (descend place cs) s

variable {keys : List Text} {budget : Nat} {descend : Descend} {place : Place}

theorem isolated_succeeds_of_assemblable {label : Text} {body : Nat → Expand Unit}
    (h : Assemblable src setup.strict s.stack o.locus o.components)
    (hb : Books setup.catalog src b s) (hf : o.locus.file ∈ s.stack) (hcharted : Charted s)
    (hbody : ∀ u ps b, u.stack = s.stack →
      Poised setup src s.stack ps [] s.grammars.length o.locus.file b ⟨o, [], []⟩ u →
      Pending src setup.strict s.stack o ps u.stack [] o.locus 0 o.components →
      Succeeds (body s.grammars.length) u) :
    Succeeds (isolated label o.parent body) s := by
  have hopened : Books setup.catalog src (b ++ [⟨o, [], []⟩])
      { s with grammars := s.grammars ++ [{ label, parent := o.parent }], frames := [] } :=
    hb.opened rfl rfl rfl
  refine isolated_succeeds ?_
  obtain ⟨ps, hpoised, hpending⟩ := Assemblable.poised
    (u := { s with grammars := s.grammars ++ [{ label, parent := o.parent }], frames := [] })
    h hopened rfl hf
    (fun n key first hfirst => by
      rw [List.length_append]
      exact Nat.lt_add_right _ (hcharted n key first hfirst))
    (fun key => by
      cases hk : s.environments.get? (b.length, key) with
      | none => rfl
      | some first =>
        have hlt := hcharted _ _ _ hk
        rw [hb.length] at hlt
        exact absurd hlt (Nat.lt_irrefl _))
  rw [hb.length] at hpoised
  exact hbody _ ps _ rfl hpoised hpending

theorem external_succeeds (hd : Sure setup src keys budget descend)
    (hkeys : ∀ key file, src.file key = .ok file → key ∈ keys) {href : Text}
    {inherit : Option String} {span : Span} (hb : Books setup.catalog src b s)
    (hcharted : Charted s)
    (h : Lowerable src setup.strict s.stack place.locus (.external href inherit span))
    (hroom : room keys s.stack < budget + 1) :
    Succeeds (external setup descend place href inherit span) s := by
  obtain ⟨inner, file, hopens⟩ := h.readable
  have hfresh : inner.file ∉ s.stack :=
    h.fresh _ _ _ (.external hopens) _ (List.mem_singleton_self _)
  have hassemblable : Assemblable src setup.strict (inner.file :: s.stack) inner file.components :=
    h.nested _ _ _ (.external hopens)
  obtain ⟨key, ns, hkey, hfile, hns, rfl⟩ := hopens
  rw [← hb.sources] at hkey hfile
  refine (liftExcept_succeeds hkey).bind fun key' s' hk => ?_
  obtain ⟨hkey', rfl⟩ := liftExcept_ok hk
  cases Except.ok.inj (hkey.symm.trans hkey')
  refine (fetch_succeeds hfresh hfile).bind fun file' u hu => ?_
  obtain ⟨-, hfile', hquiet⟩ := fetch_ok hu
  have hchartedU : Charted u := hcharted.idle (fetch_idle hu)
  cases Except.ok.inj (hfile.symm.trans hfile')
  refine (inheritedNamespace_succeeds hns span u).bind fun ns' u' hu' => ?_
  obtain ⟨hns', rfl⟩ := inheritedNamespace_ok hu'
  cases hns.unique hns'
  refine Succeeds.bind ⟨(), { u' with stack := key :: u'.stack }, rfl⟩ fun _ v hv => ?_
  cases hv
  refine ensuring_succeeds ?_ _
  refine isolated_succeeds_of_assemblable (b := b)
    (o := ⟨none, ⟨Environment.ofDeclarations file.declarations ns, key, []⟩, file.components⟩)
    ?_ ((hquiet.books hb).quiet rfl rfl rfl) List.mem_cons_self hchartedU
    fun v ps b hv hpoised hpending => ?_
  · change Assemblable _ _ (key :: u'.stack) _ _
    rw [hquiet.stack]
    exact hassemblable
  · refine hd.succeeds _ _ _ _ _ _ _ _ hpoised hpending ?_
    rw [hv]
    change room keys (key :: u'.stack) < budget
    rw [hquiet.stack]
    have hless := room_cons_lt (hkeys key file (hb.sources ▸ hfile)) hfresh
    omega

/-- A definition is taken if its pattern can be lowered above the files that are being expanded; its
site combines with those that are there. -/
theorem register_succeeds {name : DefineName} {operator : Assignment} {pattern : Pattern}
    {documentation : Option String} {span : Span} {step : Expand Content}
    (hl : place.locus = l.part i)
    (hlowered : ∀ s t c, step s = .ok c t →
      Lowered setup.catalog src place.grammar place.locus pattern c s t)
    (hstep : ∀ u b, Books setup.catalog src b u → u.stack = s.stack → Charted u →
      (∀ q ∈ pattern.preorder, Lowerable src setup.strict u.stack place.locus q) →
      Succeeds step u)
    (h : Poised setup src base ps covers place.grammar place.file b a s)
    (hp : Pending src setup.strict base a.origin ps s.stack covers l i
      [.define name operator pattern documentation span]) :
    Succeeds (register place ⟨name, operator, pattern, documentation, span⟩ step) s := by
  let p : Passage := ⟨l.part i, ⟨name, operator, pattern, documentation, span⟩, covers⟩
  have hps : p ∈ ps := by
    obtain ⟨qs, hqs, hsub⟩ := hp.unfolds
    cases hqs with
    | define _ => exact hsub List.mem_cons_self
  have hocc : (⟨place.file, place.address⟩ : Occurrence) = p.occurrence :=
    congrArg (fun l : Locus => (⟨l.file, l.address⟩ : Occurrence)) hl
  refine (suppressed_succeeds name s).bind fun r u hu => ?_
  obtain ⟨hr, hit, hhit, rfl⟩ := suppressed_ok hu
  cases r with
  | true => exact report_succeeds _ _
  | false =>
    have hexposed : p.exposed = true := by
      rw [h.guards.exposed]
      exact congrArg (!·) hr.symm
    refine (claim_succeeds _ _ _).bind fun seen u hclaim => ?_
    rw [hocc] at hclaim
    have hb : Books setup.catalog src b { s with frames := s.frames.map hit } :=
      h.books.quiet rfl rfl rfl
    rcases claim_ok hclaim with ⟨rfl, -, -⟩ | ⟨rfl, hseen, rfl⟩
    · exact ⟨_, _, rfl⟩
    · obtain ⟨hn, -⟩ := List.getElem?_eq_some_iff.1 h.account
      have hbooks := claim_books (o := p.occurrence) hb hn
      have hlowerable (q : Pattern) (hq : q ∈ pattern.preorder) :
          Lowerable src setup.strict s.stack place.locus q := by
        have hplan := h.plan.lowerable p q ⟨hps, hexposed, hq⟩
        rw [hl]
        refine hplan.restack ?_
        have hfile : p.locus.file = place.file := congrArg Locus.file hl.symm
        rw [hfile]
        exact h.backed
      refine (hstep _ _ hbooks rfl h.charted hlowerable).bind fun c v hv => ?_
      obtain ⟨new, -, hv, -, -⟩ := hlowered _ _ _ hv _ hbooks h.written
      have haccount := getElem?_modify_append h.account (Account.claim p.occurrence) new
      obtain ⟨hlt, -⟩ := List.getElem?_eq_some_iff.1 haccount
      rw [hv.length] at hlt
      obtain ⟨g, hg⟩ : ∃ g, v.grammars[place.grammar]? = some g :=
        ⟨_, List.getElem?_eq_getElem hlt⟩
      obtain ⟨-, hacc⟩ := hv.accounts _ _ _ haccount hg
      refine addSite_succeeds hg fun d hd => ?_
      -- The first site is that of another definition, as this one was not taken before.
      obtain ⟨q, hq, hname, hoperator⟩ := hacc.first hd
      obtain ⟨hmem, hqexposed, hclaimed⟩ := h.taken q hq
      rw [← hoperator]
      refine h.plan.combine q hmem p hps hqexposed hexposed hname fun he => ?_
      exact hseen ((hb.registered _ _).2 ⟨a, h.account, he ▸ hclaimed⟩)

/-- The override blocks in effect may change with what they cover. -/
theorem Poised.reframe (h : Poised setup src base ps covers number file b a s)
    {frames : List OverrideFrame} {covers' : List (List DefineName)}
    (hg : Guards frames covers') :
    Poised setup src base ps covers' number file b a { s with frames } :=
  { h with books := h.books.quiet rfl rfl rfl, guards := hg }

/-- A file is entered that the file at hand leads to. -/
theorem Poised.enter (h : Poised setup src base ps covers number file b a s) {key : Text}
    (hkey : file ∈ base ∨ src.LeadsTo file key) :
    Poised setup src base ps covers number key b a { s with stack := key :: s.stack } :=
  { h with
    books := h.books.quiet rfl rfl rfl
    written := List.mem_cons_self
    above := List.Subset.trans h.above (List.subset_cons_self _ _)
    backed := h.backed.enter hkey }

/-- The override block of an include is put into effect, if it is not empty. -/
theorem pushFrame_frames {href : Text} {overrides : List Component}
    (h : (!overrides.isEmpty) = true ∧ pushFrame href overrides s = .ok () t ∨
      (!overrides.isEmpty) = false ∧ t = s) (hg : Guards s.frames covers) :
    ∃ frames, t = { s with frames } ∧ Guards frames (definedNames overrides :: covers) ∧
      ((!overrides.isEmpty) = true → ∀ f, frames.head? = some f →
        ∀ name, f.spans.contains name = true → name ∈ definedNames overrides) := by
  rcases h with ⟨hsome, hpush⟩ | ⟨hnone, rfl⟩
  · obtain ⟨f, hf, -, rfl⟩ := pushFrame_ok hpush
    refine ⟨_, rfl, hg.push hf, fun _ f' hf' name hname => ?_⟩
    cases hf'
    exact (hf name).1 hname
  · rw [Bool.not_eq_false', List.isEmpty_iff] at hnone
    subst hnone
    exact ⟨_, rfl, hg.empty, fun h => nomatch h⟩

/-- An override block is fulfilled by a run that meets definitions of all the names in it. -/
theorem checkOverrides_succeeds_of_traced {I : Nat → Locus → Prop}
    (htraced : Traced setup.catalog D I s t) {f : OverrideFrame} (hf : t.frames.head? = some f)
    (hmet : ∀ f, s.frames.head? = some f → ∀ name, f.spans.contains name = true → D name)
    (u : Expansion) : Succeeds (checkOverrides f) u := by
  obtain ⟨f', hf', hmarked⟩ := exists_head_of_forall₂ htraced.frames hf
  refine checkOverrides_succeeds (fun name hname => ?_) u
  rw [hmarked.spans] at hname
  exact (hmarked.hits name).2 (.inr ⟨hname, hmet f' hf' name hname⟩)

/-- The fragment of an include is expanded to its end, and has what a strict block asks for. -/
theorem includeFragment_succeeds (hd : Sure setup src keys budget descend)
    (hkeys : ∀ key file, src.file key = .ok file → key ∈ keys) {inner : Locus} {fragment : File}
    {href : Text} {inherit : Option String} {overrides : List Component} {span : Span}
    (hl : place.locus = l.part i)
    (h : Poised setup src base ps covers place.grammar place.file b a s)
    (hp : Pending src setup.strict base a.origin ps s.stack covers l i
      [.incl href inherit overrides span])
    (hopens : src.Opens l href inherit inner fragment)
    (hroom : room keys s.stack < budget + 1) :
    Succeeds (includeFragment setup descend place fragment inner.file href inherit overrides span)
      s := by
  have hleads : place.file ∈ base ∨ src.LeadsTo place.file inner.file := by
    have hfile : place.file = l.file := congrArg Locus.file hl
    rw [hfile]
    exact hp.leadsTo hopens
  have hpending := hp.fragment hopens
  have hincluded : Includes src a.origin.locus a.origin.components inner :=
    hp.includes inner (.here (List.mem_singleton_self _) hopens)
  obtain ⟨hfresh, hmet⟩ : inner.file ∉ s.stack ∧ (setup.strict = true →
      ∀ name ∈ definedNames overrides, DefinesIn src inner fragment.components name) := by
    cases hp.includable _ (List.mem_singleton_self _) with
    | incl hopens' hfresh _ hmet =>
      obtain ⟨rfl, rfl⟩ := hopens.unique hopens'
      exact ⟨hfresh, hmet⟩
  obtain ⟨key, ns, -, hfile, hns, rfl⟩ := hopens
  have hns' : place.environment.Passes inherit ns := by
    have henv : place.environment = l.environment := congrArg Locus.environment hl
    rw [henv]
    exact hns
  refine Succeeds.cond (fun _ => pushFrame_succeeds _ _ _) fun u hpush => ?_
  obtain ⟨frames, rfl, hguards, hspans⟩ := pushFrame_frames hpush h.guards
  refine (report_succeeds _ _).bind fun _ u hreport => ?_
  have hquiet : Quiet setup.catalog { s with frames } u := report_ok hreport
  have hu := (h.reframe hguards).idle (hquiet.books (h.books.quiet rfl rfl rfl)) hquiet.steady
    (report_idle hreport)
  refine (inheritedNamespace_succeeds hns' span u).bind fun ns' u' hinherit => ?_
  obtain ⟨hns'', rfl⟩ := inheritedNamespace_ok hinherit
  cases hns'.unique hns''
  refine (checkEnvironment_succeeds (fun first hfirst => ?_) href span).bind fun _ v hcheck => ?_
  · obtain ⟨inner', hi', hkey', henv'⟩ := hu.noted key first hfirst
    rw [← henv']
    exact h.plan.uniform _ _ hi' hincluded hkey'
  have hquiet' : Quiet setup.catalog u' v := checkEnvironment_ok hcheck
  have hchecked : Traced setup.catalog (fun _ => False) (fun n l => n = place.grammar ∧
      l = ⟨Environment.ofDeclarations fragment.declarations ns, key, []⟩) u' v :=
    checkEnvironment_traced hcheck
  have hv := hu.traced (hquiet'.books hu.books) hu.account rfl hu.taken hquiet'.steady hchecked
    fun l hl => hl ▸ hincluded
  refine (openScope_succeeds _ _ _ v).bind fun scope w hopen => ?_
  obtain ⟨hwb, hsteady, hlocus, hgrammar⟩ := openScope_books hopen hv.books
  obtain ⟨hvw, -, -⟩ : Idle setup.catalog v w ∧ _ := openScope_idle hopen
  have hw := (hv.idle hwb hsteady hvw).enter hleads
  have hstack : w.stack = s.stack :=
    ((hquiet.steady.trans hquiet'.steady).trans hsteady).stack
  refine Succeeds.bind ⟨(), { w with stack := key :: w.stack }, rfl⟩ fun _ w' henter => ?_
  cases henter
  have hfile' : scope.file = key := congrArg Locus.file hlocus
  have hruns : Succeeds (descend scope fragment.components) { w with stack := key :: w.stack } := by
    refine hd.succeeds scope _ _ base ps (definedNames overrides :: covers) b a ?_ ?_ ?_
    · rw [hgrammar, hfile']
      exact hw
    · change Pending _ _ _ _ _ (key :: w.stack) _ _ _ _
      rw [hlocus, hstack]
      exact hpending
    · change room keys (key :: w.stack) < budget
      rw [hstack]
      have hless := room_cons_lt (hkeys key fragment hfile) hfresh
      omega
  refine (ensuring_succeeds (hruns.bind fun _ x _ => ⟨_, _, rfl⟩) _).bind fun frame t ht => ?_
  obtain ⟨x, hbody, rfl⟩ := ensuring_ok ht
  obtain ⟨_, x', hx, hget⟩ := bind_ok hbody
  cases hget
  split
  next hstrict =>
    rw [Bool.and_eq_true] at hstrict
    cases hframe : x.frames.head? with
    | none => exact ⟨_, _, rfl⟩
    | some f =>
      have hwx := hd.traces scope _ { w with stack := key :: w.stack } x hw.books.sources hx
      have htraced := (((report_idle hreport).trans hchecked).trans hvw).trans
        (show Traced _ _ _ w x from Traced.restack hwx)
      refine checkOverrides_succeeds_of_traced htraced hframe (fun f' hf' name hname => ?_) _
      have hdefined := hmet hstrict.2 name (hspans hstrict.1 f' hf' name hname)
      rw [hlocus]
      exact .inr hdefined
  next => exact ⟨_, _, rfl⟩

/-- An include is expanded to its end: its override block first and its fragment then. -/
theorem incl_succeeds (hd : Sure setup src keys budget descend)
    (hkeys : ∀ key file, src.file key = .ok file → key ∈ keys)
    {href : Text} {inherit : Option String} {overrides : List Component} {span : Span}
    (hl : place.locus = l.part i)
    (hoverrides : ∀ inner s base ps covers b a,
      Poised setup src base ps covers inner.grammar inner.file b a s →
      Pending src setup.strict base a.origin ps s.stack covers inner.locus 0 overrides →
      room keys s.stack < budget + 1 → Succeeds (expandAll setup descend inner 0 overrides) s)
    (h : Poised setup src base ps covers place.grammar place.file b a s)
    (hp : Pending src setup.strict base a.origin ps s.stack covers l i
      [.incl href inherit overrides span])
    (hroom : room keys s.stack < budget + 1) :
    Succeeds (expand setup descend place (.incl href inherit overrides span)) s := by
  obtain ⟨inner, fragment, hopens, hfresh, hgrammar⟩ : ∃ inner fragment,
      src.Opens l href inherit inner fragment ∧ inner.file ∉ s.stack ∧
        fragment.isPattern = false := by
    cases hp.includable _ (List.mem_singleton_self _) with
    | incl hopens hfresh hgrammar => exact ⟨_, _, hopens, hfresh, hgrammar⟩
  have hkey : setup.catalog.canonicalize href place.file = .ok inner.file := by
    obtain ⟨key, ns, hkey, -, -, rfl⟩ := hopens
    have hfile : place.file = l.file := congrArg Locus.file hl
    rw [hfile]
    rw [← h.books.sources] at hkey
    exact hkey
  have hfile : (s.source.sources setup.catalog).file inner.file = .ok fragment := by
    rw [h.books.sources]
    exact hopens.file_eq
  refine (liftExcept_succeeds hkey).bind fun key s' hk => ?_
  obtain ⟨hkey', rfl⟩ := liftExcept_ok hk
  cases Except.ok.inj (hkey.symm.trans hkey')
  refine (fetch_succeeds hfresh hfile).bind fun fragment' u hu => ?_
  obtain ⟨-, hfile', hquiet⟩ := fetch_ok hu
  cases Except.ok.inj (hfile.symm.trans hfile')
  dsimp only
  rw [hgrammar]
  have hu := h.idle (hquiet.books h.books) hquiet.steady (fetch_idle hu)
  refine (openScope_succeeds _ _ _ u).bind fun scope v hopen => ?_
  obtain ⟨hvb, hsteady, hlocus, hnumber⟩ := openScope_books hopen hu.books
  obtain ⟨huv, -, -⟩ : Idle setup.catalog u v ∧ _ := openScope_idle hopen
  have hv := hu.idle hvb hsteady huv
  have hsv : v.stack = s'.stack := hsteady.stack.trans hquiet.stack
  have hscope : scope.file = place.file := congrArg Locus.file hlocus
  rw [← hscope, ← hnumber] at hv
  have hblock :
      Pending src setup.strict base a.origin ps v.stack covers scope.locus 0 overrides := by
    rw [hsv, hlocus, hl]
    exact hp.block
  refine (hoverrides scope v base ps covers b a hv hblock (hsv ▸ hroom)).bind fun _ w hw => ?_
  obtain ⟨b', a', horigin, hvw, hw'⟩ := hv.expanded (l := scope.locus) hblock
    (expandAll_expanded hd.faithful _ _ _ _ _ hw)
    ((expansion_traces hd.traces).2.1 _ _ _ _ _ hv.books.sources hw)
  have hsw : w.stack = s'.stack := hvw.stack.trans hsv
  refine includeFragment_succeeds hd hkeys (l := l) (i := i) (hlocus.trans hl) hw' ?_ hopens ?_
  · rw [hsw, horigin]
    exact hp
  · rw [hsw]
    exact hroom

/-- Lowering patterns and expanding components of one file comes to an end if other files are
expanded so, one file less deep. -/
theorem expansion_succeeds (hd : Sure setup src keys budget descend)
    (hkeys : ∀ key file, src.file key = .ok file → key ∈ keys) (place : Place) (i : Nat)
    (cs : List Component) (s : Expansion) (base : List Text) (ps : List Passage)
    (covers : List (List DefineName)) (b : Ledger) (a : Account)
    (h : Poised setup src base ps covers place.grammar place.file b a s)
    (hp : Pending src setup.strict base a.origin ps s.stack covers place.locus i cs)
    (hroom : room keys s.stack < budget + 1) :
    Succeeds (expandAll setup descend place i cs) s := by
  have hexpanded := expansion_expanded hd.faithful
  have htraces := expansion_traces hd.traces
  revert s base ps covers b a
  refine expandAll.induct_unfolding setup descend
    (fun place p step => ∀ s b, Books setup.catalog src b s → place.file ∈ s.stack → Charted s →
      (∀ q ∈ p.preorder, Lowerable src setup.strict s.stack place.locus q) →
      room keys s.stack < budget + 1 → Succeeds (lower setup descend place p) s)
    (fun place i cs step => ∀ s base ps covers b a,
      Poised setup src base ps covers place.grammar place.file b a s →
      Pending src setup.strict base a.origin ps s.stack covers place.locus i cs →
      room keys s.stack < budget + 1 → Succeeds step s)
    (fun place c step => ∀ l i, place.locus = Locus.part l i → ∀ s base ps covers b a,
      Poised setup src base ps covers place.grammar place.file b a s →
      Pending src setup.strict base a.origin ps s.stack covers l i [c] →
      room keys s.stack < budget + 1 → Succeeds (expand setup descend place c) s)
    ?binary ?unary ?leaf ?named ?ref ?parentRef ?data ?dataExcept ?value ?external ?grammar
    ?define ?div ?incl ?nil ?cons place i cs
  case binary =>
    intro place op left right span ihLeft ihRight s b hb hf hcharted h hroom
    rw [lower]
    obtain ⟨-, h⟩ := List.forall_mem_cons.1 h
    obtain ⟨hleft, hright⟩ := List.forall_mem_append.1 h
    refine (ihLeft s b hb hf hcharted hleft hroom).bind fun c t ht => ?_
    obtain ⟨new, -, hb', hst, -⟩ := hexpanded.1 _ _ _ _ _ ht b hb hf
    rw [← hst.stack] at hf hright hroom
    refine (ihRight t _ hb' hf ?_ hright hroom).bind fun _ _ _ => ⟨_, _, rfl⟩
    exact hcharted.idle (htraces.1 _ _ _ _ _ hb.sources ht)
  case unary =>
    intro place modifier content span ih s b hb hf hcharted h hroom
    rw [lower]
    exact (ih s b hb hf hcharted (List.forall_mem_cons.1 h).2 hroom).bind fun _ _ _ => ⟨_, _, rfl⟩
  case leaf => exact fun _ _ _ _ _ _ _ _ _ _ => ⟨_, _, rfl⟩
  case named =>
    intro place holder name content span ih s b hb hf hcharted h hroom
    rw [lower]
    obtain ⟨hname, h⟩ := List.forall_mem_cons.1 h
    obtain ⟨name', hname⟩ := hname.readable
    refine (schema_succeeds hname).bind fun _ t ht => ?_
    obtain ⟨-, rfl⟩ := schema_ok ht
    exact (ih t b hb hf hcharted h hroom).bind fun _ _ _ => ⟨_, _, rfl⟩
  case ref => exact fun _ _ _ _ _ _ _ _ _ _ => ⟨_, _, rfl⟩
  case parentRef => exact fun _ _ _ _ _ _ _ _ _ _ => ⟨_, _, rfl⟩
  case data =>
    intro place type params span s b hb hf hcharted h hroom
    rw [lower]
    obtain ⟨library, hlibrary⟩ := (h _ (List.mem_singleton_self _)).readable
    exact (schema_succeeds hlibrary).bind fun _ _ _ => ⟨_, _, rfl⟩
  case dataExcept =>
    intro place type params except span ih s b hb hf hcharted h hroom
    rw [lower]
    obtain ⟨htype, h⟩ := List.forall_mem_cons.1 h
    obtain ⟨library, hlibrary⟩ := htype.readable
    refine (schema_succeeds hlibrary).bind fun _ t ht => ?_
    obtain ⟨-, rfl⟩ := schema_ok ht
    exact (ih t b hb hf hcharted h hroom).bind fun _ _ _ => ⟨_, _, rfl⟩
  case value =>
    intro place literal type span s b hb hf hcharted h hroom
    rw [lower]
    obtain ⟨library, hlibrary⟩ := (h _ (List.mem_singleton_self _)).readable
    exact (schema_succeeds hlibrary).bind fun _ _ _ => ⟨_, _, rfl⟩
  case external =>
    intro place href inherit span s b hb hf hcharted h hroom
    rw [lower]
    exact (external_succeeds hd hkeys hb hcharted (h _ (List.mem_singleton_self _)) hroom).bind
      fun _ _ _ => ⟨_, _, rfl⟩
  case grammar =>
    intro place components span ih s b hb hf hcharted h hroom
    rw [lower]
    have hassemblable := (h _ (List.mem_singleton_self _)).nested _ _ _ .grammar
    refine Succeeds.bind ?_ fun _ _ _ => ⟨_, _, rfl⟩
    refine isolated_succeeds_of_assemblable (o := ⟨some place.grammar, place.locus, components⟩)
      hassemblable hb hf hcharted fun u ps b hu hpoised hpending => ?_
    exact ih s.grammars.length u _ ps _ b _ hpoised hpending (hu ▸ hroom)
  case define =>
    intro place name operator pattern documentation span ih l i hl s base ps covers b a h hp hroom
    rw [expand]
    refine register_succeeds hl (fun s t c hc => hexpanded.1 _ _ _ _ _ hc)
      (fun u b hb hstack hcharted hlowerable => ?_) h hp
    refine ih u b hb ?_ hcharted hlowerable ?_
    · rw [hstack]
      exact h.written
    · rw [hstack]
      exact hroom
  case div =>
    intro place components span ih l i hl s base ps covers b a h hp hroom
    rw [expand]
    refine (openScope_succeeds _ _ _ s).bind fun inner t ht => ?_
    obtain ⟨hb, hst, hlocus, hgrammar⟩ := openScope_books ht h.books
    obtain ⟨hidle, -, -⟩ : Idle setup.catalog s t ∧ _ := openScope_idle ht
    have ht' := h.idle hb hst hidle
    have hfile : inner.file = place.file := congrArg Locus.file hlocus
    rw [← hfile, ← hgrammar] at ht'
    refine ih inner t base ps covers b a ht' ?_ (hst.stack ▸ hroom)
    rw [hst.stack, hlocus, hl]
    exact hp.div
  case incl =>
    intro place href inherit overrides span ih l i hl s base ps covers b a h hp hroom
    exact incl_succeeds hd hkeys hl ih h hp hroom
  case nil => exact fun _ _ _ _ _ _ _ _ _ _ _ => ⟨_, _, rfl⟩
  case cons =>
    intro place i c cs ihFirst ihRest s base ps covers b a h hp hroom
    have hl := place.locus_part i
    refine (ihFirst _ _ hl s base ps covers b a h hp.head hroom).bind fun _ t ht => ?_
    obtain ⟨b', a', horigin, hst, ht'⟩ := Poised.expanded (l := place.locus) h hp.head
      (hexpanded.2.2 _ _ _ _ hl _ _ ht)
      (((htraces.2.2 _ _) _ _ h.books.sources ht).mono
        (fun _ => ⟨(·.moved rfl rfl), (·.moved rfl rfl)⟩) fun _ _ hi => ⟨hi.1, hi.2.moved rfl rfl⟩)
    refine ihRest t base ps covers b' a' ht' ?_ (hst.stack ▸ hroom)
    rw [hst.stack, horigin]
    exact hp.tail

/-- Files are expanded to their end if there is room for all of those that they lead to. -/
theorem expandFile_sure (setup : Setup) (src : Sources)
    (hkeys : ∀ key file, src.file key = .ok file → key ∈ keys) (budget : Nat) :
    Sure setup src keys budget (expandFile setup budget) := by
  refine ⟨expandFile_faithful setup src budget, expandFile_traces setup src budget, ?_⟩
  induction budget with
  | zero => exact fun _ _ _ _ _ _ _ _ _ _ hroom => absurd hroom (Nat.not_lt_zero _)
  | succ budget ih =>
    intro place cs s base ps covers b a h hp hroom
    exact expansion_succeeds
      ⟨expandFile_faithful setup src budget, expandFile_traces setup src budget, ih⟩ hkeys
      place 0 cs s base ps covers b a h hp hroom

end

end Expand

/-- What can be assembled in the sense of the criterion is assembled. -/
theorem assemble_of_assemblable {setup : Expand.Setup} {root : File} {key : Option Text}
    {s : Fragments} (hs : s.Bounded setup.catalog)
    (h : Assemblable (s.sources setup.catalog) setup.strict [rootKey root key]
      (rootOrigin root key).locus root.components) :
    ∃ a t, assemble setup root key s = .ok a t := by
  obtain ⟨keys, hkeys, hsize⟩ := hs
  let u : Expansion :=
    { source := s
      stack := [rootKey root key]
      grammars := [{ label := if root.path.isEmpty then rootKey root key else root.path
                     parent := none }] }
  obtain ⟨ps, hpoised, hpending⟩ := Expand.Assemblable.poised (u := u) (b := [])
    (o := rootOrigin root key) h (Books.start rfl rfl rfl) rfl List.mem_cons_self
    (fun _ _ _ hfirst => nomatch hfirst) fun _ => rfl
  have hsure := Expand.expandFile_sure setup (s.sources setup.catalog) hkeys
    (setup.catalog.size + s.entries.size + 1)
  obtain ⟨_, v, hv⟩ := hsure.succeeds
    { grammar := 0
      environment := Environment.ofDeclarations root.declarations
      file := rootKey root key }
    root.components u _ ps [] _ _ hpoised hpending
    (Nat.lt_succ_of_le (Nat.le_trans (room_le_length _ _) hsize))
  unfold assemble
  dsimp only
  rw [hv]
  exact ⟨_, _, rfl⟩

end RelaxCompact
