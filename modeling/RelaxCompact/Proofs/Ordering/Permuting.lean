import Mathlib.Data.List.Perm.Basic
import RelaxCompact.Proofs.Ordering.Relocating
import RelaxCompact.Proofs.Ordering.Sufficient

/-!
Order independence. Assembly of a root whose components come in another order succeeds just as well,
and makes the same of it but for the order of names and of sites, and for the numbers of grammars.
-/

namespace RelaxCompact

open Surface

/-! What is the same but for numbers and addresses -/

/-- Two contents are the same tree, with grammars that go together. -/
inductive Content.Same (R : Nat → Nat → Prop) : Content → Content → Prop
  | binary {op left right left' right' span} :
    Same R left left' → Same R right right' →
    Same R (.binary op left right span) (.binary op left' right' span)
  | unary {modifier content content' span} :
    Same R content content' → Same R (.unary modifier content span) (.unary modifier content' span)
  | leaf {leaf span} : Same R (.leaf leaf span) (.leaf leaf span)
  | named {holder name content content' span} :
    Same R content content' →
    Same R (.named holder name content span) (.named holder name content' span)
  | ref {name span} : Same R (.ref name span) (.ref name span)
  | parentRef {name span} : Same R (.parentRef name span) (.parentRef name span)
  | data {type library params span} :
    Same R (.data type library params none span) (.data type library params none span)
  | dataExcept {type library params except except' span} :
    Same R except except' →
    Same R (.data type library params (some except) span)
      (.data type library params (some except') span)
  | value {literal type library span} :
    Same R (.value literal type library span) (.value literal type library span)
  | grammar {n n' span} : R n n' → Same R (.grammar n span) (.grammar n' span)

/-- Two sites are of one definition, which is moved, and have the same content. -/
structure Site.Same (m : Shuffle) (R : Nat → Nat → Prop) (s s' : Site) : Prop where
  occurrence : s'.occurrence = m.occurrence s.occurrence
  operator : s'.operator = s.operator
  documentation : s'.documentation = s.documentation
  span : s'.span = s.span
  content : Content.Same R s.content s'.content

/-- Two grammars have the same names, with the same sites, in the same order. -/
structure Grammar.Same (m : Shuffle) (R : Nat → Nat → Prop) (g g' : Grammar) : Prop where
  parent : Option.Rel R g.parent g'.parent
  names : g'.definitions.keys = g.definitions.keys
  sites : ∀ name, List.Forall₂ (Site.Same m R) (g.sites name) (g'.sites name)

/-- Two grammars have the same names, with the same sites, in whatever order. -/
structure Grammar.Rearranged (m : Shuffle) (R : Nat → Nat → Prop) (g g' : Grammar) : Prop where
  parent : Option.Rel R g.parent g'.parent
  names : g'.definitions.keys.Perm g.definitions.keys
  sites : ∀ name, ∃ sites, List.Forall₂ (Site.Same m R) (g.sites name) sites ∧
    sites.Perm (g'.sites name)

/-- Two assembled schemas are the same, but for the order of what is in the root. Numbers of
grammars that go together are those of the roots, or of nested grammars that are the same. -/
def Assembled.Rearranged (m : Shuffle) (a a' : Assembled) : Prop :=
  ∃ R : Nat → Nat → Prop, a.root.Rearranged m R a'.root ∧
    ∀ n n', R n n' → n = 0 ∧ n' = 0 ∨
      ∃ g g', a.grammars[n]? = some g ∧ a'.grammars[n']? = some g' ∧ g.Same m R g'

/-! Nested grammars -/

/-- A grammar can be assembled while the file whose components are moved is being expanded. -/
structure Shuffle.Nested (m : Shuffle) (src : Sources) (strict : Bool) (l : Locus)
    (cs : List Component) : Prop where
  below : m.Below l
  assemblable : ∃ stack, m.file ∈ stack ∧ Assemblable src strict stack l cs

section

variable {src : Sources} {strict : Bool} {m : Shuffle} {stack : List Text} {l : Locus}
  {cs : List Component} {ps : List Passage}

theorem Assemblable.nested (h : Assemblable src strict stack l cs) (hm : m.file ∈ stack)
    (hps : Unfolds src [] l 0 cs ps) {p : Passage} {q : Pattern} (hq : Passage.Holds ps p q)
    {entered : List Text} {inner : Locus} {ds : List Component}
    (hn : Nests src p.locus q entered inner ds) : m.Nested src strict inner ds := by
  cases h with
  | intro unfolds _ _ _ _ fresh nested =>
    obtain rfl := hps.unique unfolds
    have hstack : m.file ∈ p.locus.file :: stack := List.mem_cons_of_mem _ hm
    exact ⟨hn.below (unfolds.not_top hq.mem) hstack (fresh p q hq _ _ _ hn),
      _, List.mem_append_right _ hstack, nested p q hq _ _ _ hn⟩

/-- The grammars of two assemblies that come from the same, but for its address. -/
inductive Partners (m : Shuffle) (src : Sources) (strict : Bool) (origins origins' : List Origin) :
    Nat → Nat → Prop
  | root : Partners m src strict origins origins' 0 0
  | nested {n n' parent parent' l cs} :
    origins[n]? = some ⟨parent, l, cs⟩ → origins'[n']? = some ⟨parent', m.locus l, cs⟩ →
    Option.Rel (Partners m src strict origins origins') parent parent' →
    m.Nested src strict l cs → Partners m src strict origins origins' n n'

variable {origins origins' : List Origin} {number number' : Nat}

/-- A pattern comes to the same content at its new address. -/
theorem Lowers.same {p : Pattern} {c c' : Content} (h : Lowers src origins number l p c)
    (h' : Lowers src origins' number' (m.locus l) p c')
    (hnumber : Partners m src strict origins origins' number number')
    (hnested : ∀ q ∈ p.preorder, ∀ entered inner cs, Nests src l q entered inner cs →
      m.Nested src strict inner cs) :
    Content.Same (Partners m src strict origins origins') c c' := by
  induction h generalizing c' with
  | binary _ _ ihLeft ihRight =>
    obtain ⟨-, hnested⟩ := List.forall_mem_cons.1 hnested
    obtain ⟨hleft, hright⟩ := List.forall_mem_append.1 hnested
    cases h' with
    | binary hl hr => exact .binary (ihLeft hl hleft) (ihRight hr hright)
  | unary _ ih =>
    cases h' with
    | unary h => exact .unary (ih h (List.forall_mem_cons.1 hnested).2)
  | leaf => cases h'; exact .leaf
  | named hname _ ih =>
    cases h' with
    | named hname' h =>
      cases Except.ok.inj (hname.symm.trans hname')
      exact .named (ih h (List.forall_mem_cons.1 hnested).2)
  | ref => cases h'; exact .ref
  | parentRef => cases h'; exact .parentRef
  | data hlibrary =>
    cases h' with
    | data hlibrary' =>
      cases Except.ok.inj (hlibrary.symm.trans hlibrary')
      exact .data
  | dataExcept hlibrary _ ih =>
    cases h' with
    | dataExcept hlibrary' h =>
      cases Except.ok.inj (hlibrary.symm.trans hlibrary')
      exact .dataExcept (ih h (List.forall_mem_cons.1 hnested).2)
  | value hlibrary =>
    cases h' with
    | value hlibrary' =>
      cases Except.ok.inj (hlibrary.symm.trans hlibrary')
      exact .value
  | external ho horigin =>
    cases h' with
    | external ho' horigin' =>
      obtain ⟨rfl, rfl⟩ := (ho.moved rfl rfl).unique ho'
      rw [← Shuffle.locus_eq_self (m := m) ho.address_eq] at horigin'
      exact .grammar (.nested horigin horigin' .none
        (hnested _ (List.mem_singleton_self _) _ _ _ (.external ho)))
  | grammar horigin =>
    cases h' with
    | grammar horigin' =>
      exact .grammar (.nested horigin horigin' (.some hnumber)
        (hnested _ (List.mem_singleton_self _) _ _ _ .grammar))

theorem Passage.Recorded.same {p : Passage} {site site' : Site}
    (h : p.Recorded src origins number site)
    (h' : (m.passage p).Recorded src origins' number' site')
    (hnumber : Partners m src strict origins origins' number number')
    (hnested : ∀ q ∈ p.define.pattern.preorder, ∀ entered inner cs,
      Nests src p.locus q entered inner cs → m.Nested src strict inner cs) :
    Site.Same m (Partners m src strict origins origins') site site' where
  occurrence := by
    rw [h'.occurrence, h.occurrence]
    rfl
  operator := h'.operator.trans h.operator.symm
  documentation := h'.documentation.trans h.documentation.symm
  span := h'.span.trans h.span.symm
  content := h.content.same h'.content hnumber hnested

/-! Passages that are moved -/

theorem Passage.fresh_map (m : Shuffle) (seen : List Occurrence) (ps : List Passage) :
    fresh (seen.map m.occurrence) (ps.map m.passage) = (fresh seen ps).map m.passage := by
  induction ps generalizing seen with
  | nil => rfl
  | cons p ps ih =>
    have hseen : (m.passage p).occurrence ∈ seen.map m.occurrence ↔ p.occurrence ∈ seen := by
      rw [m.occurrence_passage, List.mem_map_of_injective m.occurrence_injective]
    rw [List.map_cons, fresh, fresh]
    by_cases hp : p.occurrence ∈ seen
    · rw [if_pos (hseen.2 hp), if_pos hp, ih]
    · rw [if_neg fun h => hp (hseen.1 h), if_neg hp, List.map_cons, ← ih, List.map_append]
      rfl

theorem Passage.effective_map (m : Shuffle) (ps : List Passage) :
    effective (ps.map m.passage) = (effective ps).map m.passage := by
  rw [effective, List.filter_map]
  exact fresh_map m [] _

/-- Nested grammars that are assembled from the same hold the same. -/
theorem Partners.same {a a' : Assembled} {o o' : Origin} (ha : a.Expands src o origins)
    (ha' : a'.Expands src o' origins')
    (h : Partners m src strict origins origins' number number') :
    number = 0 ∧ number' = 0 ∨ ∃ g g', a.grammars[number]? = some g ∧
      a'.grammars[number']? = some g' ∧ g.Same m (Partners m src strict origins origins') g' := by
  have hnumber := h
  cases h with
  | root => exact .inl ⟨rfl, rfl⟩
  | @nested _ _ parent parent' l cs ho ho' hparent hn =>
    obtain ⟨hbelow, stack, hm, hassemblable⟩ := hn
    obtain ⟨hlt, -⟩ := List.getElem?_eq_some_iff.1 ho
    obtain ⟨hlt', -⟩ := List.getElem?_eq_some_iff.1 ho'
    rw [ha.length] at hlt
    rw [ha'.length] at hlt'
    have hg := List.getElem?_eq_getElem hlt
    have hg' := List.getElem?_eq_getElem hlt'
    obtain ⟨hgp, ⟨ps, hps⟩, hacc⟩ := ha.grammars _ _ _ hg ho
    obtain ⟨hgp', -, hacc'⟩ := ha'.grammars _ _ _ hg' ho'
    have hps' : Unfolds src [] (m.locus l) 0 cs (ps.map m.passage) :=
      Unfolds.shuffle hps hbelow fun inner hi =>
        (ne_of_mem_of_not_mem hm (hi.not_mem_stack hassemblable.includable)).symm
    have hacc := hacc _ hps
    have hacc' := hacc' _ hps'
    rw [Passage.effective_map] at hacc'
    refine .inr ⟨_, _, hg, hg', ?_, ?_, fun name => ?_⟩
    · rw [hgp, hgp']
      exact hparent
    · rw [hacc.names, hacc'.names, List.map_map]
      rfl
    · have hsites' := hacc'.sites name
      rw [List.filter_map, List.forall₂_map_left_iff] at hsites'
      refine forall₂_of_common (hacc.sites name) hsites' fun p hp _ _ hr hr' => ?_
      obtain ⟨hfresh, -⟩ := List.mem_filter.1 hp
      obtain ⟨hmem, hexposed⟩ := List.mem_filter.1 (Passage.mem_of_mem_fresh hfresh)
      exact hr.same hr' hnumber fun q hq entered inner ds hnests =>
        hassemblable.nested hm hps ⟨hmem, hexposed, hq⟩ hnests

end

/-! Components in another order -/

/-- A permutation that leaves the first number alone. -/
def Shuffle.behind (index : Equiv.Perm Nat) : Equiv.Perm Nat where
  toFun
    | 0 => 0
    | i + 1 => index i + 1
  invFun
    | 0 => 0
    | i + 1 => index.symm i + 1
  left_inv := by
    rintro (_ | i)
    · rfl
    · exact congrArg (· + 1) (index.symm_apply_apply i)
  right_inv := by
    rintro (_ | i)
    · rfl
    · exact congrArg (· + 1) (index.apply_symm_apply i)

/-- Components that come in another order are moved about. -/
theorem Shuffle.exists_moves {cs cs' : List Component} (h : cs.Perm cs') (file : Text) :
    ∃ m : Shuffle, m.file = file ∧ m.Moves cs cs' := by
  induction h with
  | nil => exact ⟨⟨file, .refl _⟩, rfl, fun _ => rfl⟩
  | cons c _ ih =>
    obtain ⟨m, rfl, hm⟩ := ih
    refine ⟨⟨m.file, behind m.index⟩, rfl, ?_⟩
    rintro (_ | i)
    · rfl
    · exact hm i
  | swap c c' cs =>
    refine ⟨⟨file, Equiv.swap 0 1⟩, rfl, ?_⟩
    rintro (_ | _ | i)
    · rfl
    · rfl
    · rw [Equiv.swap_apply_of_ne_of_ne (by simp) (by simp)]
      rfl
  | trans _ _ ih ih' =>
    obtain ⟨m, rfl, hm⟩ := ih
    obtain ⟨m', hfile, hm'⟩ := ih'
    exact ⟨⟨m.file, m.index.trans m'.index⟩, rfl, fun i => (hm' _).trans (hm i)⟩

namespace Passage

variable {m : Shuffle} {ps ps' : List Passage}

theorem nodup_fresh (seen : List Occurrence) (ps : List Passage) :
    ((fresh seen ps).map occurrence).Nodup ∧ ∀ p ∈ fresh seen ps, p.occurrence ∉ seen := by
  induction ps generalizing seen with
  | nil => exact ⟨List.nodup_nil, fun p hp => nomatch hp⟩
  | cons p ps ih =>
    rw [fresh]
    split
    case isTrue => exact ih seen
    case isFalse hp =>
      obtain ⟨hnodup, hnew⟩ := ih (seen ++ [p.occurrence])
      refine ⟨List.nodup_cons.2 ⟨fun hmem => ?_, hnodup⟩, ?_⟩
      · obtain ⟨q, hq, he⟩ := List.mem_map.1 hmem
        exact hnew q hq (List.mem_append_right _ (List.mem_singleton.2 he))
      · refine List.forall_mem_cons.2 ⟨hp, fun q hq hseen => ?_⟩
        exact hnew q hq (List.mem_append_left _ hseen)

/-- Among passages that are determined, those that count show all definitions of a name that are
exposed. -/
theorem mem_occurrences (hps : Determined ps) {name : DefineName} {o : Occurrence} :
    o ∈ ((effective ps).filter fun p => p.name = name).map occurrence ↔
      ∃ p ∈ ps, p.exposed = true ∧ p.name = name ∧ p.occurrence = o := by
  constructor
  · intro ho
    obtain ⟨p, hp, rfl⟩ := List.mem_map.1 ho
    obtain ⟨hp, hname⟩ := List.mem_filter.1 hp
    obtain ⟨hmem, hexposed⟩ := List.mem_filter.1 (mem_of_mem_fresh hp)
    exact ⟨p, hmem, hexposed, of_decide_eq_true hname, rfl⟩
  · rintro ⟨p, hp, hexposed, rfl, rfl⟩
    obtain ⟨q, hq, ho⟩ := exists_effective hp hexposed
    obtain ⟨-, hdefine⟩ := hps q (mem_of_mem_effective hq) p hp ho
    rw [← ho]
    refine List.mem_map_of_mem (List.mem_filter.2 ⟨hq, decide_eq_true ?_⟩)
    exact congrArg Define.name hdefine

theorem mem_names (hps : Determined ps) {name : DefineName} :
    name ∈ (effective ps).map Passage.name ↔ ∃ p ∈ ps, p.exposed = true ∧ p.name = name := by
  constructor
  · intro hname
    obtain ⟨p, hp, rfl⟩ := List.mem_map.1 hname
    obtain ⟨hmem, hexposed⟩ := List.mem_filter.1 (mem_of_mem_fresh hp)
    exact ⟨p, hmem, hexposed, rfl⟩
  · rintro ⟨p, hp, hexposed, rfl⟩
    obtain ⟨q, hq, ho⟩ := exists_effective hp hexposed
    obtain ⟨-, hdefine⟩ := hps q (mem_of_mem_effective hq) p hp ho
    exact List.mem_map.2 ⟨q, hq, congrArg Define.name hdefine⟩

section

variable (hmoved : ∀ q, q ∈ ps' ↔ ∃ p ∈ ps, m.passage p = q)

include hmoved

theorem Determined.moved (hps : Determined ps) : Determined ps' := by
  intro p' hp' q' hq' ho
  obtain ⟨p, hp, rfl⟩ := (hmoved p').1 hp'
  obtain ⟨q, hq, rfl⟩ := (hmoved q').1 hq'
  obtain ⟨hlocus, hdefine⟩ := hps p hp q hq (m.occurrence_injective ho)
  exact ⟨congrArg m.locus hlocus, hdefine⟩

theorem names_moved (hps : Determined ps) :
    ((effective ps').map Passage.name).eraseDups.Perm
      ((effective ps).map Passage.name).eraseDups := by
  refine (List.perm_ext_iff_of_nodup (nodup_eraseDups _) (nodup_eraseDups _)).2 fun name => ?_
  rw [List.mem_eraseDups, List.mem_eraseDups, mem_names (hps.moved hmoved), mem_names hps]
  constructor
  · rintro ⟨p', hp', hexposed, hname⟩
    obtain ⟨p, hp, rfl⟩ := (hmoved p').1 hp'
    exact ⟨p, hp, hexposed, hname⟩
  · rintro ⟨p, hp, hexposed, hname⟩
    exact ⟨m.passage p, (hmoved _).2 ⟨p, hp, rfl⟩, hexposed, hname⟩

theorem occurrences_moved (hps : Determined ps) (name : DefineName) :
    ((((effective ps).filter fun p => p.name = name).map occurrence).map m.occurrence).Perm
      (((effective ps').filter fun p => p.name = name).map occurrence) := by
  have hnodup (qs : List Passage) :
      (((effective qs).filter fun p => p.name = name).map occurrence).Nodup :=
    (nodup_fresh [] _).1.sublist (List.filter_sublist.map _)
  refine (List.perm_ext_iff_of_nodup ((hnodup ps).map m.occurrence_injective) (hnodup ps')).2
    fun o => ?_
  rw [mem_occurrences (hps.moved hmoved), List.mem_map]
  constructor
  · rintro ⟨o, ho, rfl⟩
    obtain ⟨p, hp, hexposed, hname, rfl⟩ := (mem_occurrences hps).1 ho
    exact ⟨m.passage p, (hmoved _).2 ⟨p, hp, rfl⟩, hexposed, hname, rfl⟩
  · rintro ⟨p', hp', hexposed, hname, rfl⟩
    obtain ⟨p, hp, rfl⟩ := (hmoved p').1 hp'
    exact ⟨p.occurrence, (mem_occurrences hps).2 ⟨p, hp, hexposed, hname, rfl⟩, rfl⟩

/-- The passages that count for a name do so too when they are moved, but for their order. They may
be met on other ways then. -/
theorem effective_moved (hps : Determined ps) (name : DefineName) :
    ∃ qs, List.Forall₂ (fun p q => q.locus = m.locus p.locus ∧ q.define = p.define)
        ((effective ps).filter fun p => p.name = name) qs ∧
      qs.Perm ((effective ps').filter fun p => p.name = name) := by
  have hmem {qs : List Passage} {p : Passage}
      (hp : p ∈ (effective qs).filter fun p => p.name = name) : p ∈ qs :=
    mem_of_mem_effective (List.mem_filter.1 hp).1
  have hfound : List.Forall₂ (fun o q => o = q.occurrence ∧ q ∈ ps')
      (((effective ps').filter fun p => p.name = name).map occurrence)
      ((effective ps').filter fun p => p.name = name) := by
    rw [List.forall₂_map_left_iff, List.forall₂_same]
    exact fun q hq => ⟨rfl, hmem hq⟩
  obtain ⟨qs, hqs, hperm⟩ := List.perm_comp_forall₂ (occurrences_moved hmoved hps name) hfound
  rw [List.forall₂_map_left_iff, List.forall₂_map_left_iff] at hqs
  refine ⟨qs, ?_, hperm⟩
  refine ((List.forall₂_and_left _ _).2 ⟨fun p hp => hmem hp, hqs⟩).imp ?_
  rintro p q ⟨hp, ho, hq⟩
  obtain ⟨p', hp', rfl⟩ := (hmoved q).1 hq
  obtain ⟨hlocus, hdefine⟩ := hps p' hp' p hp (m.occurrence_injective ho).symm
  exact ⟨congrArg m.locus hlocus, hdefine⟩

end

end Passage

theorem Passage.Recorded.congr {src : Sources} {origins : List Origin} {number : Nat}
    {p q : Passage} {site : Site} (h : p.Recorded src origins number site)
    (hlocus : p.locus = q.locus) (hdefine : p.define = q.define) :
    q.Recorded src origins number site := by
  obtain ⟨locus, define, covers⟩ := p
  obtain ⟨locus', define', covers'⟩ := q
  cases hlocus
  cases hdefine
  exact ⟨h.occurrence, h.operator, h.documentation, h.span, h.content⟩

section

variable {src : Sources} {strict : Bool} {m : Shuffle} {stack : List Text} {l : Locus}
  {cs : List Component} {ps ps' : List Passage} {origins origins' : List Origin}

/-- In a grammar that can be assembled the occurrence tells which definition a passage is
through. -/
theorem Assemblable.determined (h : Assemblable src strict stack l cs) (hl : l.file ∈ stack)
    (hps : Unfolds src [] l 0 cs ps) : Passage.Determined ps := by
  cases h with
  | intro _ includable uniform =>
    have hown (inner : Locus) (hi : Includes src l cs inner) : inner.file ≠ l.file :=
      (ne_of_mem_of_not_mem hl (hi.not_mem_stack includable)).symm
    exact fun _ hp _ hq ho => hps.determined hown uniform hp hq ho

theorem Grammar.Accounts.rearranged {g g' : Grammar}
    (h : g.Accounts src origins 0 (Passage.effective ps))
    (h' : g'.Accounts src origins' 0 (Passage.effective ps'))
    (hparent : Option.Rel (Partners m src strict origins origins') g.parent g'.parent)
    (hmoved : ∀ q, q ∈ ps' ↔ ∃ p ∈ ps, m.passage p = q) (hps : Passage.Determined ps)
    (hnested : ∀ p q, Passage.Holds ps p q → ∀ entered inner cs,
      Nests src p.locus q entered inner cs → m.Nested src strict inner cs) :
    g.Rearranged m (Partners m src strict origins origins') g' where
  parent := hparent
  names := by
    rw [h.names, h'.names]
    exact Passage.names_moved hmoved hps
  sites name := by
    obtain ⟨qs, hqs, hperm⟩ := Passage.effective_moved hmoved hps name
    obtain ⟨sites, hsites, hsperm⟩ := List.perm_comp_forall₂ hperm (h'.sites name)
    refine ⟨sites, ?_, hsperm⟩
    have hsites' : List.Forall₂ (fun p site => (m.passage p).Recorded src origins' 0 site)
        ((Passage.effective ps).filter fun p => p.name = name) sites :=
      forall₂_of_common hqs.flip hsites fun q _ p site hpq hr => hr.congr hpq.1 hpq.2
    refine forall₂_of_common (h.sites name) hsites' fun p hp _ _ hr hr' => ?_
    obtain ⟨hmem, hexposed⟩ := List.mem_filter.1 (Passage.mem_of_mem_fresh (List.mem_filter.1 hp).1)
    exact hr.same hr' .root fun q hq => hnested p q ⟨hmem, hexposed, hq⟩

/-- What the root of an assembled schema holds. -/
theorem Assembled.Expands.root_accounts {a : Assembled} {o : Origin}
    (h : a.Expands src o origins) : a.root.parent = o.parent ∧ (∃ ps, o.Unfolds src ps) ∧
      ∀ ps, o.Unfolds src ps → a.root.Accounts src origins 0 (Passage.effective ps) := by
  obtain ⟨hlength, hroot, hgrammars⟩ := h
  obtain ⟨hpos, -⟩ := List.getElem?_eq_some_iff.1 hroot
  rw [hlength] at hpos
  have hg := List.getElem?_eq_getElem hpos
  have heq : a.root = a.grammars[0] := by
    unfold Assembled.root
    rw [List.head?_eq_getElem?, hg]
    rfl
  rw [heq]
  exact hgrammars 0 _ o hg hroot

/-- Schemas that are assembled from a grammar, and from its components moved about, are the same but
for the order in the root. -/
theorem Assemblable.rearranged {a a' : Assembled} (h : Assemblable src strict stack l cs)
    (hm : m.file ∈ stack) (hl : m.Top l) {cs' : List Component} (hmoves : m.Moves cs cs')
    (ha : a.Expands src ⟨none, l, cs⟩ origins) (ha' : a'.Expands src ⟨none, l, cs'⟩ origins') :
    a.Rearranged m a' := by
  obtain ⟨hparent, ⟨ps, hps⟩, haccounts⟩ := ha.root_accounts
  obtain ⟨hparent', ⟨ps', hps'⟩, haccounts'⟩ := ha'.root_accounts
  have hi (inner : Locus) (h' : Includes src l cs inner) : inner.file ≠ m.file :=
    (ne_of_mem_of_not_mem hm (h'.not_mem_stack h.includable)).symm
  have hmoved (q : Passage) : q ∈ ps' ↔ ∃ p ∈ ps, m.passage p = q :=
    Unfolds.mem_moved hps hps' hmoves hl hi
  refine ⟨Partners m src strict origins origins', ?root, fun n n' hn => hn.same ha ha'⟩
  case root =>
    refine (haccounts ps hps).rearranged (haccounts' ps' hps') ?_ hmoved
      (h.determined (hl.file ▸ hm) hps) fun p q hq entered inner ds hn => h.nested hm hps hq hn
    rw [hparent, hparent']
    exact .none

end

section

variable {setup : Expand.Setup} {root : File} {key : Option Text} {s t t' : Fragments}
  {cs : List Component} {m : Shuffle}

theorem top_root (hfile : m.file = rootKey root key) : m.Top (rootOrigin root key).locus :=
  ⟨hfile.symm, rfl⟩

/-- A root whose components are moved about is assembled if the root is. -/
theorem assemble_moved (hs : s.Bounded setup.catalog) (hfile : m.file = rootKey root key)
    (hmoves : m.Moves root.components cs) (h : ∃ a t, assemble setup root key s = .ok a t) :
    ∃ a t, assemble setup { root with components := cs } key s = .ok a t := by
  obtain ⟨a, t, h⟩ := h
  refine assemble_of_assemblable hs ?_
  exact (assemblable_of_assemble h).moved (List.mem_singleton.2 hfile) hmoves (top_root hfile)

theorem assemble_rearranged {a a' : Assembled} (hfile : m.file = rootKey root key)
    (hmoves : m.Moves root.components cs) (h : assemble setup root key s = .ok a t)
    (h' : assemble setup { root with components := cs } key s = .ok a' t') :
    a.Rearranged m a' := by
  obtain ⟨b, u, hb, ha, hroot, hsettled⟩ := assemble_books h
  obtain ⟨b', u', hb', ha', hroot', hsettled'⟩ := assemble_books h'
  exact (assemblable_of_assemble h).rearranged (List.mem_singleton.2 hfile) (top_root hfile) hmoves
    (hb.expands ha hroot hsettled) (hb'.expands ha' hroot' hsettled')

end

/-- **Order independence.** A root whose components come in another order is assembled if and only
if the root is, with the same settings and fragments. Then both come to the same: each component may
be told where it is moved to, and every name has the same definitions, with the same contents, in
whatever order. -/
theorem Mapping.assemble_permuted (mapping : Mapping) (strict : Bool) (root : File)
    (key : Option Text) (s : Fragments) {cs : List Component} (hcs : root.components.Perm cs) :
    let setup : Expand.Setup := ⟨mapping.catalog, strict⟩
    let permuted : File := { root with components := cs }
    ((∃ a t, assemble setup root key s = .ok a t) ↔
      ∃ a t, assemble setup permuted key s = .ok a t) ∧
    (∃ m : Shuffle, m.file = rootKey root key ∧ m.Moves root.components cs) ∧
    ∀ m : Shuffle, m.file = rootKey root key → m.Moves root.components cs → ∀ a t a' t',
      assemble setup root key s = .ok a t → assemble setup permuted key s = .ok a' t' →
      a.Rearranged m a' := by
  intro setup permuted
  obtain ⟨m, hfile, hmoves⟩ := Shuffle.exists_moves hcs (rootKey root key)
  have hback : m.symm.file = rootKey permuted key := hfile
  refine ⟨⟨?forth, ?back⟩, ⟨m, hfile, hmoves⟩, fun m hfile hmoves a t a' t' h h' =>
    assemble_rearranged hfile hmoves h h'⟩
  case forth => exact assemble_moved (mapping.bounded s) hfile hmoves
  case back =>
    exact @assemble_moved setup permuted key s root.components m.symm (mapping.bounded s) hback
      hmoves.symm

namespace Permuted

/-! A fragment included with an override block and without, in either order. -/

def mapping : Mapping := Mapping.ofList
  [("f.rnc", .text "x |= empty y |= grammar \x7b x = empty \x7d")]

/-- `include "f.rnc" { x |= text }` -/
def overriding : Component :=
  .incl "f.rnc" none [.define (.named "x") .choice (.leaf .text Reuse.here) none Reuse.here]
    Reuse.here

/-- `include "f.rnc"` -/
def plain : Component := .incl "f.rnc" none [] Reuse.here

def root : File := ⟨"r.rnc", [], [overriding, plain], false⟩

def permuted : File := { root with components := [plain, overriding] }

def layout (file : File) : Option (List (List (DefineName × List Occurrence))) :=
  (Run.ended (assemble ⟨mapping.catalog, true⟩ file none {})).toOption.map Reuse.layout

/-- Which definition comes first differs, and the address of the one in the override block. -/
theorem assemble_permuted_includes :
    root.components.Perm [plain, overriding] ∧ ∃ a t a' t',
      assemble ⟨mapping.catalog, true⟩ root none {} = .ok a t ∧
      assemble ⟨mapping.catalog, true⟩ permuted none {} = .ok a' t' ∧
      Reuse.layout a =
        [[(.named "x", [⟨"r.rnc", [0, 0]⟩, ⟨"f.rnc", [0]⟩]), (.named "y", [⟨"f.rnc", [1]⟩])],
          [(.named "x", [⟨"f.rnc", [0, 1]⟩])]] ∧
      Reuse.layout a' =
        [[(.named "x", [⟨"f.rnc", [0]⟩, ⟨"r.rnc", [0, 1]⟩]), (.named "y", [⟨"f.rnc", [1]⟩])],
          [(.named "x", [⟨"f.rnc", [0, 1]⟩])]] ∧
      ∃ m : Shuffle, m.Moves root.components permuted.components ∧ a.Rearranged m a' := by
  have hlayout : layout root = some
      [[(.named "x", [⟨"r.rnc", [0, 0]⟩, ⟨"f.rnc", [0]⟩]), (.named "y", [⟨"f.rnc", [1]⟩])],
        [(.named "x", [⟨"f.rnc", [0, 1]⟩])]] := by decide +kernel
  have hlayout' : layout permuted = some
      [[(.named "x", [⟨"f.rnc", [0]⟩, ⟨"r.rnc", [0, 1]⟩]), (.named "y", [⟨"f.rnc", [1]⟩])],
        [(.named "x", [⟨"f.rnc", [0, 1]⟩])]] := by decide +kernel
  have hperm : root.components.Perm [plain, overriding] := .swap _ _ _
  obtain ⟨-, ⟨m, hfile, hmoves⟩, hrearranged⟩ :=
    mapping.assemble_permuted true root none {} hperm
  obtain ⟨a, t, h, hlayout⟩ := Run.exists_ended_of_map hlayout
  obtain ⟨a', t', h', hlayout'⟩ := Run.exists_ended_of_map hlayout'
  exact ⟨hperm, a, t, a', t', h, h', hlayout, hlayout', m, hmoves,
    hrearranged m hfile hmoves a t a' t' h h'⟩

end Permuted

end RelaxCompact
