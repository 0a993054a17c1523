import RelaxCompact.Proofs.Ordering.Criterion

/-!
Moving the top-level components of one file about. What is written in the file has another address
then, and apart from that all is as it was: the criterion for assembly does not see the difference.
-/

namespace RelaxCompact

open Surface

/-- A way to move the components of a file about: what was number `i` becomes number `index i`. -/
structure Shuffle where
  file : Text
  index : Equiv.Perm Nat

namespace Shuffle

/-- An address, last step first, whose first step has another number. -/
def renumber (f : Nat → Nat) : List Nat → List Nat
  | [] => []
  | [i] => [f i]
  | i :: j :: a => i :: renumber f (j :: a)

theorem renumber_cons (f : Nat → Nat) (i : Nat) {a : List Nat} (h : a ≠ []) :
    renumber f (i :: a) = i :: renumber f a := by
  cases a with
  | nil => exact absurd rfl h
  | cons j a => rfl

theorem renumber_leftInverse {f g : Nat → Nat} (h : Function.LeftInverse g f) :
    Function.LeftInverse (renumber g) (renumber f) := by
  intro a
  induction a using renumber.induct with
  | case1 => rfl
  | case2 i => exact congrArg (fun j => [j]) (h i)
  | case3 i j a ih =>
    have hne : renumber f (j :: a) ≠ [] := by cases a <;> exact List.cons_ne_nil _ _
    rw [renumber, renumber_cons g i hne, ih]

variable (m : Shuffle)

def address (file : Text) (a : List Nat) : List Nat :=
  if file = m.file then renumber m.index a else a

def locus (l : Locus) : Locus := { l with address := m.address l.file l.address }

def occurrence (o : Occurrence) : Occurrence := { o with address := m.address o.file o.address }

def passage (p : Passage) : Passage := { p with locus := m.locus p.locus }

theorem occurrence_passage (p : Passage) : (m.passage p).occurrence = m.occurrence p.occurrence :=
  rfl

theorem address_injective (file : Text) : Function.Injective (m.address file) := by
  intro a a' h
  unfold address at h
  split at h
  · exact (renumber_leftInverse m.index.symm_apply_apply).injective h
  · exact h

theorem occurrence_injective : Function.Injective m.occurrence := by
  rintro ⟨file, a⟩ ⟨file', a'⟩ h
  obtain ⟨rfl, h⟩ := Occurrence.mk.inj h
  obtain rfl : a = a' := m.address_injective _ h
  rfl

/-- A locus is that of the components that are moved about. -/
structure Top (l : Locus) : Prop where
  file : l.file = m.file
  address : l.address = []

/-- A locus is another one. -/
def Below (l : Locus) : Prop := l.file = m.file → l.address ≠ []

variable {m} {l : Locus} {i : Nat}

theorem below_part : m.Below (l.part i) := fun _ => List.cons_ne_nil _ _

theorem below_of_ne (h : l.file ≠ m.file) : m.Below l := fun he => absurd he h

theorem locus_eq_self (h : l.address = []) : m.locus l = l := by
  obtain ⟨env, file, address⟩ := l
  subst h
  simp only [locus, Shuffle.address, renumber, ite_self]

/-- Below the components that are moved, what has parts is moved with them. -/
theorem locus_part (h : m.Below l) : m.locus (l.part i) = (m.locus l).part i := by
  unfold locus address Locus.part
  dsimp only
  split
  next hfile => rw [renumber_cons _ _ (h hfile)]
  next => rfl

theorem Top.locus_part (h : m.Top l) : m.locus (l.part i) = l.part (m.index i) := by
  unfold Shuffle.locus Shuffle.address Locus.part
  dsimp only
  rw [if_pos h.file, h.address]
  rfl

/-- The second of two lists has the components of the first, moved about. -/
def Moves (m : Shuffle) (cs cs' : List Component) : Prop := ∀ i, cs'[m.index i]? = cs[i]?

theorem Moves.subset {cs cs' : List Component} (h : m.Moves cs cs') : cs ⊆ cs' := by
  intro c hc
  obtain ⟨i, hi⟩ := List.mem_iff_getElem?.1 hc
  exact List.mem_iff_getElem?.2 ⟨_, (h i).trans hi⟩

/-- The way back. -/
def symm (m : Shuffle) : Shuffle := { m with index := m.index.symm }

theorem Moves.symm {cs cs' : List Component} (h : m.Moves cs cs') : m.symm.Moves cs' cs := by
  intro i
  have hi := h (m.index.symm i)
  rw [Equiv.apply_symm_apply] at hi
  exact hi.symm

end Shuffle

section

variable {src : Sources} {strict : Bool} {stack : List Text} {covers : List (List DefineName)}
  {m : Shuffle} {l : Locus} {i : Nat} {cs cs' : List Component} {ps ps' : List Passage}

/-! Reference expansions -/

/-- What is in components can be found in one of them. -/
theorem Unfolds.exists_part (h : Unfolds src covers l i cs ps) {p : Passage} (hp : p ∈ ps) :
    ∃ j c qs, cs[j]? = some c ∧ Unfolds src covers l (i + j) [c] qs ∧ p ∈ qs := by
  induction cs generalizing i ps with
  | nil =>
    cases h
    cases hp
  | cons c cs ih =>
    obtain ⟨qs, rs, hqs, hrs, rfl⟩ := h.uncons
    rcases List.mem_append.1 hp with hp | hp
    · exact ⟨0, c, qs, rfl, hqs, hp⟩
    · obtain ⟨j, c', qs', hc', hqs', hp⟩ := ih hrs hp
      refine ⟨j + 1, c', qs', hc', ?_, hp⟩
      rw [← Nat.add_assoc, Nat.add_right_comm]
      exact hqs'

theorem Unfolds.part (h : Unfolds src covers l i cs ps) {j : Nat} {c : Component}
    (hc : cs[j]? = some c) : ∃ qs, Unfolds src covers l (i + j) [c] qs ∧ qs ⊆ ps := by
  induction cs generalizing i j ps with
  | nil => cases hc
  | cons c' cs ih =>
    obtain ⟨qs, rs, hqs, hrs, rfl⟩ := h.uncons
    cases j with
    | zero =>
      cases hc
      exact ⟨qs, hqs, List.subset_append_left _ _⟩
    | succ j =>
      obtain ⟨qs', hqs', hsub⟩ := ih hrs hc
      rw [Nat.add_right_comm, Nat.add_assoc] at hqs'
      exact ⟨qs', hqs', List.Subset.trans hsub (List.subset_append_right _ _)⟩

/-- Components have a reference expansion if each of them has one. -/
theorem exists_unfolds
    (h : ∀ j c, cs[j]? = some c → ∃ qs, Unfolds src covers l (i + j) [c] qs) :
    ∃ ps, Unfolds src covers l i cs ps := by
  induction cs generalizing i with
  | nil => exact ⟨[], .nil⟩
  | cons c cs ih =>
    obtain ⟨qs, hqs⟩ := h 0 c rfl
    obtain ⟨rs, hrs⟩ := ih (i := i + 1) fun j c' hc' => by
      rw [Nat.add_right_comm, Nat.add_assoc]
      exact h (j + 1) c' hc'
    exact ⟨_, hqs.cons hrs⟩

theorem Unfolds.not_top (h : Unfolds src covers l i cs ps) {p : Passage} (hp : p ∈ ps) :
    m.Below p.locus := by
  induction h with
  | nil => cases hp
  | define _ ih =>
    rcases List.mem_cons.1 hp with rfl | hp
    · exact Shuffle.below_part
    · exact ih hp
  | div _ _ ihInner ih =>
    rcases List.mem_append.1 hp with hp | hp
    · exact ihInner hp
    · exact ih hp
  | incl _ _ _ _ ihOverrides ihFragment ih =>
    rcases List.mem_append.1 hp with hp | hp
    · rcases List.mem_append.1 hp with hp | hp
      · exact ihOverrides hp
      · exact ihFragment hp
    · exact ih hp

/-- Below the components that are moved, everything is met as before, at its new address. -/
theorem Unfolds.shuffle (h : Unfolds src covers l i cs ps) (hl : m.Below l)
    (hi : ∀ inner, Includes src l cs inner → inner.file ≠ m.file) :
    Unfolds src covers (m.locus l) i cs (ps.map m.passage) := by
  induction h with
  | nil => exact .nil
  | define _ ih =>
    rw [List.map_cons, Shuffle.passage, Shuffle.locus_part hl]
    exact .define (ih hl fun inner h => hi inner (h.mono (List.subset_cons_self _ _)))
  | div _ _ ihInner ih =>
    rw [List.map_append]
    refine .div ?_ (ih hl fun inner h => hi inner (h.mono (List.subset_cons_self _ _)))
    rw [← Shuffle.locus_part hl]
    exact ihInner Shuffle.below_part fun inner h =>
      hi inner (.div List.mem_cons_self (h.moved rfl rfl))
  | @incl covers l i href inherit overrides span cs inner file ps qs rs ho _ _ _ ihOverrides
      ihFragment ih =>
    rw [List.map_append, List.map_append]
    have hfragment := ihFragment
      (Shuffle.below_of_ne (hi _ (.here List.mem_cons_self ho))) fun inner' h =>
        hi inner' (.fragment List.mem_cons_self ho h)
    rw [Shuffle.locus_eq_self ho.address_eq] at hfragment
    refine .incl (ho.moved rfl rfl) ?_ hfragment
      (ih hl fun inner h => hi inner (h.mono (List.subset_cons_self _ _)))
    rw [← Shuffle.locus_part hl]
    exact ihOverrides Shuffle.below_part fun inner h =>
      hi inner (.overrides List.mem_cons_self (h.moved rfl rfl))

/-- At the top itself, what a component comes to moves with the component. -/
theorem Unfolds.shuffle_top {c : Component} (h : Unfolds src covers l i [c] ps)
    (hl : m.Top l) (hi : ∀ inner, Includes src l [c] inner → inner.file ≠ m.file) :
    Unfolds src covers l (m.index i) [c] (ps.map m.passage) := by
  cases h with
  | define h =>
    cases h
    rw [List.map_cons, Shuffle.passage, hl.locus_part]
    exact .define .nil
  | div hInner h =>
    cases h
    rw [List.append_nil, ← List.append_nil (List.map _ _)]
    refine .div ?_ .nil
    rw [← hl.locus_part]
    exact hInner.shuffle Shuffle.below_part fun inner h =>
      hi inner (.div List.mem_cons_self (h.moved rfl rfl))
  | incl ho hOverrides hFragment h =>
    cases h
    rw [List.append_nil, List.map_append, ← List.append_nil (List.map _ _ ++ _)]
    have hfragment := hFragment.shuffle
      (Shuffle.below_of_ne (hi _ (.here List.mem_cons_self ho))) fun inner' h =>
        hi inner' (.fragment List.mem_cons_self ho h)
    rw [Shuffle.locus_eq_self ho.address_eq] at hfragment
    refine .incl ho ?_ hfragment .nil
    rw [← hl.locus_part]
    exact hOverrides.shuffle Shuffle.below_part fun inner h =>
      hi inner (.overrides List.mem_cons_self (h.moved rfl rfl))

theorem Unfolds.moved_part {j : Nat} {c : Component} (hc : cs[j]? = some c)
    (h : Unfolds src covers l (0 + j) [c] ps) (hl : m.Top l)
    (hi : ∀ inner, Includes src l cs inner → inner.file ≠ m.file) :
    Unfolds src covers l (0 + m.index j) [c] (ps.map m.passage) := by
  rw [Nat.zero_add] at h ⊢
  refine h.shuffle_top hl fun inner h => hi inner (h.mono ?_)
  exact List.cons_subset.2 ⟨List.mem_of_getElem? hc, List.nil_subset _⟩

theorem Unfolds.exists_moved (h : Unfolds src covers l 0 cs ps) (hmoves : m.Moves cs cs')
    (hl : m.Top l) (hi : ∀ inner, Includes src l cs inner → inner.file ≠ m.file) :
    ∃ ps', Unfolds src covers l 0 cs' ps' := by
  refine exists_unfolds fun j c hc => ?_
  obtain ⟨j, rfl⟩ := m.index.surjective j
  rw [hmoves j] at hc
  obtain ⟨qs, hqs, -⟩ := h.part hc
  exact ⟨_, hqs.moved_part hc hl hi⟩

/-- What components come to is the same when they are moved about, but for order and addresses. -/
theorem Unfolds.mem_moved (h : Unfolds src covers l 0 cs ps) (h' : Unfolds src covers l 0 cs' ps')
    (hmoves : m.Moves cs cs') (hl : m.Top l)
    (hi : ∀ inner, Includes src l cs inner → inner.file ≠ m.file) {q : Passage} :
    q ∈ ps' ↔ ∃ p ∈ ps, m.passage p = q := by
  constructor
  · intro hq
    obtain ⟨j, c, qs', hc, hqs', hq⟩ := h'.exists_part hq
    obtain ⟨j, rfl⟩ := m.index.surjective j
    rw [hmoves j] at hc
    obtain ⟨qs, hqs, hsub⟩ := h.part hc
    obtain rfl := hqs'.unique (hqs.moved_part hc hl hi)
    obtain ⟨p, hp, rfl⟩ := List.mem_map.1 hq
    exact ⟨p, hsub hp, rfl⟩
  · rintro ⟨p, hp, rfl⟩
    obtain ⟨j, c, qs, hc, hqs, hp⟩ := h.exists_part hp
    obtain ⟨qs', hqs', hsub⟩ := h'.part ((hmoves j).trans hc)
    obtain rfl := hqs'.unique (hqs.moved_part hc hl hi)
    exact hsub (List.mem_map_of_mem hp)

/-! The criterion -/

theorem Nests.of_locus {q : Pattern} {entered : List Text} {inner : Locus}
    (h : Nests src (m.locus l) q entered inner cs) :
    ∃ inner', Nests src l q entered inner' cs ∧ m.locus inner' = inner := by
  cases h with
  | external ho => exact ⟨_, .external (ho.moved rfl rfl), Shuffle.locus_eq_self ho.address_eq⟩
  | grammar => exact ⟨l, .grammar, rfl⟩

theorem Nests.below {q : Pattern} {entered : List Text} {inner : Locus}
    (h : Nests src l q entered inner cs) (hl : m.Below l) (hm : m.file ∈ stack)
    (hfresh : ∀ key ∈ entered, key ∉ stack) : m.Below inner := by
  cases h with
  | external =>
    exact Shuffle.below_of_ne fun he => hfresh _ (List.mem_singleton_self _) (he ▸ hm)
  | grammar => exact hl

theorem Readable.moved {l' : Locus} {q : Pattern} (h : Readable src l q)
    (henv : l'.environment = l.environment) (hfile : l'.file = l.file) : Readable src l' q := by
  cases q with
  | external href inherit span =>
    obtain ⟨inner, file, ho⟩ := h
    exact ⟨inner, file, ho.moved henv hfile⟩
  | _ =>
    unfold Readable at h ⊢
    rw [henv]
    exact h

theorem Uniform.moved {l' : Locus} (h : Uniform src l cs)
    (henv : l.environment = l'.environment) (hfile : l.file = l'.file) (hsub : cs' ⊆ cs) :
    Uniform src l' cs' :=
  fun inner inner' hi hi' =>
    h inner inner' ((hi.moved henv hfile).mono hsub) ((hi'.moved henv hfile).mono hsub)

/-- Passages at their new addresses combine, and hold patterns that can be lowered, as before. -/
theorem Assemblable.of_passages {l' : Locus} (unfolds : Unfolds src [] l' 0 cs' ps')
    (hmem : ∀ q ∈ ps', ∃ p ∈ ps, m.passage p = q)
    (includable : ∀ c ∈ cs', Includable src strict stack l' c) (uniform : Uniform src l' cs')
    (combine : Passage.Combine ps)
    (readable : ∀ p q, Passage.Holds ps p q → Readable src p.locus q)
    (fresh : ∀ p q, Passage.Holds ps p q → ∀ entered inner cs,
      Nests src p.locus q entered inner cs → ∀ key ∈ entered, key ∉ p.locus.file :: stack)
    (nested : ∀ p q, Passage.Holds ps p q → ∀ entered inner cs,
      Nests src p.locus q entered inner cs →
      Assemblable src strict (entered ++ p.locus.file :: stack) (m.locus inner) cs) :
    Assemblable src strict stack l' cs' := by
  have hholds {p' : Passage} {q : Pattern} (h : Passage.Holds ps' p' q) :
      ∃ p, Passage.Holds ps p q ∧ m.passage p = p' := by
    obtain ⟨hp', hexposed, hpart⟩ := h
    obtain ⟨p, hp, rfl⟩ := hmem _ hp'
    exact ⟨p, ⟨hp, hexposed, hpart⟩, rfl⟩
  refine .intro unfolds includable uniform ?combine ?readable ?fresh ?nested
  case combine =>
    intro p' hp' q' hq' hpe hqe hname hne
    obtain ⟨p, hp, rfl⟩ := hmem _ hp'
    obtain ⟨q, hq, rfl⟩ := hmem _ hq'
    exact combine p hp q hq hpe hqe hname fun h => hne (congrArg m.occurrence h)
  case readable =>
    intro p' q hq
    obtain ⟨p, hp, rfl⟩ := hholds hq
    exact (readable p q hp).moved rfl rfl
  case fresh =>
    intro p' q hq entered inner cs hn
    obtain ⟨p, hp, rfl⟩ := hholds hq
    obtain ⟨inner, hn', -⟩ := hn.of_locus
    exact fresh p q hp entered inner cs hn'
  case nested =>
    intro p' q hq entered inner cs hn
    obtain ⟨p, hp, rfl⟩ := hholds hq
    obtain ⟨inner, hn', rfl⟩ := hn.of_locus
    exact nested p q hp entered inner cs hn'

/-- A grammar below the components that are moved can be assembled at its new address. -/
theorem Assemblable.shuffle (h : Assemblable src strict stack l cs) (hm : m.file ∈ stack)
    (hl : m.Below l) : Assemblable src strict stack (m.locus l) cs := by
  induction h with
  | @intro stack l cs ps unfolds includable uniform combine readable fresh nested ih =>
    have hi (inner : Locus) (h : Includes src l cs inner) : inner.file ≠ m.file :=
      (ne_of_mem_of_not_mem hm (h.not_mem_stack includable)).symm
    refine .of_passages (unfolds.shuffle hl hi) (fun q hq => List.mem_map.1 hq)
      (fun c hc => (includable c hc).moved rfl rfl)
      (uniform.moved rfl rfl (List.Subset.refl _)) combine readable fresh
      fun p q hq entered inner cs hn => ?_
    have hstack : m.file ∈ p.locus.file :: stack := List.mem_cons_of_mem _ hm
    exact ih p q hq entered inner cs hn (List.mem_append_right _ hstack)
      (hn.below (unfolds.not_top hq.mem) hstack (fresh p q hq entered inner cs hn))

/-- So can a grammar whose components are moved. -/
theorem Assemblable.moved (h : Assemblable src strict stack l cs) (hm : m.file ∈ stack)
    (hmoves : m.Moves cs cs') (hl : m.Top l) : Assemblable src strict stack l cs' := by
  cases h with
  | @intro _ _ _ ps unfolds includable uniform combine readable fresh nested =>
    have hi (inner : Locus) (h : Includes src l cs inner) : inner.file ≠ m.file :=
      (ne_of_mem_of_not_mem hm (h.not_mem_stack includable)).symm
    obtain ⟨ps', hps'⟩ := unfolds.exists_moved hmoves hl hi
    refine .of_passages hps' (fun q hq => (unfolds.mem_moved hps' hmoves hl hi).1 hq)
      (fun c hc => includable c (hmoves.symm.subset hc))
      (uniform.moved rfl rfl hmoves.symm.subset) combine readable fresh
      fun p q hq entered inner cs hn => ?_
    have hstack : m.file ∈ p.locus.file :: stack := List.mem_cons_of_mem _ hm
    exact (nested p q hq entered inner cs hn).shuffle (List.mem_append_right _ hstack)
      (hn.below (unfolds.not_top hq.mem) hstack (fresh p q hq entered inner cs hn))

end

end RelaxCompact
