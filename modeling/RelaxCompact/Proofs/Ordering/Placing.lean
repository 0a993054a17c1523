import RelaxCompact.Proofs.Assembly.Including

/-!
Where definitions stand. The address of a definition in its file tells which one it is, so that in
one grammar two passages that meet the same occurrence are through the same definition, and find it
in the same environment.
-/

namespace RelaxCompact

open Surface

namespace Surface.Component

mutual

/-- The definitions that stand in a component at address `a`, each with its own address. -/
def placed (a : List Nat) : Component → List (List Nat × Define)
  | .define name operator pattern documentation span =>
    [(a, ⟨name, operator, pattern, documentation, span⟩)]
  | .div components _ => allPlaced a 0 components
  | .incl _ _ overrides _ => allPlaced a 0 overrides

/-- Those of components, the first of which is number `i` below address `a`. -/
def allPlaced (a : List Nat) (i : Nat) : List Component → List (List Nat × Define)
  | [] => []
  | c :: cs => c.placed (i :: a) ++ allPlaced a (i + 1) cs

end

mutual

theorem mem_placed {a x : List Nat} {d : Define} {c : Component} (h : (x, d) ∈ c.placed a) :
    ∃ l, x = l ++ a := by
  cases c with
  | define name operator pattern documentation span =>
    cases List.mem_singleton.1 h
    exact ⟨[], rfl⟩
  | div components span =>
    obtain ⟨l, k, rfl, -⟩ := mem_allPlaced h
    exact ⟨l ++ [k], (List.append_cons l k a)⟩
  | incl href inherit overrides span =>
    obtain ⟨l, k, rfl, -⟩ := mem_allPlaced h
    exact ⟨l ++ [k], (List.append_cons l k a)⟩

theorem mem_allPlaced {a x : List Nat} {i : Nat} {d : Define} {cs : List Component}
    (h : (x, d) ∈ allPlaced a i cs) : ∃ l k, x = l ++ k :: a ∧ i ≤ k := by
  cases cs with
  | nil => cases h
  | cons c cs =>
    rcases List.mem_append.1 h with h | h
    · obtain ⟨l, rfl⟩ := mem_placed h
      exact ⟨l, i, rfl, Nat.le_refl i⟩
    · obtain ⟨l, k, rfl, hk⟩ := mem_allPlaced h
      exact ⟨l, k, rfl, Nat.le_of_succ_le hk⟩

end

mutual

theorem placed_unique {a x : List Nat} {d d' : Define} {c : Component}
    (h : (x, d) ∈ c.placed a) (h' : (x, d') ∈ c.placed a) : d = d' := by
  cases c with
  | define name operator pattern documentation span =>
    cases List.mem_singleton.1 h
    cases List.mem_singleton.1 h'
    rfl
  | div components span => exact allPlaced_unique h h'
  | incl href inherit overrides span => exact allPlaced_unique h h'

/-- No two definitions stand in one place. -/
theorem allPlaced_unique {a x : List Nat} {i : Nat} {d d' : Define} {cs : List Component}
    (h : (x, d) ∈ allPlaced a i cs) (h' : (x, d') ∈ allPlaced a i cs) : d = d' := by
  cases cs with
  | nil => cases h
  | cons c cs =>
    have hapart {e e' : Define} (he : (x, e) ∈ c.placed (i :: a))
        (he' : (x, e') ∈ allPlaced a (i + 1) cs) : False := by
      obtain ⟨l, rfl⟩ := mem_placed he
      obtain ⟨l', k, hx, hk⟩ := mem_allPlaced he'
      have hik : i = k := (List.cons_eq_cons.1 (List.append_inj' hx rfl).2).1
      omega
    rcases List.mem_append.1 h with h | h <;> rcases List.mem_append.1 h' with h' | h'
    · exact placed_unique h h'
    · exact (hapart h h').elim
    · exact (hapart h' h).elim
    · exact allPlaced_unique h h'

end

end Surface.Component

/-- A passage is through a definition that stands in components at a locus. -/
structure Passage.Placed (l : Locus) (i : Nat) (cs : List Component) (p : Passage) : Prop where
  environment : p.locus.environment = l.environment
  file : p.locus.file = l.file
  placed : (p.locus.address, p.define) ∈ Component.allPlaced l.address i cs

namespace Passage.Placed

variable {l : Locus} {i : Nat} {c : Component} {cs ds : List Component} {p : Passage}

theorem head (h : Passage.Placed l i [c] p) : Passage.Placed l i (c :: cs) p where
  environment := h.environment
  file := h.file
  placed := by
    have hp := h.placed
    rw [Component.allPlaced, Component.allPlaced, List.append_nil] at hp
    exact List.mem_append_left _ hp

theorem tail (h : Passage.Placed l (i + 1) cs p) : Passage.Placed l i (c :: cs) p where
  environment := h.environment
  file := h.file
  placed := List.mem_append_right _ h.placed

/-- What stands in a part of a component stands in the component. -/
theorem part (h : Passage.Placed (l.part i) 0 ds p)
    (hc : c.placed (i :: l.address) = Component.allPlaced (i :: l.address) 0 ds) :
    Passage.Placed l i (c :: cs) p where
  environment := h.environment
  file := h.file
  placed := List.mem_append_left _ (hc ▸ h.placed)

theorem unique {p q : Passage} (hp : Passage.Placed l i cs p) (hq : Passage.Placed l i cs q)
    (h : p.occurrence = q.occurrence) : p.locus = q.locus ∧ p.define = q.define := by
  obtain ⟨⟨env, file, address⟩, d, covers⟩ := p
  obtain ⟨⟨env', file', address'⟩, d', covers'⟩ := q
  cases h
  cases hp.environment.trans hq.environment.symm
  exact ⟨rfl, Component.allPlaced_unique hp.placed hq.placed⟩

end Passage.Placed

section

variable {src : Sources} {covers : List (List DefineName)} {l : Locus} {i : Nat}
  {cs : List Component} {ps : List Passage}

/-- A passage is through a definition that stands in a fragment. -/
def Passage.Fetched (src : Sources) (l : Locus) (cs : List Component) (p : Passage) : Prop :=
  ∃ inner file, Includes src l cs inner ∧ src.file inner.file = .ok file ∧ inner.address = [] ∧
    Passage.Placed inner 0 file.components p

theorem Passage.Fetched.mono {l' : Locus} {ds : List Component} {p : Passage}
    (h : p.Fetched src l cs) (hi : ∀ inner, Includes src l cs inner → Includes src l' ds inner) :
    p.Fetched src l' ds := by
  obtain ⟨inner, file, hinner, hrest⟩ := h
  exact ⟨inner, file, hi inner hinner, hrest⟩

/-- A passage is through a definition among the components, or in a fragment that they include. -/
theorem Unfolds.placed (h : Unfolds src covers l i cs ps) {p : Passage} (hp : p ∈ ps) :
    Passage.Placed l i cs p ∨ p.Fetched src l cs := by
  have htail {l : Locus} {cs : List Component} (c : Component) {p : Passage}
      (h : p.Fetched src l cs) : p.Fetched src l (c :: cs) :=
    h.mono fun _ hi => hi.mono (List.subset_cons_self _ _)
  induction h with
  | nil => cases hp
  | define _ ih =>
    rcases List.mem_cons.1 hp with rfl | hp
    · exact .inl ⟨rfl, rfl, List.mem_append_left _ (List.mem_singleton_self _)⟩
    · exact (ih hp).imp .tail (htail _)
  | div _ _ ihInner ih =>
    rcases List.mem_append.1 hp with hp | hp
    · exact (ihInner hp).imp (·.part rfl)
        (·.mono fun _ hi => .div List.mem_cons_self (hi.moved rfl rfl))
    · exact (ih hp).imp .tail (htail _)
  | incl hopens _ _ _ ihOverrides ihFragment ih =>
    rcases List.mem_append.1 hp with hp | hp
    · rcases List.mem_append.1 hp with hp | hp
      · exact (ihOverrides hp).imp (·.part rfl)
          (·.mono fun _ hi => .overrides List.mem_cons_self (hi.moved rfl rfl))
      · refine .inr ?_
        rcases ihFragment hp with hp | hp
        · exact ⟨_, _, .here List.mem_cons_self hopens, hopens.file_eq, hopens.address_eq, hp⟩
        · exact hp.mono fun _ hi => .fragment List.mem_cons_self hopens hi
    · exact (ih hp).imp .tail (htail _)

/-- In a coherent grammar the occurrence tells which definition a passage is through, and where. -/
theorem Unfolds.determined (h : Unfolds src covers l i cs ps)
    (hown : ∀ inner, Includes src l cs inner → inner.file ≠ l.file)
    (honce : ∀ inner inner', Includes src l cs inner → Includes src l cs inner' →
      inner.file = inner'.file → inner.environment = inner'.environment)
    {p q : Passage} (hp : p ∈ ps) (hq : q ∈ ps) (hpq : p.occurrence = q.occurrence) :
    p.locus = q.locus ∧ p.define = q.define := by
  have hfile : p.locus.file = q.locus.file := congrArg Occurrence.file hpq
  rcases h.placed hp with hp | ⟨inner, file, hi, hf, ha, hp⟩ <;>
    rcases h.placed hq with hq | ⟨inner', file', hi', hf', ha', hq⟩
  · exact hp.unique hq hpq
  · exact absurd (hq.file.symm.trans (hfile.symm.trans hp.file)) (hown inner' hi')
  · exact absurd (hp.file.symm.trans (hfile.trans hq.file)) (hown inner hi)
  · have hsame : inner.file = inner'.file := hp.file.symm.trans (hfile.trans hq.file)
    obtain ⟨env, key, address⟩ := inner
    obtain ⟨env', key', address'⟩ := inner'
    cases hsame
    cases ha
    cases ha'
    cases honce _ _ hi hi' rfl
    cases Except.ok.inj (hf.symm.trans hf')
    exact hp.unique hq hpq

end

end RelaxCompact
