import Mathlib
import RelaxCompact.Proofs.Lists
import RelaxCompact.Resolution

/-!
The search for a cycle in a graph of slots finds one if there is one, and what it finds is one.
-/

namespace RelaxCompact

/-- The weights of the items of a list that have not been seen, in all. -/
def unseenWeight (f : Nat → Nat) (items seen : List Nat) : Nat :=
  ((items.filter (· ∉ seen)).map f).sum

theorem unseenWeight_nil (f : Nat → Nat) (items : List Nat) :
    unseenWeight f items [] = (items.map f).sum := by
  simp [unseenWeight]

theorem unseenWeight_congr (f : Nat → Nat) (items : List Nat) {seen seen' : List Nat}
    (h : ∀ i, i ∈ seen ↔ i ∈ seen') : unseenWeight f items seen = unseenWeight f items seen' := by
  simp only [unseenWeight, h]

/-- Seeing an item takes its weight away. -/
theorem unseenWeight_cons (f : Nat → Nat) {items seen : List Nat} (hitems : items.Nodup) {i : Nat}
    (hi : i ∈ items) (hs : i ∉ seen) :
    unseenWeight f items (i :: seen) + f i = unseenWeight f items seen := by
  induction items with
  | nil => cases hi
  | cons j items ih =>
    obtain ⟨hj, hitems⟩ := List.nodup_cons.1 hitems
    unfold unseenWeight at ih ⊢
    by_cases he : i = j
    · subst he
      have hsame : items.filter (· ∉ i :: seen) = items.filter (· ∉ seen) := by
        apply List.filter_congr
        intro k hk
        have hne : k ≠ i := fun he => hj (he ▸ hk)
        simp [hne]
      rw [List.filter_cons_of_neg (by simp), List.filter_cons_of_pos (by simp [hs]), hsame,
        List.map_cons, List.sum_cons, Nat.add_comm]
    · have ih := ih hitems (List.mem_of_ne_of_mem he hi)
      by_cases hjs : j ∈ seen
      · rw [List.filter_cons_of_neg (by simp [hjs]), List.filter_cons_of_neg (by simp [hjs]), ih]
      · rw [List.filter_cons_of_pos (by simp [hjs, Ne.symm he]),
          List.filter_cons_of_pos (by simp [hjs]), List.map_cons, List.map_cons, List.sum_cons,
          List.sum_cons, Nat.add_assoc, ih]

theorem unseenWeight_cons_le (f : Nat → Nat) (items seen : List Nat) (i : Nat) :
    unseenWeight f items (i :: seen) ≤ unseenWeight f items seen := by
  unfold unseenWeight
  induction items with
  | nil => exact Nat.le_refl _
  | cons j items ih =>
    rw [List.filter_cons, List.filter_cons]
    by_cases hj : j ∈ seen
    · simpa [hj] using ih
    · by_cases he : j = i
      · simpa [he, he ▸ hj] using Nat.le_add_left_of_le ih
      · simpa [hj, he] using ih

theorem unseenWeight_le (f : Nat → Nat) (items seen : List Nat) :
    unseenWeight f items seen ≤ (items.map f).sum := by
  induction seen with
  | nil => rw [unseenWeight_nil]
  | cons i seen ih => exact (unseenWeight_cons_le f items seen i).trans ih

namespace SlotGraph

variable {g : SlotGraph}

def slots (g : SlotGraph) : List Nat := g.map Prod.fst

def Edge (g : SlotGraph) (v w : Nat) : Prop := w ∈ g.successors v

/-- Every way from a slot ends. -/
def Ends (g : SlotGraph) (v : Nat) : Prop := Acc (Function.swap g.Edge) v

/-- A way around, with the first slot again at the end. -/
structure IsCycle (g : SlotGraph) (cycle : List Nat) : Prop where
  chain : cycle.IsChain g.Edge
  closed : cycle.head? = cycle.getLast?
  nontrivial : 2 ≤ cycle.length

/-- Every slot has one list of successors, which are slots. -/
structure Proper (g : SlotGraph) : Prop where
  nodup : g.slots.Nodup
  targets : ∀ v w, g.Edge v w → w ∈ g.slots

theorem Edge.source {v w : Nat} (h : g.Edge v w) : v ∈ g.slots := by
  unfold Edge successors at h
  cases hl : g.lookup v with
  | none =>
    rw [hl] at h
    cases h
  | some ws =>
    obtain ⟨p, hp, he⟩ := List.lookup_isSome_iff.1 (by rw [hl]; rfl : (g.lookup v).isSome)
    exact List.mem_map.2 ⟨p, hp, (beq_iff_eq.1 he).symm⟩

theorem IsCycle.subset_slots (hg : g.Proper) {cycle : List Nat} (hc : g.IsCycle cycle) :
    cycle ⊆ g.slots := by
  refine hc.chain.induction (· ∈ g.slots) _ (fun v w hvw _ => hg.targets v w hvw) fun hne => ?_
  match cycle, hc with
  | v :: w :: _, hc => exact (List.isChain_cons_cons.1 hc.chain).1.source
  | [v], hc => exact absurd hc.nontrivial (by simp)

theorem successors_of_mem (hg : g.slots.Nodup) {v : Nat} {ws : List Nat} (h : (v, ws) ∈ g) :
    g.successors v = ws := by
  obtain ⟨l, r, rfl⟩ := List.append_of_mem h
  have hl : List.lookup v (l ++ (v, ws) :: r) = some ws := by
    refine List.lookup_eq_some_iff.2 ⟨l, r, rfl, fun p hp => ?_⟩
    rw [slots, List.map_append, List.map_cons, List.nodup_middle, List.nodup_cons] at hg
    refine bne_iff_ne.2 fun he => hg.1 ?_
    exact List.mem_append_left _ (List.mem_map.2 ⟨p, hp, he.symm⟩)
  rw [successors, hl]
  rfl

theorem Ends.not_transGen {v : Nat} (h : g.Ends v) : ¬ Relation.TransGen g.Edge v v :=
  not_transGen_of_acc h

/-- A search goes along a path, last slot first: each slot leads to the one before it, which is
`above` for the first, and of its successors those tried before have no endless ways. -/
def Trail (g : SlotGraph) : (above : Option Nat) → List (Nat × List Nat) → Prop
  | _, [] => True
  | above, (v, rest) :: path =>
    v ∈ g.slots ∧ (∀ w ∈ rest, g.Edge v w) ∧ (∀ w, above = some w → g.Edge v w) ∧
      (∀ w, g.Edge v w → w ∈ rest ∨ g.Ends w ∨ above = some w) ∧ Trail g (some v) path

theorem Trail.settle {v : Nat} {path : List (Nat × List Nat)} (h : Trail g (some v) path)
    (hv : g.Ends v) : Trail g none path := by
  cases path with
  | nil => trivial
  | cons p path =>
    obtain ⟨hs, hrest, _, hall, hpath⟩ := h
    refine ⟨hs, hrest, nofun, fun w hw => ?_, hpath⟩
    rcases hall w hw with hw | hw | hw
    · exact .inl hw
    · exact .inr (.inl hw)
    · cases hw
      exact .inr (.inl hv)

/-- What is popped has no endless ways. -/
theorem Trail.ends {v : Nat} {path : List (Nat × List Nat)} (h : Trail g none ((v, []) :: path)) :
    g.Ends v := by
  obtain ⟨-, -, -, hall, -⟩ := h
  refine .intro v fun w hw => ?_
  rcases hall w hw with hw | hw | hw
  · cases hw
  · exact hw
  · cases hw

theorem Trail.chain {above : Option Nat} {path : List (Nat × List Nat)} (h : Trail g above path) :
    (path.map Prod.fst).IsChain (Function.swap g.Edge) := by
  induction path generalizing above with
  | nil => exact .nil
  | cons p path ih =>
    obtain ⟨-, -, -, -, hpath⟩ := h
    have hchain := ih hpath
    cases path with
    | nil => exact .singleton _
    | cons q path => exact .cons_cons (hpath.2.2.1 _ rfl) hchain

/-- A slot on the path that the last slot leads to closes a cycle. -/
theorem cycleOf_isCycle {v w : Nat} {path : List Nat}
    (h : (v :: path).IsChain (Function.swap g.Edge)) (hw : g.Edge v w) (hmem : w ∈ v :: path) :
    g.IsCycle (cycleOf (v :: path) w) := by
  refine ⟨isChain_around h rfl hw hmem, ?_, ?_⟩
  · rw [cycleOf, List.getLast?_concat]
    rfl
  · simp [cycleOf]

/-- What a search has still to do. -/
def cost (g : SlotGraph) (path : List (Nat × List Nat)) (done : List Nat) : Nat :=
  (path.map fun p => p.2.length + 1).sum +
    unseenWeight (fun v => (g.successors v).length + 1) g.slots (path.map Prod.fst ++ done)

/-- What a search says: all slots on its path and done have no endless ways, or there is a cycle. -/
def Reports (g : SlotGraph) (slots : List Nat) : Except (List Nat) (List Nat) → Prop
  | .ok done => (∀ v ∈ done, g.Ends v) ∧ slots ⊆ done
  | .error cycle => g.IsCycle cycle

theorem Reports.mono {slots slots' : List Nat} {result : Except (List Nat) (List Nat)}
    (h : g.Reports slots' result) (hsub : slots ⊆ slots') : g.Reports slots result := by
  cases result with
  | ok done => exact ⟨h.1, List.Subset.trans hsub h.2⟩
  | error cycle => exact h

theorem search_reports (hg : g.Proper) {budget : Nat} {path : List (Nat × List Nat)}
    {done : List Nat} (hpath : Trail g none path) (hdone : ∀ v ∈ done, g.Ends v)
    (hbudget : cost g path done ≤ budget) :
    g.Reports (path.map Prod.fst ++ done) (search g budget path done) := by
  induction budget generalizing path done with
  | zero =>
    cases path with
    | nil => exact ⟨hdone, List.Subset.refl _⟩
    | cons p path => simp [cost] at hbudget
  | succ budget ih =>
    match path with
    | [] => exact ⟨hdone, List.Subset.refl _⟩
    | (v, []) :: path =>
      have hv := hpath.ends
      have hseen (i : Nat) : i ∈ path.map Prod.fst ++ v :: done ↔
          i ∈ ((v, []) :: path).map Prod.fst ++ done := by
        simp [or_left_comm]
      have hcost : cost g path (v :: done) ≤ budget := by
        unfold cost at hbudget ⊢
        rw [unseenWeight_congr _ _ hseen]
        simp only [List.map_cons, List.sum_cons, List.length_nil] at hbudget ⊢
        omega
      rw [search]
      refine (ih (hpath.2.2.2.2.settle hv) ?_ hcost).mono fun i hi => (hseen i).2 hi
      intro u hu
      rcases List.mem_cons.1 hu with rfl | hu
      · exact hv
      · exact hdone u hu
    | (v, w :: rest) :: path =>
      have hchain := hpath.chain
      obtain ⟨hs, hrest, -, hall, hbelow⟩ := hpath
      have hw := hrest w List.mem_cons_self
      rw [search]
      split
      next hmem => exact cycleOf_isCycle hchain hw hmem
      next hpathless =>
        split
        next hmem =>
          have hcost : cost g ((v, rest) :: path) done ≤ budget := by
            unfold cost at hbudget ⊢
            simp only [List.map_cons, List.sum_cons, List.length_cons] at hbudget ⊢
            omega
          have htrail : Trail g none ((v, rest) :: path) := by
            refine ⟨hs, fun u hu => hrest u (List.mem_cons_of_mem _ hu), nofun, fun u hu => ?_,
              hbelow⟩
            rcases hall u hu with hu | hu | hu
            · rcases List.mem_cons.1 hu with rfl | hu
              · exact .inr (.inl (hdone u hmem))
              · exact .inl hu
            · exact .inr (.inl hu)
            · cases hu
          exact ih htrail hdone hcost
        next hnew =>
          have hunseen : w ∉ (v :: path.map Prod.fst) ++ done := by
            rw [List.mem_append]
            exact not_or.2 ⟨hpathless, hnew⟩
          have hweight := unseenWeight_cons (fun v => (g.successors v).length + 1) hg.nodup
            (hg.targets v w hw) hunseen
          have hcost : cost g ((w, g.successors w) :: (v, rest) :: path) done ≤ budget := by
            unfold cost at hbudget ⊢
            simp only [List.map_cons, List.sum_cons, List.length_cons, List.cons_append]
              at hbudget hweight ⊢
            omega
          have htrail : Trail g none ((w, g.successors w) :: (v, rest) :: path) := by
            refine ⟨hg.targets v w hw, fun u hu => hu, nofun, fun u hu => .inl hu, hs,
              fun u hu => hrest u (List.mem_cons_of_mem _ hu), ?_, fun u hu => ?_, hbelow⟩
            · rintro _ ⟨⟩
              exact hw
            · rcases hall u hu with hu | hu | hu
              · rcases List.mem_cons.1 hu with rfl | hu
                · exact .inr (.inr rfl)
                · exact .inl hu
              · exact .inr (.inl hu)
              · cases hu
          exact (ih htrail hdone hcost).mono (List.subset_cons_self _ _)

theorem sum_length_succ (g : SlotGraph) :
    (g.map fun p => p.2.length + 1).sum = (g.flatMap Prod.snd).length + g.length := by
  induction g with
  | nil => rfl
  | cons p g ih =>
    rw [List.map_cons, List.sum_cons, ih, List.flatMap_cons, List.length_append, List.length_cons]
    omega

/-- The effort is enough for a search from any slot. -/
theorem cost_single_le (hg : g.Proper) {v : Nat} (hv : v ∈ g.slots) {done : List Nat}
    (hdone : v ∉ done) : cost g [(v, g.successors v)] done ≤ effort g := by
  have hweight := unseenWeight_cons (fun v => (g.successors v).length + 1) hg.nodup hv hdone
  have hle := unseenWeight_le (fun v => (g.successors v).length + 1) g.slots done
  have hsum : (g.slots.map fun v => (g.successors v).length + 1).sum =
      (g.flatMap Prod.snd).length + g.length := by
    rw [← sum_length_succ, slots, List.map_map]
    refine congrArg List.sum (List.map_congr_left fun p hp => ?_)
    rw [Function.comp_apply, successors_of_mem hg.nodup hp]
  unfold cost effort
  simp only [List.map_cons, List.map_nil, List.sum_cons, List.sum_nil, List.singleton_append]
    at hweight ⊢
  omega

/-- Searches from one slot after another. -/
theorem searchAll_reports (hg : g.Proper) {slots done : List Nat} (hslots : slots ⊆ g.slots)
    (hdone : ∀ v ∈ done, g.Ends v) :
    g.Reports (slots ++ done) (slots.foldlM (fun done slot =>
      if slot ∈ done then .ok done else search g (effort g) [(slot, g.successors slot)] done)
      done) := by
  induction slots generalizing done with
  | nil => exact ⟨hdone, List.Subset.refl _⟩
  | cons v slots ih =>
    obtain ⟨hv, hslots⟩ := List.cons_subset.1 hslots
    rw [List.foldlM_cons]
    split
    next hmem =>
      refine (ih hslots hdone).mono (List.cons_subset.2 ⟨?_, List.Subset.refl _⟩)
      exact List.mem_append_right _ hmem
    next hnew =>
      have htrail : Trail g none [(v, g.successors v)] :=
        ⟨hv, fun _ hw => hw, nofun, fun _ hw => .inl hw, trivial⟩
      have hsearch := search_reports hg htrail hdone (cost_single_le hg hv hnew)
      cases hs : search g (effort g) [(v, g.successors v)] done with
      | error cycle =>
        rw [hs] at hsearch
        exact hsearch
      | ok done' =>
        rw [hs] at hsearch
        obtain ⟨hends, hsub⟩ := hsearch
        apply (ih hslots hends).mono
        intro u hu
        rw [List.cons_append, List.mem_cons, List.mem_append] at hu
        rw [List.mem_append]
        rcases hu with rfl | hu | hu
        · exact .inr (hsub List.mem_cons_self)
        · exact .inl hu
        · exact .inr (hsub (List.mem_cons_of_mem _ hu))

/-- What is found is a cycle, and if none is found then no slot has endless ways. -/
theorem findCycle?_reports (hg : g.Proper) :
    (∀ cycle, g.findCycle? = some cycle → g.IsCycle cycle) ∧
      (g.findCycle? = none → ∀ v ∈ g.slots, g.Ends v) := by
  have hnone : ∀ v ∈ ([] : List Nat), g.Ends v := nofun
  have hall := searchAll_reports hg (List.Subset.refl g.slots) hnone
  unfold findCycle?
  dsimp only
  change g.Reports _ ((g.map Prod.fst).foldlM _ []) at hall
  split
  next done hfold =>
    rw [hfold] at hall
    exact ⟨nofun, fun _ v hv => hall.1 v (hall.2 (List.mem_append_left _ hv))⟩
  next cycle hfold =>
    rw [hfold] at hall
    refine ⟨?_, nofun⟩
    rintro _ ⟨⟩
    exact hall

end SlotGraph

end RelaxCompact
