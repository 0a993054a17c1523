import Mathlib.Data.List.Chain
import Mathlib.Data.List.Forall2

/-! Related lists, lists that are made entry by entry, and chains that are closed to cycles. -/

namespace RelaxCompact

/-- What is in the first of two related lists has a partner in the second. -/
theorem exists_of_forall₂ {α β : Type} {R : α → β → Prop} {as : List α} {bs : List β}
    (h : List.Forall₂ R as bs) {a : α} (ha : a ∈ as) : ∃ b ∈ bs, R a b := by
  induction h with
  | nil => cases ha
  | cons hr _ ih =>
    rcases List.mem_cons.1 ha with rfl | ha
    · exact ⟨_, List.mem_cons_self, hr⟩
    · obtain ⟨b, hb, hr⟩ := ih ha
      exact ⟨b, List.mem_cons_of_mem _ hb, hr⟩

theorem exists_head_of_forall₂ {α β : Type} {R : α → β → Prop} {as : List α} {bs : List β}
    (h : List.Forall₂ R as bs) {b : β} (hb : bs.head? = some b) :
    ∃ a, as.head? = some a ∧ R a b := by
  cases h with
  | nil => cases hb
  | cons hr _ =>
    cases hb
    exact ⟨_, rfl, hr⟩

/-- Two lists that one list is related to are related to each other. -/
theorem forall₂_of_common {α β γ : Type} {R : α → β → Prop} {S : α → γ → Prop} {T : β → γ → Prop}
    {as : List α} {bs : List β} {cs : List γ} (h : List.Forall₂ R as bs)
    (h' : List.Forall₂ S as cs) (hT : ∀ a ∈ as, ∀ b c, R a b → S a c → T b c) :
    List.Forall₂ T bs cs := by
  induction h generalizing cs with
  | nil =>
    cases h'
    exact .nil
  | cons hr _ ih =>
    cases h' with
    | cons hs h' =>
      exact .cons (hT _ List.mem_cons_self _ _ hr hs)
        (ih h' fun a ha => hT a (List.mem_cons_of_mem _ ha))

/-- Each of the results belongs to one of the entries, in order. -/
theorem forall₂_of_mapM_ok {ε α β : Type} {f : α → Except ε β} {as : List α} {bs : List β}
    (h : as.mapM f = .ok bs) : List.Forall₂ (fun a b => f a = .ok b) as bs := by
  induction as generalizing bs with
  | nil =>
    cases h
    exact .nil
  | cons a as ih =>
    rw [List.mapM_cons] at h
    cases ha : f a with
    | error e =>
      rw [ha] at h
      cases h
    | ok b =>
      cases has : as.mapM f with
      | error e =>
        rw [ha, has] at h
        cases h
      | ok bs =>
        rw [ha, has] at h
        cases h
        exact .cons ha (ih has)

theorem mem_of_mapM_ok {ε α β : Type} {f : α → Except ε β} {as : List α} {bs : List β}
    (h : as.mapM f = .ok bs) {b : β} (hb : b ∈ bs) : ∃ a ∈ as, f a = .ok b :=
  exists_of_forall₂ (forall₂_of_mapM_ok h).flip hb

theorem exists_of_mapM_ok {ε α β : Type} {f : α → Except ε β} {as : List α} {bs : List β}
    (h : as.mapM f = .ok bs) {a : α} (ha : a ∈ as) : ∃ b ∈ bs, f a = .ok b :=
  exists_of_forall₂ (forall₂_of_mapM_ok h) ha

theorem exists_of_mapM_error {ε α β : Type} {f : α → Except ε β} {as : List α} {e : ε}
    (h : as.mapM f = .error e) : ∃ a ∈ as, f a = .error e := by
  induction as with
  | nil => cases h
  | cons a as ih =>
    rw [List.mapM_cons] at h
    cases ha : f a with
    | error e' =>
      rw [ha] at h
      cases h
      exact ⟨a, List.mem_cons_self, ha⟩
    | ok b =>
      cases has : as.mapM f with
      | error e' =>
        rw [ha, has] at h
        cases h
        obtain ⟨a', hm, ha'⟩ := ih has
        exact ⟨a', List.mem_cons_of_mem _ hm, ha'⟩
      | ok bs =>
        rw [ha, has] at h
        cases h

theorem of_mem_zip_map {α β : Type} {f : α → β} {as : List α} {a : α} {b : β}
    (h : (a, b) ∈ as.zip (as.map f)) : a ∈ as ∧ f a = b := by
  rw [← List.map_prod_left_eq_zip] at h
  obtain ⟨a', hm, he⟩ := List.mem_map.1 h
  cases he
  exact ⟨hm, rfl⟩

theorem transGen_of_isChain {α : Type} {R : α → α → Prop} {l : List α} (h : l.IsChain R)
    (hc : l.head? = l.getLast?) (hl : 2 ≤ l.length) : ∃ a ∈ l, Relation.TransGen R a a := by
  match l with
  | [] => simp at hl
  | [_] => simp at hl
  | a :: b :: l =>
    rw [List.isChain_cons_cons] at h
    refine ⟨a, List.mem_cons_self, .head' h.1 ?_⟩
    apply List.relationReflTransGen_of_exists_isChain_cons l h.2
    rw [List.head?_cons, List.getLast?_cons_cons, List.getLast?_eq_some_getLast (by simp)] at hc
    exact (Option.some.inj hc).symm

theorem transGen_of_isChain_append {α : Type} {R : α → α → Prop} {a b : α} {way : List α}
    (h : (a :: way ++ [b]).IsChain R) : Relation.TransGen R a b := by
  induction way generalizing a with
  | nil => exact .single (List.isChain_pair.1 h)
  | cons c way ih =>
    obtain ⟨hac, hway⟩ := List.isChain_cons_cons.1 h
    exact .head hac (ih hway)

/-- In a list in which each item leads to the next, one leads to every item but the first. -/
theorem exists_of_isChain_cons {α : Type} {R : α → α → Prop} {a b : α} {l : List α}
    (h : (a :: l).IsChain R) (hb : b ∈ l) : ∃ c, R c b := by
  induction l generalizing a with
  | nil => cases hb
  | cons c l ih =>
    obtain ⟨hac, hl⟩ := List.isChain_cons_cons.1 h
    rcases List.mem_cons.1 hb with rfl | hb
    · exact ⟨a, hac⟩
    · exact ih hl hb

theorem not_transGen_of_acc {α : Type} {R : α → α → Prop} {a : α} (h : Acc (Function.swap R) a) :
    ¬ Relation.TransGen R a a := by
  have hacc := h.transGen
  induction hacc with
  | intro a _ ih => exact fun ha => ih a (Relation.transGen_swap.2 ha) h ha

variable {α : Type} [DecidableEq α] {R : α → α → Prop}

theorem eq_takeWhile_append {a : α} {l : List α} (h : a ∈ l) :
    ∃ rest, l = l.takeWhile (· ≠ a) ++ a :: rest := by
  induction l with
  | nil => cases h
  | cons b l ih =>
    by_cases hb : b = a
    · subst hb
      exact ⟨l, by simp⟩
    · obtain ⟨rest, hl⟩ := ih (List.mem_of_ne_of_mem (Ne.symm hb) h)
      refine ⟨rest, ?_⟩
      rw [List.takeWhile_cons_of_pos (by simp [hb]), List.cons_append, ← hl]

/-- A path is written last item first. If the last item leads to one on the path, the part from
there on goes around. -/
theorem isChain_around {path : List α} (h : path.IsChain (Function.swap R)) {a b : α}
    (hlast : path.head? = some b) (hb : R b a) (ha : a ∈ path) :
    (a :: (path.takeWhile (· ≠ a)).reverse ++ [a]).IsChain R := by
  obtain ⟨rest, hl⟩ := eq_takeWhile_append ha
  generalize path.takeWhile (· ≠ a) = way at hl ⊢
  have hhead : (way ++ [a]).head? = some b := by
    rw [hl, List.head?_append, List.head?_cons] at hlast
    rw [List.head?_append, List.head?_singleton, hlast]
  have hway : (way ++ [a]).IsChain (Function.swap R) := by
    rw [hl, List.append_cons] at h
    exact h.left_of_append
  have hreverse : a :: way.reverse = (way ++ [a]).reverse := by
    rw [List.reverse_append, List.reverse_singleton, List.singleton_append]
  rw [hreverse]
  refine (List.isChain_reverse.2 hway).append (.singleton a) fun x hx y hy => ?_
  rw [List.getLast?_reverse, hhead] at hx
  cases hx
  cases hy
  exact hb

end RelaxCompact
