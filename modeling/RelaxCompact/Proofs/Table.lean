import Mathlib.Data.List.Induction
import RelaxCompact.Table

/-!
Keys of tables: which keys a table has, in which order, and what writing to it does to them.
-/

namespace RelaxCompact

theorem eraseDups_concat {α : Type} [DecidableEq α] (l : List α) (a : α) :
    (l ++ [a]).eraseDups = if a ∈ l then l.eraseDups else l.eraseDups ++ [a] := by
  rw [List.eraseDups_append]
  split
  next ha => simp [List.removeAll, ha]
  next ha => simp [List.removeAll, ha, List.eraseDups_cons]

theorem nodup_eraseDups {α : Type} [DecidableEq α] (l : List α) : l.eraseDups.Nodup := by
  induction l using List.reverseRecOn with
  | nil => exact List.nodup_nil
  | append_singleton l a ih =>
    rw [eraseDups_concat]
    split
    · exact ih
    next ha =>
      refine List.nodup_append.2 ⟨ih, List.pairwise_singleton _ a, ?_⟩
      rintro b hb _ hc rfl
      exact ha (List.mem_eraseDups.1 (List.mem_singleton.1 hc ▸ hb))

theorem eraseDups_of_nodup {α : Type} [DecidableEq α] {l : List α} (h : l.Nodup) :
    l.eraseDups = l := by
  induction l using List.reverseRecOn with
  | nil => rfl
  | append_singleton l a ih =>
    obtain ⟨hl, -, hdisjoint⟩ := List.nodup_append.1 h
    have ha : a ∉ l := fun hmem => hdisjoint a hmem a (List.mem_singleton_self a) rfl
    rw [eraseDups_concat, if_neg ha, ih hl]

/-- What each step may write anew is at last what was written last. -/
theorem foldl_eq_getLast? {σ α β : Type} (step : σ → α → σ) (get : σ → Option β)
    (write : α → Option β) (h : ∀ s a, get (step s a) = (write a).or (get s)) (as : List α) (s : σ) :
    get (as.foldl step s) = (as.filterMap write).getLast?.or (get s) := by
  induction as generalizing s with
  | nil => rfl
  | cons a as ih =>
    rw [List.foldl_cons, ih, h, List.filterMap_cons]
    cases write a with
    | none => rfl
    | some b =>
      rw [List.getLast?_cons]
      cases (as.filterMap write).getLast? <;> rfl

namespace Table

variable {κ ν : Type} [DecidableEq κ]

theorem isSome_lookup {k : κ} {es : List (κ × ν)} :
    (lookup k es).isSome = true ↔ k ∈ es.map Prod.fst := by
  induction es with
  | nil => simp [lookup]
  | cons e es ih =>
    by_cases h : e.1 = k
    · simp [lookup, h]
    · simp [lookup, h, ih, Ne.symm h]

theorem mem_of_lookup {k : κ} {v : ν} {es : List (κ × ν)} (h : lookup k es = some v) :
    (k, v) ∈ es := by
  induction es with
  | nil => cases h
  | cons e es ih =>
    rw [lookup] at h
    split at h
    next he =>
      cases h
      exact he ▸ List.mem_cons_self
    next => exact List.mem_cons_of_mem _ (ih h)

theorem lookup_of_mem {k : κ} {v : ν} {es : List (κ × ν)} (hes : (es.map Prod.fst).Nodup)
    (h : (k, v) ∈ es) : lookup k es = some v := by
  induction es with
  | nil => cases h
  | cons e es ih =>
    rw [List.map_cons, List.nodup_cons] at hes
    rw [lookup]
    rcases List.mem_cons.1 h with rfl | h
    · rw [if_pos rfl]
    · rw [if_neg fun he => hes.1 (List.mem_map.2 ⟨_, h, he.symm⟩)]
      exact ih hes.2 h

/-- The first of two lists of entries goes before the second. -/
theorem lookup_append (k : κ) (es fs : List (κ × ν)) :
    lookup k (es ++ fs) = (lookup k es).or (lookup k fs) := by
  induction es with
  | nil => rfl
  | cons e es ih =>
    rw [List.cons_append, lookup, lookup, ih]
    split <;> rfl

theorem contains_iff {t : Table κ ν} {k : κ} : t.contains k = true ↔ k ∈ t.keys :=
  isSome_lookup

theorem map_fst_update (k : κ) (v : ν) (es : List (κ × ν)) :
    (update k v es).map Prod.fst =
      if k ∈ es.map Prod.fst then es.map Prod.fst else es.map Prod.fst ++ [k] := by
  induction es with
  | nil => simp [update]
  | cons e es ih =>
    by_cases h : e.1 = k
    · simp [update, h]
    · simp only [update, h, if_false, List.map_cons, ih, List.mem_cons, Ne.symm h, false_or]
      split <;> simp

/-- A new key comes last, and a known one keeps its place. -/
theorem keys_insert (t : Table κ ν) (k : κ) (v : ν) :
    (t.insert k v).keys = if k ∈ t.keys then t.keys else t.keys ++ [k] :=
  map_fst_update k v t.entries

/-- A table of pairs has the keys of the pairs, in order. -/
theorem keys_ofList (pairs : List (κ × ν)) :
    (ofList pairs).keys = (pairs.map Prod.fst).eraseDups := by
  induction pairs using List.reverseRecOn with
  | nil => rfl
  | append_singleton pairs p ih =>
    rw [List.map_append, List.map_singleton, eraseDups_concat, ofList, List.foldl_append,
      List.foldl_cons, List.foldl_nil, keys_insert]
    change (if _ ∈ (ofList pairs).keys then (ofList pairs).keys else (ofList pairs).keys ++ [_]) = _
    simp only [ih, List.mem_eraseDups]

/-- Of several pairs with one key the last one counts. -/
theorem get?_ofList (pairs : List (κ × ν)) (k : κ) :
    (ofList pairs).get? k =
      (pairs.filterMap fun p => if p.1 = k then some p.2 else none).getLast? := by
  have hstep (t : Table κ ν) (p : κ × ν) : (t.insert p.1 p.2).get? k =
      (if p.1 = k then some p.2 else none).or (t.get? k) := by
    split
    next hk => rw [← hk, get?_insert_self, Option.some_or]
    next hk => rw [get?_insert_of_ne t (Ne.symm hk), Option.none_or]
  exact (foldl_eq_getLast? (fun t p => t.insert p.1 p.2) (fun t : Table κ ν => t.get? k) _ hstep
    pairs ⟨[]⟩).trans Option.or_none

theorem contains_ofList {pairs : List (κ × ν)} {k : κ} :
    (ofList pairs).contains k = true ↔ k ∈ pairs.map Prod.fst := by
  rw [contains_iff, keys_ofList, List.mem_eraseDups]

/-- The table with every value changed. -/
def map {μ : Type} (f : ν → μ) (t : Table κ ν) : Table κ μ :=
  ⟨t.entries.map fun e => (e.1, f e.2)⟩

omit [DecidableEq κ] in
theorem keys_map {μ : Type} (f : ν → μ) (t : Table κ ν) : (t.map f).keys = t.keys := by
  rw [keys, map, List.map_map]
  rfl

theorem get?_map {μ : Type} (f : ν → μ) (t : Table κ ν) (k : κ) :
    (t.map f).get? k = (t.get? k).map f := by
  rw [get?, get?, map]
  induction t.entries with
  | nil => rfl
  | cons e es ih =>
    rw [List.map_cons, lookup, lookup, ih]
    split <;> rfl

theorem map_insert {μ : Type} (f : ν → μ) (t : Table κ ν) (k : κ) (v : ν) :
    (t.insert k v).map f = (t.map f).insert k (f v) := by
  have hupdate (es : List (κ × ν)) : (update k v es).map (fun e => (e.1, f e.2)) =
      update k (f v) (es.map fun e => (e.1, f e.2)) := by
    induction es with
    | nil => rfl
    | cons e es ih =>
      rw [update, List.map_cons, update]
      split
      · rfl
      · rw [List.map_cons, ih]
  exact congrArg Table.mk (hupdate t.entries)

end Table

end RelaxCompact
