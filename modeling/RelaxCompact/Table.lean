/-!
Finite maps that remember the order in which their keys first came. Writing to a key again changes
its value and keeps its place.
-/

namespace RelaxCompact

/-- Keys and values in the order of first insertion. -/
structure Table (κ ν : Type) where
  entries : List (κ × ν) := []
  deriving Repr, DecidableEq

namespace Table

variable {κ ν μ : Type} [DecidableEq κ]

instance : Inhabited (Table κ ν) := ⟨⟨[]⟩⟩

/-- The value of the first entry for a key. -/
def lookup (k : κ) : List (κ × ν) → Option ν
  | [] => none
  | (k', v) :: rest => if k' = k then some v else lookup k rest

/-- Replaces the first value of a key, or adds the key at the end. -/
def update (k : κ) (v : ν) : List (κ × ν) → List (κ × ν)
  | [] => [(k, v)]
  | (k', v') :: rest => if k' = k then (k', v) :: rest else (k', v') :: update k v rest

def get? (t : Table κ ν) (k : κ) : Option ν := lookup k t.entries

def contains (t : Table κ ν) (k : κ) : Bool := (t.get? k).isSome

def insert (t : Table κ ν) (k : κ) (v : ν) : Table κ ν := ⟨update k v t.entries⟩

/-- The table that results from inserting pairs one after another. -/
def ofList (pairs : List (κ × ν)) : Table κ ν := pairs.foldl (fun t p => t.insert p.1 p.2) ⟨[]⟩

omit [DecidableEq κ] in
def keys (t : Table κ ν) : List κ := t.entries.map Prod.fst

omit [DecidableEq κ] in
def size (t : Table κ ν) : Nat := t.entries.length

theorem lookup_update_self (k : κ) (v : ν) (es : List (κ × ν)) :
    lookup k (update k v es) = some v := by
  induction es with
  | nil => simp [update, lookup]
  | cons e es ih =>
    by_cases h : e.1 = k
    · simp [update, lookup, h]
    · simp [update, lookup, h, ih]

theorem lookup_update_of_ne {k j : κ} (hne : j ≠ k) (v : ν) (es : List (κ × ν)) :
    lookup j (update k v es) = lookup j es := by
  induction es with
  | nil => simp [update, lookup, Ne.symm hne]
  | cons e es ih =>
    by_cases h : e.1 = k
    · simp [update, lookup, h, Ne.symm hne]
    · simp [update, lookup, h, ih]

@[simp]
theorem get?_insert_self (t : Table κ ν) (k : κ) (v : ν) : (t.insert k v).get? k = some v :=
  lookup_update_self k v t.entries

@[simp]
theorem get?_insert_of_ne (t : Table κ ν) {k j : κ} (hne : j ≠ k) (v : ν) :
    (t.insert k v).get? j = t.get? j :=
  lookup_update_of_ne hne v t.entries

end Table

end RelaxCompact
