import RelaxCompact.Prefetch
import RelaxCompact.Proofs.Run
import RelaxCompact.Proofs.Table

/-!
What a key stands for. A state of the fragments determines the outcome of every key, and fetching
fragments gives these outcomes and changes none of them.
-/

namespace RelaxCompact.Fragments

open Surface

/-- The file or failure that a key stands for: what is kept for it, or else what its source
spells. -/
def outcome (catalog : Catalog) (s : Fragments) (key : Text) : Except Failure File :=
  match s.entries.get? key with
  | some result => result
  | none => catalog.read key >>= fun source => source.parse key

/-- The same keys stand for the same files. -/
def Agree (catalog : Catalog) (s t : Fragments) : Prop :=
  ∀ key, outcome catalog t key = outcome catalog s key

theorem Agree.refl (catalog : Catalog) (s : Fragments) : Agree catalog s s := fun _ => rfl

theorem Agree.trans {catalog : Catalog} {s t u : Fragments} (hst : Agree catalog s t)
    (htu : Agree catalog t u) : Agree catalog s u :=
  fun key => (htu key).trans (hst key)

theorem agree_of_entries {catalog : Catalog} {s t : Fragments} (h : t.entries = s.entries) :
    Agree catalog s t := by
  intro key
  rw [outcome, outcome, h]

/-- Keeping the outcome of a key changes no outcome. -/
theorem agree_of_insert {catalog : Catalog} {s : Fragments} {key : Text}
    {result : Except Failure File} (h : outcome catalog s key = result) {t : Fragments}
    (ht : t.entries = s.entries.insert key result) : Agree catalog s t := by
  intro other
  rw [outcome, ht]
  by_cases he : other = key
  · subst other
    rw [Table.get?_insert_self, h]
  · rw [Table.get?_insert_of_ne _ he]
    rfl

theorem report_agree {catalog : Catalog} {reporter : Reporter} {severity : Severity}
    {message : Text} {s t : Fragments} (h : report reporter severity message s = .ok () t) :
    Agree catalog s t := by
  cases h
  exact agree_of_entries rfl

/-- The state in which the source of a key is parsed. -/
def parsing (s : Fragments) (key : Text) : Fragments :=
  { s with journal := s.journal ++ [⟨.fragments, .debug, "Parsing grammar fragment " ++ key⟩] }

/-- The state after a key was parsed. -/
def parsed (s : Fragments) (key : Text) : Fragments :=
  { s with parses := s.parses.insert key ((s.parses.get? key).getD 0 + 1) }

/-- Loading reads a source, and then parses it. -/
theorem load_eq (catalog : Catalog) (key : Text) (s : Fragments) :
    load catalog key s =
      match catalog.read key with
      | .error e => .error e s
      | .ok source =>
        match source.parse key with
        | .error e => .error e (s.parsing key)
        | .ok file => .ok file ((s.parsing key).parsed key) := by
  change EStateM.bind (liftExcept (catalog.read key)) _ s = _
  cases catalog.read key with
  | error e => rfl
  | ok source =>
    change EStateM.bind (liftExcept (source.parse key)) _ (s.parsing key) = _
    cases hp : source.parse key with
    | error e => simp only [hp]; rfl
    | ok file => simp only [hp]; rfl

/-- Trying a key gives its outcome. -/
theorem attempt_ok {catalog : Catalog} {key : Text} {s t : Fragments}
    {result : Except Failure File} (h : attempt catalog key s = .ok result t) :
    result = outcome catalog s key ∧ Agree catalog s t := by
  unfold attempt fetch at h
  cases hk : s.entries.get? key with
  | some kept =>
    have ho : outcome catalog s key = kept := by rw [outcome, hk]
    rw [hk] at h
    cases kept <;> cases h <;> exact ⟨ho.symm, agree_of_entries rfl⟩
  | none =>
    have ho : outcome catalog s key = catalog.read key >>= fun source => source.parse key := by
      rw [outcome, hk]
    rw [hk, load_eq] at h
    cases hr : catalog.read key with
    | error e =>
      simp only [hr] at h
      rw [hr] at ho
      cases h
      exact ⟨ho.symm, agree_of_insert ho rfl⟩
    | ok source =>
      rw [hr] at ho
      change outcome catalog s key = source.parse key at ho
      cases hp : source.parse key with
      | error e =>
        simp only [hr, hp] at h ho
        cases h
        exact ⟨ho.symm, agree_of_insert ho rfl⟩
      | ok file =>
        simp only [hr, hp] at h ho
        cases h
        exact ⟨ho.symm, agree_of_insert ho rfl⟩

/-- There are no more files to be had than a catalog and the fragments at hand say. -/
def Bounded (catalog : Catalog) (s : Fragments) : Prop :=
  ∃ keys : List Text, (∀ key file, outcome catalog s key = .ok file → key ∈ keys) ∧
    keys.length ≤ catalog.size + s.entries.size

end RelaxCompact.Fragments

namespace RelaxCompact.Mapping

open Fragments Surface

/-- A key that stands for a file has a source or is kept. -/
theorem mem_of_outcome (m : Mapping) {s : Fragments} {key : Text} {file : File}
    (h : outcome m.catalog s key = .ok file) : key ∈ m.sources.keys ++ s.entries.keys := by
  rw [List.mem_append, ← Table.contains_iff, ← Table.contains_iff, Table.contains, Table.contains]
  rw [outcome] at h
  cases hk : s.entries.get? key with
  | some result => exact .inr rfl
  | none =>
    cases hs : m.sources.get? key with
    | some source => exact .inl rfl
    | none =>
      rw [hk] at h
      change (m.read key >>= fun source => source.parse key) = .ok file at h
      rw [Mapping.read, hs] at h
      cases h

theorem length_append_keys_le (m : Mapping) (s : Fragments) :
    (m.sources.keys ++ s.entries.keys).length ≤ m.catalog.size + s.entries.size := by
  rw [List.length_append]
  exact Nat.add_le_add (Nat.le_of_eq (List.length_map _)) (Nat.le_of_eq (List.length_map _))

theorem bounded (m : Mapping) (s : Fragments) : s.Bounded m.catalog :=
  ⟨_, fun _ _ => m.mem_of_outcome, m.length_append_keys_le s⟩

end RelaxCompact.Mapping
