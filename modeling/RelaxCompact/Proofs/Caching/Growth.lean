import Mathlib.Data.List.Basic
import RelaxCompact.Proofs.Alike
import RelaxCompact.Proofs.Fragments

/-!
How the known fragments grow. Fetching keeps every entry that is there, changes no outcome, and
parses no key twice; so two runs over states that agree fetch the same.
-/

namespace RelaxCompact.Fragments

open Run Surface

/-- The report that a key is parsed. -/
def parseRecord (key : Text) : Record :=
  ⟨.fragments, .debug, "Parsing grammar fragment " ++ key⟩

theorem parseRecord_injective {key key' : Text} (h : parseRecord key = parseRecord key') :
    key = key' :=
  List.append_cancel_left (congrArg Record.message h)

/-- Parses are counted: a key with a file was parsed once with success, any other key never. -/
structure Counted (s : Fragments) : Prop where
  succeeded : ∀ key file, s.entries.get? key = some (.ok file) → s.parses.get? key = some 1
  other : ∀ key, (∀ file, s.entries.get? key ≠ some (.ok file)) → s.parses.get? key = none

/-- No key is parsed twice, not even in vain, and none without its result being kept. -/
structure ParsedOnce (s : Fragments) : Prop where
  once : ∀ key, s.journal.count (parseRecord key) ≤ 1
  unknown : ∀ key, s.entries.get? key = none → s.journal.count (parseRecord key) = 0

/-- What fetching does to the known fragments. -/
structure Grows (catalog : Catalog) (s t : Fragments) : Prop where
  agree : Agree catalog s t
  kept : ∀ key result, s.entries.get? key = some result → t.entries.get? key = some result
  counted : s.Counted → t.Counted
  parsedOnce : s.ParsedOnce → t.ParsedOnce

namespace Grows

variable {catalog : Catalog} {s t u : Fragments}

theorem refl (catalog : Catalog) (s : Fragments) : Grows catalog s s :=
  ⟨.refl catalog s, fun _ _ => id, id, id⟩

theorem trans (hst : Grows catalog s t) (htu : Grows catalog t u) : Grows catalog s u where
  agree := hst.agree.trans htu.agree
  kept key result h := htu.kept key result (hst.kept key result h)
  counted h := htu.counted (hst.counted h)
  parsedOnce h := htu.parsedOnce (hst.parsedOnce h)

end Grows

/-! Reports -/

/-- One more record in the journal. -/
def noted (s : Fragments) (r : Record) : Fragments := { s with journal := s.journal ++ [r] }

theorem noted_grows (catalog : Catalog) (s : Fragments) {r : Record}
    (hr : ∀ key, r ≠ parseRecord key) : Grows catalog s (s.noted r) where
  agree := agree_of_entries rfl
  kept _ _ := id
  counted h := ⟨h.succeeded, h.other⟩
  parsedOnce h := by
    have hcount (key : Text) :
        (s.noted r).journal.count (parseRecord key) = s.journal.count (parseRecord key) := by
      rw [noted, List.count_append, List.count_singleton, beq_false_of_ne (hr key)]
      rfl
    refine ⟨fun key => ?_, fun key hk => ?_⟩
    · rw [hcount]
      exact h.once key
    · rw [hcount]
      exact h.unknown key hk

/-- Only the fragments report parses. -/
theorem ne_parseRecord {reporter : Reporter} (h : reporter ≠ .fragments) (severity : Severity)
    (message key : Text) : (⟨reporter, severity, message⟩ : Record) ≠ parseRecord key :=
  fun he => h (congrArg Record.reporter he)

/-- Texts that begin differently are not the same. -/
theorem append_ne_of_take {a b : Text} (n : Nat) (ha : n ≤ a.length) (hb : n ≤ b.length)
    (h : a.take n ≠ b.take n) (x y : Text) : a ++ x ≠ b ++ y := by
  intro he
  apply h
  rw [← List.take_append_of_le_length ha, he, List.take_append_of_le_length hb]

theorem hit_ne_parseRecord (key key' : Text) :
    (⟨.fragments, .debug, "Fragment cache hit for " ++ key⟩ : Record) ≠ parseRecord key' :=
  fun h => append_ne_of_take 1 (by decide +kernel) (by decide +kernel) (by decide +kernel) _ _
    (congrArg Record.message h)

theorem failed_ne_parseRecord (key message key' : Text) :
    (⟨.fragments, .debug, "Prefetch of " ++ key ++ " failed: " ++ message⟩ : Record) ≠
      parseRecord key' := by
  intro h
  have hmessage := congrArg Record.message h
  simp only [parseRecord, List.append_assoc] at hmessage
  exact append_ne_of_take 2 (by decide +kernel) (by decide +kernel) (by decide +kernel) _ _ hmessage

/-! Fetching -/

/-- The state after a key has come to a result. -/
def keep (s : Fragments) (key : Text) (result : Except Failure File) : Fragments :=
  { s with entries := s.entries.insert key result }

section

variable {catalog : Catalog} {s : Fragments} {key : Text}

theorem get?_keep_self (s : Fragments) (key : Text) (result : Except Failure File) :
    (s.keep key result).entries.get? key = some result :=
  Table.get?_insert_self _ _ _

theorem get?_keep_of_ne (s : Fragments) {key other : Text} (hne : other ≠ key)
    (result : Except Failure File) :
    (s.keep key result).entries.get? other = s.entries.get? other :=
  Table.get?_insert_of_ne _ hne _

/-- A new entry replaces none. -/
theorem kept_keep (hnone : s.entries.get? key = none) (result : Except Failure File)
    (other : Text) (r : Except Failure File) (h : s.entries.get? other = some r) :
    (s.keep key result).entries.get? other = some r := by
  have hne : other ≠ key := by
    rintro rfl
    cases hnone.symm.trans h
  rw [get?_keep_of_ne s hne, h]

/-- A failure is kept and no parse counted. -/
theorem counted_keep_error (h : s.Counted) (hnone : s.entries.get? key = none) (e : Failure) :
    (s.keep key (.error e)).Counted where
  succeeded other file hother := by
    by_cases he : other = key
    · subst other
      rw [get?_keep_self] at hother
      cases hother
    · rw [get?_keep_of_ne s he] at hother
      exact h.succeeded other file hother
  other other hother := by
    by_cases he : other = key
    · subst other
      exact h.other key fun file hf => nomatch hnone.symm.trans hf
    · simp only [get?_keep_of_ne s he] at hother
      exact h.other other hother

/-- A file is kept with its one parse. -/
theorem counted_keep_ok (h : s.Counted) (hnone : s.entries.get? key = none) (file : File) :
    ((s.parsed key).keep key (.ok file)).Counted where
  succeeded other f hother := by
    change (s.parses.insert key ((s.parses.get? key).getD 0 + 1)).get? other = some 1
    by_cases he : other = key
    · subst other
      have hparses := h.other key fun file hf => nomatch hnone.symm.trans hf
      rw [Table.get?_insert_self, hparses]
      rfl
    · rw [get?_keep_of_ne _ he] at hother
      rw [Table.get?_insert_of_ne _ he]
      exact h.succeeded other f hother
  other other hother := by
    change (s.parses.insert key _).get? other = none
    by_cases he : other = key
    · subst other
      exact absurd (get?_keep_self _ _ _) (hother file)
    · simp only [get?_keep_of_ne _ he] at hother
      rw [Table.get?_insert_of_ne _ he]
      exact h.other other hother

theorem parsedOnce_keep (h : s.ParsedOnce) (result : Except Failure File) :
    (s.keep key result).ParsedOnce where
  once := h.once
  unknown other hother := by
    have hne : other ≠ key := by
      rintro rfl
      rw [get?_keep_self] at hother
      cases hother
    rw [get?_keep_of_ne s hne] at hother
    exact h.unknown other hother

/-- A key without an entry may be parsed, if an entry is kept of it. -/
theorem parsedOnce_keep_parsing (h : s.ParsedOnce) (hnone : s.entries.get? key = none)
    (result : Except Failure File) : ((s.parsing key).keep key result).ParsedOnce where
  once other := by
    change (s.journal ++ [parseRecord key]).count (parseRecord other) ≤ 1
    rw [List.count_append, List.count_singleton]
    by_cases he : other = key
    · subst other
      rw [h.unknown key hnone, beq_self_eq_true]
      exact Nat.le_refl 1
    · rw [beq_false_of_ne fun hr => he (parseRecord_injective hr).symm]
      exact h.once other
  unknown other hother := by
    have hne : other ≠ key := by
      rintro rfl
      rw [get?_keep_self] at hother
      cases hother
    rw [get?_keep_of_ne _ hne] at hother
    change (s.journal ++ [parseRecord key]).count (parseRecord other) = 0
    rw [List.count_append, List.count_singleton,
      beq_false_of_ne fun hr => hne (parseRecord_injective hr).symm]
    exact h.unknown other hother

theorem grows_of_attempt {t : Fragments} {result : Except Failure File}
    (h : attempt catalog key s = .ok result t) : Grows catalog s t := by
  have hagree := (attempt_ok h).2
  unfold attempt fetch at h
  cases hk : s.entries.get? key with
  | some kept =>
    have ht : t = s.noted ⟨.fragments, .debug, "Fragment cache hit for " ++ key⟩ := by
      rw [hk] at h
      cases kept <;> cases h <;> rfl
    rw [ht]
    exact noted_grows catalog s (hit_ne_parseRecord key)
  | none =>
    rw [hk, load_eq] at h
    have hparsing (hc : s.Counted) : (s.parsing key).Counted := ⟨hc.succeeded, hc.other⟩
    cases hr : catalog.read key with
    | error e =>
      simp only [hr] at h
      cases h
      exact ⟨hagree, kept_keep hk _, fun hc => counted_keep_error hc hk e,
        fun ho => parsedOnce_keep ho _⟩
    | ok source =>
      cases hp : source.parse key with
      | error e =>
        simp only [hr, hp] at h
        cases h
        exact ⟨hagree, kept_keep hk _, fun hc => counted_keep_error (hparsing hc) hk e,
          fun ho => parsedOnce_keep_parsing ho hk _⟩
      | ok file =>
        simp only [hr, hp] at h
        cases h
        refine ⟨hagree, kept_keep hk _, fun hc => counted_keep_ok (hparsing hc) hk file,
          fun ho => ?_⟩
        have honce := parsedOnce_keep_parsing ho hk (.ok file)
        exact ⟨honce.once, honce.unknown⟩

/-- Trying a key always ends with its outcome. -/
theorem attempt_eq (catalog : Catalog) (key : Text) (s : Fragments) :
    ∃ t, attempt catalog key s = .ok (outcome catalog s key) t ∧ Grows catalog s t := by
  cases h : attempt catalog key s with
  | error e t =>
    unfold attempt at h
    split at h <;> cases h
  | ok result t =>
    rw [(attempt_ok h).1]
    exact ⟨t, rfl, grows_of_attempt h⟩

/-- To fetch a key is to try it and to take its failure as one's own. -/
theorem fetch_eq (catalog : Catalog) (key : Text) :
    fetch catalog key = attempt catalog key >>= liftExcept := by
  funext s
  change _ = EStateM.bind (attempt catalog key) liftExcept s
  unfold EStateM.bind attempt
  cases fetch catalog key s <;> rfl

end

/-! Two runs that fetch -/

/-- Where two runs have come that began with `o` and `o'`. -/
structure Grown (catalog : Catalog) (o o' s u : Fragments) : Prop where
  left : Grows catalog o s
  right : Grows catalog o' u

section

variable {catalog : Catalog} {o o' : Fragments} {E : Failure → Fragments → Fragments → Prop}

theorem noted_alike {r : Record} (hr : ∀ key, r ≠ parseRecord key) :
    Alike E (Grown catalog o o') (Grown catalog o o') (fun _ => True)
      (modify fun s => s.noted r) (modify fun s => s.noted r) :=
  .modify fun s u h =>
    ⟨h.left.trans (noted_grows catalog s hr), h.right.trans (noted_grows catalog u hr)⟩

theorem report_alike {reporter : Reporter} {severity : Severity} {message : Text}
    (hr : ∀ key, (⟨reporter, severity, message⟩ : Record) ≠ parseRecord key) :
    Alike E (Grown catalog o o') (Grown catalog o o') (fun _ => True)
      (report reporter severity message) (report reporter severity message) :=
  noted_alike hr

/-- Both runs come to the outcome of a key. -/
theorem attempt_alike (ho : Agree catalog o o') (key : Text) :
    Alike E (Grown catalog o o') (Grown catalog o o') (· = outcome catalog o key)
      (attempt catalog key) (attempt catalog key) := by
  intro s u h
  obtain ⟨t, ht, hst⟩ := attempt_eq catalog key s
  obtain ⟨v, hv, huv⟩ := attempt_eq catalog key u
  have hs : outcome catalog s key = outcome catalog o key := h.left.agree key
  have hu : outcome catalog u key = outcome catalog o key := (h.right.agree key).trans (ho key)
  rw [ht, hv]
  exact ⟨hu.trans hs.symm, hs, h.left.trans hst, h.right.trans huv⟩

theorem fetch_alike (ho : Agree catalog o o') {key : Text}
    (he : ∀ e, outcome catalog o key = .error e → ∀ s u, Grown catalog o o' s u → E e s u) :
    Alike E (Grown catalog o o') (Grown catalog o o') (fun file => outcome catalog o key = .ok file)
      (fetch catalog key) (fetch catalog key) := by
  rw [fetch_eq]
  refine (attempt_alike ho key).bind fun result hresult => ?_
  subst hresult
  exact .liftExcept he

end

end RelaxCompact.Fragments
