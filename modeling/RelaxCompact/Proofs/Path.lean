import RelaxCompact.Catalog
import RelaxCompact.Proofs.Table

/-!
Normal forms of paths. What a path is normalized to is in normal form, and a path in normal form is
normalized to itself. So the keys that a mapping makes of hrefs are in normal form, and each of them
is the key of itself.
-/

namespace RelaxCompact

namespace Path

/-- A segment that stands for something below. -/
structure IsName (segment : Text) : Prop where
  ne_nil : segment ≠ []
  ne_dot : segment ≠ dot
  ne_dotDot : segment ≠ dotDot
  not_mem : slash ∉ segment

/-- A path in normal form: `.`, or some slashes and steps up, and names behind them. There are at
most two slashes, and no step up where there are any. -/
inductive Normal : Text → Prop
  | here : Normal dot
  | written {slashes ups : Nat} {names : List Text} : slashes ≤ 2 → (slashes ≠ 0 → ups = 0) →
    slashes + ups + names.length ≠ 0 → (∀ s ∈ names, IsName s) →
    Normal (List.replicate slashes slash ++
      Text.join [slash] (List.replicate ups dotDot ++ names))

/-! Segments -/

theorem segments_eq_splitOn (path : Text) : segments path = path.splitOn slash := by
  induction path with
  | nil => rfl
  | cons p rest ih =>
    rw [List.splitOn_cons_eq_if_modifyHead, segments, ih]
    by_cases hp : p = slash
    · rw [if_pos hp, if_pos (beq_iff_eq.2 hp)]
    · rw [if_neg hp, if_neg (mt beq_iff_eq.1 hp)]
      cases h : rest.splitOn slash with
      | nil => exact absurd h (List.splitOn_ne_nil _ _)
      | cons first others => rfl

theorem not_mem_segments {path segment : Text} (h : segment ∈ segments path) :
    slash ∉ segment := by
  induction path generalizing segment with
  | nil =>
    cases List.mem_singleton.1 h
    exact List.not_mem_nil
  | cons p rest ih =>
    rw [segments] at h
    split at h
    · rcases List.mem_cons.1 h with rfl | h
      · exact List.not_mem_nil
      · exact ih h
    next hp =>
      split at h
      next first others hrest =>
        rw [hrest] at ih
        rcases List.mem_cons.1 h with rfl | h
        · exact List.not_mem_cons_of_ne_of_not_mem (Ne.symm hp) (ih List.mem_cons_self)
        · exact ih (List.mem_cons_of_mem _ h)
      next =>
        cases List.mem_singleton.1 h
        exact List.not_mem_cons_of_ne_of_not_mem (Ne.symm hp) List.not_mem_nil

/-- What segments may be to be told apart when they are joined. -/
def Apart (parts : List Text) : Prop := ∀ s ∈ parts, s ≠ [] ∧ slash ∉ s

section

variable {parts names : List Text} {rooted : Bool}

theorem takeWhile_join (h : Apart parts) :
    (Text.join [slash] parts).takeWhile (· = slash) = [] := by
  cases parts with
  | nil => rfl
  | cons s rest =>
    obtain ⟨hne, hslash⟩ := h s List.mem_cons_self
    cases s with
    | nil => exact absurd rfl hne
    | cons p s =>
      have hp : ¬ p = slash := fun he => hslash (he ▸ List.mem_cons_self)
      cases rest with
      | nil =>
        rw [Text.join, List.intercalate_singleton]
        exact List.takeWhile_cons_of_neg (by simpa using hp)
      | cons t rest =>
        rw [Text.join, List.intercalate_cons_cons]
        exact List.takeWhile_cons_of_neg (by simpa using hp)

/-- The slashes before joined segments are those of the root. -/
theorem takeWhile_written (h : Apart parts) (n : Nat) :
    (List.replicate n slash ++ Text.join [slash] parts).takeWhile (· = slash) =
      List.replicate n slash := by
  rw [List.takeWhile_append_of_pos, takeWhile_join h, List.append_nil]
  intro p hp
  exact decide_eq_true (List.eq_of_mem_replicate hp)

theorem root_written (h : Apart parts) {n : Nat} (hn : n ≤ 2) :
    root (List.replicate n slash ++ Text.join [slash] parts) = List.replicate n slash := by
  rw [root, takeWhile_written h]
  match n, hn with
  | 0, _ => rfl
  | 1, _ => rfl
  | 2, _ => rfl

theorem isAbsolute_iff {path : Text} :
    isAbsolute path = true ↔ path.takeWhile (· = slash) ≠ [] := by
  cases path with
  | nil => exact ⟨nofun, fun h => absurd rfl h⟩
  | cons p rest =>
    by_cases hp : p = slash
    · simp [isAbsolute, hp]
    · simp [isAbsolute, hp]

theorem isAbsolute_written (h : Apart parts) (n : Nat) :
    isAbsolute (List.replicate n slash ++ Text.join [slash] parts) = true ↔ n ≠ 0 := by
  rw [isAbsolute_iff, takeWhile_written h]
  exact not_congr (List.replicate_eq_nil_iff slash)

/-- The root of a path is made of at most two slashes, and of none unless the path begins so. -/
theorem exists_root (path : Text) :
    ∃ n, n ≤ 2 ∧ root path = List.replicate n slash ∧ (isAbsolute path = true ↔ n ≠ 0) := by
  rw [isAbsolute_iff, root]
  split
  next h => exact ⟨0, by decide, rfl, by simp [h]⟩
  next h => exact ⟨2, by decide, rfl, by simp [h]⟩
  next h _ => exact ⟨1, by decide, rfl, by simpa using h⟩

/-! Reducing segments -/

theorem push_nil (kept : List Text) : push rooted kept [] = kept := rfl

theorem push_name {s : Text} (h : IsName s) (kept : List Text) :
    push rooted kept s = s :: kept := by
  unfold push
  rw [if_neg (not_or.2 ⟨h.ne_nil, h.ne_dot⟩), if_neg h.ne_dotDot]

/-- Of a path the same is kept if empty segments are left out. -/
theorem foldl_segments (h : Apart parts) (n : Nat) (kept : List Text) :
    (segments (List.replicate n slash ++ Text.join [slash] parts)).foldl (push rooted) kept =
      parts.foldl (push rooted) kept := by
  induction n with
  | zero =>
    rw [List.replicate_zero, List.nil_append, segments_eq_splitOn]
    by_cases hparts : parts = []
    · subst hparts
      rfl
    · rw [Text.join, List.splitOn_intercalate slash (fun s hs => (h s hs).2) hparts]
  | succ n ih =>
    rw [List.replicate_succ, List.cons_append, segments, if_pos rfl, List.foldl_cons, push_nil]
    exact ih

theorem foldl_ups {ups : Nat} (h : rooted = true → ups = 0) :
    (List.replicate ups dotDot).foldl (push rooted) [] = List.replicate ups dotDot := by
  cases rooted with
  | true =>
    rw [h rfl]
    rfl
  | false =>
    clear h
    induction ups with
    | zero => rfl
    | succ ups ih =>
      rw [List.replicate_succ', List.foldl_append, ih]
      cases ups with
      | zero => rfl
      | succ ups =>
        rw [← List.replicate_succ']
        rfl

theorem foldl_names (h : ∀ s ∈ names, IsName s) (kept : List Text) :
    names.foldl (push rooted) kept = names.reverse ++ kept := by
  induction names generalizing kept with
  | nil => rfl
  | cons s names ih =>
    rw [List.foldl_cons, push_name (h s List.mem_cons_self),
      ih fun s hs => h s (List.mem_cons_of_mem _ hs), List.reverse_cons, List.append_assoc,
      List.singleton_append]

/-- Steps up that no root forbids, and names behind them, come down to themselves. -/
theorem reduce_eq_self {ups : Nat} (hups : rooted = true → ups = 0)
    (hnames : ∀ s ∈ names, IsName s) :
    reduce rooted (List.replicate ups dotDot ++ names) = List.replicate ups dotDot ++ names := by
  rw [reduce, List.foldl_append, foldl_ups hups, foldl_names hnames, List.reverse_append,
    List.reverse_reverse, List.reverse_replicate]

/-- What may be kept of segments, the last one first: names, and below them steps up. -/
def Kept (rooted : Bool) (kept : List Text) : Prop :=
  ∃ ups names, kept = names ++ List.replicate ups dotDot ∧ (rooted = true → ups = 0) ∧
    ∀ s ∈ names, IsName s

theorem Kept.push {kept : List Text} (h : Kept rooted kept) {s : Text} (hs : slash ∉ s) :
    Kept rooted (push rooted kept s) := by
  obtain ⟨ups, names, rfl, hups, hnames⟩ := h
  unfold Path.push
  split
  next => exact ⟨ups, names, rfl, hups, hnames⟩
  next hplain =>
    obtain ⟨hnil, hdot⟩ := not_or.1 hplain
    split
    next =>
      cases names with
      | cons name names =>
        obtain ⟨hname, hnames⟩ := List.forall_mem_cons.1 hnames
        simp only [List.cons_append, if_neg hname.ne_dotDot]
        exact ⟨ups, names, rfl, hups, hnames⟩
      | nil =>
        cases ups with
        | zero =>
          cases rooted with
          | true => exact ⟨0, [], rfl, fun _ => rfl, nofun⟩
          | false => exact ⟨1, [], rfl, nofun, nofun⟩
        | succ ups =>
          exact ⟨ups + 2, [], rfl, fun h => absurd (hups h) (Nat.succ_ne_zero ups), nofun⟩
    next hup =>
      exact ⟨ups, s :: names, rfl, hups,
        List.forall_mem_cons.2 ⟨⟨hnil, hdot, hup, hs⟩, hnames⟩⟩

theorem Kept.foldl {kept : List Text} (h : Kept rooted kept) (hparts : ∀ s ∈ parts, slash ∉ s) :
    Kept rooted (parts.foldl (Path.push rooted) kept) := by
  induction parts generalizing kept with
  | nil => exact h
  | cons s parts ih =>
    obtain ⟨hs, hparts⟩ := List.forall_mem_cons.1 hparts
    exact ih (h.push hs) hparts

/-- Segments come down to steps up, if there is no root, and names behind them. -/
theorem exists_reduce (rooted : Bool) (path : Text) :
    ∃ ups names, reduce rooted (segments path) = List.replicate ups dotDot ++ names ∧
      (rooted = true → ups = 0) ∧ ∀ s ∈ names, IsName s := by
  have hstart : Kept rooted [] := ⟨0, [], rfl, fun _ => rfl, nofun⟩
  obtain ⟨ups, names, hkept, hups, hnames⟩ := hstart.foldl fun s hs => not_mem_segments hs
  refine ⟨ups, names.reverse, ?_, hups, fun s hs => hnames s (List.mem_reverse.1 hs)⟩
  rw [reduce, hkept, List.reverse_append, List.reverse_replicate]

theorem apart_of_names {ups : Nat} (h : ∀ s ∈ names, IsName s) :
    Apart (List.replicate ups dotDot ++ names) := by
  intro s hs
  rcases List.mem_append.1 hs with hs | hs
  · rw [List.eq_of_mem_replicate hs]
    decide
  · exact ⟨(h s hs).ne_nil, (h s hs).not_mem⟩

theorem join_ne_nil (h : Apart parts) (hne : parts ≠ []) : Text.join [slash] parts ≠ [] := by
  intro he
  have hparts := List.splitOn_intercalate slash (fun s hs => (h s hs).2) hne
  rw [← Text.join, he, List.splitOn_nil] at hparts
  exact (h [] (hparts ▸ List.mem_cons_self)).1 rfl

end

/-! Normal forms -/

theorem normalize_ne_nil (path : Text) : normalize path ≠ [] := by
  unfold normalize
  dsimp only
  split
  next => decide
  next h => exact h

theorem normal_normalize (path : Text) : Normal (normalize path) := by
  obtain ⟨slashes, hslashes, hroot, habsolute⟩ := exists_root path
  obtain ⟨ups, names, hreduce, hups, hnames⟩ := exists_reduce (isAbsolute path) path
  rw [normalize, hreduce, hroot]
  split
  next => exact .here
  next hne =>
    apply Normal.written hslashes (fun h => hups (habsolute.2 h)) _ hnames
    intro hzero
    obtain ⟨rfl, rfl, hlength⟩ : slashes = 0 ∧ ups = 0 ∧ names.length = 0 := by omega
    rw [List.length_eq_zero_iff] at hlength
    subst hlength
    exact hne rfl

theorem Normal.normalize_eq {path : Text} (h : Normal path) : normalize path = path := by
  cases h with
  | here => decide +kernel
  | @written slashes ups names hslashes hups hne hnames =>
    have hapart : Apart (List.replicate ups dotDot ++ names) := apart_of_names hnames
    have hrooted := isAbsolute_written hapart slashes
    rw [normalize, root_written hapart hslashes, reduce, foldl_segments hapart, ← reduce,
      reduce_eq_self (fun h => hups (hrooted.1 h)) hnames]
    split
    next hnil =>
      obtain ⟨hroot, hjoin⟩ := List.append_eq_nil_iff.1 hnil
      have hparts := not_not.1 (mt (join_ne_nil hapart) (not_not.2 hjoin))
      obtain ⟨hup, rfl⟩ := List.append_eq_nil_iff.1 hparts
      rw [List.replicate_eq_nil_iff] at hroot hup
      exact absurd (by rw [hroot, hup]; rfl) hne
    next => rfl

example : normalize "//a//../b/./c/" = "//b/c" := by decide +kernel

example : normalize "a/../../b" = "../b" := by decide +kernel

/-- A path is in normal form if normalizing leaves it as it is. -/
theorem normal_iff {path : Text} : Normal path ↔ normalize path = path := by
  constructor
  · exact Normal.normalize_eq
  · intro h
    rw [← h]
    exact normal_normalize path

end Path

namespace Mapping

theorem normal_canonicalize (href base : Text) : Path.Normal (canonicalize href base) := by
  rw [canonicalize]
  split
  · exact Path.normal_normalize _
  · exact Path.normal_normalize _

theorem canonicalize_ne_nil (href base : Text) : canonicalize href base ≠ [] := by
  unfold canonicalize
  split <;> exact Path.normalize_ne_nil _

/-- A path in normal form is its own key. -/
theorem canonicalize_of_normal {path : Text} (h : Path.normalize path = path) :
    canonicalize path [] = path := by
  have hjoin : Path.join (baseDirectory []) path = path := by
    unfold Path.join
    split
    next => rfl
    next => rfl
  unfold canonicalize
  rw [hjoin]
  split <;> exact h

/-- A key has a source if the path of one of the sources is normalized to it. -/
theorem exists_read_iff {sources : List (Text × Source)} {key : Text} :
    (∃ source, (ofList sources).read key = .ok source) ↔
      ∃ entry ∈ sources, Path.normalize entry.1 = key := by
  have hcontains : (ofList sources).sources.contains key = true ↔
      ∃ entry ∈ sources, Path.normalize entry.1 = key := by
    rw [ofList, Table.contains_ofList, List.map_map, List.mem_map]
    rfl
  rw [← hcontains, Table.contains, read]
  cases (ofList sources).sources.get? key with
  | none => simp
  | some source => simp

end Mapping

end RelaxCompact
