import RelaxCompact.Proofs.Caching.Growth
import RelaxCompact.Proofs.Lists

/-!
Prefetching asks for the same keys whatever is known already. A round that comes to new files has
seen a key more of those that can be had, so the budget of rounds never runs out.
-/

namespace RelaxCompact

/-- How many of some keys are not among those seen. -/
def room (keys seen : List Text) : Nat := keys.countP fun key => !seen.contains key

theorem room_le_length (keys seen : List Text) : room keys seen ≤ keys.length :=
  List.countP_le_length

theorem room_le (keys : List Text) {seen seen' : List Text} (h : seen ⊆ seen') :
    room keys seen' ≤ room keys seen := by
  apply List.countP_mono_left
  intro key _ hkey
  rw [Bool.not_eq_true', ← Bool.not_eq_true, List.contains_iff_mem] at hkey ⊢
  exact fun hm => hkey (h hm)

theorem room_cons_of_mem {key : Text} {seen : List Text} (h : key ∈ seen) (keys : List Text) :
    room (key :: keys) seen = room keys seen := by
  apply List.countP_cons_of_neg
  rw [List.contains_iff_mem.2 h]
  exact Bool.false_ne_true

theorem room_cons_of_not_mem {key : Text} {seen : List Text} (h : key ∉ seen) (keys : List Text) :
    room (key :: keys) seen = room keys seen + 1 := by
  apply List.countP_cons_of_pos
  rw [Bool.not_eq_true', ← Bool.not_eq_true, List.contains_iff_mem]
  exact h

/-- There is less room when one of the keys is seen. -/
theorem room_lt {keys seen seen' : List Text} (h : seen ⊆ seen') {key : Text} (hk : key ∈ keys)
    (hnot : key ∉ seen) (hin : key ∈ seen') : room keys seen' < room keys seen := by
  induction keys with
  | nil => cases hk
  | cons first keys ih =>
    have hle := room_le keys h
    by_cases he : first = key
    · subst first
      rw [room_cons_of_mem hin, room_cons_of_not_mem hnot]
      exact Nat.lt_succ_of_le hle
    · have hlt := ih ((List.mem_cons.1 hk).resolve_left (Ne.symm he))
      by_cases hf : first ∈ seen
      · rw [room_cons_of_mem hf, room_cons_of_mem (h hf)]
        exact hlt
      · rw [room_cons_of_not_mem hf]
        by_cases hf' : first ∈ seen'
        · rw [room_cons_of_mem hf']
          exact Nat.lt_succ_of_lt hlt
        · rw [room_cons_of_not_mem hf']
          exact Nat.succ_lt_succ hlt

theorem room_cons_lt {keys seen : List Text} {key : Text} (hk : key ∈ keys) (hnot : key ∉ seen) :
    room keys (key :: seen) < room keys seen :=
  room_lt (List.subset_cons_self key seen) hk hnot List.mem_cons_self

namespace Fragments

open Run Surface

theorem freshKeys_eq (seen keys : List Text) :
    (freshKeys seen keys).2 = seen ++ (freshKeys seen keys).1 := by
  induction keys generalizing seen with
  | nil => exact (List.append_nil seen).symm
  | cons key keys ih =>
    rw [freshKeys]
    split
    · exact ih seen
    · rw [ih, List.append_assoc, List.singleton_append]

theorem mem_freshKeys {seen keys : List Text} {key : Text} (h : key ∈ (freshKeys seen keys).1) :
    key ∈ keys ∧ key ∉ seen := by
  induction keys generalizing seen with
  | nil => cases h
  | cons first keys ih =>
    rw [freshKeys] at h
    split at h
    · exact ⟨List.mem_cons_of_mem _ (ih h).1, (ih h).2⟩
    next hfirst =>
      rcases List.mem_cons.1 h with rfl | h
      · exact ⟨List.mem_cons_self, hfirst⟩
      · exact ⟨List.mem_cons_of_mem _ (ih h).1, fun hm => (ih h).2 (List.mem_append_left _ hm)⟩

/-- The files that hrefs lead to from a root file, each with the key under which it is reached. -/
inductive Visits (catalog : Catalog) (s : Fragments) (key : Text) (root : File) :
    Text → File → Prop
  | root : Visits catalog s key root key root
  | href {base file href key' file'} : Visits catalog s key root base file → href ∈ file.hrefs →
    catalog.canonicalize href base = .ok key' → outcome catalog s key' = .ok file' →
    Visits catalog s key root key' file'

/-- An href of a file that is visited leads to a key. -/
def Requested (catalog : Catalog) (s : Fragments) (key : Text) (root : File) (key' : Text) : Prop :=
  ∃ base file, Visits catalog s key root base file ∧
    ∃ href ∈ file.hrefs, catalog.canonicalize href base = .ok key'

/-- The keys that a root file needs, directly or through files behind such keys. The key of the root
itself is never needed. -/
inductive Needed (catalog : Catalog) (s : Fragments) (key : Text) (root : File) : Text → Prop
  | root {href key'} : href ∈ root.hrefs → catalog.canonicalize href key = .ok key' → key' ≠ key →
    Needed catalog s key root key'
  | fragment {base file href key'} : Needed catalog s key root base →
    outcome catalog s base = .ok file → href ∈ file.hrefs →
    catalog.canonicalize href base = .ok key' → key' ≠ key → Needed catalog s key root key'

/-- A failure that ends the prefetching from a root: that of a key on the way, if no refused schema
is its cause, or that of an href which has no key. -/
def Breaks (catalog : Catalog) (s : Fragments) (key : Text) (root : File) (e : Failure) : Prop :=
  (∃ href base, catalog.canonicalize href base = .error e) ∨
    ∃ key', Requested catalog s key root key' ∧ outcome catalog s key' = .error e ∧
      e.schemaError? = none

section

variable {catalog : Catalog} {o o' : Fragments} {E : Failure → Fragments → Fragments → Prop}

/-- The keys of a frontier are requested. -/
theorem requested_of_mem {key : Text} {root : File} {frontier : List (Text × File)}
    (hfrontier : ∀ entry ∈ frontier, Visits catalog o key root entry.1 entry.2)
    {found : List (List Text)}
    (hfound : (frontier.mapM fun entry => keysOf catalog entry.1 entry.2) = .ok found)
    {key' : Text} (hm : key' ∈ found.flatten) : Requested catalog o key root key' := by
  obtain ⟨ks, hks, hm⟩ := List.mem_flatten.1 hm
  obtain ⟨entry, hentry, hks⟩ := mem_of_mapM_ok hfound hks
  obtain ⟨href, hhref, hkey⟩ := mem_of_mapM_ok hks hm
  exact ⟨_, _, hfrontier entry hentry, href, hhref, hkey⟩

/-- A file that a requested key stands for is visited. -/
theorem Requested.visits {key : Text} {root : File} {key' : Text}
    (h : Requested catalog o key root key') {file : File}
    (hfile : outcome catalog o key' = .ok file) : Visits catalog o key root key' file := by
  obtain ⟨base, file', hvisits, href, hhref, hkey⟩ := h
  exact .href hvisits hhref hkey hfile

/-- Both runs take the files among the results; only a failure without a refused schema ends
them. -/
theorem harvest_alike (results : List (Text × Except Failure File))
    (he : ∀ key e, (key, .error e) ∈ results → e.schemaError? = none →
      ∀ s u, Grown catalog o o' s u → E e s u) :
    Alike E (Grown catalog o o') (Grown catalog o o')
      (fun next => ∀ entry ∈ next, (entry.1, .ok entry.2) ∈ results)
      (harvest results) (harvest results) := by
  induction results with
  | nil => exact .pure nofun
  | cons first results ih =>
    have hrest := ih fun key e hm => he key e (List.mem_cons_of_mem _ hm)
    obtain ⟨key, result⟩ := first
    cases result with
    | ok file =>
      refine hrest.bind fun next hnext => .pure fun entry hm => ?_
      rcases List.mem_cons.1 hm with rfl | hm
      · exact List.mem_cons_self
      · exact List.mem_cons_of_mem _ (hnext entry hm)
    | error e =>
      have hskip (message : Text) : Alike E (Grown catalog o o') (Grown catalog o o')
          (fun next => ∀ entry ∈ next, (entry.1, .ok entry.2) ∈ (key, .error e) :: results)
          (do
            report .fragments .debug ("Prefetch of " ++ key ++ " failed: " ++ message)
            harvest results)
          (do
            report .fragments .debug ("Prefetch of " ++ key ++ " failed: " ++ message)
            harvest results) :=
        (report_alike (failed_ne_parseRecord key message)).bind fun _ _ =>
          hrest.weaken fun next hnext entry hm => List.mem_cons_of_mem _ (hnext entry hm)
      cases e with
      | schema e => exact hskip e.message
      | _ => exact .throw (he key _ List.mem_cons_self rfl)

variable {keys : List Text} {key : Text} {root : File}

/-- Both runs go through the same rounds. -/
theorem rounds_alike (ho : Agree catalog o o')
    (hkeys : ∀ key file, outcome catalog o key = .ok file → key ∈ keys)
    (he : ∀ e, Breaks catalog o key root e → ∀ s u, Grown catalog o o' s u → E e s u)
    {b b' : Nat} {seen : List Text} {frontier : List (Text × File)}
    (hfrontier : ∀ entry ∈ frontier, Visits catalog o key root entry.1 entry.2)
    (hb : frontier ≠ [] → room keys seen < b) (hb' : frontier ≠ [] → room keys seen < b') :
    Alike E (Grown catalog o o') (Grown catalog o o') (fun _ => True)
      (rounds catalog b seen frontier) (rounds catalog b' seen frontier) := by
  induction b generalizing b' seen frontier with
  | zero =>
    cases frontier with
    | nil =>
      simp only [rounds]
      exact .pure trivial
    | cons entry frontier => exact absurd (hb (List.cons_ne_nil _ _)) (Nat.not_lt_zero _)
  | succ b ih =>
    cases frontier with
    | nil =>
      simp only [rounds]
      exact .pure trivial
    | cons entry frontier =>
      have hroom := hb (List.cons_ne_nil _ _)
      have hroom' := hb' (List.cons_ne_nil _ _)
      cases b' with
      | zero => exact absurd hroom' (Nat.not_lt_zero _)
      | succ b' =>
        simp only [rounds]
        refine (Alike.liftExcept fun e hmap => he e (.inl ?_)).bind fun found hfound => ?_
        · obtain ⟨entry', -, hmap⟩ := exists_of_mapM_error hmap
          obtain ⟨href, -, hkey⟩ := exists_of_mapM_error hmap
          exact ⟨href, _, hkey⟩
        · have hall := freshKeys_eq seen found.flatten
          have hnew (key' : Text) (hm : key' ∈ (freshKeys seen found.flatten).1) :
              Requested catalog o key root key' ∧ key' ∉ seen :=
            ⟨requested_of_mem hfrontier hfound (mem_freshKeys hm).1, (mem_freshKeys hm).2⟩
          generalize freshKeys seen found.flatten = split at hall hnew
          obtain ⟨fresh, all⟩ := split
          dsimp only at hall hnew ⊢
          refine (Alike.mapM (attempt_alike ho) fresh).bind fun results hresults => ?_
          subst hresults
          refine (harvest_alike _ fun key' e hm hcause => he e (.inr ?_)).bind fun next hnext => ?_
          · obtain ⟨hm, hout⟩ := of_mem_zip_map hm
            exact ⟨key', (hnew _ hm).1, hout, hcause⟩
          · -- A round with new files has seen a key that can be had, so the budgets suffice.
            have hless (hne : next ≠ []) : room keys all < room keys seen := by
              obtain ⟨entry', hm⟩ := List.exists_mem_of_ne_nil next hne
              obtain ⟨hm, hout⟩ := of_mem_zip_map (hnext _ hm)
              rw [hall]
              exact room_lt (List.subset_append_left _ _) (hkeys _ _ hout) (hnew _ hm).2
                (List.mem_append_right _ hm)
            have hvisits (entry' : Text × File) (hm : entry' ∈ next) :
                Visits catalog o key root entry'.1 entry'.2 := by
              obtain ⟨hm, hout⟩ := of_mem_zip_map (hnext _ hm)
              exact (hnew _ hm).1.visits hout
            refine (ih hvisits (fun hne => ?_) fun hne => ?_).bind fun _ _ => .pure trivial
            · exact Nat.lt_of_lt_of_le (hless hne) (Nat.le_of_lt_succ hroom)
            · exact Nat.lt_of_lt_of_le (hless hne) (Nat.le_of_lt_succ hroom')

/-- Both runs prefetch alike, as no more keys can be had than the catalog says. -/
theorem prefetch_alike (ho : Agree catalog o o')
    (hkeys : ∀ key file, outcome catalog o key = .ok file → key ∈ keys)
    (hsize : keys.length ≤ catalog.size) {workers : Int}
    (hworkers : workers < 1 → ∀ s u, Grown catalog o o' s u → E .noWorkers s u)
    (he : ∀ e, Breaks catalog o key root e → ∀ s u, Grown catalog o o' s u → E e s u) :
    Alike E (Grown catalog o o') (Grown catalog o o') (fun _ => True)
      (prefetch catalog key root workers) (prefetch catalog key root workers) := by
  have hroom (known : Nat) : room keys [key] < catalog.size + known + 1 := by
    have hle := room_le_length keys [key]
    omega
  unfold prefetch
  refine .ite (fun hfew => .throw (hworkers hfew)) fun _ => .get fun s u _ => ?_
  refine rounds_alike ho hkeys he (fun entry hm => ?_) (fun _ => hroom _) fun _ => hroom _
  cases List.mem_singleton.1 hm
  exact .root

end

end Fragments

end RelaxCompact
