import Mathlib.Order.WellFounded
import RelaxCompact.Proofs.Caching.Covering

/-!
Prefetching on a pool of workers. Within a round the keys are fetched by several workers, and their
results are looked at as they come in. Whatever the order in which this happens and however many
workers there are, the same keys are requested, and the prefetching comes to an end.
-/

namespace RelaxCompact

namespace Fragments

open Run Surface

/-- Prefetching between two of its steps. -/
structure Pool where
  fragments : Fragments
  -- The keys requested so far.
  requested : List Text
  -- The hrefs that the round has still to look at, each with the key of its file.
  ahead : List (Text × Text)
  -- Keys that no worker has come to, and keys that workers are fetching.
  waiting : List Text
  running : List Text
  -- Results that were not looked at, and the files among those that were.
  finished : List (Text × Except Failure File)
  frontier : List (Text × File)

/-- The hrefs of some files. -/
def hrefsOf (files : List (Text × File)) : List (Text × Text) :=
  files.flatMap fun entry => entry.2.hrefs.map (entry.1, ·)

namespace Pool

/-- Before the first round. -/
def start (s : Fragments) (top : Text) (root : File) : Pool :=
  ⟨s, [], [], [], [], [], [(top, root)]⟩

/-- Nothing is left to be done. -/
def Done (p : Pool) : Prop :=
  p.ahead = [] ∧ p.waiting = [] ∧ p.running = [] ∧ p.finished = [] ∧ p.frontier = []

/-- Keys that are requested and of which the result was not looked at. -/
def pending (p : Pool) : List Text := p.waiting ++ p.running ++ p.finished.map Prod.fst

/-- What can happen next. Keys are requested in the order of the hrefs and given to workers in the
order in which they are requested, but workers may come to an end in any order, and so may their
results be looked at. No two workers fetch one key, so a fetch is one step. There is no step for a
failure that is not a refused schema: it ends the run. -/
inductive Step (catalog : Catalog) (workers : Int) (top : Text) : Pool → Pool → Prop
  | turn {s requested frontier} : frontier ≠ [] →
    Step catalog workers top ⟨s, requested, [], [], [], [], frontier⟩
      ⟨s, requested, hrefsOf frontier, [], [], [], []⟩
  | pass {s requested base href ahead waiting running finished frontier key} :
    catalog.canonicalize href base = .ok key → key ∈ top :: requested →
    Step catalog workers top
      ⟨s, requested, (base, href) :: ahead, waiting, running, finished, frontier⟩
      ⟨s, requested, ahead, waiting, running, finished, frontier⟩
  | submit {s requested base href ahead waiting running finished frontier key} :
    catalog.canonicalize href base = .ok key → key ∉ top :: requested →
    Step catalog workers top
      ⟨s, requested, (base, href) :: ahead, waiting, running, finished, frontier⟩
      ⟨s, requested ++ [key], ahead, waiting ++ [key], running, finished, frontier⟩
  | start {s requested ahead key waiting running finished frontier} :
    (running.length : Int) < workers →
    Step catalog workers top
      ⟨s, requested, ahead, key :: waiting, running, finished, frontier⟩
      ⟨s, requested, ahead, waiting, key :: running, finished, frontier⟩
  | finish {s t requested ahead waiting} (before : List Text) {key after result finished frontier} :
    attempt catalog key s = .ok result t →
    Step catalog workers top
      ⟨s, requested, ahead, waiting, before ++ key :: after, finished, frontier⟩
      ⟨t, requested, ahead, waiting, before ++ after, finished ++ [(key, result)], frontier⟩
  | take {s requested waiting running} (before : List (Text × Except Failure File))
      {key file after frontier} :
    Step catalog workers top
      ⟨s, requested, [], waiting, running, before ++ (key, .ok file) :: after, frontier⟩
      ⟨s, requested, [], waiting, running, before ++ after, frontier ++ [(key, file)]⟩
  | note {s requested waiting running} (before : List (Text × Except Failure File))
      {key e after frontier} :
    Step catalog workers top
      ⟨s, requested, [], waiting, running, before ++ (key, .error (.schema e)) :: after, frontier⟩
      ⟨s.noted ⟨.fragments, .debug, "Prefetch of " ++ key ++ " failed: " ++ e.message⟩, requested,
        [], waiting, running, before ++ after, frontier⟩

/-- How a pool comes from one to another of its states. -/
abbrev Runs (catalog : Catalog) (workers : Int) (top : Text) : Pool → Pool → Prop :=
  Relation.ReflTransGen (Step catalog workers top)

end Pool

section

variable {catalog : Catalog} {workers : Int} {o s t : Fragments} {top : Text} {root : File}
  {p q : Pool}

/-! What every step preserves -/

/-- What is true of a pool between two steps of prefetching from `root`. -/
structure Underway (catalog : Catalog) (o : Fragments) (top : Text) (root : File) (p : Pool) :
    Prop where
  agree : Agree catalog o p.fragments
  nodup : (top :: p.requested).Nodup
  needed : ∀ key ∈ p.requested, Needed catalog o top root key
  ahead : ∀ entry ∈ p.ahead, (entry.1 ≠ top → Needed catalog o top root entry.1) ∧
    ∃ file, Behind catalog o top root entry.1 file ∧ entry.2 ∈ file.hrefs
  waiting : ∀ key ∈ p.waiting, key ∈ p.requested
  running : ∀ key ∈ p.running, key ∈ p.requested
  finished : ∀ entry ∈ p.finished,
    entry.1 ∈ p.requested ∧ outcome catalog o entry.1 = entry.2
  frontier : ∀ entry ∈ p.frontier, (entry.1 ≠ top → Needed catalog o top root entry.1) ∧
    Behind catalog o top root entry.1 entry.2
  kept : ∀ key ∈ p.requested, key ∈ p.waiting ∨ key ∈ p.running ∨
    p.fragments.entries.get? key = some (outcome catalog o key)
  -- An href of a file that is known is ahead or its key is requested.
  closed : ∀ key ∈ top :: p.requested, ∀ file, Behind catalog o top root key file →
    key ∈ p.pending ∨ (key, file) ∈ p.frontier ∨
      ∀ href ∈ file.hrefs, (key, href) ∈ p.ahead ∨
        ∀ key', catalog.canonicalize href key = .ok key' → key' ∈ top :: p.requested

theorem mem_hrefsOf {files : List (Text × File)} {key href : Text} :
    (key, href) ∈ hrefsOf files ↔ ∃ file, (key, file) ∈ files ∧ href ∈ file.hrefs := by
  simp only [hrefsOf, List.mem_flatMap, List.mem_map, Prod.mk.injEq, Prod.exists]
  constructor
  · rintro ⟨key', file, hfile, href', hhref, rfl, rfl⟩
    exact ⟨file, hfile, hhref⟩
  · rintro ⟨file, hfile, hhref⟩
    exact ⟨key, file, hfile, href, hhref, rfl, rfl⟩

theorem underway_start (catalog : Catalog) (s : Fragments) (top : Text) (root : File) :
    Underway catalog s top root (.start s top root) where
  agree := .refl catalog s
  nodup := List.pairwise_singleton _ top
  needed _ h := nomatch h
  ahead _ h := nomatch h
  waiting _ h := nomatch h
  running _ h := nomatch h
  finished _ h := nomatch h
  frontier entry h := by
    cases List.mem_singleton.1 h
    exact ⟨fun hne => absurd rfl hne, behind_top⟩
  kept _ h := nomatch h
  closed key hm file hfile := by
    cases List.mem_singleton.1 hm
    rw [Behind, if_pos rfl] at hfile
    subst hfile
    exact .inr (.inl List.mem_cons_self)

theorem mem_pending {key : Text} :
    key ∈ p.pending ↔
      key ∈ p.waiting ∨ key ∈ p.running ∨ ∃ result, (key, result) ∈ p.finished := by
  simp only [Pool.pending, List.mem_append, List.mem_map, Prod.exists, exists_and_right,
    exists_eq_right, or_assoc]

/-- A requested key is not that of the root, so it stands for its outcome. -/
theorem Underway.behind_iff (hp : Underway catalog o top root p) {key : Text} {file : File}
    (h : key ∈ p.requested) :
    Behind catalog o top root key file ↔ outcome catalog o key = .ok file := by
  rw [Behind, if_neg (hp.needed key h).ne]

section

variable {requested waiting running : List Text} {ahead : List (Text × Text)}
  {finished : List (Text × Except Failure File)} {frontier : List (Text × File)}

theorem Underway.turn (hp : Underway catalog o top root ⟨s, requested, [], [], [], [], frontier⟩) :
    Underway catalog o top root ⟨s, requested, hrefsOf frontier, [], [], [], []⟩ where
  agree := hp.agree
  nodup := hp.nodup
  needed := hp.needed
  ahead entry h := by
    obtain ⟨file, hfile, hhref⟩ := mem_hrefsOf.1 h
    obtain ⟨hneeded, hbehind⟩ := hp.frontier _ hfile
    exact ⟨hneeded, file, hbehind, hhref⟩
  waiting := hp.waiting
  running := hp.running
  finished := hp.finished
  frontier _ h := nomatch h
  kept := hp.kept
  closed key hm file hfile := by
    rcases hp.closed key hm file hfile with hpending | hfrontier | hhrefs
    · exact .inl hpending
    · exact .inr (.inr fun href hhref => .inl (mem_hrefsOf.2 ⟨file, hfrontier, hhref⟩))
    · exact .inr (.inr fun href hhref => .inr ((hhrefs href hhref).resolve_left List.not_mem_nil))

theorem Underway.pass {base href key : Text}
    (hp : Underway catalog o top root
      ⟨s, requested, (base, href) :: ahead, waiting, running, finished, frontier⟩)
    (hkey : catalog.canonicalize href base = .ok key) (hm : key ∈ top :: requested) :
    Underway catalog o top root
      ⟨s, requested, ahead, waiting, running, finished, frontier⟩ where
  agree := hp.agree
  nodup := hp.nodup
  needed := hp.needed
  ahead entry h := hp.ahead entry (List.mem_cons_of_mem _ h)
  waiting := hp.waiting
  running := hp.running
  finished := hp.finished
  frontier := hp.frontier
  kept := hp.kept
  closed key' hm' file hfile := by
    apply (hp.closed key' hm' file hfile).imp_right
    apply Or.imp_right
    intro hhrefs href' hhref'
    rcases hhrefs href' hhref' with hahead | hseen
    · rcases List.mem_cons.1 hahead with he | hahead
      · cases he
        apply Or.inr
        intro key'' hkey'
        cases hkey.symm.trans hkey'
        exact hm
      · exact .inl hahead
    · exact .inr hseen

theorem Underway.submit {base href key : Text}
    (hp : Underway catalog o top root
      ⟨s, requested, (base, href) :: ahead, waiting, running, finished, frontier⟩)
    (hkey : catalog.canonicalize href base = .ok key) (hnew : key ∉ top :: requested) :
    Underway catalog o top root
      ⟨s, requested ++ [key], ahead, waiting ++ [key], running, finished, frontier⟩ where
  agree := hp.agree
  nodup := by
    rw [← List.cons_append]
    exact List.nodup_append.2 ⟨hp.nodup, List.pairwise_singleton _ key, fun a ha b hb he =>
      hnew (List.mem_singleton.1 hb ▸ he ▸ ha)⟩
  needed key' hm := by
    rcases List.mem_append.1 hm with hm | hm
    · exact hp.needed key' hm
    · cases List.mem_singleton.1 hm
      obtain ⟨hbase, file, hfile, hhref⟩ := hp.ahead _ List.mem_cons_self
      exact .of_behind hbase hfile hhref hkey fun he => hnew (he ▸ List.mem_cons_self)
  ahead entry h := hp.ahead entry (List.mem_cons_of_mem _ h)
  waiting key' hm := by
    rcases List.mem_append.1 hm with hm | hm
    · exact List.mem_append_left _ (hp.waiting key' hm)
    · exact List.mem_append_right _ hm
  running key' hm := List.mem_append_left _ (hp.running key' hm)
  finished entry hm := ⟨List.mem_append_left _ (hp.finished entry hm).1, (hp.finished entry hm).2⟩
  frontier := hp.frontier
  kept key' hm := by
    rcases List.mem_append.1 hm with hm | hm
    · exact (hp.kept key' hm).imp_left (List.mem_append_left _)
    · exact .inl (List.mem_append_right _ hm)
  closed key' hm file hfile := by
    rw [mem_pending]
    rw [← List.cons_append] at hm ⊢
    rcases List.mem_append.1 hm with hm | hm
    · rcases hp.closed key' hm file hfile with hpending | hfrontier | hhrefs
      · exact .inl ((mem_pending.1 hpending).imp_left (List.mem_append_left _))
      · exact .inr (.inl hfrontier)
      · apply Or.inr (Or.inr _)
        intro href' hhref'
        rcases hhrefs href' hhref' with hahead | hseen
        · rcases List.mem_cons.1 hahead with he | hahead
          · cases he
            apply Or.inr
            intro key'' hkey'
            cases hkey.symm.trans hkey'
            exact List.mem_append_right _ (List.mem_singleton.2 rfl)
          · exact .inl hahead
        · exact .inr fun key'' hkey' => List.mem_append_left _ (hseen key'' hkey')
    · exact .inl (.inl (List.mem_append_right _ hm))

theorem Underway.start {key : Text}
    (hp : Underway catalog o top root
      ⟨s, requested, ahead, key :: waiting, running, finished, frontier⟩) :
    Underway catalog o top root
      ⟨s, requested, ahead, waiting, key :: running, finished, frontier⟩ where
  agree := hp.agree
  nodup := hp.nodup
  needed := hp.needed
  ahead := hp.ahead
  waiting key' hm := hp.waiting key' (List.mem_cons_of_mem _ hm)
  running := List.forall_mem_cons.2 ⟨hp.waiting key List.mem_cons_self, hp.running⟩
  finished := hp.finished
  frontier := hp.frontier
  kept key' hm := by
    rcases hp.kept key' hm with hwaiting | hrunning | hkept
    · rcases List.mem_cons.1 hwaiting with rfl | hwaiting
      · exact .inr (.inl List.mem_cons_self)
      · exact .inl hwaiting
    · exact .inr (.inl (List.mem_cons_of_mem _ hrunning))
    · exact .inr (.inr hkept)
  closed key' hm file hfile := by
    apply (hp.closed key' hm file hfile).imp_left
    rw [mem_pending, mem_pending]
    rintro (hwaiting | hrunning | hfinished)
    · rcases List.mem_cons.1 hwaiting with rfl | hwaiting
      · exact .inr (.inl List.mem_cons_self)
      · exact .inl hwaiting
    · exact .inr (.inl (List.mem_cons_of_mem _ hrunning))
    · exact .inr (.inr hfinished)

theorem Underway.finish {before after : List Text} {key : Text} {result : Except Failure File}
    (hp : Underway catalog o top root
      ⟨s, requested, ahead, waiting, before ++ key :: after, finished, frontier⟩)
    (h : attempt catalog key s = .ok result t) :
    Underway catalog o top root
      ⟨t, requested, ahead, waiting, before ++ after, finished ++ [(key, result)], frontier⟩ where
  agree := hp.agree.trans (grows_of_attempt h).agree
  nodup := hp.nodup
  needed := hp.needed
  ahead := hp.ahead
  waiting := hp.waiting
  running key' hm := hp.running key' (by simp only [List.mem_append, List.mem_cons] at hm ⊢; tauto)
  finished := by
    apply List.forall_mem_append.2 ⟨hp.finished, List.forall_mem_singleton.2 ⟨_, _⟩⟩
    · exact hp.running key (List.mem_append_right _ List.mem_cons_self)
    · exact ((attempt_ok h).1.trans (hp.agree key)).symm
  frontier := hp.frontier
  kept key' hm := by
    have hgrows := grows_of_attempt h
    rcases hp.kept key' hm with hwaiting | hrunning | hkept
    · exact .inl hwaiting
    · by_cases he : key' = key
      · subst he
        rw [get?_of_attempt h, (attempt_ok h).1, hp.agree key']
        exact .inr (.inr rfl)
      · simp only [List.mem_append, List.mem_cons, he, false_or] at hrunning ⊢
        exact .inr (.inl hrunning)
    · exact .inr (.inr (hgrows.kept _ _ hkept))
  closed key' hm file hfile := by
    apply (hp.closed key' hm file hfile).imp_left
    rw [mem_pending, mem_pending]
    rintro (hwaiting | hrunning | ⟨result', hfinished⟩)
    · exact .inl hwaiting
    · by_cases he : key' = key
      · subst he
        exact .inr (.inr ⟨result, List.mem_append_right _ (List.mem_singleton.2 rfl)⟩)
      · simp only [List.mem_append, List.mem_cons, he, false_or] at hrunning ⊢
        exact .inr (.inl hrunning)
    · exact .inr (.inr ⟨result', List.mem_append_left _ hfinished⟩)

/-- A result that was looked at and taken among the files, if it is one. -/
theorem Underway.settle {before after : List (Text × Except Failure File)} {key : Text}
    {result : Except Failure File}
    (hp : Underway catalog o top root
      ⟨s, requested, [], waiting, running, before ++ (key, result) :: after, frontier⟩)
    (hagree : Agree catalog o t) (hentries : t.entries = s.entries) (more : List (Text × File))
    (hmore : ∀ file, (key, file) ∈ more ↔ result = .ok file)
    (hkey : ∀ entry ∈ more, entry.1 = key) :
    Underway catalog o top root
      ⟨t, requested, [], waiting, running, before ++ after, frontier ++ more⟩ := by
  obtain ⟨hm, hresult⟩ := hp.finished (key, result) (List.mem_append_right _ List.mem_cons_self)
  exact {
    agree := hagree
    nodup := hp.nodup
    needed := hp.needed
    ahead := hp.ahead
    waiting := hp.waiting
    running := hp.running
    finished := fun entry h =>
      hp.finished entry (by simp only [List.mem_append, List.mem_cons] at h ⊢; tauto)
    frontier := by
      apply List.forall_mem_append.2 ⟨hp.frontier, _⟩
      rintro ⟨key', file⟩ h
      obtain rfl : key' = key := hkey _ h
      exact ⟨fun _ => hp.needed key' hm,
        (hp.behind_iff hm).2 (hresult.trans ((hmore file).1 h))⟩
    kept := fun key' hm' => hentries ▸ hp.kept key' hm'
    closed := fun key' hm' file hfile => by
      rcases hp.closed key' hm' file hfile with hpending | hfrontier | hhrefs
      · rw [mem_pending] at hpending ⊢
        rcases hpending with hwaiting | hrunning | ⟨result', hfinished⟩
        · exact .inl (.inl hwaiting)
        · exact .inl (.inr (.inl hrunning))
        · by_cases he : key' = key
          · subst he
            have hfile' := hresult.symm.trans ((hp.behind_iff hm).1 hfile)
            exact .inr (.inl (List.mem_append_right _ ((hmore file).2 hfile')))
          · simp only [List.mem_append, List.mem_cons, Prod.mk.injEq, he, false_and,
              false_or] at hfinished ⊢
            exact .inl (.inr (.inr ⟨result', hfinished⟩))
      · exact .inr (.inl (List.mem_append_left _ hfrontier))
      · exact .inr (.inr hhrefs) }

end

theorem Underway.next (hp : Underway catalog o top root p)
    (h : Pool.Step catalog workers top p q) : Underway catalog o top root q := by
  cases h with
  | turn _ => exact hp.turn
  | pass hkey hm => exact hp.pass hkey hm
  | submit hkey hnew => exact hp.submit hkey hnew
  | start _ => exact hp.start
  | finish _ h => exact hp.finish h
  | take _ => exact hp.settle hp.agree rfl _ (by simp [eq_comm]) (by simp)
  | @note s requested waiting running before key e after frontier =>
    have hagree : Agree catalog o (s.noted ⟨.fragments, .debug,
        "Prefetch of " ++ key ++ " failed: " ++ e.message⟩) :=
      hp.agree.trans (agree_of_entries rfl)
    have hrest := hp.settle hagree rfl [] (fun file => ⟨nofun, nofun⟩) nofun
    rwa [List.append_nil] at hrest

/-- Every state that a pool comes to is one of prefetching from `root`. -/
theorem Underway.runs (hp : Underway catalog o top root p)
    (h : Pool.Runs catalog workers top p q) : Underway catalog o top root q := by
  induction h with
  | refl => exact hp
  | tail _ hstep ih => exact ih.next hstep

/-! Progress and termination -/

/-- As long as something is left to be done, a step is possible. -/
theorem Underway.done_or_step (hp : Underway catalog o top root p)
    (htotal : ∀ href base, ∃ key, catalog.canonicalize href base = .ok key)
    (hrefused : ∀ key e, Needed catalog o top root key → outcome catalog o key = .error e →
      e.schemaError? ≠ none)
    (hworkers : 1 ≤ workers) : p.Done ∨ ∃ q, Pool.Step catalog workers top p q := by
  obtain ⟨s, requested, ahead, waiting, running, finished, frontier⟩ := p
  cases ahead with
  | cons entry ahead =>
    apply Or.inr
    obtain ⟨base, href⟩ := entry
    obtain ⟨key, hkey⟩ := htotal href base
    by_cases hm : key ∈ top :: requested
    · exact ⟨_, .pass hkey hm⟩
    · exact ⟨_, .submit hkey hm⟩
  | nil =>
    cases running with
    | cons key running =>
      obtain ⟨t, ht, -⟩ := attempt_eq catalog key s
      exact .inr ⟨_, .finish [] ht⟩
    | nil =>
      cases waiting with
      | cons key waiting => exact .inr ⟨_, .start (Int.lt_of_lt_of_le Int.zero_lt_one hworkers)⟩
      | nil =>
        cases finished with
        | cons entry finished =>
          apply Or.inr
          obtain ⟨key, result⟩ := entry
          cases result with
          | ok file => exact ⟨_, .take []⟩
          | error e =>
            obtain ⟨hm, hresult⟩ := hp.finished (key, .error e) List.mem_cons_self
            have hcause := hrefused key e (hp.needed key hm) hresult
            cases e with
            | schema e => exact ⟨_, .note []⟩
            | _ => exact absurd rfl hcause
        | nil =>
          cases frontier with
          | nil => exact .inl ⟨rfl, rfl, rfl, rfl, rfl⟩
          | cons entry frontier => exact .inr ⟨_, .turn (List.cons_ne_nil _ _)⟩

/-- What is left to be done for the keys that are requested. -/
def Pool.load (p : Pool) : Nat :=
  4 * p.waiting.length + 3 * p.running.length + 2 * p.finished.length + p.frontier.length

/-- A step requests a key more of those that are needed, or does some of what is left to be done,
or looks at an href. -/
theorem Underway.lighter (hp : Underway catalog o top root p) {needed : List Text}
    (hneeded : ∀ key, Needed catalog o top root key → key ∈ needed)
    (h : Pool.Step catalog workers top p q) :
    room needed (top :: q.requested) < room needed (top :: p.requested) ∨
      q.requested = p.requested ∧ (q.load < p.load ∨ q.load = p.load ∧
        q.ahead.length < p.ahead.length) := by
  cases h with
  | turn hne =>
    have hlength := List.length_pos_iff.2 hne
    simp [Pool.load, hlength]
  | pass _ _ => simp [Pool.load]
  | @submit s requested base href ahead waiting running finished frontier key hkey hnew =>
    have hm : key ∈ requested ++ [key] := List.mem_append_right _ (List.mem_singleton.2 rfl)
    apply Or.inl
    apply room_lt _ (hneeded key ((hp.submit hkey hnew).needed key hm)) hnew
    · exact List.mem_cons_of_mem _ hm
    · exact List.cons_subset_cons top (List.subset_append_left _ _)
  | start _ =>
    apply Or.inr (And.intro rfl (Or.inl _))
    simp only [Pool.load, List.length_cons]
    omega
  | finish _ _ =>
    apply Or.inr (And.intro rfl (Or.inl _))
    simp only [Pool.load, List.length_append, List.length_cons, List.length_nil]
    omega
  | take _ =>
    apply Or.inr (And.intro rfl (Or.inl _))
    simp only [Pool.load, List.length_append, List.length_cons, List.length_nil]
    omega
  | note _ =>
    apply Or.inr (And.intro rfl (Or.inl _))
    simp only [Pool.load, List.length_append, List.length_cons]
    omega

/-- There is no endless run, if finitely many keys are needed. -/
theorem Underway.acc {p : Pool} (hp : Underway catalog o top root p) {needed : List Text}
    (hneeded : ∀ key, Needed catalog o top root key → key ∈ needed) :
    Acc (flip (Pool.Step catalog workers top)) p :=
  Acc.intro p fun _ hq => (hp.next hq).acc hneeded
termination_by (room needed (top :: p.requested), p.load, p.ahead.length)
decreasing_by
  rcases hp.lighter hneeded hq with hroom | ⟨hsame, hload | ⟨hload, hahead⟩⟩
  · exact .left _ _ hroom
  · rw [hsame]
    exact .right _ (.left _ _ hload)
  · rw [hsame, hload]
    exact .right _ (.right _ hahead)

/-- When nothing is left to be done, just the keys that the root needs were requested. -/
theorem Underway.mem_requested (hp : Underway catalog o top root p) (hdone : p.Done) (key : Text) :
    key ∈ p.requested ↔ Needed catalog o top root key := by
  obtain ⟨s, requested, ahead, waiting, running, finished, frontier⟩ := p
  obtain ⟨rfl, rfl, rfl, rfl, rfl⟩ := hdone
  have hclosed {base : Text} (hbase : base ∈ top :: requested) {file : File}
      (hfile : Behind catalog o top root base file) {href key : Text} (hm : href ∈ file.hrefs)
      (hkey : catalog.canonicalize href base = .ok key) (hne : key ≠ top) : key ∈ requested := by
    rcases hp.closed base hbase file hfile with hpending | hfrontier | hhrefs
    · cases hpending
    · cases hfrontier
    · rcases hhrefs href hm with hahead | hseen
      · cases hahead
      · exact (List.mem_cons.1 (hseen key hkey)).resolve_left hne
  constructor
  · exact hp.needed key
  · intro hn
    induction hn with
    | root hm hkey hne => exact hclosed List.mem_cons_self behind_top hm hkey hne
    | fragment hn ho hm hkey hne ih =>
      exact hclosed (List.mem_cons_of_mem _ ih) ((hp.behind_iff ih).2 ho) hm hkey hne

theorem Underway.kept_of_done (hp : Underway catalog o top root p) (hdone : p.Done) {key : Text}
    (hm : key ∈ p.requested) : p.fragments.entries.get? key = some (outcome catalog o key) := by
  rcases hp.kept key hm with hwaiting | hrunning | hkept
  · rw [hdone.2.1] at hwaiting
    cases hwaiting
  · rw [hdone.2.2.1] at hrunning
    cases hrunning
  · exact hkept

/-! Rounds as one way for a pool to run -/

variable (workers top) in
/-- The hrefs that are ahead are looked at before any key is fetched. -/
theorem runs_submit (s : Fragments) (requested : List Text) {ahead : List (Text × Text)}
    {keys : List Text}
    (hkeys : List.Forall₂ (fun entry key => catalog.canonicalize entry.2 entry.1 = .ok key)
      ahead keys) (waiting : List Text) :
    Pool.Runs catalog workers top ⟨s, requested, ahead, waiting, [], [], []⟩
      ⟨s, requested ++ (freshKeys (top :: requested) keys).1, [],
        waiting ++ (freshKeys (top :: requested) keys).1, [], [], []⟩ := by
  induction hkeys generalizing requested waiting with
  | nil =>
    simp only [freshKeys, List.append_nil]
    exact .refl
  | @cons entry key ahead keys hkey _ ih =>
    rw [freshKeys]
    split
    next hm => exact .head (.pass hkey hm) (ih requested waiting)
    next hnew =>
      have hrest := ih (requested ++ [key]) (waiting ++ [key])
      simp only [List.append_assoc, List.singleton_append] at hrest
      exact .head (.submit hkey hnew) hrest

variable (top) in
/-- One worker fetches the keys in their order. -/
theorem runs_attempt (hworkers : 1 ≤ workers) (requested : List Text) {keys : List Text}
    {results : List (Except Failure File)} (h : keys.mapM (attempt catalog) s = .ok results t)
    (finished : List (Text × Except Failure File)) :
    Pool.Runs catalog workers top ⟨s, requested, [], keys, [], finished, []⟩
      ⟨t, requested, [], [], [], finished ++ keys.zip results, []⟩ := by
  induction keys generalizing s results finished with
  | nil =>
    obtain ⟨rfl, rfl⟩ := pure_ok h
    rw [List.zip_nil_left, List.append_nil]
  | cons key keys ih =>
    rw [List.mapM_cons] at h
    obtain ⟨result, u, hfirst, h₁⟩ := bind_ok h
    obtain ⟨more, v, hrest, h₂⟩ := bind_ok h₁
    obtain ⟨rfl, rfl⟩ := pure_ok h₂
    have hmore := ih hrest (finished ++ [(key, result)])
    rw [List.append_assoc, List.singleton_append] at hmore
    have hfree : (([] : List Text).length : Int) < workers :=
      Int.lt_of_lt_of_le Int.zero_lt_one hworkers
    exact .head (.start hfree) (.head (.finish [] hfirst) hmore)

variable (catalog workers top) in
/-- The results are looked at in their order. -/
theorem runs_harvest (requested : List Text) {results : List (Text × Except Failure File)}
    (frontier : List (Text × File)) {next : List (Text × File)}
    (h : harvest results s = .ok next t) :
    Pool.Runs catalog workers top ⟨s, requested, [], [], [], results, frontier⟩
      ⟨t, requested, [], [], [], [], frontier ++ next⟩ := by
  induction results generalizing s next frontier with
  | nil =>
    obtain ⟨rfl, rfl⟩ := pure_ok h
    rw [List.append_nil]
  | cons first results ih =>
    obtain ⟨key, result⟩ := first
    cases result with
    | ok file =>
      obtain ⟨rest, u, hrest, h₁⟩ := bind_ok h
      obtain ⟨rfl, rfl⟩ := pure_ok h₁
      have hmore := ih (frontier ++ [(key, file)]) hrest
      rw [List.append_assoc, List.singleton_append] at hmore
      exact .head (.take []) hmore
    | error e =>
      cases e with
      | schema e =>
        obtain ⟨_, u, hreport, h₁⟩ := bind_ok h
        cases hreport
        exact .head (.note []) (ih frontier h₁)
      | _ => exact (not_throw_ok h).elim

/-- Results that are files or refused schemas do not end the run. -/
theorem harvest_returns {results : List (Text × Except Failure File)}
    (h : ∀ key e, (key, .error e) ∈ results → e.schemaError? ≠ none) (s : Fragments) :
    ∃ next t, harvest results s = .ok next t := by
  induction results generalizing s with
  | nil => exact ⟨[], s, rfl⟩
  | cons first results ih =>
    have hrest := ih fun key e hm => h key e (List.mem_cons_of_mem _ hm)
    obtain ⟨key, result⟩ := first
    cases result with
    | ok file =>
      obtain ⟨next, t, ht⟩ := hrest s
      exact ⟨_, t, bind_of_ok ht⟩
    | error e =>
      have hcause := h key e List.mem_cons_self
      cases e with
      | schema e => exact hrest _
      | _ => exact absurd rfl hcause

theorem attempts_return (catalog : Catalog) (keys : List Text) (s : Fragments) :
    ∃ results t, keys.mapM (attempt catalog) s = .ok results t := by
  induction keys generalizing s with
  | nil => exact ⟨[], s, rfl⟩
  | cons key keys ih =>
    obtain ⟨t, ht, -⟩ := attempt_eq catalog key s
    obtain ⟨results, u, hu⟩ := ih t
    rw [List.mapM_cons]
    exact ⟨_, u, (bind_of_ok ht).trans (bind_of_ok hu)⟩

theorem exists_mapM_ok {α β : Type} {f : α → Except Failure β} (h : ∀ a, ∃ b, f a = .ok b)
    (as : List α) : ∃ bs, as.mapM f = .ok bs := by
  induction as with
  | nil => exact ⟨[], rfl⟩
  | cons a as ih =>
    obtain ⟨b, hb⟩ := h a
    obtain ⟨bs, hbs⟩ := ih
    rw [List.mapM_cons, hb, hbs]
    exact ⟨b :: bs, rfl⟩

/-- The keys that are found for a frontier are those of its hrefs. -/
theorem keys_of_frontier {frontier : List (Text × File)} {found : List (List Text)}
    (h : (frontier.mapM fun entry => keysOf catalog entry.1 entry.2) = .ok found) :
    List.Forall₂ (fun entry key => catalog.canonicalize entry.2 entry.1 = .ok key)
      (hrefsOf frontier) found.flatten := by
  have hall := forall₂_of_mapM_ok h
  clear h
  induction hall with
  | nil => exact .nil
  | cons hkeys _ ih =>
    apply List.rel_append _ ih
    exact List.forall₂_map_left_iff.2 (forall₂_of_mapM_ok hkeys)

theorem liftExcept_of_ok {α : Type} {x : Except Failure α} {a : α} (h : x = .ok a)
    (s : Fragments) : (liftExcept x : Fetch α) s = .ok a s := by
  rw [h]
  rfl

/-- A round looks at the hrefs of its frontier, fetches the keys that are new, and leaves the
frontier of the next. -/
theorem rounds_succ {seen fresh : List Text} {frontier next : List (Text × File)}
    {found : List (List Text)} {results : List (Except Failure File)} {u v : Fragments}
    {b count : Nat}
    (hne : frontier ≠ [])
    (hfound : (frontier.mapM fun entry => keysOf catalog entry.1 entry.2) = .ok found)
    (hfresh : (freshKeys seen found.flatten).1 = fresh)
    (hresults : fresh.mapM (attempt catalog) s = .ok results u)
    (hharvest : harvest (fresh.zip results) u = .ok next v)
    (hrest : rounds catalog b (seen ++ fresh) next v = .ok count t) :
    rounds catalog (b + 1) seen frontier s = .ok (fresh.length + count) t := by
  have hall := freshKeys_eq seen found.flatten
  rw [hfresh] at hall
  obtain ⟨entry, frontier, rfl⟩ := List.exists_cons_of_ne_nil hne
  simp only [rounds]
  rw [bind_of_ok (liftExcept_of_ok hfound s), hfresh, hall, bind_of_ok hresults,
    bind_of_ok hharvest, bind_of_ok hrest]
  rfl

/-- A round from a frontier ends well, and a pool can run as it does. If it comes to files, it has
requested a key that can be had. -/
theorem round_run (htotal : ∀ href base, ∃ key, catalog.canonicalize href base = .ok key)
    (hrefused : ∀ key e, Needed catalog o top root key → outcome catalog o key = .error e →
      e.schemaError? ≠ none) (hworkers : 1 ≤ workers) {keys : List Text}
    (hkeys : ∀ key file, outcome catalog o key = .ok file → key ∈ keys) {requested : List Text}
    {frontier : List (Text × File)}
    (hp : Underway catalog o top root ⟨s, requested, [], [], [], [], frontier⟩)
    (hne : frontier ≠ []) :
    ∃ (fresh : List Text) (v : Fragments) (next : List (Text × File)),
      (∀ b count t, rounds catalog b (top :: (requested ++ fresh)) next v = .ok count t →
        rounds catalog (b + 1) (top :: requested) frontier s = .ok (fresh.length + count) t) ∧
      Pool.Runs catalog workers top ⟨s, requested, [], [], [], [], frontier⟩
        ⟨v, requested ++ fresh, [], [], [], [], next⟩ ∧
      (next ≠ [] → room keys (top :: (requested ++ fresh)) < room keys (top :: requested)) := by
  obtain ⟨found, hfound⟩ := exists_mapM_ok
    (fun entry : Text × File => exists_mapM_ok (htotal · entry.1) entry.2.hrefs) frontier
  have hsubmit := runs_submit workers top s requested (keys_of_frontier hfound) []
  have hnew (key : Text) (hm : key ∈ (freshKeys (top :: requested) found.flatten).1) :=
    (mem_freshKeys hm).2
  generalize hfresh : (freshKeys (top :: requested) found.flatten).1 = fresh at hsubmit hnew
  obtain ⟨results, u, hresults⟩ := attempts_return catalog fresh s
  have hattempt := runs_attempt top hworkers (requested ++ fresh) hresults []
  have hfetched := (hp.turn.runs hsubmit).runs hattempt
  have hcauses (key : Text) (e : Failure) (hm : (key, .error e) ∈ fresh.zip results) :
      e.schemaError? ≠ none := by
    obtain ⟨hm, hout⟩ := hfetched.finished _ hm
    exact hrefused key e (hfetched.needed key hm) hout
  obtain ⟨next, v, hharvest⟩ := harvest_returns hcauses u
  have htake := runs_harvest catalog workers top (requested ++ fresh) [] hharvest
  refine ⟨fresh, v, next, fun b count t => rounds_succ hne hfound hfresh hresults hharvest,
    .head (.turn hne) (hsubmit.trans (hattempt.trans htake)), fun hnext => ?_⟩
  obtain ⟨entry, hm⟩ := List.exists_mem_of_ne_nil next hnext
  have hzip := ((harvest_ok catalog hharvest).1 _).1 hm
  rw [(mapM_attempt_ok hp.agree hresults).1] at hzip
  obtain ⟨hm, hout⟩ := of_mem_zip_map hzip
  apply room_lt _ (hkeys _ _ hout) (hnew _ hm)
  · exact List.mem_cons_of_mem _ (List.mem_append_right _ hm)
  · exact List.cons_subset_cons top (List.subset_append_left _ _)

/-- The rounds from a frontier on come to an end, and a pool can run as they do. -/
theorem rounds_run (htotal : ∀ href base, ∃ key, catalog.canonicalize href base = .ok key)
    (hrefused : ∀ key e, Needed catalog o top root key → outcome catalog o key = .error e →
      e.schemaError? ≠ none) (hworkers : 1 ≤ workers) {keys : List Text}
    (hkeys : ∀ key file, outcome catalog o key = .ok file → key ∈ keys) {b : Nat}
    {requested : List Text} {frontier : List (Text × File)}
    (hp : Underway catalog o top root ⟨s, requested, [], [], [], [], frontier⟩)
    (hb : frontier ≠ [] → room keys (top :: requested) < b) :
    ∃ (t : Fragments) (more : List Text),
      rounds catalog b (top :: requested) frontier s = .ok more.length t ∧
        Pool.Runs catalog workers top ⟨s, requested, [], [], [], [], frontier⟩
          ⟨t, requested ++ more, [], [], [], [], []⟩ := by
  induction b generalizing s requested frontier with
  | zero =>
    by_cases hne : frontier = []
    · subst hne
      exact ⟨s, [], rfl, by rw [List.append_nil]⟩
    · exact absurd (hb hne) (Nat.not_lt_zero _)
  | succ b ih =>
    by_cases hne : frontier = []
    · subst hne
      exact ⟨s, [], rfl, by rw [List.append_nil]⟩
    · obtain ⟨fresh, v, next, hround, hruns, hless⟩ :=
        round_run htotal hrefused hworkers hkeys hp hne
      obtain ⟨t, more, hrounds, hmore⟩ := ih (hp.runs hruns)
        fun hnext => Nat.lt_of_lt_of_le (hless hnext) (Nat.le_of_lt_succ (hb hne))
      refine ⟨t, fresh ++ more, ?_, ?_⟩
      · rw [List.length_append]
        exact hround b more.length t hrounds
      · rw [← List.append_assoc]
        exact hruns.trans hmore

end

end Fragments

namespace Mapping

open Run Fragments Surface

theorem outcome_of_not_mem (m : Mapping) {k : Text} (h : k ∉ m.sources.keys) :
    outcome m.catalog {} k = .error (.schema (.unreadable (.absent k))) := by
  have hnone : m.sources.get? k = none := by
    rw [← Table.contains_iff, Table.contains] at h
    exact Option.not_isSome_iff_eq_none.1 h
  change (m.read k >>= fun source => source.parse k) = _
  rw [Mapping.read, hnone]
  rfl

/-- Prefetching from a root comes to an end, if no key that it needs fails with anything but a
refused schema, and it requests each of these keys once. However many workers there are and whatever
the order in which they come to an end, a pool cannot run for ever, and where it can do no more it
has requested the same keys and kept what they come to. The rounds are one way to run it. -/
theorem prefetch_scheduled (m : Mapping) (s : Fragments) (root : File) (key : Option Text)
    (hrefused : ∀ k e, Needed m.catalog s (rootKey root key) root k →
      outcome m.catalog s k = .error e → e.schemaError? ≠ none) :
    ∃ needed : List Text, needed.Nodup ∧
      (∀ k, k ∈ needed ↔ Needed m.catalog s (rootKey root key) root k) ∧
      ∀ workers : Int,
        (workers < 1 → prefetch m.catalog (rootKey root key) root workers s = .error .noWorkers s) ∧
        (1 ≤ workers →
          Acc (flip (Pool.Step m.catalog workers (rootKey root key)))
            (.start s (rootKey root key) root) ∧
          (∀ p,
            Pool.Runs m.catalog workers (rootKey root key) (.start s (rootKey root key) root) p →
            (¬ ∃ q, Pool.Step m.catalog workers (rootKey root key) p q) →
            p.Done ∧ p.requested.Perm needed ∧
              ∀ k ∈ needed, p.fragments.entries.get? k = some (outcome m.catalog s k)) ∧
          ∃ p, p.Done ∧
            Pool.Runs m.catalog workers (rootKey root key) (.start s (rootKey root key) root) p ∧
            prefetch m.catalog (rootKey root key) root workers s =
              .ok needed.length p.fragments) := by
  generalize rootKey root key = top at *
  have hstart := underway_start m.catalog s top root
  have htotal (href base : Text) : ∃ key, m.catalog.canonicalize href base = .ok key := ⟨_, rfl⟩
  have hroom : room (m.sources.keys ++ s.entries.keys) [top] <
      m.catalog.size + s.entries.size + 1 :=
    Nat.lt_succ_of_le ((room_le_length _ _).trans (m.length_append_keys_le s))
  have hrounds {workers : Int} (hworkers : 1 ≤ workers) :=
    rounds_run htotal hrefused hworkers (fun _ _ => m.mem_of_outcome) hstart fun _ => hroom
  obtain ⟨t, needed, hneeded, hruns⟩ := hrounds (Int.le_refl 1)
  have hlast := hstart.runs hruns
  have hmem (k : Text) : k ∈ needed ↔ Needed m.catalog s top root k :=
    hlast.mem_requested ⟨rfl, rfl, rfl, rfl, rfl⟩ k
  have hnodup : needed.Nodup := (List.nodup_cons.1 hlast.nodup).2
  refine ⟨needed, hnodup, hmem, fun workers => ⟨fun hfew => ?_, fun hworkers => ⟨?_, ?_, ?_⟩⟩⟩
  · unfold prefetch
    rw [if_pos hfew]
    rfl
  · exact hstart.acc fun k => (hmem k).2
  · intro p hp hstuck
    have hunderway := hstart.runs hp
    have hdone := (hunderway.done_or_step htotal hrefused hworkers).resolve_right hstuck
    have hsame (k : Text) : k ∈ p.requested ↔ k ∈ needed :=
      (hunderway.mem_requested hdone k).trans (hmem k).symm
    refine ⟨hdone, ?_, fun k hk => hunderway.kept_of_done hdone ((hsame k).2 hk)⟩
    exact (List.perm_ext_iff_of_nodup (List.nodup_cons.1 hunderway.nodup).2 hnodup).2 hsame
  · obtain ⟨u, more, hmore, hruns'⟩ := hrounds hworkers
    injection hneeded.symm.trans hmore with _ hsame
    subst hsame
    refine ⟨_, ⟨rfl, rfl, rfl, rfl, rfl⟩, hruns', ?_⟩
    unfold prefetch
    rw [if_neg (Int.not_lt.2 hworkers)]
    exact hneeded

end Mapping

namespace Circular

open Fragments Surface

/-! Fragments that include each other and refer to the root. One has no source, one is refused. -/

def source (s : String) : Source := .text s

def mapping : Mapping := Mapping.ofList
  [("a.rnc", source "include \"b.rnc\" start = external \"gone.rnc\""),
    ("b.rnc", source "include \"a.rnc\" x = external \"main.rnc\""),
    ("c.rnc", source "start =")]

def here : Span := ⟨[], 1, 1, 0, 0⟩

/-- `include "a.rnc" y = external "c.rnc"` -/
def root : File where
  path := "main.rnc"
  declarations := []
  components :=
    [.incl "a.rnc" none [] here,
      .define (.named "y") .single (.external "c.rnc" none here) none here]
  isPattern := false

/-- Whether what a key comes to is a file or a refused schema. -/
def isRefusedOrFile : Except Failure File → Bool
  | .ok _ => true
  | .error e => e.schemaError?.isSome

theorem schemaError?_ne_none {k : Text} {e : Failure}
    (h : outcome mapping.catalog {} k = .error e) : e.schemaError? ≠ none := by
  have hall : mapping.sources.keys.all
      fun key => isRefusedOrFile (outcome mapping.catalog {} key) := by decide +kernel
  by_cases hm : k ∈ mapping.sources.keys
  · have hk := List.all_eq_true.1 hall k hm
    rw [h] at hk
    exact Option.ne_none_iff_isSome.2 hk
  · rw [mapping.outcome_of_not_mem hm] at h
    cases h
    exact Option.some_ne_none _

/-- Two workers request the four keys too, and so do any others. -/
theorem prefetch_scheduled_circular :
    (∀ k e, Needed mapping.catalog {} (rootKey root none) root k →
      outcome mapping.catalog {} k = .error e → e.schemaError? ≠ none) ∧
      ∀ p, Pool.Runs mapping.catalog 2 (rootKey root none) (.start {} (rootKey root none) root) p →
        (¬ ∃ q, Pool.Step mapping.catalog 2 (rootKey root none) p q) → p.requested.length = 4 := by
  have hrefused (k : Text) (e : Failure) (_ : Needed mapping.catalog {} (rootKey root none) root k)
      (h : outcome mapping.catalog {} k = .error e) : e.schemaError? ≠ none :=
    schemaError?_ne_none h
  refine ⟨hrefused, fun p hp hstuck => ?_⟩
  obtain ⟨needed, -, -, hall⟩ := mapping.prefetch_scheduled {} root none hrefused
  obtain ⟨-, hstops, -⟩ := (hall 2).2 (by decide)
  obtain ⟨-, -, q, -, -, hthree⟩ := (hall 3).2 (by decide)
  have hrequested : Run.ended (prefetch mapping.catalog (rootKey root none) root 3 {}) =
      .ok 4 := by decide +kernel
  rw [hthree] at hrequested
  rw [(hstops p hp hstuck).2.1.length_eq]
  exact Except.ok.inj hrequested

end Circular

end RelaxCompact
