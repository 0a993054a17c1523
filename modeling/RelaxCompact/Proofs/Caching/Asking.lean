import RelaxCompact.Proofs.Caching.Lasting
import RelaxCompact.Proofs.Caching.Requests
import RelaxCompact.Proofs.Caching.Scheduling
import RelaxCompact.Proofs.Path

/-!
The keys that fragments are asked for. Prefetching and assembly ask only for keys that hrefs lead
to, whatever was asked before. Over a mapping these are paths in normal form: no path is asked for
in two spellings, and a source is found just where one of the mapping is meant.
-/

namespace RelaxCompact

namespace Fragments

open Run Surface

/-- On the way from one state to another a key was asked for: something is kept of it that was not
before, or it was reported once more to be found. -/
def Asked (s t : Fragments) (key : Text) : Prop :=
  (s.entries.contains key = false ∧ t.entries.contains key = true) ∨
    s.journal.count (hitRecord key) < t.journal.count (hitRecord key)

section

variable {catalog : Catalog} {s t u : Fragments} {key : Text}

theorem not_asked (hentries : t.entries = s.entries)
    (hjournal : t.journal.count (hitRecord key) = s.journal.count (hitRecord key)) :
    ¬ Asked s t key := by
  rintro (⟨hs, ht⟩ | hlt)
  · rw [hentries, hs] at ht
    cases ht
  · exact absurd hjournal (Nat.ne_of_gt hlt)

/-- What was asked for on the way was asked for before or after any state. -/
theorem Asked.split (h : Asked s u key) (t : Fragments) : Asked s t key ∨ Asked t u key := by
  rcases h with ⟨hs, hu⟩ | hlt
  · cases ht : t.entries.contains key with
    | true => exact .inl (.inl ⟨hs, ht⟩)
    | false => exact .inr (.inl ⟨ht, hu⟩)
  · by_cases hst : s.journal.count (hitRecord key) < t.journal.count (hitRecord key)
    · exact .inl (.inr hst)
    · exact .inr (.inr (Nat.lt_of_le_of_lt (Nat.le_of_not_lt hst) hlt))

theorem count_append_ne {records : Journal} (h : ∀ r ∈ records, r ≠ hitRecord key) :
    (s.journal ++ records).count (hitRecord key) = s.journal.count (hitRecord key) := by
  rw [List.count_append, List.count_eq_zero.2 fun hm => h _ hm rfl, Nat.add_zero]

theorem not_asked_noted {r : Record} (h : r ≠ hitRecord key) : ¬ Asked s (s.noted r) key := by
  have hcount : (s.journal ++ [r]).count (hitRecord key) = s.journal.count (hitRecord key) := by
    apply count_append_ne
    intro r' hr'
    rw [List.mem_singleton.1 hr']
    exact h
  exact not_asked rfl hcount

/-- Who tries a key asks for it, and for no other. -/
theorem asked_attempt_iff {key' : Text} {result : Except Failure File}
    (h : attempt catalog key' s = .ok result t) : Asked s t key ↔ key = key' := by
  cases hk : s.entries.get? key' with
  | some kept =>
    rw [attempt_of_entry hk] at h
    cases h
    constructor
    · intro hasked
      by_contra hne
      exact not_asked_noted (fun he => hne (hitRecord_injective he).symm) hasked
    · rintro rfl
      apply Or.inr
      change _ < (s.journal ++ [hitRecord key]).count (hitRecord key)
      rw [List.count_append, List.count_singleton_self]
      exact Nat.lt_succ_self _
  | none =>
    obtain ⟨v, records, hv, hentries, hjournal, hrecords⟩ := attempt_of_unknown hk catalog
    cases h.symm.trans hv
    constructor
    · intro hasked
      by_contra hne
      rcases hasked with ⟨hs, ht⟩ | hlt
      · rw [Table.contains, hentries, Table.get?_insert_of_ne _ hne] at ht
        cases hs.symm.trans ht
      · rw [hjournal, count_append_ne] at hlt
        · exact Nat.lt_irrefl _ hlt
        · intro r hr
          rw [hrecords r hr]
          exact (hit_ne_parseRecord key key').symm
    · rintro rfl
      apply Or.inl
      rw [Table.contains, Table.contains, hentries, Table.get?_insert_self, hk]
      exact ⟨rfl, rfl⟩

/-- Once a key was asked for, every later state shows it. -/
theorem lasting_of_asked (catalog : Catalog) (o : Fragments) (key : Text) :
    Lasting catalog (fun _ => True) fun s => Asked o s key where
  noted s r _ hs := by
    apply hs.imp_right
    intro hlt
    exact Nat.lt_of_lt_of_le hlt ((List.sublist_append_left _ _).count_le _)
  attempt key' _ s hs := by
    cases hk : s.entries.get? key' with
    | some kept =>
      rw [attempt_of_entry hk]
      apply hs.imp_right
      intro hlt
      exact Nat.lt_of_lt_of_le hlt ((List.sublist_append_left _ _).count_le _)
    | none =>
      obtain ⟨t, records, ht, hentries, hjournal, -⟩ := attempt_of_unknown hk catalog
      rw [ht]
      rcases hs with ⟨ho, hs⟩ | hlt
      · refine .inl ⟨ho, ?_⟩
        have hne : key ≠ key' := by
          rintro rfl
          rw [Table.contains, hk] at hs
          cases hs
        change t.entries.contains key = true
        rw [Table.contains, hentries, Table.get?_insert_of_ne _ hne]
        exact hs
      · apply Or.inr
        change _ < t.journal.count (hitRecord key)
        rw [hjournal]
        exact Nat.lt_of_lt_of_le hlt ((List.sublist_append_left _ _).count_le _)

/-- If only wanted keys have been asked for, so it stays. -/
theorem lasting_asked (catalog : Catalog) (wanted : Text → Prop) (o : Fragments) :
    Lasting catalog wanted fun s => ∀ key, Asked o s key → wanted key where
  noted s r hr hs key hasked := by
    rcases hasked.split s with hbefore | hnow
    · exact hs key hbefore
    · exact absurd hnow (not_asked_noted (hr key))
  attempt key' hwanted s hs := by
    obtain ⟨t, ht, -⟩ := attempt_eq catalog key' s
    rw [ht]
    intro key hasked
    rcases hasked.split s with hbefore | hnow
    · exact hs key hbefore
    · rw [(asked_attempt_iff ht).1 hnow]
      exact hwanted

/-! Prefetching on a pool -/

variable {workers : Int} {o : Fragments} {top : Text} {root : File} {p q : Pool}
  {I : Fragments → Prop}

theorem Lasting.step (h : Lasting catalog (Foreign catalog top) I)
    (hp : Underway catalog o top root p) (hI : I p.fragments)
    (hstep : Pool.Step catalog workers top p q) : I q.fragments := by
  cases hstep with
  | turn => exact hI
  | pass => exact hI
  | submit => exact hI
  | start => exact hI
  | @finish s t _ _ _ before key after _ _ _ hattempt =>
    have hrequested := hp.running key (List.mem_append_right _ List.mem_cons_self)
    have ht := h.attempt key (hp.needed key hrequested).foreign s hI
    rw [hattempt] at ht
    exact ht
  | take => exact hI
  | note => exact h.noted _ _ (failed_ne_hitRecord _ _) hI

theorem Lasting.runs (h : Lasting catalog (Foreign catalog top) I)
    (hp : Underway catalog o top root p) (hI : I p.fragments)
    (hruns : Pool.Runs catalog workers top p q) : I q.fragments := by
  induction hruns with
  | refl => exact hI
  | tail hruns hstep ih => exact h.step (hp.runs hruns) ih hstep

end

end Fragments

open Run Fragments

namespace Request

/-- What a request leaves. It is answered in one go, or it is to prefetch and a pool of workers has
come some way with it. -/
inductive Serves (catalog : Catalog) (s : Fragments) : Request → Fragments → Prop
  | answer (r : Request) : Serves catalog s r (r.answer catalog s).2
  | pool {root : Surface.File} {key : Option Text} {workers : Int} {p : Pool} :
    Pool.Runs catalog workers (rootKey root key) (.start s (rootKey root key) root) p →
    Serves catalog s (prefetch root key workers) p.fragments

/-- Over requests that are made one after another, prefetching or assembly asks for a key. Who gets
a key by itself has named it. -/
inductive Asks (catalog : Catalog) : Fragments → List Request → Text → Prop
  | first {s t : Fragments} {r : Request} {rs : List Request} {key : Text} :
    (∀ named, r ≠ get named) → Serves catalog s r t → Asked s t key →
    Asks catalog s (r :: rs) key
  | later {s t : Fragments} {r : Request} {rs : List Request} {key : Text} :
    Serves catalog s r t → Asks catalog t rs key → Asks catalog s (r :: rs) key

theorem answer_snd (catalog : Catalog) (s : Fragments) (r : Request) :
    (r.answer catalog s).2 = left (r.run catalog s) := by
  unfold answer
  cases r.run catalog s <;> rfl

variable {m : Mapping} {s t : Fragments} {r : Request} {rs : List Request} {key : Text}

/-- Whatever outlasts trying the keys of hrefs lasts while a request is answered. -/
theorem run_maintains {I : Fragments → Prop}
    (h : Lasting m.catalog (fun key => ∃ href base, m.catalog.canonicalize href base = .ok key) I)
    (hr : ∀ named, r ≠ get named) : Maintains I (r.run m.catalog) := by
  have hforeign (top : Text) : Lasting m.catalog (Foreign m.catalog top) I :=
    h.mono fun key hkey => hkey.2
  cases r with
  | get named => exact absurd rfl (hr named)
  | prefetch root key workers => exact ((hforeign _).prefetch root workers).bind fun _ => .pure _
  | assemble strict root key => exact ((hforeign _).assemble strict).bind fun _ => .pure _
  | load settings path =>
    have hload : Maintains I (Loader.loadGrammar m.catalog settings path) := by
      apply Maintains.lifted
      intro key hkey
      apply (h.fetch ⟨path, [], hkey⟩).bind
      intro root
      exact (hforeign _).assembleRoot settings
    exact hload.bind fun _ => .pure _

/-- Hrefs lead to the keys that a request asks for. -/
theorem Serves.exists_href (h : Serves m.catalog s r t) (hr : ∀ named, r ≠ get named)
    (hasked : Asked s t key) : ∃ href base, m.catalog.canonicalize href base = .ok key := by
  have hlasting := lasting_asked m.catalog
    (fun key => ∃ href base, m.catalog.canonicalize href base = .ok key) s
  have hstart (key : Text) (hkey : Asked s s key) :
      ∃ href base, m.catalog.canonicalize href base = .ok key :=
    absurd hkey (not_asked rfl rfl)
  cases h with
  | answer r =>
    rw [answer_snd] at hasked
    exact run_maintains hlasting hr s hstart key hasked
  | @pool root top workers p hruns =>
    have hforeign := hlasting.mono fun key (hkey : Foreign m.catalog (rootKey root top) key) =>
      hkey.2
    exact hforeign.runs (underway_start m.catalog s _ root) hstart hruns key hasked

theorem Asks.exists_href (h : Asks m.catalog s rs key) :
    ∃ href base, m.catalog.canonicalize href base = .ok key := by
  induction h with
  | first hr hserves hasked => exact hserves.exists_href hr hasked
  | later _ _ ih => exact ih

end Request

/-- An href has a key, which is a path in normal form and the key of itself. Whatever is prefetched
and assembled over a mapping, and whatever is known by then, only such keys are asked for; any two
of them that one path is normalized from are the same, and one can be read if and only if the path
of some source is normalized to it. -/
theorem Mapping.keys_normal (sources : List (Text × Source)) :
    (∀ href base, ∃ key, (ofList sources).catalog.canonicalize href base = .ok key ∧
      Path.Normal key ∧ Path.normalize key = key ∧
      (ofList sources).catalog.canonicalize key [] = .ok key) ∧
    ∀ s rs,
      (∀ key, Request.Asks (ofList sources).catalog s rs key →
        Path.Normal key ∧ Path.normalize key = key ∧
        ((∃ source, (ofList sources).catalog.read key = .ok source) ↔
          ∃ entry ∈ sources, Path.normalize entry.1 = key)) ∧
      ∀ key key', Request.Asks (ofList sources).catalog s rs key →
        Request.Asks (ofList sources).catalog s rs key' →
        Path.normalize key = Path.normalize key' → key = key' := by
  have hnormal {s : Fragments} {rs : List Request} {key : Text}
      (h : Request.Asks (ofList sources).catalog s rs key) : Path.Normal key := by
    obtain ⟨href, base, hkey⟩ := h.exists_href
    cases hkey
    exact normal_canonicalize href base
  constructor
  · intro href base
    have hkey := normal_canonicalize href base
    exact ⟨_, rfl, hkey, hkey.normalize_eq,
      congrArg Except.ok (canonicalize_of_normal hkey.normalize_eq)⟩
  · intro s rs
    constructor
    · intro key hkey
      exact ⟨hnormal hkey, (hnormal hkey).normalize_eq, exists_read_iff⟩
    · intro key key' hkey hkey' hsame
      rwa [(hnormal hkey).normalize_eq, (hnormal hkey').normalize_eq] at hsame

namespace Respelled

/-! A source that nobody asks for under the path that it is given with. -/

def source (s : String) : Source := .text s

def sources : List (Text × Source) :=
  [("./lib//a.rnc", source "x = external \"../b.rnc\""),
    ("lib/../b.rnc", source "start = text")]

def here : Span := ⟨[], 1, 1, 0, 0⟩

/-- `include "lib/./a.rnc" start = external "./b.rnc"` -/
def root : Surface.File where
  path := "main.rnc"
  declarations := []
  components :=
    [.incl "lib/./a.rnc" none [] here,
      .define .start .single (.external "./b.rnc" none here) none here]
  isPattern := false

def first : Request := .prefetch root none 1

def requests : List Request := [first, .assemble true root none]

theorem asks_first : Request.Asks (Mapping.ofList sources).catalog {} requests "b.rnc" := by
  have hasked : Asked {} (first.answer (Mapping.ofList sources).catalog {}).2 "b.rnc" := by
    apply Or.inl
    decide +kernel
  exact .first nofun (.answer first) hasked

/-- The source is asked for and read under its path in normal form. -/
theorem keys_normal_respelled :
    Request.Asks (Mapping.ofList sources).catalog {} requests "b.rnc" ∧
      Path.Normal "b.rnc" ∧ (∃ source, (Mapping.ofList sources).catalog.read "b.rnc" = .ok source) ∧
      ¬ Request.Asks (Mapping.ofList sources).catalog {} requests "lib/../b.rnc" := by
  obtain ⟨hkeys, hsame⟩ := (Mapping.keys_normal sources).2 {} requests
  obtain ⟨hnormal, hself, hread⟩ := hkeys "b.rnc" asks_first
  have hpath : Path.normalize "lib/../b.rnc" = "b.rnc" := by decide
  refine ⟨asks_first, hnormal, hread.2 ⟨_, List.mem_cons_of_mem _ List.mem_cons_self, hpath⟩, ?_⟩
  intro hasks
  have heq := hsame _ _ hasks asks_first (hpath.trans hself.symm)
  exact absurd heq (by decide)

end Respelled

end RelaxCompact
