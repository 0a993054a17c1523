import RelaxCompact.Proofs.Assembly.Course
import RelaxCompact.Proofs.Caching.Covering
import RelaxCompact.Proofs.Lists

/-!
Files that refer to one another around a cycle. At every stage of an assembly the stack goes from
the file that is being expanded back to the root, each file on it referred to by the next. So a file
that is referred to while it is on the stack closes a cycle, and no assembly goes on forever.
-/

namespace RelaxCompact

open Surface Fragments

/-- The file behind a key refers to another key. -/
def Fragments.Refers (catalog : Catalog) (s : Fragments) (top : Text) (root : File)
    (key key' : Text) : Prop :=
  ∃ file, Behind catalog s top root key file ∧
    ∃ href ∈ file.hrefs, catalog.canonicalize href key = .ok key'

namespace Expand

open Run

section

variable {setup : Setup} {o : Fragments} {top : Text} {root : File} {keys : List Text}
  {stage stage' : Stage} {e : Failure}

/-- What holds at every stage of an assembly of `root` under the key `top`, if keys stand for what
they stand for in `o` and those that stand for files are among `keys`. -/
structure Stage.Sound (catalog : Catalog) (o : Fragments) (top : Text) (root : File)
    (keys : List Text) (stage : Stage) : Prop where
  source : Agree catalog o stage.state.source
  head : stage.state.stack.head? = some stage.place.file
  nodup : stage.state.stack.Nodup
  top_mem : top ∈ stage.state.stack
  referred : stage.state.stack.IsChain (Function.swap (Refers catalog o top root))
  written : ∃ file, Behind catalog o top root stage.place.file file ∧ stage.task.hrefs ⊆ file.hrefs
  room : room keys stage.state.stack < stage.depth

namespace Stage.Sound

/-- A directive of a stage makes the file at hand refer to what it names. -/
theorem refers (h : stage.Sound setup.catalog o top root keys) {href key : Text}
    (hhref : href ∈ stage.task.hrefs)
    (hkey : setup.catalog.canonicalize href stage.place.file = .ok key) :
    Refers setup.catalog o top root stage.place.file key := by
  obtain ⟨file, hfile, hsub⟩ := h.written
  exact ⟨file, hfile, href, hsub hhref, hkey⟩

theorem stays (h : stage.Sound setup.catalog o top root keys)
    (hs : Stays setup.catalog stage stage') : stage'.Sound setup.catalog o top root keys where
  source := h.source.trans hs.source
  head := by
    rw [hs.stack, hs.file]
    exact h.head
  nodup := hs.stack ▸ h.nodup
  top_mem := hs.stack ▸ h.top_mem
  referred := hs.stack ▸ h.referred
  written := by
    obtain ⟨file, hfile, hsub⟩ := h.written
    rw [hs.file]
    exact ⟨file, hfile, List.Subset.trans hs.hrefs hsub⟩
  room := by
    rw [hs.stack, hs.depth]
    exact h.room

/-- A file that is entered takes up room. -/
theorem enters (hkeys : ∀ key file, outcome setup.catalog o key = .ok file → key ∈ keys)
    (h : stage.Sound setup.catalog o top root keys) (hs : Enters setup.catalog stage stage') :
    stage'.Sound setup.catalog o top root keys := by
  obtain ⟨href, hhref, hkey⟩ := hs.referred
  obtain ⟨file, hout, hhrefs⟩ := hs.opened
  have hfile : outcome setup.catalog o stage'.place.file = .ok file := (h.source _).symm.trans hout
  have hne : stage'.place.file ≠ top := fun he => hs.fresh (he ▸ h.top_mem)
  refine ⟨h.source.trans hs.source, ?head, ?nodup, ?top_mem, ?referred, ?written, ?room⟩
  case head => rw [hs.stack, List.head?_cons]
  case nodup =>
    rw [hs.stack]
    exact List.nodup_cons.2 ⟨hs.fresh, h.nodup⟩
  case top_mem =>
    rw [hs.stack]
    exact List.mem_cons_of_mem _ h.top_mem
  case referred =>
    rw [hs.stack]
    refine List.isChain_cons.2 ⟨fun lower hlower => ?_, h.referred⟩
    cases h.head.symm.trans hlower
    exact h.refers hhref hkey
  case written => exact ⟨file, by rwa [Behind, if_neg hne], hhrefs ▸ List.Subset.refl _⟩
  case room =>
    have hless : RelaxCompact.room keys (stage'.place.file :: stage.state.stack) <
        RelaxCompact.room keys stage.state.stack :=
      room_cons_lt (hkeys _ _ hfile) hs.fresh
    have hroom := h.room
    rw [← hs.depth] at hroom
    rw [hs.stack]
    exact Nat.lt_of_lt_of_le hless (Nat.le_of_lt_succ hroom)

theorem begins (hkeys : ∀ key file, outcome setup.catalog o key = .ok file → key ∈ keys)
    (h : stage.Sound setup.catalog o top root keys) (hb : Begins setup stage stage') :
    stage'.Sound setup.catalog o top root keys := by
  rcases hb.stays_or_enters with hs | hs
  · exact h.stays hs
  · exact h.enters hkeys hs

/-- All that a stage comes to is as sound as the stage. -/
theorem reaches (hkeys : ∀ key file, outcome setup.catalog o key = .ok file → key ∈ keys)
    (h : stage.Sound setup.catalog o top root keys)
    (hr : Relation.ReflTransGen (Begins setup) stage stage') :
    stage'.Sound setup.catalog o top root keys := by
  induction hr with
  | refl => exact h
  | tail _ hb ih => exact ih.begins hkeys hb

/-- The budget is enough. -/
theorem not_exhausted (h : stage.Sound setup.catalog o top root keys) (cs : List Component)
    (htask : stage.task = .file cs) : stage.budget ≠ 0 := by
  intro hb
  have hroom := h.room
  rw [Stage.depth, htask, hb] at hroom
  exact Nat.not_lt_zero _ hroom

/-- A key on the stack that the file at hand refers to closes a cycle. -/
theorem closes (h : stage.Sound setup.catalog o top root keys) {href key : Text}
    (hhref : href ∈ stage.task.hrefs)
    (hkey : setup.catalog.canonicalize href stage.place.file = .ok key)
    (hmem : key ∈ stage.state.stack) :
    (cycleOf stage.state.stack key).IsChain (Refers setup.catalog o top root) :=
  isChain_around h.referred h.head (h.refers hhref hkey) hmem

/-- What fails has come to a stage that is refused for itself. -/
theorem exists_stops {stage : Stage}
    (hkeys : ∀ key file, outcome setup.catalog o key = .ok file → key ∈ keys)
    (htame : Fragments.Tame setup.catalog o) (he : ¬ e.Tame)
    (h : stage.Sound setup.catalog o top root keys) (hfails : stage.Fails setup e) :
    ∃ stage', Relation.ReflTransGen (Begins setup) stage stage' ∧ stage'.Stops setup e := by
  rcases hfails.begins_or_stops (htame.of_agree h.source) he with ⟨stage', hb, hfails'⟩ | hstops
  · obtain ⟨stage'', hr, hstops⟩ := (h.begins hkeys hb).exists_stops hkeys htame he hfails'
    exact ⟨stage'', .head hb hr, hstops⟩
  · exact ⟨stage, .refl, hstops⟩
termination_by stage.rank
decreasing_by exact hb.rank_lt

/-- A stage fails exactly if it comes to one that is refused for itself. -/
theorem fails_iff (hkeys : ∀ key file, outcome setup.catalog o key = .ok file → key ∈ keys)
    (htame : Fragments.Tame setup.catalog o) (he : ¬ e.Tame)
    (h : stage.Sound setup.catalog o top root keys) :
    stage.Fails setup e ↔
      ∃ stage', Relation.ReflTransGen (Begins setup) stage stage' ∧ stage'.Stops setup e := by
  refine ⟨h.exists_stops hkeys htame he, ?_⟩
  rintro ⟨stage', hr, hstops⟩
  induction hr using Relation.ReflTransGen.head_induction_on with
  | refl => exact hstops.fails (htame.of_agree h.source) he
  | head hb _ ih => exact hb.fails (htame.of_agree h.source) he (ih (h.begins hkeys hb))

end Stage.Sound

end

/-- The stage at which an assembly starts. -/
def Stage.start (setup : Setup) (root : File) (key : Option Text) (s : Fragments) : Stage where
  budget := setup.catalog.size + s.entries.size + 1
  place :=
    { grammar := 0
      environment := Environment.ofDeclarations root.declarations
      file := rootKey root key }
  task := .file root.components
  state :=
    { source := s
      stack := [rootKey root key]
      grammars :=
        [{ label := if root.path.isEmpty then rootKey root key else root.path, parent := none }] }

/-- What the expansion of a root comes to within a budget. -/
def within (setup : Setup) (root : File) (key : Option Text) (s : Fragments) (budget : Nat) :
    Except Failure Unit :=
  let start := Stage.start setup root key s
  ended (expandFile setup budget start.place root.components start.state)

/-- Budgets that exceed the number of files that can be had make no difference. -/
theorem within_eq {setup : Setup} {root : File} {key : Option Text} {s : Fragments}
    {keys : List Text}
    (hkeys : ∀ key file, outcome setup.catalog s key = .ok file → key ∈ keys) {b b' : Nat}
    (hb : keys.length < b) (hb' : keys.length < b') :
    within setup root key s b = within setup root key s b' := by
  have hroom {n : Nat} (hn : keys.length < n) : room keys [rootKey root key] < n :=
    Nat.lt_of_le_of_lt (room_le_length _ _) hn
  have htwin := expandFile_twin setup.strict (pairing_grown (.refl setup.catalog s) _ root)
    List.mem_cons_self hkeys (hroom hb) (hroom hb') (Stage.start setup root key s).place
    root.components fun href hm key hkey => .root hm hkey
  exact htwin.ended_eq ⟨rfl, rfl, .refl _ _, .refl _ _⟩

/-- An assembly comes to a stage. -/
def Occurs (setup : Setup) (root : File) (key : Option Text) (s : Fragments) (stage : Stage) :
    Prop :=
  Relation.ReflTransGen (Begins setup) (.start setup root key s) stage

theorem assemble_fails {setup : Setup} {root : File} {key : Option Text} {s : Fragments}
    {e : Failure} :
    Run.Fails (assemble setup root key) s e ↔ (Stage.start setup root key s).Fails setup e := by
  unfold Stage.start Stage.Fails Run.Fails assemble
  dsimp only
  generalize expandFile setup _ _ _ _ = x
  cases x with
  | ok _ t => exact ⟨nofun, nofun⟩
  | error e' t =>
    constructor
    · rintro ⟨u, hu⟩
      cases hu
      exact ⟨t, rfl⟩
    · rintro ⟨u, hu⟩
      cases hu
      exact ⟨_, rfl⟩

theorem Stage.sound_start {catalog : Catalog} (strict : Bool) (root : File) (key : Option Text)
    {s : Fragments} {keys : List Text} (hsize : keys.length ≤ catalog.size + s.entries.size) :
    (Stage.start ⟨catalog, strict⟩ root key s).Sound catalog s (rootKey root key) root keys where
  source := .refl _ _
  head := rfl
  nodup := List.nodup_singleton _
  top_mem := List.mem_singleton_self _
  referred := .singleton _
  written := ⟨root, behind_top, List.Subset.refl _⟩
  room := Nat.lt_succ_of_le (Nat.le_trans (room_le_length _ _) hsize)

end Expand

namespace Mapping

open Run Expand

theorem tame_fragments (m : Mapping) : Fragments.Tame m.catalog {} where
  canonicalize _ _ _ h := nomatch h
  outcome key e h := by
    change (m.read key >>= fun source => source.parse key) = .error e at h
    unfold Mapping.read at h
    cases hs : m.sources.get? key with
    | none =>
      rw [hs] at h
      cases h
      trivial
    | some source =>
      rw [hs] at h
      exact Source.tame_of_parse h

theorem assemble_not_exhausted (m : Mapping) (strict : Bool) (root : File) (key : Option Text)
    {s : Fragments} (hs : Agree m.catalog {} s) :
    ¬ Fails (assemble ⟨m.catalog, strict⟩ root key) s .exhausted := by
  intro hfails
  have hstart := Stage.sound_start strict root key (m.length_append_keys_le s)
  have hkeys (k : Text) (file : File) (h : outcome m.catalog s k = .ok file) :=
    m.mem_of_outcome h
  obtain ⟨stage, h, hstops⟩ :=
    hstart.exists_stops hkeys (m.tame_fragments.of_agree hs) id (assemble_fails.1 hfails)
  rcases hstops with ⟨_, _, _, _, _, _, he⟩ | ⟨hb, ⟨cs, htask⟩, -⟩
  · cases he
  · exact (hstart.reaches hkeys h).not_exhausted cs htask hb

/-- No assembly of sources held in memory goes on forever: its budget does not run out, and a larger
one makes no difference. At every stage the stack has no key twice, and on top the file that is
being expanded. An assembly fails for a cycle exactly if a directive that it comes to names a key on
the stack, and the cycle goes from that key around to itself, each file on it referring to the
next. -/
theorem assemble_refuses_cycles (m : Mapping) (strict : Bool) (root : File) (key : Option Text)
    {s : Fragments} (hs : Agree m.catalog {} s) :
    ¬ Fails (assemble ⟨m.catalog, strict⟩ root key) s .exhausted ∧
      (∀ b, m.catalog.size + s.entries.size < b → within ⟨m.catalog, strict⟩ root key s b =
        within ⟨m.catalog, strict⟩ root key s (m.catalog.size + s.entries.size + 1)) ∧
      (∀ stage, Occurs ⟨m.catalog, strict⟩ root key s stage →
        stage.state.stack.Nodup ∧ stage.state.stack.head? = some stage.place.file) ∧
      (∀ href cycle span,
        Fails (assemble ⟨m.catalog, strict⟩ root key) s
            (.schema (.includeCycle href cycle span)) ↔
          ∃ stage, Occurs ⟨m.catalog, strict⟩ root key s stage ∧
            stage.task.directive = some (href, span) ∧
            canonicalize href stage.place.file ∈ stage.state.stack ∧
            cycle = cycleOf stage.state.stack (canonicalize href stage.place.file)) ∧
      ∀ stage, Occurs ⟨m.catalog, strict⟩ root key s stage → ∀ href span,
        stage.task.directive = some (href, span) → ∀ k ∈ stage.state.stack,
        canonicalize href stage.place.file = k →
        (∃ between, cycleOf stage.state.stack k = k :: between ++ [k]) ∧
          (cycleOf stage.state.stack k).IsChain
            (Refers m.catalog s (rootKey root key) root) := by
  have htame : Fragments.Tame m.catalog s := m.tame_fragments.of_agree hs
  have hlength := m.length_append_keys_le s
  have hstart := Stage.sound_start strict root key hlength
  have hkeys (k : Text) (file : File) (h : outcome m.catalog s k = .ok file) :=
    m.mem_of_outcome h
  have hsound (stage : Stage) (h : Occurs ⟨m.catalog, strict⟩ root key s stage) :=
    hstart.reaches hkeys h
  refine ⟨m.assemble_not_exhausted strict root key hs, fun b hb => ?budget,
    fun stage h => ⟨(hsound stage h).nodup, (hsound stage h).head⟩,
    fun href cycle span => ?refused, ?around⟩
  case budget =>
    exact within_eq hkeys (Nat.lt_of_le_of_lt hlength hb) (Nat.lt_succ_of_le hlength)
  case refused =>
    rw [assemble_fails, hstart.fails_iff hkeys htame id]
    refine exists_congr fun stage => and_congr_right fun h => ?_
    constructor
    · rintro (⟨href', span', hdirective, k, hk, hmem, he⟩ | ⟨-, -, he⟩)
      · cases hk
        cases he
        exact ⟨hdirective, hmem, rfl⟩
      · cases he
    · rintro ⟨hdirective, hmem, rfl⟩
      exact .inl ⟨href, span, hdirective, _, rfl, hmem, rfl⟩
  case around =>
    rintro stage h href span hdirective k hmem rfl
    exact ⟨⟨_, rfl⟩, (hsound stage h).closes (Task.mem_hrefs hdirective) rfl hmem⟩

end Mapping

namespace Mutual

open Run Expand

/-! Two fragments that include each other. -/

def mapping : Mapping := Mapping.ofList [("b.rnc", .text "include \"a.rnc\"")]

def here : Span := ⟨[], 1, 1, 0, 0⟩

/-- `include "b.rnc" start = empty` -/
def root : File where
  path := "a.rnc"
  declarations := []
  components :=
    [.incl "b.rnc" none [] here, .define .start .single (.leaf .empty here) none here]
  isPattern := false

/-- The cycle that a failure names. -/
def cycle? : Failure → Option (List Text)
  | .schema (.includeCycle _ cycle _) => some cycle
  | _ => none

/-- The directive in the second file closes a cycle through both. -/
theorem assemble_refuses_cycles_mutual :
    ∃ stage href span, Occurs ⟨mapping.catalog, true⟩ root none {} stage ∧
      stage.task.directive = some (href, span) ∧
      cycleOf stage.state.stack (Mapping.canonicalize href stage.place.file) =
        ["a.rnc", "b.rnc", "a.rnc"] ∧
      List.IsChain (Refers mapping.catalog {} (rootKey root none) root)
        ["a.rnc", "b.rnc", "a.rnc"] := by
  have hcycle : (failure? (ended (assemble ⟨mapping.catalog, true⟩ root none {}))).bind cycle? =
      some (["a.rnc", "b.rnc", "a.rnc"] : List Text) := by decide +kernel
  obtain ⟨e, hfailure, hcycle⟩ := Option.bind_eq_some_iff.1 hcycle
  obtain ⟨-, -, -, hrefused, haround⟩ :=
    mapping.assemble_refuses_cycles true root none (.refl mapping.catalog {})
  unfold cycle? at hcycle
  split at hcycle
  next href cycle span =>
    have hfails := fails_of_ended (eq_error_of_failure? hfailure)
    obtain ⟨stage, ho, hdirective, hmem, hc⟩ := (hrefused href cycle span).1 hfails
    cases Option.some.inj hcycle
    have hchain := (haround stage ho href span hdirective _ hmem rfl).2
    rw [← hc] at hchain
    exact ⟨stage, href, span, ho, hdirective, hc.symm, hchain⟩
  next => cases hcycle

end Mutual

end RelaxCompact
