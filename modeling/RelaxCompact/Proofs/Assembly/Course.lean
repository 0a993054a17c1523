import RelaxCompact.Proofs.Assembly.Failing

/-!
The course of an assembly: at which places, in which states, and with how much of the budget left
files, components and patterns are expanded. What is begun is in the same file, or in another one
that goes on the stack. What is expanded fails for what it begins to expand in turn, or for a cycle
that it closes itself, or because no file may be entered any more.
-/

namespace RelaxCompact.Expand

open Surface Run

/-- What is expanded at a time. -/
inductive Task
  | file (components : List Component)
  | components (i : Nat) (components : List Component)
  | component (component : Component)
  | pattern (pattern : Pattern)

namespace Task

/-- All that a task refers to by include or external. -/
def hrefs : Task → List Text
  | file cs => Component.allHrefs cs
  | components _ cs => Component.allHrefs cs
  | component c => c.hrefs
  | pattern p => p.hrefs

/-- The href of an include or external, and where it is written. -/
def directive : Task → Option (Text × Span)
  | component (.incl href _ _ span) => some (href, span)
  | pattern (.external href _ span) => some (href, span)
  | _ => none

theorem mem_hrefs {task : Task} {href : Text} {span : Span}
    (h : task.directive = some (href, span)) : href ∈ task.hrefs := by
  cases task with
  | file cs => cases h
  | components i cs => cases h
  | component c =>
    cases c with
    | incl =>
      cases h
      exact List.mem_cons_self
    | _ => cases h
  | pattern p =>
    cases p with
    | external =>
      cases h
      exact List.mem_singleton_self _
    | _ => cases h

end Task

/-- A task that is to be done at a place from a state, and how deep files may still go into one
another. -/
structure Stage where
  budget : Nat
  place : Place
  task : Task
  state : Expansion

/-- A stage begins another one: from the one on, all goes well up to the other. -/
inductive Begins (setup : Setup) : Stage → Stage → Prop
  | file {b place cs s} :
    Begins setup ⟨b + 1, place, .file cs, s⟩ ⟨b, place, .components 0 cs, s⟩
  | first {b place i c cs s} :
    Begins setup ⟨b, place, .components i (c :: cs), s⟩ ⟨b, place.part i, .component c, s⟩
  | rest {b place i c cs s t} : expand setup (expandFile setup b) (place.part i) c s = .ok () t →
    Begins setup ⟨b, place, .components i (c :: cs), s⟩ ⟨b, place, .components (i + 1) cs, t⟩
  | define {b place name operator p documentation span s t u} : suppressed name s = .ok false t →
    claim place.grammar ⟨place.file, place.address⟩ t = .ok false u →
    Begins setup ⟨b, place, .component (.define name operator p documentation span), s⟩
      ⟨b, place, .pattern p, u⟩
  | div {b place inner cs span s t} : openScope place .div "div" s = .ok inner t →
    Begins setup ⟨b, place, .component (.div cs span), s⟩ ⟨b, inner, .components 0 cs, t⟩
  | overrides {b place inner href inherit key file cs span s t} :
    openInclude setup place href span s = .ok (inner, key, file) t →
    Begins setup ⟨b, place, .component (.incl href inherit cs span), s⟩
      ⟨b, inner, .components 0 cs, t⟩
  | fragment {b place inner innermost href inherit key file cs span s t u v} :
    openInclude setup place href span s = .ok (inner, key, file) t →
    expandAll setup (expandFile setup b) inner 0 cs t = .ok () u →
    openFragment inner file key href inherit cs span u = .ok innermost v →
    Begins setup ⟨b, place, .component (.incl href inherit cs span), s⟩
      ⟨b, innermost, .file file.components, v⟩
  | left {b place op left right span s} :
    Begins setup ⟨b, place, .pattern (.binary op left right span), s⟩ ⟨b, place, .pattern left, s⟩
  | right {b place op left right span content s t} :
    lower setup (expandFile setup b) place left s = .ok content t →
    Begins setup ⟨b, place, .pattern (.binary op left right span), s⟩ ⟨b, place, .pattern right, t⟩
  | unary {b place modifier p span s} :
    Begins setup ⟨b, place, .pattern (.unary modifier p span), s⟩ ⟨b, place, .pattern p, s⟩
  | named {b place holder name names p span s t} :
    schema (place.environment.nameClass holder name) s = .ok names t →
    Begins setup ⟨b, place, .pattern (.named holder name p span), s⟩ ⟨b, place, .pattern p, t⟩
  | except {b place type params p span library s t} :
    schema (place.environment.libraryFor type (some span)) s = .ok library t →
    Begins setup ⟨b, place, .pattern (.data type params (some p) span), s⟩ ⟨b, place, .pattern p, t⟩
  | external {b place inner href inherit file span s t} :
    openExternal setup place href inherit span s = .ok (inner, file) t →
    Begins setup ⟨b, place, .pattern (.external href inherit span), s⟩
      ⟨b, inner, .file file.components, t⟩
  | grammar {b place cs number span s t} :
    openIsolated "grammar" (some place.grammar) s = .ok number t →
    Begins setup ⟨b, place, .pattern (.grammar cs span), s⟩
      ⟨b, { place with grammar := number, chain := [] }, .components 0 cs, t⟩

namespace Stage

/-- What is to be done at a stage fails. -/
def Fails (setup : Setup) (e : Failure) : Stage → Prop
  | ⟨b, place, .file cs, s⟩ => Run.Fails (expandFile setup b place cs) s e
  | ⟨b, place, .components i cs, s⟩ =>
    Run.Fails (expandAll setup (expandFile setup b) place i cs) s e
  | ⟨b, place, .component c, s⟩ => Run.Fails (expand setup (expandFile setup b) place c) s e
  | ⟨b, place, .pattern p, s⟩ => Run.Fails (lower setup (expandFile setup b) place p) s e

/-- A stage is refused for itself: it closes a cycle, or nothing is left of the budget. -/
def Stops (setup : Setup) (e : Failure) (stage : Stage) : Prop :=
  (∃ href span, stage.task.directive = some (href, span) ∧
    Closes setup.catalog stage.place href span stage.state e) ∨
  stage.budget = 0 ∧ (∃ cs, stage.task = .file cs) ∧ e = .exhausted

/-- How deep files may still go into one another, a file that is to be done among them. -/
def depth (stage : Stage) : Nat :=
  match stage.task with
  | .file _ => stage.budget
  | _ => stage.budget + 1

/-- What is begun in another file is not so deep, what is begun in the same file is smaller. -/
noncomputable def rank (stage : Stage) : Nat × Nat :=
  match stage.task with
  | .file cs => (stage.depth, sizeOf cs + 1)
  | .components _ cs => (stage.depth, sizeOf cs)
  | .component c => (stage.depth, sizeOf c)
  | .pattern p => (stage.depth, sizeOf p)

end Stage

section

variable {setup : Setup} {stage stage' : Stage} {e : Failure}

theorem Begins.rank_lt (h : Begins setup stage stage') :
    Prod.Lex (· < ·) (· < ·) stage'.rank stage.rank := by
  cases h with
  | fragment => exact .left _ _ (Nat.lt_succ_self _)
  | external => exact .left _ _ (Nat.lt_succ_self _)
  | file => exact .right _ (Nat.lt_succ_self _)
  | _ => exact .right _ (by decreasing_tactic)

/-! Within a file, and into another one -/

/-- The one stage is in the file of the other, with a part of what the other has to do. -/
structure Stays (catalog : Catalog) (stage stage' : Stage) : Prop where
  source : Fragments.Agree catalog stage.state.source stage'.state.source
  stack : stage'.state.stack = stage.state.stack
  file : stage'.place.file = stage.place.file
  hrefs : stage'.task.hrefs ⊆ stage.task.hrefs
  depth : stage'.depth = stage.depth

/-- The one stage is at the beginning of a file that the other refers to and that was not being
expanded. -/
structure Enters (catalog : Catalog) (stage stage' : Stage) : Prop where
  source : Fragments.Agree catalog stage.state.source stage'.state.source
  stack : stage'.state.stack = stage'.place.file :: stage.state.stack
  fresh : stage'.place.file ∉ stage.state.stack
  referred : ∃ href ∈ stage.task.hrefs,
    catalog.canonicalize href stage.place.file = .ok stage'.place.file
  opened : ∃ file, Fragments.outcome catalog stage.state.source stage'.place.file = .ok file ∧
    stage'.task.hrefs = file.hrefs
  depth : stage'.depth + 1 = stage.depth

theorem openInclude_ok {place inner : Place} {href key : Text} {span : Span} {file : File}
    {s t : Expansion} (h : openInclude setup place href span s = .ok (inner, key, file) t) :
    setup.catalog.canonicalize href place.file = .ok key ∧ key ∉ s.stack ∧
      Fragments.outcome setup.catalog s.source key = .ok file ∧ inner.file = place.file ∧
      Onward setup.catalog s t := by
  obtain ⟨key', file', u, hkey, hfetch, h⟩ := directive_ok.1 h
  split at h
  · obtain ⟨_, _, hrefuse, _⟩ := bind_ok h
    exact (not_throw_ok hrefuse).elim
  · obtain ⟨inner', v, hscope, h⟩ := bind_ok h
    cases h
    obtain ⟨hfresh, hfile, -⟩ := fetch_ok hfetch
    obtain ⟨number, hinner, -⟩ := openScope_ok hscope
    refine ⟨hkey, hfresh, hfile, by rw [hinner], ?_⟩
    exact (fetch_advances _ _ _ _ _ _ hfetch).trans (openScope_advances _ _ _ _ _ _ hscope)

theorem openFragment_ok {place inner : Place} {file : File} {key href : Text}
    {inherit : Option String} {overrides : List Component} {span : Span} {s t : Expansion}
    (h : openFragment place file key href inherit overrides span s = .ok inner t)
    (catalog : Catalog) :
    inner.file = key ∧ ∃ u, Onward catalog s u ∧ t = { u with stack := key :: u.stack } := by
  obtain ⟨u, hpush, h⟩ := cond_ok h
  obtain ⟨_, v, hreport, h⟩ := bind_ok h
  obtain ⟨ns, v', hns, h⟩ := bind_ok h
  obtain ⟨_, hv⟩ := inheritedNamespace_ok hns
  subst v'
  obtain ⟨_, w, hcheck, h⟩ := bind_ok h
  obtain ⟨inner', x, hscope, h⟩ := bind_ok h
  obtain ⟨_, y, henter, h⟩ := bind_ok h
  cases henter
  cases h
  obtain ⟨number, hinner, -⟩ := openScope_ok hscope
  have hsu : Onward catalog s u := by
    rcases hpush with ⟨-, hpush⟩ | ⟨-, rfl⟩
    · exact pushFrame_advances _ _ _ _ _ hpush
    · exact .refl _
  have hux : Onward catalog u x :=
    ((report_advances _ _ _ _ hreport).trans (checkEnvironment_notes catalog hcheck).1).trans
      (openScope_advances _ _ _ _ _ _ hscope)
  exact ⟨by rw [hinner], x, hsu.trans hux, rfl⟩

theorem openIsolated_onward {label : Text} {parent : Option Nat} {number : Nat} {s t : Expansion}
    (h : openIsolated label parent s = .ok number t) (catalog : Catalog) : Onward catalog s t := by
  refine Advances.bind (openGrammar_advances label parent) (fun number => ?_) s number t h
  exact .bind (.modify fun s => .of_grammars (.refl _ _) rfl rfl id) fun _ => .pure _

theorem openExternal_ok {place inner : Place} {href : Text} {inherit : Option String}
    {span : Span} {file : File} {s t : Expansion}
    (h : openExternal setup place href inherit span s = .ok (inner, file) t) :
    setup.catalog.canonicalize href place.file = .ok inner.file ∧ inner.file ∉ s.stack ∧
      Fragments.outcome setup.catalog s.source inner.file = .ok file ∧
      ∃ u, Onward setup.catalog s u ∧
        Onward setup.catalog { u with stack := inner.file :: u.stack } t := by
  obtain ⟨key, file', u, hkey, hfetch, h⟩ := directive_ok.1 h
  obtain ⟨ns, u', hns, h⟩ := bind_ok h
  obtain ⟨_, hu⟩ := inheritedNamespace_ok hns
  subst u'
  obtain ⟨_, v, henter, h⟩ := bind_ok h
  cases henter
  obtain ⟨number, w, hopen, h⟩ := bind_ok h
  cases h
  obtain ⟨hfresh, hfile, -⟩ := fetch_ok hfetch
  exact ⟨hkey, hfresh, hfile, u, fetch_advances _ _ _ _ _ _ hfetch, openIsolated_onward hopen _⟩

theorem Stays.of_onward {b : Nat} {place place' : Place} {task task' : Task} {s t : Expansion}
    (h : Onward setup.catalog s t) (hfile : place'.file = place.file)
    (hhrefs : task'.hrefs ⊆ task.hrefs)
    (hdepth : Stage.depth ⟨b, place', task', t⟩ = Stage.depth ⟨b, place, task, s⟩) :
    Stays setup.catalog ⟨b, place, task, s⟩ ⟨b, place', task', t⟩ :=
  ⟨h.source, h.stack, hfile, hhrefs, hdepth⟩

/-- A stage is begun in the file of the one that begins it, or in one that is entered. -/
theorem Begins.stays_or_enters (h : Begins setup stage stage') :
    Stays setup.catalog stage stage' ∨ Enters setup.catalog stage stage' := by
  cases h with
  | file => exact .inl ⟨.refl _ _, rfl, rfl, List.Subset.refl _, rfl⟩
  | first => exact .inl (.of_onward (.refl _) rfl (List.subset_append_left _ _) rfl)
  | rest hfirst =>
    have honward := (expansion_advances (expandFile_advances setup _)).2.2 _ _ _ _ _ hfirst
    exact .inl (.of_onward honward rfl (List.subset_append_right _ _) rfl)
  | define hsuppressed hclaim =>
    have honward : Onward setup.catalog _ _ := suppressed_advances _ _ _ _ hsuppressed
    have honward' := honward.trans (claim_advances _ _ _ _ _ hclaim)
    exact .inl (.of_onward honward' rfl (List.Subset.refl _) rfl)
  | div hopen =>
    obtain ⟨number, hinner, -⟩ := openScope_ok hopen
    exact .inl (.of_onward (openScope_advances _ _ _ _ _ _ hopen) (by rw [hinner])
      (List.Subset.refl _) rfl)
  | overrides hopen =>
    obtain ⟨-, -, -, hfile, honward⟩ := openInclude_ok hopen
    exact .inl (.of_onward honward hfile (List.subset_cons_self _ _) rfl)
  | fragment hopen hall hfragment =>
    obtain ⟨hkey, hfresh, hfile, hinner, hst⟩ := openInclude_ok hopen
    have htu := (expansion_advances (expandFile_advances setup _)).2.1 _ _ _ _ _ _ hall
    obtain ⟨rfl, w, huw, rfl⟩ := openFragment_ok hfragment setup.catalog
    have hsw := (hst.trans htu).trans huw
    refine .inr ⟨hsw.source, ?_, hfresh, ⟨_, List.mem_cons_self, hkey⟩, ⟨_, hfile, rfl⟩, rfl⟩
    exact congrArg _ hsw.stack
  | left => exact .inl (.of_onward (.refl _) rfl (List.subset_append_left _ _) rfl)
  | right hleft =>
    have honward := (expansion_advances (expandFile_advances setup _)).1 _ _ _ _ _ hleft
    exact .inl (.of_onward honward rfl (List.subset_append_right _ _) rfl)
  | unary => exact .inl (.of_onward (.refl _) rfl (List.Subset.refl _) rfl)
  | named hname =>
    exact .inl (.of_onward (Advances.schema _ _ _ _ hname) rfl (List.Subset.refl _) rfl)
  | except hlibrary =>
    exact .inl (.of_onward (Advances.schema _ _ _ _ hlibrary) rfl (List.Subset.refl _) rfl)
  | external hopen =>
    obtain ⟨hkey, hfresh, hfile, u, hsu, hut⟩ := openExternal_ok hopen
    refine .inr ⟨hsu.source.trans hut.source, ?_, hfresh,
      ⟨_, List.mem_singleton_self _, hkey⟩, ⟨_, hfile, rfl⟩, rfl⟩
    exact hut.stack.trans (congrArg _ hsu.stack)
  | grammar hopen =>
    exact .inl (.of_onward (openIsolated_onward hopen _) rfl (List.Subset.refl _) rfl)

/-! What fails, and where -/

/-- What fails where it is begun, fails where it was begun from. -/
theorem Begins.fails (htame : Fragments.Tame setup.catalog stage.state.source) (he : ¬ e.Tame)
    (h : Begins setup stage stage') (hfails : stage'.Fails setup e) : stage.Fails setup e := by
  cases h with
  | file => exact hfails
  | first =>
    rw [Stage.Fails, expandAll]
    exact fails_bind.2 (.inl hfails)
  | rest hfirst =>
    rw [Stage.Fails, expandAll]
    exact fails_bind.2 (.inr ⟨(), _, hfirst, hfails⟩)
  | define hsuppressed hclaim =>
    rw [Stage.Fails, expand]
    exact (register_fails he).2 ⟨_, _, hsuppressed, hclaim, hfails⟩
  | div hopen =>
    rw [Stage.Fails, expand]
    exact fails_bind.2 (.inr ⟨_, _, hopen, hfails⟩)
  | overrides hopen => exact (incl_fails htame he).2 (.inr ⟨_, _, _, _, hopen, .inl hfails⟩)
  | fragment hopen hall hfragment =>
    exact (incl_fails htame he).2
      (.inr ⟨_, _, _, _, hopen, .inr ⟨_, hall, _, _, hfragment, hfails⟩⟩)
  | left =>
    rw [Stage.Fails, lower]
    exact fails_bind.2 (.inl hfails)
  | right hleft =>
    rw [Stage.Fails, lower]
    exact fails_bind.2 (.inr ⟨_, _, hleft, fails_bind.2 (.inl hfails)⟩)
  | unary =>
    rw [Stage.Fails, lower]
    exact fails_bind.2 (.inl hfails)
  | named hname =>
    rw [Stage.Fails, lower]
    exact fails_bind.2 (.inr ⟨_, _, hname, fails_bind.2 (.inl hfails)⟩)
  | except hlibrary =>
    rw [Stage.Fails, lower]
    exact fails_bind.2 (.inr ⟨_, _, hlibrary, fails_bind.2 (.inl hfails)⟩)
  | external hopen =>
    rw [Stage.Fails, lower]
    exact fails_bind.2 (.inl ((external_fails htame he).2 (.inr ⟨_, _, _, hopen, hfails⟩)))
  | grammar hopen =>
    rw [Stage.Fails, lower]
    exact fails_bind.2 (.inl ((isolated_fails he).2 ⟨_, _, hopen, hfails⟩))

/-- What is refused for itself fails. -/
theorem Stage.Stops.fails (htame : Fragments.Tame setup.catalog stage.state.source)
    (he : ¬ e.Tame) (h : stage.Stops setup e) : stage.Fails setup e := by
  obtain ⟨b, place, task, s⟩ := stage
  rcases h with ⟨href, span, hd, hcloses⟩ | ⟨hb, ⟨cs, htask⟩, rfl⟩
  · cases task with
    | file | components => cases hd
    | component c =>
      cases c with
      | incl =>
        cases hd
        exact (incl_fails htame he).2 (.inl hcloses)
      | define | div => cases hd
    | pattern p =>
      cases p with
      | external =>
        cases hd
        rw [Fails, lower]
        exact fails_bind.2 (.inl ((external_fails htame he).2 (.inl hcloses)))
      | _ => cases hd
  · cases hb
    cases htask
    exact fails_throw.2 rfl

theorem pattern_begins_or_stops {b : Nat} {place : Place} {p : Pattern} {s : Expansion}
    (htame : Fragments.Tame setup.catalog s.source) (he : ¬ e.Tame)
    (h : Stage.Fails setup e ⟨b, place, .pattern p, s⟩) :
    (∃ stage', Begins setup ⟨b, place, .pattern p, s⟩ stage' ∧ stage'.Fails setup e) ∨
      Stage.Stops setup e ⟨b, place, .pattern p, s⟩ := by
  have hpure {α β : Type} {x : Expand α} {f : α → β} {s : Expansion}
      (h : Run.Fails (x >>= fun a => pure (f a)) s e) : Run.Fails x s e :=
    (FailsOnly.fails_before (fun _ => .pure _) he).1 h
  rw [Stage.Fails, lower.eq_def] at h
  cases p with
  | binary op left right span =>
    rcases fails_bind.1 h with h | ⟨content, t, hleft, h⟩
    · exact .inl ⟨_, .left, h⟩
    · exact .inl ⟨_, .right hleft, hpure h⟩
  | unary modifier p span => exact .inl ⟨_, .unary, hpure h⟩
  | leaf leaf span => exact absurd h fails_pure
  | named holder name p span =>
    obtain ⟨names, t, hn, h⟩ := (fails_after (names_plain _ _ _) he).1 h
    exact .inl ⟨_, .named hn, hpure h⟩
  | ref name span => exact absurd h fails_pure
  | parentRef name span => exact absurd h fails_pure
  | data type params p span =>
    cases p with
    | none =>
      obtain ⟨library, t, hl, h⟩ := (fails_after (library_plain _ _ _) he).1 h
      exact absurd h fails_pure
    | some p =>
      obtain ⟨library, t, hl, h⟩ := (fails_after (library_plain _ _ _) he).1 h
      exact .inl ⟨_, .except hl, hpure h⟩
  | value literal type span =>
    obtain ⟨library, t, hl, h⟩ := (fails_after (library_plain _ _ _) he).1 h
    exact absurd h fails_pure
  | external href inherit span =>
    rcases (external_fails htame he).1 (hpure h) with h | ⟨inner, file, t, hopen, h⟩
    · exact .inr (.inl ⟨href, span, rfl, h⟩)
    · exact .inl ⟨_, .external hopen, h⟩
  | grammar cs span =>
    obtain ⟨number, t, hopen, h⟩ := (isolated_fails he).1 (hpure h)
    exact .inl ⟨_, .grammar hopen, h⟩

theorem component_begins_or_stops {b : Nat} {place : Place} {c : Component} {s : Expansion}
    (htame : Fragments.Tame setup.catalog s.source) (he : ¬ e.Tame)
    (h : Stage.Fails setup e ⟨b, place, .component c, s⟩) :
    (∃ stage', Begins setup ⟨b, place, .component c, s⟩ stage' ∧ stage'.Fails setup e) ∨
      Stage.Stops setup e ⟨b, place, .component c, s⟩ := by
  cases c with
  | define name operator p documentation span =>
    rw [Stage.Fails, expand] at h
    obtain ⟨t, u, hsuppressed, hclaim, h⟩ := (register_fails he).1 h
    exact .inl ⟨_, .define hsuppressed hclaim, h⟩
  | div cs span =>
    rw [Stage.Fails, expand] at h
    obtain ⟨inner, t, hopen, h⟩ := (fails_after (openScope_plain _ _ _) he).1 h
    exact .inl ⟨_, .div hopen, h⟩
  | incl href inherit cs span =>
    rcases (incl_fails htame he).1 h with h | ⟨inner, key, file, t, hopen, h⟩
    · exact .inr (.inl ⟨href, span, rfl, h⟩)
    · rcases h with h | ⟨u, hall, innermost, v, hfragment, h⟩
      · exact .inl ⟨_, .overrides hopen, h⟩
      · exact .inl ⟨_, .fragment hopen hall hfragment, h⟩

/-- What fails is refused for itself, or fails where something is begun. -/
theorem Stage.Fails.begins_or_stops (htame : Fragments.Tame setup.catalog stage.state.source)
    (he : ¬ e.Tame) (h : stage.Fails setup e) :
    (∃ stage', Begins setup stage stage' ∧ stage'.Fails setup e) ∨ stage.Stops setup e := by
  obtain ⟨b, place, task, s⟩ := stage
  cases task with
  | file cs =>
    cases b with
    | zero => exact .inr (.inr ⟨rfl, ⟨cs, rfl⟩, fails_throw.1 h⟩)
    | succ b => exact .inl ⟨_, .file, h⟩
  | components i cs =>
    rw [Fails, expandAll.eq_def] at h
    cases cs with
    | nil => exact absurd h fails_pure
    | cons c cs =>
      rcases fails_bind.1 h with h | ⟨_, t, hfirst, h⟩
      · exact .inl ⟨_, .first, h⟩
      · exact .inl ⟨_, .rest hfirst, h⟩
  | component c => exact component_begins_or_stops htame he h
  | pattern p => exact pattern_begins_or_stops htame he h

end

end RelaxCompact.Expand
