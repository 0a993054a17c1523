import RelaxCompact.Proofs.Assembly.Onward
import RelaxCompact.Proofs.Parsing.Refusing

/-!
How the steps of an assembly fail. Going into a file that is being expanded already is refused as a
cycle; apart from that no single step fails so, nor for want of a budget. A compound step fails so
only if a part of it does.
-/

namespace RelaxCompact

open Run Surface

/-- Keys have files or tame failures, as far as they are known or have sources. -/
structure Fragments.Tame (catalog : Catalog) (s : Fragments) : Prop where
  canonicalize : ∀ href base e, catalog.canonicalize href base = .error e → e.Tame
  outcome : ∀ key e, outcome catalog s key = .error e → e.Tame

theorem Fragments.Tame.of_agree {catalog : Catalog} {s t : Fragments}
    (h : Fragments.Tame catalog s) (ha : Agree catalog s t) : Fragments.Tame catalog t :=
  ⟨h.canonicalize, fun key e he => h.outcome key e ((ha key).symm.trans he)⟩

theorem Environment.namespaceFor_plain {env : Environment} {qualifier : String}
    {span : Option Span} {e : SchemaError} (h : env.namespaceFor qualifier span = .error e) :
    (Failure.schema e).Plain := by
  unfold namespaceFor at h
  split at h <;> cases h
  trivial

theorem Environment.libraryFor_plain {env : Environment} {type : Datatype} {span : Option Span}
    {e : SchemaError} (h : env.libraryFor type span = .error e) : (Failure.schema e).Plain := by
  unfold libraryFor at h
  split at h
  · cases h
  · split at h <;> cases h
    trivial

theorem Environment.nameClass_plain {env : Environment} {holder : Holder}
    {name : Surface.NameClass} {e : SchemaError} (h : env.nameClass holder name = .error e) :
    (Failure.schema e).Plain := by
  fun_induction env.nameClass holder name generalizing e with
  | case1 qualifier localName span =>
    rcases error_of_bind h with h | ⟨_, -, h⟩
    · exact namespaceFor_plain h
    · cases h
  | case2 => cases h
  | case3 => cases h
  | case4 except span ih =>
    rcases error_of_bind h with h | ⟨_, -, h⟩
    · exact ih h
    · cases h
  | case5 qualifier span =>
    rcases error_of_bind h with h | ⟨_, -, h⟩
    · exact namespaceFor_plain h
    · cases h
  | case6 qualifier except span ih =>
    rcases error_of_bind h with h | ⟨_, -, h⟩
    · exact namespaceFor_plain h
    · rcases error_of_bind h with h | ⟨_, -, h⟩
      · exact ih h
      · cases h
  | case7 left right span ihLeft ihRight =>
    rcases error_of_bind h with h | ⟨_, -, h⟩
    · exact ihLeft h
    · rcases error_of_bind h with h | ⟨_, -, h⟩
      · exact ihRight h
      · cases h

theorem Definition.add_plain {d : Definition} {name : DefineName} {site : Site} {e : SchemaError}
    (h : d.add name site = .error e) : (Failure.schema e).Plain := by
  unfold add at h
  split at h <;> cases h
  trivial

namespace Expand

section

variable {α β : Type}

theorem schema_plain {r : Except SchemaError α} (h : ∀ e, r = .error e → (Failure.schema e).Plain) :
    FailsOnly Failure.Plain (schema r) := by
  refine .liftExcept fun e he => ?_
  cases r with
  | ok a => cases he
  | error e' =>
    cases he
    exact h e' rfl

theorem names_plain (env : Environment) (holder : Holder) (name : Surface.NameClass) :
    FailsOnly Failure.Plain (schema (env.nameClass holder name)) :=
  schema_plain fun _ => Environment.nameClass_plain

theorem library_plain (env : Environment) (type : Datatype) (span : Option Span) :
    FailsOnly Failure.Plain (schema (env.libraryFor type span)) :=
  schema_plain fun _ => Environment.libraryFor_plain

theorem refuse_plain {e : SchemaError} (he : (Failure.schema e).Plain) :
    FailsOnly Failure.Plain (refuse e : Expand α) :=
  .throw he

theorem fetching_failsOnly {E : Failure → Prop} {x : Fetch α} (h : FailsOnly E x) :
    FailsOnly E (fetching x) := by
  intro s e t hs
  unfold fetching at hs
  split at hs
  · cases hs
  next heq =>
    cases hs
    exact h _ _ _ heq

theorem report_plain (message : Text) : FailsOnly Failure.Plain (report message) :=
  fetching_failsOnly (.modify _)

theorem inheritedNamespace_plain (environment : Environment) (inherit : Option String)
    (span : Span) : FailsOnly Failure.Plain (inheritedNamespace environment inherit span) := by
  cases inherit with
  | none => exact .pure _
  | some qualifier => exact schema_plain fun _ => Environment.namespaceFor_plain

theorem openScope_plain (place : Place) (kind : ScopeKind) (label : Text) :
    FailsOnly Failure.Plain (openScope place kind label) :=
  .bind (.bind .get fun _ => .pure _) fun _ => .bind (.modify _) fun _ => .pure _

theorem checkEnvironment_plain (grammar : Nat) (key href : Text) (span : Span)
    (environment : Environment) :
    FailsOnly Failure.Plain (checkEnvironment grammar key href span environment) := by
  refine .bind .get fun s => ?_
  split
  · exact .modify _
  · exact .ite (refuse_plain trivial) (.pure _)

theorem suppressed_plain (name : DefineName) : FailsOnly Failure.Plain (suppressed name) :=
  FailsOnly.get.bind fun _ => .bind (.modify _) fun _ => .pure _

theorem claim_plain (grammar : Nat) (occurrence : Occurrence) :
    FailsOnly Failure.Plain (claim grammar occurrence) := by
  refine FailsOnly.get.bind fun s => ?_
  exact .ite (.pure _) (.bind (.modify _) fun _ => .pure _)

theorem addSite_plain (place : Place) (name : DefineName) (site : Site) :
    FailsOnly Failure.Plain (addSite place name site) := by
  refine .bind (.bind .get fun _ => .pure _) fun g => ?_
  cases g.definitions.get? name with
  | none => exact .bind (.pure _) fun _ => .modify _
  | some d => exact .bind (schema_plain fun _ => Definition.add_plain) fun _ => .modify _

theorem pushFrame_plain (href : Text) (overrides : List Component) :
    FailsOnly Failure.Plain (pushFrame href overrides) :=
  .modify _

theorem checkOverrides_plain (frame : OverrideFrame) :
    FailsOnly Failure.Plain (checkOverrides frame) := by
  unfold checkOverrides
  split
  · exact refuse_plain trivial
  · exact .pure _

/-! Fetching -/

variable {catalog : Catalog} {s : Expansion} {e : Failure}

/-- Fetching a file that is being expanded is refused as a cycle. It has no other failure that is
not tame. -/
theorem fetch_fails (htame : Fragments.Tame catalog s.source) (he : ¬ e.Tame) {key href : Text}
    {span : Span} :
    Fails (fetch catalog key href span) s e ↔
      key ∈ s.stack ∧ e = .schema (.includeCycle href (cycleOf s.stack key) span) := by
  have hget : (get : Expand Expansion) s = .ok s s := rfl
  unfold fetch Fails
  rw [bind_of_ok hget]
  dsimp only
  split
  next hc =>
    rw [and_iff_right (List.contains_iff_mem.1 hc)]
    exact fails_throw
  next hc =>
    refine ⟨fun h => ?_, fun ⟨hm, _⟩ => absurd (List.contains_iff_mem.2 hm) hc⟩
    exfalso
    rcases fails_bind.1 h with ⟨t, h⟩ | ⟨result, t, hattempt, h⟩
    · have hnever : FailsOnly Failure.Plain (fetching (Fragments.attempt catalog key)) := by
        refine fetching_failsOnly fun s e t h => ?_
        unfold Fragments.attempt at h
        split at h <;> cases h
      exact Failure.not_plain he (hnever s e t h)
    · obtain ⟨source, hs, rfl⟩ := fetching_ok hattempt
      have hresult := (Fragments.attempt_ok hs).1
      split at h
      · exact fails_bind.1 h |>.elim (fun ⟨_, h⟩ => nomatch h) fun ⟨_, _, _, h⟩ => fails_pure h
      · cases fails_throw.1 h
        exact he trivial
      · cases fails_throw.1 h
        exact he (htame.outcome key e hresult.symm)

/-! Compound steps -/

variable {β : Type} {x : Expand α} {f : α → Expand β}

/-- A step that fails with a plain failure only leaves any other to what follows. -/
theorem fails_after (hx : FailsOnly Failure.Plain x) (he : ¬ e.Tame) :
    Fails (x >>= f) s e ↔ ∃ a t, x s = .ok a t ∧ Fails (f a) t e :=
  hx.fails_bind (Failure.not_plain he)

/-- What follows fails with a plain failure only. -/
theorem fails_before (hf : ∀ a, FailsOnly Failure.Plain (f a)) (he : ¬ e.Tame) :
    Fails (x >>= f) s e ↔ Fails x s e :=
  FailsOnly.fails_before hf (Failure.not_plain he)

theorem ensuring_fails {x : Expand α} {cleanup : Expansion → Expansion} :
    Fails (ensuring x cleanup) s e ↔ Fails x s e := by
  unfold Fails ensuring
  cases x s with
  | ok a t => exact ⟨nofun, nofun⟩
  | error e' t =>
    constructor
    · rintro ⟨u, hu⟩
      cases hu
      exact ⟨t, rfl⟩
    · rintro ⟨u, hu⟩
      cases hu
      exact ⟨_, rfl⟩

/-- Opens a grammar of its own, in which no override block is in effect. -/
def openIsolated (label : Text) (parent : Option Nat) : Expand Nat := do
  let number ← openGrammar label parent
  modify fun s => { s with frames := [] }
  return number

theorem isolated_fails (he : ¬ e.Tame) {label : Text} {parent : Option Nat}
    {body : Nat → Expand Unit} :
    Fails (isolated label parent body) s e ↔
      ∃ number t, openIsolated label parent s = .ok number t ∧ Fails (body number) t e := by
  let u : Expansion := { s with grammars := s.grammars ++ [{ label, parent }], frames := [] }
  have hopen : openIsolated label parent s = .ok s.grammars.length u := rfl
  have hrun : isolated label parent body s =
      (do
        ensuring (body s.grammars.length) fun t => { t with frames := s.frames }
        return s.grammars.length : Expand Nat) u := rfl
  have hbody : Fails (isolated label parent body) s e ↔ Fails (body s.grammars.length) u e := by
    unfold Fails
    rw [hrun]
    exact (fails_before (fun _ => .pure _) he).trans ensuring_fails
  rw [hbody]
  constructor
  · exact fun h => ⟨_, u, hopen, h⟩
  · rintro ⟨number, t, ht, h⟩
    cases hopen.symm.trans ht
    exact h

/-- The place where the file of an external pattern is expanded, in a grammar of its own. -/
def openExternal (setup : Setup) (place : Place) (href : Text) (inherit : Option String)
    (span : Span) : Expand (Place × File) := do
  let key ← liftExcept (setup.catalog.canonicalize href place.file)
  let file ← fetch setup.catalog key href span
  let inherited ← inheritedNamespace place.environment inherit span
  enter key
  let number ← openIsolated key none
  let environment := Environment.ofDeclarations file.declarations inherited
  return ({ grammar := number, environment, file := key }, file)

/-- The place where the override block of an include is expanded, with the key of the include and
its file. -/
def openInclude (setup : Setup) (place : Place) (href : Text) (span : Span) :
    Expand (Place × Text × File) := do
  let key ← liftExcept (setup.catalog.canonicalize href place.file)
  let file ← fetch setup.catalog key href span
  if file.isPattern then refuse (.includedPattern href span)
  let inner ← openScope place .incl href
  return (inner, key, file)

/-- The place where the fragment of an include is expanded, with its override block in effect. -/
def openFragment (place : Place) (file : File) (key href : Text) (inherit : Option String)
    (overrides : List Component) (span : Span) : Expand Place := do
  let overriding := !overrides.isEmpty
  if overriding then pushFrame href overrides
  report ("Including " ++ key ++ " from " ++ place.file)
  let inherited ← inheritedNamespace place.environment inherit span
  let environment := Environment.ofDeclarations file.declarations inherited
  checkEnvironment place.grammar key href span environment
  let inner ← openScope { place with environment, file := key, address := [] } .fragment key
  enter key
  return inner

variable {setup : Setup} {descend : Descend}

/-- A directive at a place names a file that is being expanded, and the failure says so. -/
def Closes (catalog : Catalog) (place : Place) (href : Text) (span : Span) (s : Expansion)
    (e : Failure) : Prop :=
  ∃ key, catalog.canonicalize href place.file = .ok key ∧ key ∈ s.stack ∧
    e = .schema (.includeCycle href (cycleOf s.stack key) span)

/-- How a directive fails whose file is fetched first. -/
theorem directive_fails (htame : Fragments.Tame setup.catalog s.source) (he : ¬ e.Tame)
    {place : Place} {href : Text} {span : Span} {f : Text → File → Expand α} :
    Fails (do
      let key ← liftExcept (setup.catalog.canonicalize href place.file)
      let file ← fetch setup.catalog key href span
      f key file) s e ↔
    Closes setup.catalog place href span s e ∨
      ∃ key file t, setup.catalog.canonicalize href place.file = .ok key ∧
        fetch setup.catalog key href span s = .ok file t ∧ Fails (f key file) t e := by
  rw [(FailsOnly.liftExcept (htame.canonicalize href place.file)).fails_bind he]
  constructor
  · rintro ⟨key, t, hlift, h⟩
    obtain ⟨hkey, ht⟩ := liftExcept_ok hlift
    subst t
    rcases fails_bind.1 h with h | ⟨file, u, hfetch, h⟩
    · exact .inl ⟨key, hkey, (fetch_fails htame he).1 h⟩
    · exact .inr ⟨key, file, u, hkey, hfetch, h⟩
  · rintro (⟨key, hkey, hcycle⟩ | ⟨key, file, t, hkey, hfetch, h⟩)
    · exact ⟨key, s, by rw [hkey]; rfl, fails_bind.2 (.inl ((fetch_fails htame he).2 hcycle))⟩
    · exact ⟨key, s, by rw [hkey]; rfl, fails_bind.2 (.inr ⟨file, t, hfetch, h⟩)⟩

theorem directive_ok {place : Place} {href : Text} {span : Span} {f : Text → File → Expand α}
    {a : α} {t : Expansion} :
    (do
      let key ← liftExcept (setup.catalog.canonicalize href place.file)
      let file ← fetch setup.catalog key href span
      f key file : Expand α) s = .ok a t ↔
    ∃ key file u, setup.catalog.canonicalize href place.file = .ok key ∧
      fetch setup.catalog key href span s = .ok file u ∧ f key file u = .ok a t := by
  constructor
  · intro h
    obtain ⟨key, s', hlift, h⟩ := bind_ok h
    obtain ⟨hkey, hs⟩ := liftExcept_ok hlift
    subst s'
    obtain ⟨file, u, hfetch, h⟩ := bind_ok h
    exact ⟨key, file, u, hkey, hfetch, h⟩
  · rintro ⟨key, file, u, hkey, hfetch, h⟩
    rw [hkey]
    exact (bind_of_ok rfl).trans ((bind_of_ok hfetch).trans h)

theorem external_fails (htame : Fragments.Tame setup.catalog s.source) (he : ¬ e.Tame)
    {place : Place} {href : Text} {inherit : Option String} {span : Span} :
    Fails (external setup descend place href inherit span) s e ↔
      Closes setup.catalog place href span s e ∨
      ∃ inner file t, openExternal setup place href inherit span s = .ok (inner, file) t ∧
        Fails (descend inner file.components) t e := by
  refine (directive_fails htame he).trans (or_congr_right ?_)
  constructor
  · rintro ⟨key, file, t, hkey, hfetch, h⟩
    obtain ⟨ns, u, hns, h⟩ := (fails_after (inheritedNamespace_plain _ _ _) he).1 h
    obtain ⟨number, v, hopen, h⟩ := (isolated_fails he).1 (ensuring_fails.1 h)
    refine ⟨_, file, v, directive_ok.2 ⟨key, file, t, hkey, hfetch, ?_⟩, h⟩
    exact (bind_of_ok hns).trans ((bind_of_ok rfl).trans ((bind_of_ok hopen).trans rfl))
  · rintro ⟨inner, file, t, hopen, h⟩
    obtain ⟨key, file', u, hkey, hfetch, hopen⟩ := directive_ok.1 hopen
    obtain ⟨ns, v, hns, hopen⟩ := bind_ok hopen
    obtain ⟨_, w, henter, hopen⟩ := bind_ok hopen
    cases henter
    obtain ⟨number, x, hisolated, hopen⟩ := bind_ok hopen
    cases hopen
    refine ⟨key, file, u, hkey, hfetch, (fails_after (inheritedNamespace_plain _ _ _) he).2 ?_⟩
    exact ⟨ns, v, hns, ensuring_fails.2 ((isolated_fails he).2 ⟨number, t, hisolated, h⟩)⟩

/-- Runs the expansion of a fragment that is open, and closes it. -/
def insideFragment (setup : Setup) (overrides : List Component) (run : Expand Unit) :
    Expand Unit := do
  let overriding := !overrides.isEmpty
  let body : Expand (Option OverrideFrame) := do
    run
    return (← get).frames.head?
  let frame ← ensuring body fun s =>
    { s with
      stack := s.stack.tail
      frames := if overriding then s.frames.tail else s.frames }
  if overriding && setup.strict then
    if let some frame := frame then checkOverrides frame

theorem includeFragment_eq (setup : Setup) (descend : Descend) (place : Place) (file : File)
    (key href : Text) (inherit : Option String) (overrides : List Component) (span : Span) :
    includeFragment setup descend place file key href inherit overrides span =
      openFragment place file key href inherit overrides span >>= fun inner =>
        insideFragment setup overrides (descend inner file.components) := by
  unfold includeFragment openFragment
  by_cases hc : (!overrides.isEmpty) = true
  · rw [if_pos hc, if_pos hc]
    simp only [bind_assoc, pure_bind]
    rfl
  · rw [if_neg hc, if_neg hc]
    simp only [bind_assoc, pure_bind]
    rfl

/-- An include opens its scope, expands its override block, and then its fragment. -/
theorem expand_incl_eq (setup : Setup) (descend : Descend) (place : Place) (href : Text)
    (inherit : Option String) (overrides : List Component) (span : Span) :
    expand setup descend place (.incl href inherit overrides span) =
      (do
        let (inner, key, file) ← openInclude setup place href span
        expandAll setup descend inner 0 overrides
        includeFragment setup descend inner file key href inherit overrides span) := by
  rw [expand, openInclude, bind_assoc]
  apply congrArg
  funext key
  rw [bind_assoc]
  apply congrArg
  funext file
  by_cases hc : file.isPattern = true
  · simp only [hc, if_true, bind_assoc, pure_bind]
  · simp only [hc, Bool.false_eq_true, if_false, bind_assoc, pure_bind]

theorem insideFragment_fails (he : ¬ e.Tame) {overrides : List Component} {run : Expand Unit} :
    Fails (insideFragment setup overrides run) s e ↔ Fails run s e := by
  refine (fails_before (fun frame => ?_) he).trans (ensuring_fails.trans ?_)
  · refine .ite ?_ (.pure _)
    cases frame with
    | none => exact .pure _
    | some frame => exact checkOverrides_plain frame
  · exact fails_before (fun _ => FailsOnly.get.bind fun _ => .pure _) he

theorem openFragment_plain (place : Place) (file : File) (key href : Text)
    (inherit : Option String) (overrides : List Component) (span : Span) :
    FailsOnly Failure.Plain (openFragment place file key href inherit overrides span) := by
  have hrest : FailsOnly Failure.Plain (do
      report ("Including " ++ key ++ " from " ++ place.file)
      let inherited ← inheritedNamespace place.environment inherit span
      let environment := Environment.ofDeclarations file.declarations inherited
      checkEnvironment place.grammar key href span environment
      let inner ← openScope { place with environment, file := key, address := [] } .fragment key
      enter key
      return inner) := by
    refine (report_plain _).bind fun _ => (inheritedNamespace_plain _ _ _).bind fun _ => ?_
    refine (checkEnvironment_plain _ _ _ _ _).bind fun _ => (openScope_plain _ _ _).bind fun _ => ?_
    exact .bind (.modify _) fun _ => .pure _
  exact .ite ((pushFrame_plain _ _).bind fun _ => hrest) hrest

theorem includeFragment_fails (he : ¬ e.Tame) {place : Place} {file : File} {key href : Text}
    {inherit : Option String} {overrides : List Component} {span : Span} :
    Fails (includeFragment setup descend place file key href inherit overrides span) s e ↔
      ∃ inner t, openFragment place file key href inherit overrides span s = .ok inner t ∧
        Fails (descend inner file.components) t e := by
  rw [includeFragment_eq, fails_after (openFragment_plain _ _ _ _ _ _ _) he]
  exact exists_congr fun inner => exists_congr fun t => and_congr_right fun _ =>
    insideFragment_fails he

theorem incl_fails (htame : Fragments.Tame setup.catalog s.source) (he : ¬ e.Tame)
    {place : Place} {href : Text} {inherit : Option String} {overrides : List Component}
    {span : Span} :
    Fails (expand setup descend place (.incl href inherit overrides span)) s e ↔
      Closes setup.catalog place href span s e ∨
      ∃ inner key file t, openInclude setup place href span s = .ok (inner, key, file) t ∧
        (Fails (expandAll setup descend inner 0 overrides) t e ∨
          ∃ u, expandAll setup descend inner 0 overrides t = .ok () u ∧
            ∃ innermost v,
              openFragment inner file key href inherit overrides span u = .ok innermost v ∧
              Fails (descend innermost file.components) v e) := by
  rw [expand]
  refine (directive_fails htame he).trans (or_congr_right ?_)
  have hparts {inner : Place} {key : Text} {file : File} {t : Expansion} :
      Fails (do
          expandAll setup descend inner 0 overrides
          includeFragment setup descend inner file key href inherit overrides span) t e ↔
        Fails (expandAll setup descend inner 0 overrides) t e ∨
          ∃ u, expandAll setup descend inner 0 overrides t = .ok () u ∧
            ∃ innermost v,
              openFragment inner file key href inherit overrides span u = .ok innermost v ∧
              Fails (descend innermost file.components) v e := by
    rw [fails_bind]
    refine or_congr_right ⟨?_, ?_⟩
    · rintro ⟨_, u, hu, h⟩
      exact ⟨u, hu, (includeFragment_fails he).1 h⟩
    · rintro ⟨u, hu, h⟩
      exact ⟨(), u, hu, (includeFragment_fails he).2 h⟩
  constructor
  · rintro ⟨key, file, t, hkey, hfetch, h⟩
    split at h
    · have hplain : FailsOnly Failure.Plain (refuse (.includedPattern href span) : Expand Unit) :=
        refuse_plain trivial
      obtain ⟨_, _, hrefuse, _⟩ := (fails_after hplain he).1 h
      exact (not_throw_ok hrefuse).elim
    next hpattern =>
      obtain ⟨inner, u, hopen, h⟩ := (fails_after (openScope_plain _ _ _) he).1 h
      refine ⟨inner, key, file, u, directive_ok.2 ⟨key, file, t, hkey, hfetch, ?_⟩, hparts.1 h⟩
      rw [if_neg hpattern]
      exact (bind_of_ok hopen).trans rfl
  · rintro ⟨inner, key, file, t, hopen, h⟩
    obtain ⟨key', file', u, hkey, hfetch, hopen⟩ := directive_ok.1 hopen
    split at hopen
    · obtain ⟨_, _, hrefuse, _⟩ := bind_ok hopen
      exact (not_throw_ok hrefuse).elim
    next hpattern =>
      obtain ⟨inner', v, hscope, hopen⟩ := bind_ok hopen
      cases hopen
      refine ⟨key, file, u, hkey, hfetch, ?_⟩
      rw [if_neg hpattern]
      exact (fails_after (openScope_plain _ _ _) he).2 ⟨inner, t, hscope, hparts.2 h⟩

/-- A definition that is taken fails with its pattern. -/
theorem register_fails (he : ¬ e.Tame) {place : Place} {d : Define} {lower : Expand Content} :
    Fails (register place d lower) s e ↔
      ∃ t u, suppressed d.name s = .ok false t ∧
        claim place.grammar ⟨place.file, place.address⟩ t = .ok false u ∧ Fails lower u e := by
  refine (fails_after (suppressed_plain _) he).trans ?_
  constructor
  · rintro ⟨covered, t, hsupp, h⟩
    split at h
    · obtain ⟨u, hu⟩ := h
      exact absurd (report_plain _ _ _ _ hu) (Failure.not_plain he)
    next hcovered =>
      obtain ⟨seen, u, hclaim, h⟩ := (fails_after (claim_plain _ _) he).1 h
      split at h
      · exact absurd h fails_pure
      next hseen =>
        rw [Bool.not_eq_true] at hcovered hseen
        subst hcovered hseen
        exact ⟨t, u, hsupp, hclaim, (fails_before (fun _ => addSite_plain _ _ _) he).1 h⟩
  · rintro ⟨t, u, hsupp, hclaim, h⟩
    refine ⟨false, t, hsupp, (fails_after (claim_plain _ _) he).2 ⟨false, u, hclaim, ?_⟩⟩
    exact (fails_before (fun _ => addSite_plain _ _ _) he).2 h

end

end Expand

end RelaxCompact
