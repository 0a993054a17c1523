import RelaxCompact.Grammar
import RelaxCompact.Prefetch

/-!
Assembly: includes are expanded in place, override blocks suppress definitions of the fragments they
are put on, definitions of one name are combined, and names are resolved where they are written.

Expansion of one file is recursion on its tree. Going into another file is left to a parameter,
which a budget of files ties to itself: a file is never entered while it is being expanded.
-/

namespace RelaxCompact

open Surface

/-- An override block in effect: the names it defines, and those that it has suppressed so far. -/
structure OverrideFrame where
  href : Text
  spans : Table DefineName Span
  hits : List DefineName := []
  deriving Repr

/-- The state of an assembly. Stacks have their top first. -/
structure Expansion where
  source : Fragments
  stack : List Text := []
  frames : List OverrideFrame := []
  registered : List (Nat × Occurrence) := []
  fragments : Table Text File := {}
  environments : Table (Nat × Text) (Environment × Span) := {}
  grammars : List Grammar := []

/-- A step of an assembly. The state outlives a failure. -/
abbrev Expand (α : Type) := EStateM Failure Expansion α

/-- Where a component is expanded: in which scope of which grammar, in which environment, and where
it is written. -/
structure Place where
  grammar : Nat
  chain : List Nat := []
  environment : Environment
  file : Text
  address : List Nat := []

/-- The same place, seen by a part of what is written there. -/
def Place.part (p : Place) (i : Nat) : Place := { p with address := i :: p.address }

namespace Expand

def fetching {α : Type} (step : Fetch α) : Expand α := fun s =>
  match step s.source with
  | .ok a source => .ok a { s with source }
  | .error e source => .error e { s with source }

def report (message : Text) : Expand Unit := fetching (Fragments.report .assembly .debug message)

def schema {α : Type} (result : Except SchemaError α) : Expand α :=
  liftExcept (result.mapError Failure.schema)

def refuse {α : Type} (e : SchemaError) : Expand α := throw (.schema e)

/-- Runs a step, and changes the state after it however it ends. -/
def ensuring {α : Type} (step : Expand α) (cleanup : Expansion → Expansion) : Expand α := fun s =>
  match step s with
  | .ok a s => .ok a (cleanup s)
  | .error e s => .error e (cleanup s)

def grammar (number : Nat) : Expand Grammar := do
  return ((← get).grammars[number]?).getD { label := [], parent := none }

def modifyGrammar (number : Nat) (f : Grammar → Grammar) : Expand Unit :=
  modify fun s => { s with grammars := s.grammars.modify number f }

/-- Opens a grammar and returns its number. -/
def openGrammar (label : Text) (parent : Option Nat) : Expand Nat := do
  let number := (← get).grammars.length
  modify fun s => { s with grammars := s.grammars ++ [{ label, parent }] }
  return number

/-- Opens a scope inside a place. -/
def openScope (place : Place) (kind : ScopeKind) (label : Text) : Expand Place := do
  let number := (← grammar place.grammar).scopes.length
  modifyGrammar place.grammar fun g => { g with scopes := g.scopes ++ [{ kind, label }] }
  return { place with chain := number :: place.chain }

/-! Fetching fragments -/

/-- The cycle that a key on the stack closes, from the key around to itself. -/
def cycleOf (stack : List Text) (key : Text) : List Text :=
  key :: (stack.takeWhile (· ≠ key)).reverse ++ [key]

/-- The fragment for a key, unless it is being expanded already. That a source cannot be had is
reported at the place that refers to it. -/
def fetch (catalog : Catalog) (key href : Text) (span : Span) : Expand File := do
  let stack := (← get).stack
  if stack.contains key then refuse (.includeCycle href (cycleOf stack key) span)
  match ← fetching (Fragments.attempt catalog key) with
  | .ok file =>
    modify fun s => { s with fragments := s.fragments.insert key file }
    return file
  | .error (.schema (.unreadable fault)) =>
    refuse (.unreadableInclude fault href (key :: stack).reverse span)
  | .error e => throw e

/-- The namespace that an include or external passes down. -/
def inheritedNamespace (environment : Environment) (inherit : Option String) (span : Span) :
    Expand Text :=
  match inherit with
  | none => return environment.defaultNamespace
  | some qualifier => schema (environment.namespaceFor qualifier (some span))

/-- A fragment may be included into a grammar several times, but always in the same environment. -/
def checkEnvironment (grammar : Nat) (key href : Text) (span : Span) (environment : Environment) :
    Expand Unit := do
  match (← get).environments.get? (grammar, key) with
  | none =>
    modify fun s =>
      { s with environments := s.environments.insert (grammar, key) (environment, span) }
  | some (first, firstSpan) =>
    if first ≠ environment then
      refuse (.namespaceConflict href first.defaultNamespace environment.defaultNamespace span
        firstSpan)

/-! Definitions -/

/-- Tells every override block in effect about a definition; says whether one of them defines the
name itself. -/
def suppressed (name : DefineName) : Expand Bool := do
  let frames := (← get).frames
  modify fun s =>
    { s with
      frames := frames.map fun f =>
        if f.spans.contains name ∧ name ∉ f.hits then { f with hits := name :: f.hits } else f }
  return frames.any (·.spans.contains name)

/-- Records that a definition is taken into a grammar; says whether it was before. -/
def claim (grammar : Nat) (occurrence : Occurrence) : Expand Bool := do
  let seen := (grammar, occurrence) ∈ (← get).registered
  unless seen do
    modify fun s => { s with registered := (grammar, occurrence) :: s.registered }
  return seen

/-- Adds a site to its grammar, and its name to the scope it stands in. -/
def addSite (place : Place) (name : DefineName) (site : Site) : Expand Unit := do
  let definition ←
    match (← grammar place.grammar).definitions.get? name with
    | none => pure { first := site }
    | some d => schema (d.add name site)
  modifyGrammar place.grammar fun g =>
    { g with
      definitions := g.definitions.insert name definition
      scopes :=
        match place.chain with
        | [] => g.scopes
        | innermost :: _ => g.scopes.modify innermost (·.define name) }

/-- Takes a definition into the grammar, unless it is suppressed or was taken before. `lower`
resolves its names. -/
def register (place : Place) (d : Define) (lower : Expand Content) : Expand Unit := do
  if ← suppressed d.name then
    report ("Definition of '" ++ d.name.display ++ "' in " ++ place.file ++ " replaced by override")
  else
    let occurrence := ⟨place.file, place.address⟩
    if ← claim place.grammar occurrence then return
    let content ← lower
    addSite place d.name
      ⟨occurrence, d.operator, d.documentation, d.span, place.chain, content⟩

/-! Other grammars and files -/

/-- What one assembly is done with: where fragments come from, and whether every name of an override
block has to suppress something. -/
structure Setup where
  catalog : Catalog
  strict : Bool

/-- How the components of another file are expanded at a place. -/
abbrev Descend := Place → List Component → Expand Unit

/-- Expands a grammar of its own. Override blocks around it have no effect inside. -/
def isolated (label : Text) (parent : Option Nat) (body : Nat → Expand Unit) : Expand Nat := do
  let number ← openGrammar label parent
  let saved := (← get).frames
  modify fun s => { s with frames := [] }
  ensuring (body number) fun s => { s with frames := saved }
  return number

/-- Puts a file on the stack of those being expanded. -/
def enter (key : Text) : Expand Unit := modify fun s => { s with stack := key :: s.stack }

/-- An external pattern: the grammar of another file, cut off from the one that refers to it. -/
def external (setup : Setup) (descend : Descend) (place : Place) (href : Text)
    (inherit : Option String) (span : Span) : Expand Nat := do
  let key ← liftExcept (setup.catalog.canonicalize href place.file)
  let file ← fetch setup.catalog key href span
  let inherited ← inheritedNamespace place.environment inherit span
  let environment := Environment.ofDeclarations file.declarations inherited
  enter key
  let body (number : Nat) := descend { grammar := number, environment, file := key } file.components
  ensuring (isolated key none body) fun s => { s with stack := s.stack.tail }

/-- Puts an override block into effect. -/
def pushFrame (href : Text) (overrides : List Component) : Expand Unit := do
  let spans := Table.ofList ((Component.allDefines overrides).map fun d => (d.name, d.span))
  modify fun s => { s with frames := { href, spans } :: s.frames }

/-- Every name of an override block has to have suppressed a definition. -/
def checkOverrides (frame : OverrideFrame) : Expand Unit :=
  match frame.spans.entries.find? fun entry => entry.1 ∉ frame.hits with
  | some (name, span) => refuse (.unmatchedOverride name frame.href span)
  | none => return

/-- Expands the fragment of an include whose scope is open and whose override block is expanded. -/
def includeFragment (setup : Setup) (descend : Descend) (place : Place) (file : File)
    (key href : Text) (inherit : Option String) (overrides : List Component) (span : Span) :
    Expand Unit := do
  let overriding := !overrides.isEmpty
  if overriding then pushFrame href overrides
  report ("Including " ++ key ++ " from " ++ place.file)
  let inherited ← inheritedNamespace place.environment inherit span
  let environment := Environment.ofDeclarations file.declarations inherited
  checkEnvironment place.grammar key href span environment
  let inner ← openScope { place with environment, file := key, address := [] } .fragment key
  enter key
  let body : Expand (Option OverrideFrame) := do
    descend inner file.components
    return (← get).frames.head?
  let frame ← ensuring body fun s =>
    { s with
      stack := s.stack.tail
      frames := if overriding then s.frames.tail else s.frames }
  if overriding && setup.strict then
    if let some frame := frame then checkOverrides frame

/-! Expansion of one file -/

mutual

/-- A pattern with its names resolved and its nested grammars expanded. -/
def lower (setup : Setup) (descend : Descend) (place : Place) : Pattern → Expand Content
  | .binary op left right span => do
    let left ← lower setup descend place left
    let right ← lower setup descend place right
    return .binary op left right span
  | .unary modifier content span => do
    return .unary modifier (← lower setup descend place content) span
  | .leaf leaf span => return .leaf leaf span
  | .named holder name content span => do
    let name ← schema (place.environment.nameClass holder name)
    return .named holder name (← lower setup descend place content) span
  | .ref name span => return .ref name span
  | .parentRef name span => return .parentRef name span
  | .data type params none span => do
    let library ← schema (place.environment.libraryFor type (some span))
    return .data type library params none span
  | .data type params (some e) span => do
    let library ← schema (place.environment.libraryFor type (some span))
    return .data type library params (some (← lower setup descend place e)) span
  | .value literal type span => do
    return .value literal type (← schema (place.environment.libraryFor type (some span))) span
  | .external href inherit span => do
    return .grammar (← external setup descend place href inherit span) span
  | .grammar components span => do
    let number ← isolated "grammar" (some place.grammar) fun number =>
      expandAll setup descend { place with grammar := number, chain := [] } 0 components
    return .grammar number span

/-- Expands a component at its place. -/
def expand (setup : Setup) (descend : Descend) (place : Place) : Component → Expand Unit
  | .define name operator pattern documentation span =>
    register place ⟨name, operator, pattern, documentation, span⟩
      (lower setup descend place pattern)
  | .div components _ => do
    let inner ← openScope place .div "div"
    expandAll setup descend inner 0 components
  | .incl href inherit overrides span => do
    let key ← liftExcept (setup.catalog.canonicalize href place.file)
    let file ← fetch setup.catalog key href span
    if file.isPattern then refuse (.includedPattern href span)
    let inner ← openScope place .incl href
    expandAll setup descend inner 0 overrides
    includeFragment setup descend inner file key href inherit overrides span

/-- Expands components, the first of which is number `i` of its list. -/
def expandAll (setup : Setup) (descend : Descend) (place : Place) :
    (i : Nat) → List Component → Expand Unit
  | _, [] => return
  | i, c :: cs => do
    expand setup descend (place.part i) c
    expandAll setup descend place (i + 1) cs

end

/-- Expands files that go at most `budget` deep into one another. -/
def expandFile (setup : Setup) : (budget : Nat) → Descend
  | 0 => fun _ _ => throw .exhausted
  | budget + 1 => fun place components =>
    expandAll setup (expandFile setup budget) place 0 components

end Expand

/-- The canonical key of a root file: the one given, or else its path. -/
def rootKey (root : File) (key : Option Text) : Text := (key.filter (!·.isEmpty)).getD root.path

/-- Assembles a root file. One file goes into another at most as deep as there are files to be
had. -/
def assemble (setup : Expand.Setup) (root : File) (key : Option Text) : Fetch Assembled := fun s =>
  let key := rootKey root key
  let path := if root.path.isEmpty then key else root.path
  let environment := Environment.ofDeclarations root.declarations
  let budget := setup.catalog.size + s.entries.size + 1
  let place : Place := { grammar := 0, environment, file := key }
  let start : Expansion :=
    { source := s, stack := [key], grammars := [{ label := path, parent := none }] }
  match Expand.expandFile setup budget place root.components start with
  | .error e t => .error e t.source
  | .ok () t =>
    let assembled : Assembled :=
      { grammars := t.grammars, path, environment, fragments := t.fragments }
    let message : Text := "Assembled " ++ path ++ ": " ++
      Text.ofInt assembled.root.definitions.size ++ " definitions from " ++
      Text.ofInt t.fragments.size ++ " fragments"
    (do
      Fragments.report .assembly .debug message
      return assembled : Fetch Assembled) t.source

end RelaxCompact
