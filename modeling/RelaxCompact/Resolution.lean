import RelaxCompact.Grammar
import RelaxCompact.Schema

/-!
Resolution: references are bound to the definitions of their grammar, and the bodies of all
definitions are written into one arena. A definition gets its slot when it is first met, and its
body when its turn comes. Cycles of references that no element or attribute breaks are refused.
-/

namespace RelaxCompact

/-- A definition of one of the assembled grammars. -/
structure DefinitionKey where
  grammar : Nat
  name : DefineName
  deriving DecidableEq, Repr

/-- The arena in the making: nodes, some still open; the slots of definitions in the order in which
they were reserved; and the definitions whose bodies are not written yet. -/
structure Arena where
  nodes : Array (Option Node) := #[]
  slots : List (DefinitionKey × Nat) := []
  pending : List (DefinitionKey × Nat) := []

abbrev Resolve (α : Type) := EStateM Failure Arena α

namespace Resolve

def refuse {α : Type} (e : SchemaError) : Resolve α := throw (.schema e)

/-- Reserves the next handle. -/
def allocate : Resolve Nat := do
  let h := (← get).nodes.size
  modify fun s => { s with nodes := s.nodes.push none }
  return h

/-- Writes a node into a reserved slot, or else at the end. -/
def store (n : Node) (slot : Option Nat) : Resolve Nat := do
  let h ← match slot with
    | some h => pure h
    | none => allocate
  modify fun s => { s with nodes := s.nodes.setIfInBounds h (some n) }
  return h

/-- The slot of a definition, reserved when it is first asked for. -/
def slotOf (key : DefinitionKey) : Resolve Nat := do
  match Table.lookup key (← get).slots with
  | some h => return h
  | none =>
    let h ← allocate
    modify fun s =>
      { s with slots := s.slots ++ [(key, h)], pending := s.pending ++ [(key, h)] }
    return h

/-- Reserves slots for all definitions of a grammar, used or not. -/
def reserve (number : Nat) (g : Grammar) : Resolve Unit :=
  g.definitions.keys.forM fun name => do
    let _ ← slotOf ⟨number, name⟩

/-- Combines handles from the left; the last combination goes into the slot. -/
def combine (op : Connective) (slot : Option Nat) : Nat → List Nat → Resolve Nat
  | result, [] => return result
  | result, [last] => store (.binary op result last) slot
  | result, h :: more => do combine op slot (← store (.binary op result h) none) more

/-- An assembled grammar by number; an empty one stands in for one that is not there. -/
def grammarAt (a : Assembled) (number : Nat) : Grammar :=
  (a.grammars[number]?).getD { label := [], parent := none }

/-- The definition that a reference in a scope of a grammar names. -/
def target (a : Assembled) (number : Nat) (chain : List Nat) (name : String) (span : Span) :
    Resolve DefinitionKey :=
  match (grammarAt a number).lookup chain (.named name) with
  | some _ => return ⟨number, .named name⟩
  | none => refuse (.undefinedReference name span)

/-- The definition that a reference names in the grammar around its own. -/
def parentTarget (a : Assembled) (number : Nat) (name : String) (span : Span) :
    Resolve DefinitionKey :=
  match (grammarAt a number).parent with
  | none => refuse (.parentOutsideNested name span)
  | some parent =>
    match (grammarAt a parent).lookup [] (.named name) with
    | some _ => return ⟨parent, .named name⟩
    | none => refuse (.undefinedParentReference name span)

/-- Writes a pattern of a grammar into the arena, its parts before itself, and gives its handle. An
operand of the same operator as `chain` gives the handles of its own operands instead. -/
def write (a : Assembled) (number : Nat) (scopes : List Nat) :
    (chain : Option Connective) → (slot : Option Nat) → Content → Resolve (Nat × List Nat)
  | chain, slot, .binary op left right _ => do
    let (first, others) ← write a number scopes (some op) none left
    let (last, _) ← write a number scopes none none right
    if chain = some op then return (first, others ++ [last])
    return (← combine op slot first (others ++ [last]), [])
  | _, slot, .unary modifier content _ => do
    let (content, _) ← write a number scopes none none content
    return (← store (.unary modifier content) slot, [])
  | _, slot, .leaf leaf _ => return (← store (.leaf leaf) slot, [])
  | _, slot, .named holder name content _ => do
    let (content, _) ← write a number scopes none none content
    return (← store (.named holder name content) slot, [])
  | _, slot, .ref name span => do
    let h ← slotOf (← target a number scopes name span)
    return (← store (.ref name h) slot, [])
  | _, slot, .parentRef name span => do
    let h ← slotOf (← parentTarget a number name span)
    return (← store (.parentRef name h) slot, [])
  | _, slot, .data type library params none _ => do
    return (← store (.data library type.localName params none) slot, [])
  | _, slot, .data type library params (some e) _ => do
    let (e, _) ← write a number scopes none none e
    return (← store (.data library type.localName params (some e)) slot, [])
  | _, slot, .value literal type library _ => do
    return (← store (.value literal library type.localName) slot, [])
  | _, slot, .grammar nested span => do
    let g := grammarAt a nested
    if g.start?.isNone then refuse (.missingNestedStart span)
    let h ← slotOf ⟨nested, .start⟩
    reserve nested g
    return (← store (.ref "start" h) slot, [])

def writeSite (a : Assembled) (number : Nat) (slot : Option Nat) (site : Site) : Resolve Nat := do
  return (← write a number site.chain none slot site.content).1

/-- The connective that an assignment operator combines sites with. -/
def connectiveOf : Assignment → Connective
  | .interleave => .interleave
  | _ => .choice

/-- Writes the body of a definition into its slot. -/
def writeBody (a : Assembled) (key : DefinitionKey) (slot : Nat) : Resolve Unit := do
  match (grammarAt a key.grammar).definitions.get? key.name with
  | none => return
  | some d =>
    match d.more with
    | [] => let _ ← writeSite a key.grammar (some slot) d.first
    | more =>
      let first ← writeSite a key.grammar none d.first
      let others ← more.mapM (writeSite a key.grammar none)
      let _ ← combine (connectiveOf d.operator) (some slot) first others

/-- Writes pending bodies until none is left; every definition has its turn once. -/
def drain (a : Assembled) : (budget : Nat) → Resolve Unit
  | 0 => return
  | budget + 1 => do
    match (← get).pending with
    | [] => return
    | (key, slot) :: pending =>
      modify fun s => { s with pending }
      writeBody a key slot
      drain a budget

/-- The number of definitions in all grammars. -/
def definitionCount (a : Assembled) : Nat := (a.grammars.flatMap fun g => g.definitions.keys).length

/-- Writes everything that belongs to the root grammar, and gives the slot of its start. -/
def writeAll (a : Assembled) : Resolve Nat := do
  if a.root.start?.isNone then refuse (.missingStart a.path)
  let start ← slotOf ⟨0, .start⟩
  reserve 0 a.root
  drain a (definitionCount a)
  return start

end Resolve

/-! Cycles -/

/-- A graph of slots. -/
abbrev SlotGraph := List (Nat × List Nat)

namespace SlotGraph

/-- The targets of the references that a stack of handles leads to without entering an element or
attribute. The part that comes last is taken first. -/
def unguarded (nodes : Array Node) : (budget : Nat) → (seen stack : List Nat) → List Nat
  | 0, _, _ => []
  | _, _, [] => []
  | budget + 1, seen, h :: stack =>
    if h ∈ seen then unguarded nodes budget seen stack
    else
      match nodes[h]? with
      | some (.ref _ target) | some (.parentRef _ target) =>
        target.toNat :: unguarded nodes budget (h :: seen) stack
      | some (.named _ _ _) | none => unguarded nodes budget (h :: seen) stack
      | some n =>
        unguarded nodes budget (h :: seen) ((n.children.map Int.toNat).reverse ++ stack)

/-- Which slots the body of each slot refers to without a guard. -/
def ofNodes (nodes : Array Node) (slots : List Nat) : SlotGraph :=
  let budget := (nodes.toList.flatMap Node.children).length + 1
  slots.map fun slot => (slot, unguarded nodes budget [] [slot])

def successors (g : SlotGraph) (slot : Nat) : List Nat := (g.lookup slot).getD []

/-- The way along `path`, last slot first, from a slot on it around to the slot again. -/
def cycleOf (path : List Nat) (slot : Nat) : List Nat :=
  slot :: (path.takeWhile (· ≠ slot)).reverse ++ [slot]

/-- Searches in depth along a path, last slot first, each with the successors still to try. Ends
with the slots that are on no cycle, or with a cycle. -/
def search (g : SlotGraph) : (budget : Nat) → (path : List (Nat × List Nat)) → (done : List Nat) →
    Except (List Nat) (List Nat)
  | 0, _, done => .ok done
  | _, [], done => .ok done
  | budget + 1, (slot, []) :: path, done => search g budget path (slot :: done)
  | budget + 1, (slot, next :: rest) :: path, done =>
    if next ∈ (slot :: path.map Prod.fst) then
      .error (cycleOf (slot :: path.map Prod.fst) next)
    else if next ∈ done then search g budget ((slot, rest) :: path) done
    else search g budget ((next, g.successors next) :: (slot, rest) :: path) done

/-- How many steps a search can take. -/
def effort (g : SlotGraph) : Nat := (g.flatMap Prod.snd).length + 2 * g.length + 1

/-- The first cycle that a search from one slot after another meets. -/
def findCycle? (g : SlotGraph) : Option (List Nat) :=
  let searchFrom (done : List Nat) (slot : Nat) : Except (List Nat) (List Nat) :=
    if slot ∈ done then .ok done else search g (effort g) [(slot, g.successors slot)] done
  match (g.map Prod.fst).foldlM searchFrom [] with
  | .ok _ => none
  | .error cycle => some cycle

end SlotGraph

/-- The error for a cycle of slots: it shows the displayed names around the cycle, at the first
definition of the slot that begins it. -/
def cycleError (a : Assembled) (slots : List (DefinitionKey × Nat)) (cycle : List Nat) :
    Option SchemaError := do
  let keyOf (slot : Nat) : Option DefinitionKey := (slots.find? (·.2 = slot)).map Prod.fst
  let first ← cycle.head?.bind keyOf
  let d ← (Resolve.grammarAt a first.grammar).definitions.get? first.name
  let names := cycle.map fun slot => ((keyOf slot).map (·.name.display)).getD ""
  return .referenceCycle (names.map Text.ofString) d.first.span

/-- The schema of an assembled grammar. -/
def Assembled.resolve (a : Assembled) : Except Failure Schema :=
  match Resolve.writeAll a {} with
  | .error e _ => .error e
  | .ok start arena =>
    match arena.nodes.mapM id with
    | none => .error .exhausted
    | some nodes =>
      let graph := SlotGraph.ofNodes nodes (arena.slots.map Prod.snd)
      match graph.findCycle?.bind (cycleError a arena.slots) with
      | some e => .error (.schema e)
      | none =>
        let slotOf (name : DefineName) : Option (String × Handle) :=
          match name with
          | .start => none
          | .named n => (Table.lookup ⟨0, name⟩ arena.slots).map fun slot => (n, slot)
        .ok {
          start
          nodes
          defines := ⟨a.root.definitions.keys.filterMap slotOf⟩
          namespaces := a.environment.namespaces
          defaultNamespace := a.environment.defaultNamespace
          libraries := a.environment.libraries
          documentation := a.documentation
          source := a.path }

end RelaxCompact
