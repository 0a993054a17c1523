import RelaxCompact.NameClass
import RelaxCompact.Surface.Pattern
import RelaxCompact.Table

/-!
Schemas: an arena of patterns that refer to one another by handle, so that recursive content is a
finite graph. A negative handle counts from the end of the arena.
-/

namespace RelaxCompact

abbrev Handle := Int

/-- A pattern of the arena. A reference points to the body of a definition. -/
inductive Node
  | binary (op : Connective) (left right : Handle)
  | unary (modifier : Modifier) (content : Handle)
  | leaf (leaf : Leaf)
  | named (holder : Holder) (name : NameClass) (content : Handle)
  | ref (name : String) (target : Handle)
  | parentRef (name : String) (target : Handle)
  | data (library : Text) (name : String) (params : List (String × Text)) (except : Option Handle)
  | value (literal : Text) (library : Text) (type : String)
  deriving Repr

namespace Node

def children : Node → List Handle
  | binary _ left right => [left, right]
  | unary _ content => [content]
  | leaf _ => []
  | named _ _ content => [content]
  | ref _ target => [target]
  | parentRef _ target => [target]
  | data _ _ _ except => except.toList
  | value _ _ _ => []

def isReference : Node → Bool
  | ref _ _ | parentRef _ _ => true
  | _ => false

/-- The children that a description shows; a reference is shown by its name. -/
def parts (n : Node) : List Handle := if n.isReference then [] else n.children

def renderParams (params : List (String × Text)) : Text :=
  if params.isEmpty then []
  else " \x7b " ++ Text.join " " (params.map fun p => p.1 ++ " = \"" ++ p.2 ++ "\"") ++ " \x7d"

/-- The description of a pattern from those of its parts. -/
def render (n : Node) (parts : List Text) : Text :=
  let among := Text.join ", " parts
  match n with
  | binary op _ _ => op.label ++ "(" ++ among ++ ")"
  | unary modifier _ => modifier.label ++ "(" ++ among ++ ")"
  | leaf l => l.label
  | named holder name _ => holder.label ++ "(" ++ name.describe ++ ", " ++ among ++ ")"
  | ref name _ => "Ref(" ++ name ++ ")"
  | parentRef name _ => "ParentRef(" ++ name ++ ")"
  | data _ name params _ =>
    let exception : Text := if parts.isEmpty then [] else " - " ++ among
    "DataType(" ++ name ++ renderParams params ++ exception ++ ")"
  | value literal _ _ => "Value(\"" ++ literal ++ "\")"

end Node

/-- A resolved schema. -/
structure Schema where
  start : Handle
  nodes : Array Node
  defines : Table String Handle := {}
  namespaces : Table String Text := {}
  defaultNamespace : Text := []
  libraries : Table String Text := {}
  documentation : Table String String := {}
  source : Text := []

/-- Why a question to a schema has no answer. -/
inductive QueryFault
  | noSuchHandle
  | noSuchDefinition
  /-- A pattern contains itself other than through a reference. -/
  | endless
  deriving DecidableEq, Repr

namespace Schema

abbrev Query (α : Type) := Except QueryFault α

/-- The place of a handle in the arena. -/
def index? (s : Schema) (h : Handle) : Option Nat :=
  if 0 ≤ h ∧ h < s.nodes.size then some h.toNat
  else if h < 0 ∧ -s.nodes.size ≤ h then some (h + s.nodes.size).toNat
  else none

def node (s : Schema) (h : Handle) : Query Node :=
  match (s.index? h).bind (s.nodes[·]?) with
  | some n => .ok n
  | none => .error .noSuchHandle

def children (s : Schema) (h : Handle) : Query (List Handle) := do
  return (← s.node h).children

/-- How many times handles occur as children: a bound on how many of them can be met. -/
def edges (s : Schema) : Nat := (s.nodes.toList.flatMap Node.children).length

/-- Follows references from a handle until a pattern that is none, or one met before. -/
def derefFrom (s : Schema) : (budget : Nat) → (seen : List Handle) → Handle → Query Handle
  | 0, _, _ => .error .endless
  | budget + 1, seen, h => do
    match ← s.node h with
    | .ref _ target | .parentRef _ target =>
      if h ∈ seen then return h else s.derefFrom budget (h :: seen) target
    | _ => return h

def deref (s : Schema) (h : Handle) : Query Handle := s.derefFrom (s.edges + 2) [] h

/-- The handles reached from a stack, in the order of visits. A handle is marked when it comes onto
the stack. -/
def walkFrom (s : Schema) : (budget : Nat) → (seen stack : List Handle) → Query (List Handle)
  | _, _, [] => .ok []
  | 0, _, _ :: _ => .error .endless
  | budget + 1, seen, h :: stack => do
    let fresh := ((← s.children h).filter (· ∉ seen)).eraseDups
    return h :: (← s.walkFrom budget (fresh ++ seen) (fresh ++ stack))

/-- All handles reachable from one, each once, first children first. -/
def walk (s : Schema) (h : Handle) : Query (List Handle) := s.walkFrom (s.edges + 1) [h] [h]

/-- What is rendered so far. -/
abbrev Rendered := List (Handle × Text)

/-- Renders what is on a stack. A pattern comes onto it twice: once to put its parts above it, and
once, marked, to be put together from them. -/
def renderFrom (s : Schema) : (budget : Nat) → Rendered → (stack : List (Handle × Bool)) →
    Query Rendered
  | _, rendered, [] => .ok rendered
  | 0, _, _ :: _ => .error .endless
  | budget + 1, rendered, (h, expanded) :: stack =>
    if (List.lookup h rendered).isSome then s.renderFrom budget rendered stack
    else do
      let n ← s.node h
      if n.parts.isEmpty || expanded then
        match n.parts.mapM fun child => List.lookup child rendered with
        | some parts => s.renderFrom budget ((h, n.render parts) :: rendered) stack
        | none => .error .endless
      else
        let missing := n.parts.filter fun child => (List.lookup child rendered).isNone
        s.renderFrom budget rendered (missing.reverse.map (·, false) ++ (h, true) :: stack)

/-- The compact description of a pattern. -/
def describe (s : Schema) (h : Handle) : Query Text := do
  let rendered ← s.renderFrom (3 * s.edges + 5) [] [(h, false)]
  match List.lookup h rendered with
  | some text => return text
  | none => .error .endless

/-- The body of a definition. -/
def define (s : Schema) (name : String) : Query Handle :=
  match s.defines.get? name with
  | some h => .ok h
  | none => .error .noSuchDefinition

/-- The handles of the patterns with a property. -/
def handlesOf (s : Schema) (p : Node → Bool) : List Handle :=
  (s.nodes.toList.zipIdx.filter fun entry => p entry.1).map fun entry => entry.2

def references (s : Schema) : List Handle := s.handlesOf Node.isReference

def holders (s : Schema) (holder : Holder) : List Handle :=
  s.handlesOf fun n =>
    match n with
    | .named h _ _ => h = holder
    | _ => false

def elements (s : Schema) : List Handle := s.holders .element

def attributes (s : Schema) : List Handle := s.holders .attr

end Schema

end RelaxCompact
