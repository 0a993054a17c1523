import RelaxCompact.Surface.Definition
import RelaxCompact.Surface.NameClass

/-!
Patterns and grammar components as they are written. Every node knows its place; `agrees` compares
trees without regard to places and documentation.
-/

namespace RelaxCompact

/-- The operators between two patterns. -/
inductive Connective
  | choice | group | interleave
  deriving DecidableEq, Repr

/-- The operators on one pattern. -/
inductive Modifier
  | optional | zeroOrMore | oneOrMore | mixed | list
  deriving DecidableEq, Repr

/-- The patterns without parts. -/
inductive Leaf
  | text | empty | notAllowed
  deriving DecidableEq, Repr

/-- The patterns that have a name class. -/
inductive Holder
  | element | attr
  deriving DecidableEq, Repr

/-! The names of the kinds of patterns -/

def Connective.label : Connective → String
  | choice => "Choice"
  | group => "Group"
  | interleave => "Interleave"

def Modifier.label : Modifier → String
  | optional => "Optional"
  | zeroOrMore => "ZeroOrMore"
  | oneOrMore => "OneOrMore"
  | mixed => "Mixed"
  | list => "List"

def Leaf.label : Leaf → String
  | text => "Text"
  | empty => "Empty"
  | notAllowed => "NotAllowed"

def Holder.label : Holder → String
  | element => "Element"
  | attr => "Attribute"

/-- A datatype by name; one without a qualifier is built in. -/
structure Datatype where
  qualifier : Option String
  localName : String
  deriving DecidableEq, Repr

namespace Surface

mutual

/-- A pattern. -/
inductive Pattern
  | binary (op : Connective) (left right : Pattern) (span : Span)
  | unary (modifier : Modifier) (content : Pattern) (span : Span)
  | leaf (leaf : Leaf) (span : Span)
  | named (holder : Holder) (name : NameClass) (content : Pattern) (span : Span)
  | ref (name : String) (span : Span)
  | parentRef (name : String) (span : Span)
  | data (type : Datatype) (params : List (String × Text)) (except : Option Pattern) (span : Span)
  | value (literal : Text) (type : Datatype) (span : Span)
  | external (href : Text) (inherit : Option String) (span : Span)
  | grammar (components : List Component) (span : Span)
  deriving Repr

/-- What a grammar consists of: definitions, divisions and includes with their overrides. -/
inductive Component
  | define (name : DefineName) (operator : Assignment) (pattern : Pattern)
    (documentation : Option String) (span : Span)
  | div (components : List Component) (span : Span)
  | incl (href : Text) (inherit : Option String) (overrides : List Component) (span : Span)
  deriving Repr

end

/-- A definition by itself. -/
structure Define where
  name : DefineName
  operator : Assignment
  pattern : Pattern
  documentation : Option String
  span : Span
  deriving Repr

namespace Pattern

def span : Pattern → Span
  | binary _ _ _ s | unary _ _ s | leaf _ s | named _ _ _ s | ref _ s | parentRef _ s | data _ _ _ s
  | value _ _ s | external _ _ s | grammar _ s => s

/-- The operands of a chain of one operator that associates to the left. -/
def spine (op : Connective) : Pattern → List Pattern
  | binary op' left right s =>
    if op' = op then left.spine op ++ [right] else [binary op' left right s]
  | p => [p]

/-- The operands of the outermost operator, all of one chain together. -/
def operands : Pattern → List Pattern
  | binary op left right _ => left.spine op ++ [right]
  | p => [p]

/-- A pattern and all below it, parents first, left before right; nested grammars stay closed. -/
def preorder : Pattern → List Pattern
  | binary op left right s => binary op left right s :: (left.preorder ++ right.preorder)
  | unary m content s => unary m content s :: content.preorder
  | named h name content s => named h name content s :: content.preorder
  | data type params (some e) s => data type params (some e) s :: e.preorder
  | p => [p]

end Pattern

mutual

/-- The same pattern, wherever the two are written. -/
def Pattern.agrees : Pattern → Pattern → Bool
  | .binary op l r _, .binary op' l' r' _ => op = op' && l.agrees l' && r.agrees r'
  | .unary m c _, .unary m' c' _ => m = m' && c.agrees c'
  | .leaf l _, .leaf l' _ => l = l'
  | .named h n c _, .named h' n' c' _ => h = h' && n.agrees n' && c.agrees c'
  | .ref n _, .ref n' _ => n = n'
  | .parentRef n _, .parentRef n' _ => n = n'
  | .data t ps none _, .data t' ps' none _ => t = t' && ps = ps'
  | .data t ps (some e) _, .data t' ps' (some e') _ => t = t' && ps = ps' && e.agrees e'
  | .value v t _, .value v' t' _ => v = v' && t = t'
  | .external h i _, .external h' i' _ => h = h' && i = i'
  | .grammar cs _, .grammar cs' _ => Component.allAgree cs cs'
  | _, _ => false

/-- The same component, whatever its documentation. -/
def Component.agrees : Component → Component → Bool
  | .define n o p _ _, .define n' o' p' _ _ => n = n' && o = o' && p.agrees p'
  | .div cs _, .div cs' _ => Component.allAgree cs cs'
  | .incl h i cs _, .incl h' i' cs' _ => h = h' && i = i' && Component.allAgree cs cs'
  | _, _ => false

def Component.allAgree : List Component → List Component → Bool
  | [], [] => true
  | c :: cs, c' :: cs' => c.agrees c' && Component.allAgree cs cs'
  | _, _ => false

end

mutual

/-- The definitions that a component holds, also in divisions and override blocks. -/
def Component.defines : Component → List Define
  | .define name operator pattern documentation span =>
    [⟨name, operator, pattern, documentation, span⟩]
  | .div components _ => Component.allDefines components
  | .incl _ _ overrides _ => Component.allDefines overrides

def Component.allDefines : List Component → List Define
  | [] => []
  | c :: cs => c.defines ++ Component.allDefines cs

end

mutual

/-- The hrefs of the external patterns in a pattern, and of all that nested grammars refer to. -/
def Pattern.hrefs : Pattern → List Text
  | .binary _ left right _ => left.hrefs ++ right.hrefs
  | .unary _ content _ => content.hrefs
  | .named _ _ content _ => content.hrefs
  | .data _ _ (some e) _ => e.hrefs
  | .external href _ _ => [href]
  | .grammar components _ => Component.allHrefs components
  | _ => []

/-- The hrefs of a component in source order. -/
def Component.hrefs : Component → List Text
  | .define _ _ pattern _ _ => pattern.hrefs
  | .div components _ => Component.allHrefs components
  | .incl href _ overrides _ => href :: Component.allHrefs overrides

def Component.allHrefs : List Component → List Text
  | [] => []
  | c :: cs => c.hrefs ++ Component.allHrefs cs

end

end Surface

end RelaxCompact
