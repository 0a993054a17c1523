import RelaxCompact.Environment

/-!
Assembled grammars: every include expanded, every name resolved, the definitions of one name
together. References are still names. A nested grammar is known by its number.
-/

namespace RelaxCompact

/-- A pattern with resolved names. -/
inductive Content
  | binary (op : Connective) (left right : Content) (span : Span)
  | unary (modifier : Modifier) (content : Content) (span : Span)
  | leaf (leaf : Leaf) (span : Span)
  | named (holder : Holder) (name : NameClass) (content : Content) (span : Span)
  | ref (name : String) (span : Span)
  | parentRef (name : String) (span : Span)
  | data (type : Datatype) (library : Text) (params : List (String × Text))
    (except : Option Content) (span : Span)
  | value (literal : Text) (type : Datatype) (library : Text) (span : Span)
  | grammar (number : Nat) (span : Span)
  deriving Repr

namespace Content

/-- The operands of a chain of one operator that associates to the left. -/
def spine (op : Connective) : Content → List Content
  | binary op' left right s =>
    if op' = op then left.spine op ++ [right] else [binary op' left right s]
  | c => [c]

/-- The operands of the outermost operator, all of one chain together. -/
def operands : Content → List Content
  | binary op left right _ => left.spine op ++ [right]
  | c => [c]

end Content

/-- Which definition of which file: the file's key, and the way down to the definition, last step
first. -/
structure Occurrence where
  file : Text
  address : List Nat
  deriving DecidableEq, Repr

/-- A definition at one place. `chain` holds the numbers of the scopes around it, innermost first;
the grammar itself, which ends every chain, is left out. -/
structure Site where
  occurrence : Occurrence
  operator : Assignment
  documentation : Option String
  span : Span
  chain : List Nat
  content : Content
  deriving Repr

/-- The file that a site is written in. -/
def Site.path (s : Site) : Text := s.occurrence.file

/-- All sites of one name, in order. -/
structure Definition where
  first : Site
  more : List Site := []
  deriving Repr

namespace Definition

def sites (d : Definition) : List Site := d.first :: d.more

/-- The operator that all sites share if there are several. -/
def operator (d : Definition) : Assignment := d.first.operator

/-- The documentation of all sites that have some. -/
def documentation (d : Definition) : Option String :=
  match d.sites.filterMap fun s => s.documentation.filter (!·.isEmpty) with
  | [] => none
  | texts => some ("\n".intercalate texts)

/-- Why a site with an operator cannot join sites with another. -/
def conflict? (first second : Assignment) : Option CombineFault :=
  match first, second with
  | .single, .single => some .duplicate
  | .single, other | other, .single => some (.mixed other)
  | first, second => if first = second then none else some (.inconsistent first second)

/-- The definition with one more site. -/
def add (d : Definition) (name : DefineName) (site : Site) : Except SchemaError Definition :=
  match conflict? d.operator site.operator with
  | some fault => .error (.definitionConflict fault name site.span d.first.span)
  | none => .ok { d with more := d.more ++ [site] }

end Definition

/-- What opens a scope inside a grammar. -/
inductive ScopeKind
  | div | incl | fragment
  deriving DecidableEq, Repr

/-- A scope, with the names that are defined directly in it. -/
structure Scope where
  kind : ScopeKind
  label : Text
  names : List DefineName := []
  deriving DecidableEq, Repr

/-- A scope where a name is defined once more. -/
def Scope.define (s : Scope) (name : DefineName) : Scope :=
  if name ∈ s.names then s else { s with names := s.names ++ [name] }

/-- A grammar. `parent` numbers the grammar around it, if its references may leave it. -/
structure Grammar where
  label : Text
  parent : Option Nat
  definitions : Table DefineName Definition := {}
  scopes : List Scope := []
  deriving Repr

namespace Grammar

def start? (g : Grammar) : Option Definition := g.definitions.get? .start

/-- A name seen from a scope is looked up along the chain of scopes and at last in the grammar. -/
def lookup (g : Grammar) (chain : List Nat) (name : DefineName) : Option Definition :=
  let visible := chain.any fun i => (g.scopes[i]?).any (name ∈ ·.names)
  if visible ∨ g.definitions.contains name then g.definitions.get? name else none

end Grammar

/-- The result of assembly. The first grammar is the root. -/
structure Assembled where
  grammars : List Grammar
  path : Text
  environment : Environment
  fragments : Table Text Surface.File

namespace Assembled

/-- An empty grammar stands in for one that is not there. -/
def root (a : Assembled) : Grammar := a.grammars.head?.getD { label := a.path, parent := none }

/-- The documentation of the root definitions by displayed name. -/
def documentation (a : Assembled) : Table String String :=
  Table.ofList (a.root.definitions.entries.filterMap fun entry =>
    (entry.2.documentation.filter (!·.isEmpty)).map fun text => (entry.1.display, text))

end Assembled

end RelaxCompact
