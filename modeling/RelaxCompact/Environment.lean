import RelaxCompact.Error
import RelaxCompact.NameClass
import RelaxCompact.Surface.File
import RelaxCompact.Table

/-!
Environments: what the qualifiers of one file stand for. Names are resolved in the environment of
the file that they are written in.
-/

namespace RelaxCompact

def xmlNamespace : Text := "http://www.w3.org/XML/1998/namespace"

def schemaDatatypes : Text := "http://www.w3.org/2001/XMLSchema-datatypes"

/-- The bindings of a file. The qualifiers `xml` and `xsd` are bound from the start. -/
structure Environment where
  namespaces : Table String Text := ⟨[("xml", xmlNamespace)]⟩
  defaultNamespace : Text := []
  libraries : Table String Text := ⟨[("xsd", schemaDatatypes)]⟩
  deriving DecidableEq, Repr

namespace Environment

/-- The bindings after one more declaration; `inherited` is what `inherit` stands for. -/
def declare (inherited : Text) (env : Environment) : Surface.Declaration → Environment
  | .library qualifier uri _ => { env with libraries := env.libraries.insert qualifier uri }
  | .binding qualifier uri isDefault _ =>
    let ns := uri.getD inherited
    { env with
      defaultNamespace := if isDefault then ns else env.defaultNamespace
      namespaces :=
        match qualifier with
        | some q => env.namespaces.insert q ns
        | none => env.namespaces }

/-- The bindings of a file with these declarations whose includer passes `inherited` down. -/
def ofDeclarations (declarations : List Surface.Declaration) (inherited : Text := []) :
    Environment :=
  declarations.foldl (declare inherited) { defaultNamespace := inherited }

def namespaceFor (env : Environment) (qualifier : String) (span : Option Span) :
    Except SchemaError Text :=
  match env.namespaces.get? qualifier with
  | some ns => .ok ns
  | none => .error (.undeclaredNamespace qualifier span)

/-- The library of a datatype; the built-in ones are in the library without a name. -/
def libraryFor (env : Environment) (type : Datatype) (span : Option Span) :
    Except SchemaError Text :=
  match type.qualifier with
  | none => .ok []
  | some qualifier =>
    match env.libraries.get? qualifier with
    | some library => .ok library
    | none => .error (.undeclaredLibrary qualifier span)

/-- The namespace of names without a qualifier: attributes have none. -/
def unqualified (env : Environment) : Holder → Text
  | .element => env.defaultNamespace
  | .attr => []

/-- A name class with its qualifiers resolved. -/
def nameClass (env : Environment) (holder : Holder) :
    Surface.NameClass → Except SchemaError NameClass
  | .name (some qualifier) localName span => do
    return .name (← env.namespaceFor qualifier (some span)) localName
  | .name none localName _ => .ok (.name (env.unqualified holder) localName)
  | .anyName none _ => .ok (.anyName none)
  | .anyName (some e) _ => do
    return .anyName (some (← env.nameClass holder e))
  | .nsName qualifier none span => do
    return .nsName (← env.namespaceFor qualifier (some span)) none
  | .nsName qualifier (some e) span => do
    let ns ← env.namespaceFor qualifier (some span)
    return .nsName ns (some (← env.nameClass holder e))
  | .choice left right _ => do
    let left ← env.nameClass holder left
    return .choice left (← env.nameClass holder right)

end Environment

end RelaxCompact
