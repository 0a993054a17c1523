import RelaxCompact.Text

/-! Name classes with namespaces in place of qualifiers. -/

namespace RelaxCompact

/-- A set of expanded names. -/
inductive NameClass
  | name (ns : Text) (localName : String)
  | anyName (except : Option NameClass)
  | nsName (ns : Text) (except : Option NameClass)
  | choice (left right : NameClass)
  deriving Repr

namespace NameClass

/-- A namespace in braces before a name. -/
def braced (ns : Text) : Text := "\x7b" ++ ns ++ "\x7d"

def describe : NameClass → Text
  | name ns localName => if ns.isEmpty then Text.ofString localName else braced ns ++ localName
  | anyName none => "*"
  | anyName (some e) => "* - (" ++ e.describe ++ ")"
  | nsName ns none => braced ns ++ "*"
  | nsName ns (some e) => braced ns ++ "* - (" ++ e.describe ++ ")"
  | choice left right => left.describe ++ " | " ++ right.describe

end NameClass

end RelaxCompact
