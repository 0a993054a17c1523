import RelaxCompact.Surface.Pattern

/-! One grammar file as it is written: a header of declarations, and components. -/

namespace RelaxCompact.Surface

/-- A header declaration. A namespace without a URI is inherited from the including file. -/
inductive Declaration
  | binding (qualifier : Option String) (uri : Option Text) (isDefault : Bool) (span : Span)
  | library (qualifier : String) (uri : Text) (span : Span)
  deriving DecidableEq, Repr

/-- The same declaration, wherever the two are written. -/
def Declaration.agrees : Declaration → Declaration → Bool
  | binding q u d _, binding q' u' d' _ => q = q' && u = u' && d = d'
  | library q u _, library q' u' _ => q = q' && u = u'
  | _, _ => false

/-- A grammar file. A file that is a bare pattern has it as its only definition. -/
structure File where
  path : Text
  declarations : List Declaration
  components : List Component
  isPattern : Bool
  deriving Repr

namespace File

def declarationsAgree : List Declaration → List Declaration → Bool
  | [], [] => true
  | d :: ds, d' :: ds' => d.agrees d' && declarationsAgree ds ds'
  | _, _ => false

/-- Two files at one path with the same content. -/
def agrees (a b : File) : Bool :=
  a.path = b.path && declarationsAgree a.declarations b.declarations &&
    Component.allAgree a.components b.components && a.isPattern = b.isPattern

/-- The definitions of a file, also those in divisions and override blocks. -/
def defines (f : File) : List Define := Component.allDefines f.components

/-- All that a file refers to by include or external, in source order. -/
def hrefs (f : File) : List Text := Component.allHrefs f.components

end File

end RelaxCompact.Surface
