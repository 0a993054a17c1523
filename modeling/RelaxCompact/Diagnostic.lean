import RelaxCompact.Span

/-!
Diagnostics: what a reader of a failed schema is told. A diagnostic has a message, a place, a code
and a hint, and what its category adds; `format` puts them into one text.
-/

namespace RelaxCompact

/-- A place as far as it is known. -/
structure Location where
  path : Option Text := none
  line : Option Int := none
  column : Option Int := none
  deriving DecidableEq, Repr

namespace Location

/-- A path counts as known when it is not empty. -/
def knownPath (l : Location) : Option Text := l.path.filter (!·.isEmpty)

/-- A line is shown only behind a path, a column only behind a line. -/
def describe? (l : Location) : Option Text :=
  l.knownPath.map fun path =>
    match l.line, l.column with
    | some line, some column => path ++ ":" ++ Text.ofInt line ++ ":" ++ Text.ofInt column
    | some line, none => path ++ ":" ++ Text.ofInt line
    | none, _ => path

def describe (l : Location) : Text := l.describe?.getD "unknown location"

end Location

/-- The categories of diagnostics, each with the facts that it adds. -/
inductive Category
  | general
  | lexical (char : Option Text)
  | syntactic (expected : List Text) (found : Option Text)
  | inclusion (href : Option Text) (stack : List Text)
  | conflict (name : Option Text) (first : Option Span)
  | undefined (name : Option Text)
  | cycle (names : List Text)
  | undeclared (qualifier : Option Text)
  deriving DecidableEq, Repr

/-- The code of a category. -/
def Category.code : Category → String
  | general => "RNC_ERROR"
  | lexical _ => "LEX_ERROR"
  | syntactic _ _ => "PARSE_ERROR"
  | inclusion _ _ => "INCLUDE_ERROR"
  | conflict _ _ => "DEFINE_CONFLICT"
  | undefined _ => "UNDEFINED_REFERENCE"
  | cycle _ => "CYCLE_ERROR"
  | undeclared _ => "UNDECLARED_PREFIX"

structure Diagnostic where
  category : Category
  message : Text
  span : Option Span := none
  location : Location := {}
  code : Text := category.code
  hint : Option Text := none
  deriving DecidableEq, Repr

namespace Diagnostic

/-- A diagnostic at a region; what `location` leaves open is taken from the region. -/
def atSpan (category : Category) (message : Text) (span : Option Span) (location : Location := {})
    (code : Text := category.code) (hint : Option Text := none) : Diagnostic where
  category
  message
  span
  location :=
    { path := location.path <|> span.map (·.path)
      line := location.line <|> span.map (·.line)
      column := location.column <|> span.map (·.column) }
  code
  hint

/-- Message, place, code and hint in one line. -/
def headline (d : Diagnostic) : Text :=
  let place := d.location.describe?.filter (· ≠ Text.ofString "unknown location")
  let facts := place.toList ++ [d.code].filter (!·.isEmpty)
  let message : Text :=
    if facts.isEmpty then d.message else d.message ++ " (" ++ Text.join "; " facts ++ ")"
  let hint := (d.hint.filter (!·.isEmpty)).map fun h => Text.ofString "Hint: " ++ h
  Text.join " " ([message].filter (!·.isEmpty) ++ hint.toList)

/-- The lines that a category adds below the headline. -/
def details (d : Diagnostic) : List Text :=
  match d.category with
  | .syntactic expected found =>
    (match expected with
      | [] => []
      | [one] => ["Expected: " ++ one]
      | many => ["Expected one of: " ++ Text.join ", " many]) ++
    ((found.filter (!·.isEmpty)).map fun f => Text.ofString "Found: " ++ f).toList
  | .conflict _ (some first) => ["First defined at: " ++ first.describe]
  | _ => []

def format (d : Diagnostic) : Text := Text.join "\n  " (d.headline :: d.details)

end Diagnostic

end RelaxCompact
