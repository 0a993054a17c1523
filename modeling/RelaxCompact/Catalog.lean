import RelaxCompact.Path
import RelaxCompact.Table
import RelaxCompact.Token.Lexer

/-!
Catalogs: where the sources of included grammars come from. A catalog turns an href into a
canonical key and finds the source behind a key.
-/

namespace RelaxCompact

/-- How hrefs become keys and keys become sources. Of the keys that hrefs become no more than `size`
have a source. -/
structure Catalog where
  canonicalize : (href base : Text) → Except Failure Text
  read : (key : Text) → Except Failure Source
  size : Nat

/-- Sources held in memory under paths in normal form. -/
structure Mapping where
  sources : Table Text Source

namespace Mapping

/-- Of sources whose paths have one normal form the last one counts. -/
def ofList (sources : List (Text × Source)) : Mapping :=
  ⟨Table.ofList (sources.map fun entry => (Path.normalize entry.1, entry.2))⟩

/-- A base that is no file has no directory. -/
def baseDirectory (base : Text) : Text :=
  if base.head? = some (.ofChar '<') then [] else Path.directory base

/-- The key for an href in a file: seen from the directory of the file, in normal form. -/
def canonicalize (href base : Text) : Text :=
  if Path.isAbsolute href then Path.normalize href
  else Path.normalize (Path.join (baseDirectory base) href)

def read (m : Mapping) (key : Text) : Except Failure Source :=
  match m.sources.get? key with
  | some source => .ok source
  | none => .error (.schema (.unreadable (.absent key)))

def catalog (m : Mapping) : Catalog where
  canonicalize href base := .ok (canonicalize href base)
  read := m.read
  size := m.sources.size

end Mapping

end RelaxCompact
