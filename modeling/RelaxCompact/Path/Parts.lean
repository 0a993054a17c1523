import RelaxCompact.Path

/-!
File paths as a root and names. Empty names and `.` do not count; `..` stays, because what it leads
to is for the file system to say.
-/

namespace RelaxCompact.Path

/-- A path taken apart: the slashes that it starts with, and the names in it. -/
structure Parts where
  root : Text
  names : List Text
  deriving DecidableEq, Repr

namespace Parts

def ofText (path : Text) : Parts :=
  ⟨Path.root path, (segments path).filter fun name => name ≠ [] ∧ name ≠ dot⟩

/-- The written form; that of a path without root and names is `.`. -/
def text (p : Parts) : Text :=
  match p.root ++ Text.join [slash] p.names with
  | [] => dot
  | path => path

def isAbsolute (p : Parts) : Bool := !p.root.isEmpty

/-- The path `q` seen from the directory `p`. -/
def append (p q : Parts) : Parts := if q.isAbsolute then q else ⟨p.root, p.names ++ q.names⟩

instance : Append Parts := ⟨append⟩

/-- The directory that a path lies in. -/
def parent (p : Parts) : Parts := ⟨p.root, p.names.dropLast⟩

/-- The end of the last name from its last dot on, if something stands before and after the dot. -/
def extension (p : Parts) : Text :=
  let name := p.names.getLast?.getD []
  let point := CodePoint.ofChar '.'
  let after := (name.reverse.takeWhile (· ≠ point)).reverse
  let stem := name.take (name.length - after.length - 1)
  if stem.isEmpty ∨ after.isEmpty ∨ after.length = name.length then [] else point :: after

/-- The names from the root down, seen from the directory at the names `start`. -/
def resolve (start : List Text) (p : Parts) : List Text :=
  reduce true (if p.isAbsolute then p.names else start ++ p.names)

end Parts

end RelaxCompact.Path
