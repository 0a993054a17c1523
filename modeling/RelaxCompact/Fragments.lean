import RelaxCompact.Catalog
import RelaxCompact.Journal
import RelaxCompact.Parser.File

/-!
Fragments: grammar files by key. A key is read and parsed once; what came of it, file or failure, is
kept and given again.
-/

namespace RelaxCompact

/-- What is known of keys so far, how often each was parsed, and the journal of the run. -/
structure Fragments where
  entries : Table Text (Except Failure Surface.File) := {}
  parses : Table Text Nat := {}
  journal : Journal := []

/-- A step that may fetch fragments. The state outlives a failure. -/
abbrev Fetch (α : Type) := EStateM Failure Fragments α

namespace Fragments

def report (reporter : Reporter) (severity : Severity) (message : Text) : Fetch Unit :=
  modify fun s => { s with journal := s.journal ++ [⟨reporter, severity, message⟩] }

/-- Reads and parses the source behind a key. -/
def load (catalog : Catalog) (key : Text) : Fetch Surface.File := do
  let source ← liftExcept (catalog.read key)
  report .fragments .debug ("Parsing grammar fragment " ++ key)
  let file ← liftExcept (source.parse key)
  modify fun s => { s with parses := s.parses.insert key ((s.parses.get? key).getD 0 + 1) }
  return file

/-- The file behind a key; from the second time on, what was found the first time. -/
def fetch (catalog : Catalog) (key : Text) : Fetch Surface.File := fun s =>
  match s.entries.get? key with
  | some result =>
    (do
      report .fragments .debug ("Fragment cache hit for " ++ key)
      liftExcept result : Fetch Surface.File) s
  | none =>
    match load catalog key s with
    | .ok file s => .ok file { s with entries := s.entries.insert key (.ok file) }
    | .error e s => .error e { s with entries := s.entries.insert key (.error e) }

end Fragments

end RelaxCompact
