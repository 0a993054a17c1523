import RelaxCompact.Loader
import RelaxCompact.Proofs.Caching.Assembling
import RelaxCompact.Proofs.Table

/-!
Keeping fragments is not to be noticed. Whatever is asked of shared fragments, in whatever order,
each answer is the one that new fragments would give.
-/

namespace RelaxCompact

open Run Fragments

/-- What can be asked of fragments that are shared. -/
inductive Request
  | get (key : Text)
  | prefetch (root : Surface.File) (key : Option Text) (workers : Int)
  | assemble (strict : Bool) (root : Surface.File) (key : Option Text)
  | load (settings : Settings) (path : Text)

inductive Answer
  | file (file : Surface.File)
  | requested (count : Nat)
  | grammar (a : Assembled)

namespace Request

def run (catalog : Catalog) : Request → Fetch Answer
  | get key => return .file (← Fragments.fetch catalog key)
  | prefetch root key workers =>
    return .requested (← Fragments.prefetch catalog (rootKey root key) root workers)
  | assemble strict root key =>
    return .grammar (← RelaxCompact.assemble ⟨catalog, strict⟩ root key)
  | load settings path => return .grammar (← Loader.loadGrammar catalog settings path)

/-- What a request comes to, file, grammar or failure, and the fragments after it. -/
def answer (catalog : Catalog) (s : Fragments) (r : Request) : Except Failure Answer × Fragments :=
  match r.run catalog s with
  | .ok a t => (.ok a, t)
  | .error e t => (.error e, t)

/-- What requests come to that are made one after another. -/
def answers (catalog : Catalog) :
    Fragments → List Request → List (Except Failure Answer) × Fragments
  | s, [] => ([], s)
  | s, r :: rs =>
    ((r.answer catalog s).1 :: (answers catalog (r.answer catalog s).2 rs).1,
      (answers catalog (r.answer catalog s).2 rs).2)

end Request

section

variable {catalog : Catalog} {o o' : Fragments} {keys : List Text}

end

namespace Mapping

/-- Only keys with a source stand for a file. -/
theorem mem_keys_of_outcome (m : Mapping) (key : Text) (file : Surface.File)
    (h : outcome m.catalog {} key = .ok file) : key ∈ m.sources.keys := by
  have hmem : key ∈ m.sources.keys ++ [] := m.mem_of_outcome h
  rwa [List.append_nil] at hmem

theorem length_keys_le (m : Mapping) : m.sources.keys.length ≤ m.catalog.size :=
  Nat.le_of_eq (List.length_map _)

variable {m : Mapping} {s : Fragments}

end Mapping

namespace Retried

/-! A fragment that cannot be parsed, met by prefetching first and asked for again. -/

def source (s : String) : Source := .text s

def mapping : Mapping := Mapping.ofList
  [("a.rnc", source "include \"b.rnc\" start = text"), ("b.rnc", source "x =")]

def requests : List Request := [.load {} "a.rnc", .get "b.rnc"]

def known : Fragments := (Request.answers mapping.catalog {} requests).2

end Retried

end RelaxCompact
