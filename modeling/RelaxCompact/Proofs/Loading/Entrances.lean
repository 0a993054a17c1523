import RelaxCompact.Proofs.Caching.Lasting
import RelaxCompact.Proofs.Caching.Loading
import RelaxCompact.Proofs.Path

/-!
A root behind a path and a root whose text is given come to the same schema or the same failure.
Only the first is kept among the fragments; in the second run nobody asks for the key of the root,
as prefetching has seen it from the start and assembly has it on the stack.
-/

namespace RelaxCompact

namespace Fragments

open Run Surface

section

variable {catalog : Catalog} {top : Text}

end

end Fragments

open Run Fragments

theorem rootKey_of_ne_nil {key : Text} (h : key ≠ []) (root : Surface.File) :
    rootKey root (some key) = key := by
  unfold rootKey
  rw [Option.filter_some, List.isEmpty_eq_false_iff.2 h]
  rfl

namespace Loader

/-- The schema that a text spells whose path is given, or the failure, over new fragments. -/
def parse (catalog : Catalog) (settings : Settings) (source : Source) (path : Text) :
    Except Failure Schema :=
  ended (parseSchema catalog settings source path {})

section

variable (m : Mapping) (settings : Settings) {path : Text} {source : Source}

variable {o : Fragments}

end

end Loader

namespace Returning

/-! A fragment that leads back to the root, from a definition that the root overrides. -/

def source (s : String) : Source := .text s

def root : Source := source "include \"a.rnc\" \x7b x = text \x7d start = x"

def mapping : Mapping := Mapping.ofList
  [("main.rnc", root), ("a.rnc", source "x = external \"main.rnc\" y = external \"b.rnc\""),
    ("b.rnc", source "start = element b \x7b text \x7d")]

end Returning

end RelaxCompact
