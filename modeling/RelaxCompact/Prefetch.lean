import RelaxCompact.Fragments

/-!
Prefetching: all fragments that a file refers to, directly or through other fragments, are fetched
ahead of assembly, one round for each distance from the root.
-/

namespace RelaxCompact.Fragments

open Surface

/-- Canonical keys of the hrefs of a file. -/
def keysOf (catalog : Catalog) (base : Text) (file : File) : Except Failure (List Text) :=
  file.hrefs.mapM fun href => catalog.canonicalize href base

/-- The keys that are not among those seen, each once, and all keys seen with them. -/
def freshKeys (seen : List Text) : List Text → List Text × List Text
  | [] => ([], seen)
  | key :: keys =>
    if key ∈ seen then freshKeys seen keys
    else
      let (fresh, all) := freshKeys (seen ++ [key]) keys
      (key :: fresh, all)

/-- Fetches a key; what comes of it is a result here. -/
def attempt (catalog : Catalog) (key : Text) : Fetch (Except Failure File) := fun s =>
  match fetch catalog key s with
  | .ok file s => .ok (.ok file) s
  | .error e s => .ok (.error e) s

/-- The files among the results of a round. A refused schema is noted, any other failure ends the
run. -/
def harvest : List (Text × Except Failure File) → Fetch (List (Text × File))
  | [] => return []
  | (key, .ok file) :: rest => do return (key, file) :: (← harvest rest)
  | (key, .error (.schema e)) :: rest => do
    report .fragments .debug ("Prefetch of " ++ key ++ " failed: " ++ e.message)
    harvest rest
  | (_, .error failure) :: _ => throw failure

/-- Rounds from a frontier of files on; returns how many keys were requested. -/
def rounds (catalog : Catalog) :
    (budget : Nat) → (seen : List Text) → (frontier : List (Text × File)) → Fetch Nat
  | _, _, [] => return 0
  | 0, _, _ :: _ => throw .exhausted
  | budget + 1, seen, frontier => do
    let keys ← liftExcept (frontier.mapM fun entry => keysOf catalog entry.1 entry.2)
    let (fresh, seen) := freshKeys seen keys.flatten
    let results ← fresh.mapM (attempt catalog)
    let next ← harvest (fresh.zip results)
    return fresh.length + (← rounds catalog budget seen next)

/-- Fetches all that a root file refers to and returns how many keys were requested. There are no
more rounds than keys that can be had. -/
def prefetch (catalog : Catalog) (key : Text) (root : File) (workers : Int) : Fetch Nat := do
  if workers < 1 then throw .noWorkers
  let known := (← get).entries.size
  rounds catalog (catalog.size + known + 1) [key] [(key, root)]

end RelaxCompact.Fragments
