import RelaxCompact.Proofs.Flattening.Assembling

/-!
Divisions are transparent: a root comes to the same schema with and without them.
-/

namespace RelaxCompact

open Expand Run Surface Fragments

/-- Keys stand for the same files, on the second side without divisions. -/
structure Fragments.Flattens (catalog catalog' : Catalog) (s u : Fragments) : Prop where
  canonicalize : catalog'.canonicalize = catalog.canonicalize
  files : ∀ key, outcome catalog' u key = (outcome catalog s key).map File.flatten
  bounded : s.Bounded catalog
  bounded' : u.Bounded catalog'

theorem Mapping.flattens {m m' : Mapping} {s u : Fragments}
    (h : ∀ key, outcome m'.catalog u key = (outcome m.catalog s key).map File.flatten) :
    Flattens m.catalog m'.catalog s u :=
  ⟨rfl, h, m.bounded s, m'.bounded u⟩

section

variable {catalog catalog' : Catalog} {s u : Fragments}

/-- What assembly makes of the expansion of a root. -/
def assembled (root : File) (key : Option Text) (r : EStateM.Result Failure Expansion Unit) :
    Except Failure Assembled :=
  (ended r).map fun _ =>
    { grammars := (left r).grammars
      path := if root.path.isEmpty then rootKey root key else root.path
      environment := Environment.ofDeclarations root.declarations
      fragments := (left r).fragments }

theorem ended_assemble (setup : Setup) (root : File) (key : Option Text) (s : Fragments) :
    ended (assemble setup root key s) =
      assembled root key (expandFile setup (setup.catalog.size + s.entries.size + 1)
        { grammar := 0
          environment := Environment.ofDeclarations root.declarations
          file := rootKey root key }
        root.components
        { source := s
          stack := [rootKey root key]
          grammars := [{
            label := if root.path.isEmpty then rootKey root key else root.path
            parent := none }] }) := by
  unfold assemble
  dsimp only
  generalize expandFile setup _ _ _ _ = r
  cases r <;> rfl

/-- Without divisions, a root is assembled to the same but for addresses and scopes. -/
theorem assemble_flatten (h : Flattens catalog catalog' s u) (strict : Bool) (root : File)
    (key : Option Text) :
    (ended (assemble ⟨catalog', strict⟩ root.flatten key u)).map Assembled.bare =
      (ended (assemble ⟨catalog, strict⟩ root key s)).map Assembled.bare := by
  let supply : Supply := ⟨catalog, catalog', outcome catalog s, h.canonicalize⟩
  obtain ⟨keys, hkeys, hsize⟩ := h.bounded
  obtain ⟨keys', hkeys', hsize'⟩ := h.bounded'
  have hfound (key : Text) (file : File) (hfile : supply.files key = .ok file) :
      key ∈ keys ∧ key ∈ keys' := by
    refine ⟨hkeys key file hfile, hkeys' key file.flatten ?_⟩
    rw [h.files]
    exact congrArg (Except.map File.flatten) hfile
  have hroom {keys : List Text} {n : Nat} (hn : keys.length ≤ n) :
      room keys [rootKey root key] < n + 1 :=
    Nat.lt_succ_of_le (Nat.le_trans (room_le_length _ _) hn)
  have hstart (label : Text) : Sides supply ([] ++ [chartOf supply [rootKey root key]
        (rootKey root key) (Component.allAddresses [] [] 0 0 root.components)])
      ⟨[rootKey root key], []⟩
      { source := s, stack := [rootKey root key], grammars := [{ label, parent := none }] }
      { source := u, stack := [rootKey root key], grammars := [{ label, parent := none }] } := {
    stack := rfl
    stack' := rfl
    frames := .nil
    environments := rfl
    grammars := rfl
    length := rfl
    oneToOne := fun C hC => List.mem_singleton.mp hC ▸
      oneToOne_chartOf List.mem_cons_self (Component.oneToOne_allAddresses _ _ _ _ _)
    registered := .nil
    source := fun _ => rfl
    source' := h.files }
  have hmatched := expandFile_matched strict hfound (hroom hsize) (hroom hsize') _ []
    ⟨0, [], Environment.ofDeclarations root.declarations, rootKey root key, []⟩
    ⟨0, [], Environment.ofDeclarations root.declarations, rootKey root key, []⟩ root.components
    (@opposite_chartOf _ [] _ _ _ _ _ _ _ _ _ rfl List.mem_cons_self)
  have hplain := ended_assemble ⟨catalog, strict⟩ root key s
  have hflat := ended_assemble ⟨catalog', strict⟩ root.flatten key u
  rcases hmatched.ends (hstart (if root.path.isEmpty then rootKey root key else root.path)) with
    ⟨e, t, v, hx, hy⟩ | ⟨_, t, _, v, hx, hy, -, opened, htv⟩
  · rw [hplain.trans (congrArg (assembled root key) hx),
      hflat.trans (congrArg (assembled root key) hy)]
    rfl
  · rw [hplain.trans (congrArg (assembled root key) hx),
      hflat.trans (congrArg (assembled root key) hy)]
    refine congrArg Except.ok ?_
    change Assembled.mk (v.grammars.map Grammar.bare) _ _ _ =
      Assembled.mk (t.grammars.map Grammar.bare) _ _ _
    rw [htv.grammars]

/-- **Divisions are transparent.** Without the divisions of the root and of all files, assembly and
resolution come to the same schema or to the same failure. -/
theorem resolve_flatten (h : Flattens catalog catalog' s u) (strict : Bool) (root : File)
    (key : Option Text) :
    (ended (assemble ⟨catalog', strict⟩ root.flatten key u) >>= Assembled.resolve) =
      (ended (assemble ⟨catalog, strict⟩ root key s) >>= Assembled.resolve) := by
  have hbare (r : Except Failure Assembled) :
      (r >>= Assembled.resolve) = (r.map Assembled.bare >>= Assembled.resolve) := by
    cases r with
    | error e => rfl
    | ok a => exact a.resolve_bare.symm
  rw [hbare, assemble_flatten h, ← hbare]

end

/-- The fragments at hand without their divisions. -/
def Fragments.flatten (s : Fragments) : Fragments :=
  { s with entries := s.entries.map (Except.map File.flatten) }

/-- Any fragments at hand may lose their divisions if nothing else can be read. -/
theorem Fragments.flattens_flatten (s : Fragments) :
    Flattens (Mapping.ofList []).catalog (Mapping.ofList []).catalog s s.flatten := by
  refine Mapping.flattens fun key => ?_
  rw [outcome, outcome, flatten, Table.get?_map]
  cases s.entries.get? key <;> rfl

namespace Divided

/-! Divisions around an include, in its override block, in the fragment and in a nested grammar. -/

def here : Span := ⟨[], 1, 1, 0, 0⟩

/-- `div { x = empty div { y = grammar { div { start = text } } } }` -/
def fragment : File where
  path := "f"
  declarations := []
  components :=
    [.div
      [.define (.named "x") .single (.leaf .empty here) none here,
        .div
          [.define (.named "y") .single
            (.grammar [.div [.define .start .single (.leaf .text here) none here] here] here)
            none here] here] here]
  isPattern := false

/-- `div { start = x, y div { include "f" { div { x = notAllowed } } } }` -/
def root : File where
  path := "r"
  declarations := []
  components :=
    [.div
      [.define .start .single
        (.binary .group (.ref "x" here) (.ref "y" here) here) none here,
        .div
          [.incl "f" none
            [.div [.define (.named "x") .single (.leaf .notAllowed here) none here] here] here]
          here] here]
  isPattern := false

def fetched : Fragments := { entries := ⟨[("f", .ok fragment)]⟩ }

def setup : Setup := ⟨(Mapping.ofList []).catalog, true⟩

/-- The schema of a root. -/
def schemaOf (root : File) (s : Fragments) : Except Failure Schema :=
  ended (assemble setup root none s) >>= Assembled.resolve

/-- How many nodes a schema has. -/
def nodeCount (result : Except Failure Schema) : Option Nat :=
  match result with
  | .ok schema => some schema.nodes.size
  | .error _ => none

theorem resolve_flatten_divided :
    nodeCount (schemaOf root fetched) = some 6 ∧
      schemaOf root.flatten fetched.flatten = schemaOf root fetched :=
  ⟨by decide +kernel, resolve_flatten fetched.flattens_flatten true root none⟩

end Divided

end RelaxCompact
