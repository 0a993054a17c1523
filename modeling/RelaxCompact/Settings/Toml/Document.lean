import RelaxCompact.Settings.Value
import RelaxCompact.Table

/-!
A TOML document under construction: the tables that its statements have filled so far, and which
keys later statements may no longer use.
-/

namespace RelaxCompact.Toml

/-- A key: the parts between dots. -/
abbrev Key := List Text

/-- The entries of a table in the order in which their keys came. -/
abbrev Entries := List (Text × Value)

/-- Changes the table at a key, which is made if it is missing. A list stands for its last table
where that is allowed; any other value on the way is in the way. -/
def within (throughLists : Bool) (change : Entries → Option Entries) :
    Key → Entries → Option Entries
  | [], entries => change entries
  | part :: key, entries => do
    match Table.lookup part entries with
    | none => return Table.update part (.table (← within throughLists change key [])) entries
    | some (.table inner) =>
      return Table.update part (.table (← within throughLists change key inner)) entries
    | some (.list items) =>
      match items.getLast? with
      | some (.table inner) =>
        if throughLists then
          let changed ← within throughLists change key inner
          return Table.update part (.list (items.dropLast ++ [.table changed])) entries
        else none
      | _ => none
    | some _ => none

/-- Adds an entry; its key must be new. -/
def addEntry (part : Text) (value : Value) (entries : Entries) : Option Entries :=
  if (Table.lookup part entries).isSome then none else some (Table.update part value entries)

/-- Adds an empty table at the end of a list, which is made if it is missing. -/
def addTable (part : Text) (entries : Entries) : Option Entries :=
  match Table.lookup part entries with
  | none => some (Table.update part (.list [.table []]) entries)
  | some (.list items) => some (Table.update part (.list (items ++ [.table []])) entries)
  | some _ => none

/-- All but the last part of a key, and that part. -/
def splitKey (key : Key) : Key × Text := (key.dropLast, key.getLast?.getD [])

/-- A value with members or items cannot be added to once it is written. -/
def isContainer : Value → Bool
  | .table _ | .list _ => true
  | _ => false

/-- Keys whose values, with all below them, are written once and for all. -/
abbrev Frozen := List Key

def Frozen.has (frozen : Frozen) (key : Key) : Bool := frozen.any (·.isPrefixOf key)

/-- Adds an entry to an inline table. -/
def addInline (key : Key) (value : Value) (entries : Entries) (frozen : Frozen) : Option Entries :=
  if frozen.has key then none
  else
    let (path, part) := splitKey key
    within false (addEntry part value) path entries

/-- The tables so far, the key of the open one, and what later statements may not do. -/
structure Document where
  entries : Entries := []
  header : Key := []
  frozen : Frozen := []
  /-- Keys whose tables are opened; no table is opened twice. -/
  opened : List Key := []
  /-- Keys of tables that dotted keys went through; from the next header on they count as opened. -/
  passed : List Key := []

namespace Document

/-- What dotted keys went through counts as opened. -/
def settle (d : Document) : Document := { d with opened := d.passed ++ d.opened, passed := [] }

/-- Opens the table at a key. -/
def openTable (d : Document) (key : Key) : Option Document := do
  if d.opened.contains key ∨ d.frozen.has key then none
  let entries ← within true some key d.entries
  return { d with entries, header := key, opened := key :: d.opened }

/-- Opens a new table at the end of the list at a key. What was said of the one before does not
count for it. -/
def openItem (d : Document) (key : Key) : Option Document := do
  if d.frozen.has key then none
  let (path, part) := splitKey key
  let entries ← within true (addTable part) path d.entries
  let others := d.opened.filter fun other => !key.isPrefixOf other
  let frozen := d.frozen.filter fun other => !key.isPrefixOf other
  return { d with entries, header := key, opened := key :: others, frozen }

/-- Adds an entry to the open table. The tables that a dotted key goes through must not be opened
ones. -/
def add (d : Document) (key : Key) (value : Value) : Option Document := do
  let (path, part) := splitKey key
  let full := d.header ++ path
  let through := (List.range path.length).map fun i => d.header ++ path.take (i + 1)
  if through.any d.opened.contains ∨ d.frozen.has full then none
  let entries ← within true (addEntry part value) full d.entries
  let frozen := if isContainer value then (d.header ++ key) :: d.frozen else d.frozen
  return { d with entries, frozen, passed := through ++ d.passed }

end Document

end RelaxCompact.Toml
