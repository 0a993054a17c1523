import RelaxCompact.Settings.Toml.Document
import RelaxCompact.Settings.Toml.Scalar

/-!
Settings in TOML: statements on lines of their own, each of which opens a table or adds an entry to
the open one.
-/

namespace RelaxCompact.Toml

open SettingsReader

def fault : SettingsFault := .malformedToml

/-- What a check of the document made of it; nothing is a fault. -/
def required {α : Type} : Option α → SettingsReader α
  | some a => return a
  | none => throw fault

def isBareKey (c : Char) : Bool := c.isAlphanum || c = '-' || c = '_'

/-- One part of a key, bare or quoted. -/
def keyPart? (cs : List Char) : Option (List Char × List Char) :=
  match cs.span isBareKey with
  | ([], _) => lineString? cs
  | found => some found

/-- A key with dots between its parts, up to what follows the blanks after it. -/
def key : (budget : Nat) → SettingsReader Key
  | 0 => throw fault
  | budget + 1 => do
    let part ← expect fault keyPart?
    skipWhile isBlank
    if ← accept '.' then
      skipWhile isBlank
      return Text.ofChars part :: (← key budget)
    return [Text.ofChars part]

/-- Skips blanks, line ends and comments. -/
def skipLayout : (inComment : Bool) → List Char → Option (List Char)
  | _, [] => some []
  | true, c :: rest =>
    if c = '\n' then skipLayout false rest
    else if isIllegal false c then none
    else skipLayout true rest
  | false, c :: rest =>
    if c = '#' then skipLayout true rest
    else if isLayout c then skipLayout false rest
    else some (c :: rest)

def layout : SettingsReader Unit := do
  expect fault fun cs => (skipLayout false cs).map ((), ·)

def scalar? (cs : List Char) : Option (Value × List Char) :=
  match cs with
  | 't' :: 'r' :: 'u' :: 'e' :: rest => some (.boolean true, rest)
  | 'f' :: 'a' :: 'l' :: 's' :: 'e' :: rest => some (.boolean false, rest)
  | _ => (string? cs).map fun (content, rest) => (.text (Text.ofChars content), rest)

/-- A date that the calendar has, or a time. -/
def moment? (cs : List Char) : Option (Option Moment × List Char) :=
  match dateTime? cs with
  | some ((date, moment), rest) => some (if date.isValid then some moment else none, rest)
  | none => (time? cs).map fun (time, rest) => (some (.time time), rest)

def number? (cs : List Char) : Option (Except SettingsFault Value × List Char) :=
  match based? cs with
  | some (n, rest) => some (.ok (.integer n), rest)
  | none =>
    match decimal? cs with
    | some (written, rest) => some (Value.ofWritten written, rest)
    | none => (special? cs).map fun (value, rest) => (.ok value, rest)

/-- A value without members or items. -/
def atom : SettingsReader Value := do
  let cs ← get
  match scalar? cs with
  | some (value, rest) =>
    set rest
    return value
  | none =>
    match moment? cs with
    | some (moment, rest) =>
      set rest
      return .moment (← required moment)
    | none => liftM (← expect fault number?)

mutual

/-- A value at the front. The budget is more than the characters left. -/
def value : (budget : Nat) → SettingsReader Value
  | 0 => throw fault
  | budget + 1 => do
    if ← accept '[' then
      layout
      if ← accept ']' then
        return .list []
      return .list (← items budget)
    if ← accept '\x7b' then
      skipWhile isBlank
      if ← accept '\x7d' then
        return .table []
      return .table (← members budget [] [])
    atom

/-- Items up to the closing bracket, the next one first. -/
def items : (budget : Nat) → SettingsReader (List Value)
  | 0 => throw fault
  | budget + 1 => do
    let item ← value budget
    layout
    if ← accept ']' then
      return [item]
    if ← accept ',' then
      layout
      if ← accept ']' then
        return [item]
      return item :: (← items budget)
    throw fault

/-- Members of an inline table up to the closing brace, the next one first. -/
def members : (budget : Nat) → Entries → Frozen → SettingsReader Entries
  | 0, _, _ => throw fault
  | budget + 1, entries, frozen => do
    let name ← key budget
    if !(← accept '=') then
      throw fault
    skipWhile isBlank
    let item ← value budget
    let entries ← required (addInline name item entries frozen)
    skipWhile isBlank
    if ← accept '\x7d' then
      return entries
    if ← accept ',' then
      skipWhile isBlank
      members budget entries (if isContainer item then name :: frozen else frozen)
    else throw fault

end

/-- The end of a statement: blanks, a comment, and the end of the line or of the text. -/
def lineEnd : SettingsReader Unit := do
  skipWhile isBlank
  if ← accept '#' then
    if ((← get).takeWhile (· ≠ '\n')).any (isIllegal false) then
      throw fault
    skipWhile (· ≠ '\n')
  if !(← accept '\n') ∧ !(← get).isEmpty then
    throw fault

/-- The rest of a header: a key and what closes it. -/
def header (close : List Char) : SettingsReader Key := do
  skipWhile isBlank
  let name ← key ((← get).length + 1)
  expect fault fun cs => if close.isPrefixOf cs then some ((), cs.drop close.length) else none
  return name

/-- One statement, or none if the line has only blanks and a comment. -/
def statement (d : Document) : SettingsReader Document := do
  skipWhile isBlank
  match ← get with
  | [] => return d
  | '[' :: '[' :: rest =>
    set rest
    required (d.settle.openItem (← header [']', ']']))
  | '[' :: rest =>
    set rest
    required (d.settle.openTable (← header [']']))
  | c :: cs =>
    if c = '#' ∨ c = '\n' then return d
    let budget := cs.length + 2
    let name ← key budget
    if !(← accept '=') then
      throw fault
    skipWhile isBlank
    required (d.add name (← value budget))

/-- Statements up to the end of the text. -/
def statements : (budget : Nat) → Document → SettingsReader Document
  | 0, d => return d
  | budget + 1, d => do
    let d ← statement d
    lineEnd
    if (← get).isEmpty then
      return d
    statements budget d

/-- A carriage return before a line feed does not count. -/
def plainLines : List Char → List Char
  | '\r' :: '\n' :: rest => '\n' :: plainLines rest
  | c :: rest => c :: plainLines rest
  | [] => []

/-- The table that a whole text spells. -/
def read (cs : List Char) : Except SettingsFault Value := do
  let cs := plainLines cs
  let (d, _) ← statements (cs.length + 1) {} cs
  return .table d.entries

end RelaxCompact.Toml
