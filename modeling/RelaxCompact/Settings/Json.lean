import RelaxCompact.Settings.Reader
import RelaxCompact.Table

/-!
Settings in JSON. Beyond the standard, `NaN` and the infinities are numbers and a surrogate escape
may stand alone. Of equal keys the last value counts, at the place of the first.
-/

namespace RelaxCompact.Json

open SettingsReader

def isBlank (c : Char) : Bool := c = ' ' || c = '\t' || c = '\n' || c = '\r'

/-- A high surrogate and a low one after it are one code point. -/
def joinSurrogate (p : CodePoint) : Text → Text
  | [] => [p]
  | q :: rest =>
    if 0xD800 ≤ p.val ∧ p.val < 0xDC00 ∧ 0xDC00 ≤ q.val ∧ q.val < 0xE000 then
      CodePoint.ofNat (0x10000 + (p.val - 0xD800) * 0x400 + (q.val - 0xDC00)) :: rest
    else p :: q :: rest

/-- The character for the one after a backslash. -/
def escaped? (c : Char) : Option Char :=
  match c with
  | '\"' | '\\' | '/' => some c
  | 'b' => some '\x08'
  | 'f' => some '\x0c'
  | 'n' => some '\n'
  | 'r' => some '\r'
  | 't' => some '\t'
  | _ => none

/-- A string after its opening quote. Control characters do not stand in it. -/
def string? : List Char → Option (Text × List Char)
  | [] => none
  | '\"' :: rest => some ([], rest)
  | '\\' :: 'u' :: a :: b :: c :: d :: rest => do
    let n ← Numerals.hex? [a, b, c, d]
    let (tail, rest) ← string? rest
    return (joinSurrogate (CodePoint.ofNat n) tail, rest)
  | '\\' :: c :: rest => do
    let c ← escaped? c
    let (tail, rest) ← string? rest
    return (.ofChar c :: tail, rest)
  | c :: rest =>
    if c.toNat < 0x20 then none
    else (string? rest).map fun (tail, rest) => (.ofChar c :: tail, rest)

/-- An exponent's sign and digits. -/
def signed? (cs : List Char) : Option (Int × List Char) :=
  let (negative, unsigned) := match cs with
    | '+' :: rest => (false, rest)
    | '-' :: rest => (true, rest)
    | _ => (false, cs)
  match unsigned.span Char.isDigit with
  | ([], _) => none
  | (digits, rest) =>
    let n : Int := Numerals.value digits
    some (if negative then -n else n, rest)

def exponent : List Char → Option Int × List Char
  | c :: rest =>
    if c = 'e' ∨ c = 'E' then
      match signed? rest with
      | some (n, rest) => (some n, rest)
      | none => (none, c :: rest)
    else (none, c :: rest)
  | [] => (none, [])

/-- The digits before the point: one zero, or digits that start with none. -/
def whole? : List Char → Option (List Char × List Char)
  | '0' :: rest => some (['0'], rest)
  | cs =>
    match cs.span Char.isDigit with
    | ([], _) => none
    | found => some found

def number? (negative : Bool) (cs : List Char) : Option (Value.Written × List Char) := do
  let (whole, rest) ← whole? cs
  let (fraction, rest) := Numerals.afterPoint rest
  let (exponent, rest) := exponent rest
  return (⟨negative, whole, fraction, exponent⟩, rest)

def number (negative : Bool) : SettingsReader Value := do
  liftM (Value.ofWritten (← expect .malformedJson (number? negative)))

/-- Goes on after a value. -/
def done (value : Value) (rest : List Char) : SettingsReader Value := do
  set rest
  return value

mutual

/-- A value at the front. The budget is more than the characters left. -/
def value : (budget : Nat) → SettingsReader Value
  | 0 => throw .malformedJson
  | budget + 1 => do
    match ← get with
    | '\"' :: rest =>
      set rest
      return .text (← expect .malformedJson string?)
    | '\x7b' :: rest =>
      set rest
      skipWhile isBlank
      if ← accept '\x7d' then
        return .table []
      return .table (← members budget {}).entries
    | '[' :: rest =>
      set rest
      skipWhile isBlank
      if ← accept ']' then
        return .list []
      return .list (← items budget)
    | 'n' :: 'u' :: 'l' :: 'l' :: rest => done .null rest
    | 't' :: 'r' :: 'u' :: 'e' :: rest => done (.boolean true) rest
    | 'f' :: 'a' :: 'l' :: 's' :: 'e' :: rest => done (.boolean false) rest
    | 'N' :: 'a' :: 'N' :: rest => done (.real .nan) rest
    | 'I' :: 'n' :: 'f' :: 'i' :: 'n' :: 'i' :: 't' :: 'y' :: rest =>
      done (.real (.infinite false)) rest
    | '-' :: 'I' :: 'n' :: 'f' :: 'i' :: 'n' :: 'i' :: 't' :: 'y' :: rest =>
      done (.real (.infinite true)) rest
    | '-' :: rest =>
      set rest
      number true
    | _ => number false

/-- Items up to the closing bracket, the next one first. -/
def items : (budget : Nat) → SettingsReader (List Value)
  | 0 => throw .malformedJson
  | budget + 1 => do
    let item ← value budget
    skipWhile isBlank
    if ← accept ']' then
      return [item]
    if ← accept ',' then
      skipWhile isBlank
      return item :: (← items budget)
    throw .malformedJson

/-- Members up to the closing brace, the key of the next one first. -/
def members : (budget : Nat) → Table Text Value → SettingsReader (Table Text Value)
  | 0, _ => throw .malformedJson
  | budget + 1, known => do
    if !(← accept '\"') then
      throw .malformedJson
    let key ← expect .malformedJson string?
    skipWhile isBlank
    if !(← accept ':') then
      throw .malformedJson
    skipWhile isBlank
    let item ← value budget
    let known := known.insert key item
    skipWhile isBlank
    if ← accept '\x7d' then
      return known
    if ← accept ',' then
      skipWhile isBlank
      members budget known
    else throw .malformedJson

end

/-- The value that a whole text spells. -/
def read (cs : List Char) : Except SettingsFault Value := do
  let (value, rest) ← value (cs.length + 1) (cs.dropWhile isBlank)
  if (rest.dropWhile isBlank).isEmpty then
    return value
  throw .malformedJson

end RelaxCompact.Json
