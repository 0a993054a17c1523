import RelaxCompact.Error
import RelaxCompact.Settings.Value

/-!
Reading settings from characters: steps that take characters from the front of what is left, and
the numbers that both formats share.
-/

namespace RelaxCompact

/-- A step of reading; it goes on with the characters that it leaves. -/
abbrev SettingsReader (α : Type) := StateT (List Char) (Except SettingsFault) α

namespace SettingsReader

def skipWhile (p : Char → Bool) : SettingsReader Unit := modify (·.dropWhile p)

/-- Takes a character if it is the next one. -/
def accept (c : Char) : SettingsReader Bool := do
  match ← get with
  | next :: rest =>
    if next = c then
      set rest
      return true
    else return false
  | [] => return false

/-- Takes what a function finds at the front; it is a fault if there is nothing. -/
def expect {α : Type} (fault : SettingsFault) (find? : List Char → Option (α × List Char)) :
    SettingsReader α := do
  match find? (← get) with
  | some (a, rest) =>
    set rest
    return a
  | none => throw fault

end SettingsReader

namespace Numerals

/-- The number that decimal digits spell. -/
def value (digits : List Char) : Nat :=
  digits.foldl (fun n c => n * 10 + (c.toNat - '0'.toNat)) 0

def hexValue? (c : Char) : Option Nat :=
  if c.isDigit then some (c.toNat - '0'.toNat)
  else if 'a' ≤ c ∧ c ≤ 'f' then some (c.toNat - 'a'.toNat + 10)
  else if 'A' ≤ c ∧ c ≤ 'F' then some (c.toNat - 'A'.toNat + 10)
  else none

/-- The number that hexadecimal digits spell. -/
def hex? (digits : List Char) : Option Nat :=
  digits.foldlM (fun n c => (hexValue? c).map (n * 16 + ·)) 0

/-- The digits after a point. -/
def afterPoint : List Char → List Char × List Char
  | '.' :: d :: rest =>
    if d.isDigit then (d :: rest).span Char.isDigit else ([], '.' :: d :: rest)
  | cs => ([], cs)

end Numerals

namespace Value

/-- The integer with a sign and decimal digits. -/
def ofDigits (negative : Bool) (digits : List Char) : Except SettingsFault Value :=
  if digits.length > longestInteger then .error .overlongInteger
  else .ok (.integer (if negative then -Numerals.value digits else Numerals.value digits))

/-- A number as it is written: what follows the integer part may be missing. -/
structure Written where
  negative : Bool
  whole : List Char
  fraction : List Char := []
  exponent : Option Int := none

/-- A number with a fraction or an exponent is a float, any other is an integer. -/
def ofWritten (w : Written) : Except SettingsFault Value :=
  if w.fraction.isEmpty ∧ w.exponent.isNone then ofDigits w.negative w.whole
  else
    let digits := Numerals.value (w.whole ++ w.fraction)
    .ok (.real (.ofDecimal w.negative digits (w.exponent.getD 0 - w.fraction.length)))

end Value

end RelaxCompact
