import RelaxCompact.Text.Numeral
import RelaxCompact.Text.Blank

/-!
Integers written in a given base: blanks around them, a sign, single underscores between digits,
and decimal digits of any script. In base 16 the digits may follow `0x`, and an underscore that.
-/

namespace RelaxCompact.Integer

/-- ASCII white space that may stand around a number; beyond ASCII every blank may. -/
def isPadding (c : Char) : Bool :=
  if c.toNat < 0x80 then c = ' ' || (9 ≤ c.toNat && c.toNat ≤ 13) else isBlank c

/-- The ASCII digit for a decimal digit of another script; any other character itself. -/
def plainDigit (c : Char) : Char :=
  if c.toNat < 0x80 then c else
    match decimalDigit? c with
    | some d => Char.ofNat ('0'.toNat + d)
    | none => c

/-- The value of an ASCII digit or letter. -/
def digitValue? (c : Char) : Option Nat :=
  if c.isDigit then some (c.toNat - '0'.toNat)
  else if c.isLower then some (c.toNat - 'a'.toNat + 10)
  else if c.isUpper then some (c.toNat - 'A'.toNat + 10)
  else none

def digit? (base : Nat) (c : Char) : Option Nat := (digitValue? c).filter (· < base)

/-- Digits with single underscores between them, most significant first; `value` is what was read,
and `afterDigit` says that an underscore may follow. -/
def digits? (base : Nat) : (value : Nat) → (afterDigit : Bool) → List Char → Option Nat
  | value, afterDigit, [] => if afterDigit then some value else none
  | value, afterDigit, c :: cs =>
    if c = '_' then
      if afterDigit then digits? base value false cs else none
    else
      match digit? base c with
      | some d => digits? base (value * base + d) true cs
      | none => none

def trim (cs : List Char) : List Char :=
  ((cs.dropWhile isPadding).reverse.dropWhile isPadding).reverse

/-- The digits after an optional `0x` and underscore in base 16. -/
def magnitude? (base : Nat) (cs : List Char) : Option Nat :=
  match cs with
  | '0' :: x :: '_' :: rest =>
    if base = 16 ∧ (x = 'x' ∨ x = 'X') then digits? base 0 false rest else digits? base 0 false cs
  | '0' :: x :: rest =>
    if base = 16 ∧ (x = 'x' ∨ x = 'X') then digits? base 0 false rest else digits? base 0 false cs
  | _ => digits? base 0 false cs

/-- The integer that a text denotes in a base. -/
def read? (base : Nat) (cs : List Char) : Option Int :=
  match (trim cs).map plainDigit with
  | '+' :: rest => (magnitude? base rest).map Int.ofNat
  | '-' :: rest => (magnitude? base rest).map fun n => -Int.ofNat n
  | rest => (magnitude? base rest).map Int.ofNat

end RelaxCompact.Integer
