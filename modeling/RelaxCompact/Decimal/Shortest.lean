import RelaxCompact.Decimal.Binary64
import RelaxCompact.Text

/-!
Decimal text of binary numbers: the fewest digits that read back as the same number, and of those
the nearest to it.
-/

namespace RelaxCompact

namespace Decimal

open Binary64 (power)

/-- Decimal digits with the point before the first of them, times a power of ten. -/
structure Digits where
  digits : List Char
  point : Int
  deriving DecidableEq, Repr

/-- How many decimal digits a natural number has. -/
def width (n : Nat) : Nat := (Nat.toDigits 10 n).length

/-- The least power of ten, as an exponent, above `num / den`, which is positive. -/
def pointOf (num den : Nat) : Int :=
  if den ≤ num then width (num / den) else 1 - (width ((den - 1) / num) : Int)

/-- The real numbers that round to one binary number, in quarters of its last place: the ends count
if the mantissa is even. -/
structure Interval where
  low : Nat
  middle : Nat
  high : Nat
  closed : Bool

/-- Below the least mantissa of an exponent the binary numbers lie closer together. -/
def intervalOf (mantissa : Nat) (exponent : Int) : Interval where
  low :=
    if mantissa = Binary64.mantissaBound / 2 ∧ exponent > Binary64.leastExponent then
      4 * mantissa - 1
    else 4 * mantissa - 2
  middle := 4 * mantissa
  high := 4 * mantissa + 2
  closed := mantissa % 2 = 0

/-- An interval in units of a fraction: a number of the unit is a quarter times `num / den`. -/
structure Ruler where
  interval : Interval
  num : Nat
  den : Nat

def rulerOf (mantissa : Nat) (exponent : Int) : Ruler :=
  ⟨intervalOf mantissa exponent, power 2 (exponent - 2), power 2 (2 - exponent)⟩

/-- `n` steps of `10 ^ step`, and the quarters of an interval, in one unit. -/
def steps (r : Ruler) (step : Int) (n : Nat) : Nat := n * power 10 step * r.den

def quarters (r : Ruler) (step : Int) (n : Nat) : Nat := n * r.num * power 10 (-step)

/-- A point of a decimal grid reads back as the number. -/
def readsBack (r : Ruler) (step : Int) (n : Nat) : Bool :=
  let x := steps r step n
  let low := quarters r step r.interval.low
  let high := quarters r step r.interval.high
  (low < x && x < high) || (r.interval.closed && (x = low || x = high))

/-- The point of a decimal grid that reads back: of the two next to the number the nearer one, and
halfway between them the even one. -/
def onGrid? (r : Ruler) (step : Int) : Option Nat :=
  let value := quarters r step r.interval.middle
  let unit := steps r step 1
  let below := value / unit
  let distance := 2 * (value % unit)
  let fromBelow := distance < unit ∨ (distance = unit ∧ below % 2 = 0)
  let nearest := if fromBelow then [below, below + 1] else [below + 1, below]
  nearest.find? (readsBack r step)

/-- Tries the grids of `tried + 1`, `tried + 2`, … digits. -/
def search (r : Ruler) (point : Int) : (tried fuel : Nat) → Digits
  | tried, 0 => ⟨Nat.toDigits 10 (quarters r (point - tried) r.interval.middle), point⟩
  | tried, fuel + 1 =>
    let step := point - (tried + 1 : Nat)
    match onGrid? r step with
    | some n =>
      let digits := Nat.toDigits 10 n
      ⟨(digits.reverse.dropWhile (· = '0')).reverse, step + digits.length⟩
    | none => search r point (tried + 1) fuel

/-- The shortest digits of a positive number; seventeen always suffice. -/
def shortest (mantissa : Nat) (exponent : Int) : Digits :=
  search (rulerOf mantissa exponent)
    (pointOf (mantissa * power 2 exponent) (power 2 (-exponent))) 0 17

/-- How digits become text. -/
structure Layout where
  /-- Digits whose point lies between these bounds are written without an exponent. -/
  leastPoint : Int
  greatestPoint : Int
  exponentMark : Char
  exponentWidth : Nat

def zeros (n : Nat) : List Char := List.replicate n '0'

/-- Digits without an exponent, with at least one digit on each side of the point. -/
def positional (d : Digits) : List Char :=
  if d.point ≤ 0 then ['0', '.'] ++ zeros (-d.point).toNat ++ d.digits
  else
    let whole := d.digits.take d.point.toNat
    let fraction := d.digits.drop d.point.toNat
    whole ++ zeros (d.point.toNat - whole.length) ++ ['.'] ++
      if fraction.isEmpty then ['0'] else fraction

/-- Digits with an exponent; a point follows the first digit if there are more. -/
def scientific (l : Layout) (d : Digits) : List Char :=
  let exponent := d.point - 1
  let size := Nat.toDigits 10 exponent.natAbs
  let mantissa := match d.digits with
    | first :: second :: rest => first :: '.' :: second :: rest
    | digits => digits
  mantissa ++ [l.exponentMark, if exponent < 0 then '-' else '+'] ++
    zeros (l.exponentWidth - size.length) ++ size

def Layout.write (l : Layout) (d : Digits) : List Char :=
  if l.leastPoint ≤ d.point ∧ d.point ≤ l.greatestPoint then positional d else scientific l d

end Decimal

/-- The text of a number in a layout. -/
def Binary64.text (l : Decimal.Layout) : Binary64 → Text
  | nan => "nan"
  | infinite negative => if negative then "-inf" else "inf"
  | finite negative mantissa exponent =>
    let magnitude :=
      if mantissa = 0 then ['0', '.', '0'] else l.write (Decimal.shortest mantissa exponent)
    Text.ofChars (if negative then '-' :: magnitude else magnitude)

end RelaxCompact
