/-!
Binary floating-point numbers of 64 bits, and reading them from decimal digits. A decimal number is
rounded to the nearest binary one, a tie to the even mantissa.
-/

namespace RelaxCompact

/-- A number `± mantissa * 2 ^ exponent`, an infinity, or no number at all. -/
inductive Binary64
  | finite (negative : Bool) (mantissa : Nat) (exponent : Int)
  | infinite (negative : Bool)
  | nan
  deriving DecidableEq, Repr

namespace Binary64

def leastExponent : Int := -1074

def greatestExponent : Int := 971

/-- The fifty-third power of two. Mantissas lie below it, those of normal numbers not below its
half. -/
def mantissaBound : Nat := 0x20000000000000

/-- A power of a base; one with a negative exponent counts as one. -/
def power (base : Nat) (exponent : Int) : Nat := Nat.pow base exponent.toNat

/-- A quotient rounded to the nearest natural number, a tie to the even one. -/
def roundDiv (num den : Nat) : Nat :=
  let q := num / den
  let r := num % den
  if 2 * r > den ∨ (2 * r = den ∧ q % 2 = 1) then q + 1 else q

/-- The mantissa of `num / den` for an exponent, as a quotient. -/
def scaled (num den : Nat) (exponent : Int) : Nat × Nat :=
  (num * power 2 (-exponent), den * power 2 exponent)

/-- The exponent for which the mantissa of `num / den` fits and has as many bits as it can. -/
def exponentFor (num den : Nat) : Int :=
  let guess := max leastExponent ((num.log2 : Int) - den.log2 - 53)
  let (n, d) := scaled num den guess
  if n / d < mantissaBound then guess else guess + 1

/-- The number nearest to `± num / den`. -/
def ofQuotient (negative : Bool) (num den : Nat) : Binary64 :=
  let exponent := exponentFor num den
  let (n, d) := scaled num den exponent
  let mantissa := roundDiv n d
  let (mantissa, exponent) :=
    if mantissa = mantissaBound then (mantissaBound / 2, exponent + 1) else (mantissa, exponent)
  if exponent > greatestExponent then infinite negative else finite negative mantissa exponent

/-- The number nearest to `± digits * 10 ^ exponent`. Beyond the magnitudes tested first the answer
does not depend on the digits. -/
def ofDecimal (negative : Bool) (digits : Nat) (exponent : Int) : Binary64 :=
  let magnitude := exponent + (Nat.toDigits 10 digits).length
  if digits = 0 ∨ magnitude < -330 then finite negative 0 leastExponent
  else if magnitude > 310 then infinite negative
  else ofQuotient negative (digits * power 10 exponent) (power 10 (-exponent))

/-- The integer next to a finite number on the side of zero. -/
def truncate (negative : Bool) (mantissa : Nat) (exponent : Int) : Int :=
  let magnitude := mantissa * power 2 exponent / power 2 (-exponent)
  if negative then -(magnitude : Int) else magnitude

/-- The number is a zero of either sign. -/
def isZero : Binary64 → Bool
  | finite _ mantissa _ => mantissa = 0
  | _ => false

end Binary64

end RelaxCompact
