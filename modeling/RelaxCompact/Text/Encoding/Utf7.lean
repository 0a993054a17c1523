import RelaxCompact.Text

/-!
UTF-7: ASCII, with other text in units of 16 bits that are spelled by six bits a character.
-/

namespace RelaxCompact.Encoding

/-- The six bits that a character of a shifted run stands for. -/
def sixBits? (byte : Nat) : Option Nat :=
  if 0x41 ≤ byte ∧ byte ≤ 0x5A then some (byte - 0x41)
  else if 0x61 ≤ byte ∧ byte ≤ 0x7A then some (byte - 0x61 + 26)
  else if 0x30 ≤ byte ∧ byte ≤ 0x39 then some (byte - 0x30 + 52)
  else if byte = 0x2B then some 62
  else if byte = 0x2F then some 63
  else none

/-- Units of 16 bits from pieces of six bits, and the bits that are left with their number. -/
def unitsOf (value count : Nat) : List Nat → List Nat × Nat × Nat
  | [] => ([], value, count)
  | piece :: rest =>
    let value := value * 0x40 + piece
    let count := count + 6
    if count < 16 then unitsOf value count rest
    else
      let weight := Nat.pow 2 (count - 16)
      let (units, left) := unitsOf (value % weight) (count - 16) rest
      (value / weight :: units, left)

def isHighSurrogate (unit : Nat) : Bool := 0xD800 ≤ unit && unit < 0xDC00

def isLowSurrogate (unit : Nat) : Bool := 0xDC00 ≤ unit && unit < 0xE000

/-- The code points of units; a high surrogate and a low one after it are one code point. -/
def pointsOf : List Nat → Text
  | [] => []
  | [a] => [CodePoint.ofNat a]
  | a :: b :: rest =>
    if isHighSurrogate a && isLowSurrogate b then
      CodePoint.ofNat (0x10000 + (a - 0xD800) * 0x400 + (b - 0xDC00)) :: pointsOf rest
    else CodePoint.ofNat a :: pointsOf (b :: rest)

/-- The code points of a shifted run. Fewer than six bits may be left, and only if they are zero;
a high surrogate may be the last unit only if other text follows. -/
def shiftedRun? (isEnd : Bool) (pieces : List Nat) : Option Text :=
  let (units, value, count) := unitsOf 0 0 pieces
  if count < 6 ∧ value = 0 ∧ ¬(isEnd ∧ units.getLast?.any isHighSurrogate) then
    some (pointsOf units)
  else none

/-- A plus sign opens a shifted run, which a character that cannot be part of it closes. -/
def decodeUtf7? : List Nat → Option Text
  | [] => some []
  | 0x2B :: 0x2D :: rest => do return CodePoint.ofChar '+' :: (← decodeUtf7? rest)
  | 0x2B :: rest => do
    let run := rest.takeWhile fun byte => (sixBits? byte).isSome
    let after := rest.drop run.length
    let points ←
      if run.isEmpty && !rest.isEmpty then none
      else shiftedRun? after.isEmpty (run.filterMap sixBits?)
    let after := if after.head? = some 0x2D then after.drop 1 else after
    return points ++ (← decodeUtf7? after)
  | byte :: rest =>
    if byte < 0x80 then do return CodePoint.ofNat byte :: (← decodeUtf7? rest)
    else none
termination_by bytes => bytes.length
decreasing_by
  all_goals (try simp only [List.length_cons])
  all_goals grind

end RelaxCompact.Encoding
