import RelaxCompact.Text
import RelaxCompact.Text.CharacterName

/-!
Text in which a backslash and what follows it spell a code point. Other bytes are the code points
of the same number.
-/

namespace RelaxCompact.Encoding

def hexDigit? (byte : Nat) : Option Nat :=
  if 0x30 ≤ byte ∧ byte ≤ 0x39 then some (byte - 0x30)
  else if 0x41 ≤ byte ∧ byte ≤ 0x46 then some (byte - 0x41 + 10)
  else if 0x61 ≤ byte ∧ byte ≤ 0x66 then some (byte - 0x61 + 10)
  else none

/-- The code point whose number in base 16 has the next `count` bytes as digits. -/
def hexPoint? (count : Nat) (bytes : List Nat) : Option CodePoint := do
  let digits := bytes.take count
  guard (digits.length = count)
  let value := (← digits.mapM hexDigit?).foldl (fun value digit => 16 * value + digit) 0
  if h : value < 0x110000 then return ⟨value, h⟩ else none

/-- A backslash before `u` is followed by four digits, before `U` by eight. It is itself before any
other byte, which is not looked at again. -/
def decodeRawEscaped? : List Nat → Option Text
  | [] => some []
  | 0x5C :: 0x75 :: rest => do
    return (← hexPoint? 4 rest) :: (← decodeRawEscaped? (rest.drop 4))
  | 0x5C :: 0x55 :: rest => do
    return (← hexPoint? 8 rest) :: (← decodeRawEscaped? (rest.drop 8))
  | 0x5C :: byte :: rest => do
    return CodePoint.ofChar '\\' :: CodePoint.ofNat byte :: (← decodeRawEscaped? rest)
  | byte :: rest => do return CodePoint.ofNat byte :: (← decodeRawEscaped? rest)
termination_by bytes => bytes.length

/-- The bytes before which a backslash is not itself, and the code points that it spells there:
their own, or those of control characters. -/
def escapes : List (Nat × Nat) :=
  [(0x5C, 0x5C), (0x27, 0x27), (0x22, 0x22), (0x62, 0x08), (0x74, 0x09), (0x6E, 0x0A), (0x66, 0x0C),
    (0x72, 0x0D), (0x76, 0x0B), (0x61, 0x07)]

/-- What a backslash and a byte after it spell. -/
def escapedPoints (byte : Nat) : Text :=
  match escapes.lookup byte with
  | some n => [CodePoint.ofNat n]
  | none => [CodePoint.ofChar '\\', CodePoint.ofNat byte]

def isOctal (byte : Nat) : Bool := 0x30 ≤ byte && byte ≤ 0x37

/-- A backslash at the end of a line joins it with the next one. Up to three octal digits, two
digits in base 16 after `x`, four after `u`, eight after `U` or the name of a character after `N`
stand for a code point. Before another byte the backslash is itself. -/
def decodeEscaped? : List Nat → Option Text
  | [] => some []
  | [0x5C] => none
  | 0x5C :: 0x0A :: rest => decodeEscaped? rest
  | 0x5C :: 0x78 :: rest => do
    return (← hexPoint? 2 rest) :: (← decodeEscaped? (rest.drop 2))
  | 0x5C :: 0x75 :: rest => do
    return (← hexPoint? 4 rest) :: (← decodeEscaped? (rest.drop 4))
  | 0x5C :: 0x55 :: rest => do
    return (← hexPoint? 8 rest) :: (← decodeEscaped? (rest.drop 8))
  | 0x5C :: 0x4E :: 0x7B :: rest => do
    let name := rest.takeWhile (· ≠ 0x7D)
    let n ← if name.length < rest.length then CharacterName.find? (name.map Char.ofNat) else none
    return CodePoint.ofNat n :: (← decodeEscaped? (rest.drop (name.length + 1)))
  | 0x5C :: 0x4E :: _ => none
  | 0x5C :: byte :: rest =>
    if isOctal byte then do
      let digits := byte :: (rest.take 2).takeWhile isOctal
      let value := digits.foldl (fun value digit => 8 * value + (digit - 0x30)) 0
      return CodePoint.ofNat value :: (← decodeEscaped? (rest.drop (digits.length - 1)))
    else do
      return escapedPoints byte ++ (← decodeEscaped? rest)
  | byte :: rest => do return CodePoint.ofNat byte :: (← decodeEscaped? rest)
termination_by bytes => bytes.length

end RelaxCompact.Encoding
