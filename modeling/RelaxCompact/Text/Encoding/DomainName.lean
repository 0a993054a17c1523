import RelaxCompact.Text
import RelaxCompact.Text.Composition
import RelaxCompact.Text.Encoding.Basic
import RelaxCompact.Text.LabelCharacter

/-!
Domain names. A label that begins with a mark spells text beyond ASCII by Punycode.
-/

namespace RelaxCompact.Encoding

/-! Punycode: the characters of ASCII in a text, and then instructions where to insert the others. -/

/-- Digits are letters of either case, from zero on, and then numerals. -/
def punycodeDigit? (byte : Nat) : Option Nat :=
  if 0x41 ≤ byte ∧ byte ≤ 0x5A then some (byte - 0x41)
  else if 0x61 ≤ byte ∧ byte ≤ 0x7A then some (byte - 0x61)
  else if 0x30 ≤ byte ∧ byte ≤ 0x39 then some (byte - 0x30 + 26)
  else none

/-- A digit below this ends a number. -/
def punycodeThreshold (place bias : Nat) : Nat :=
  let t := 36 * (place + 1) - bias
  if t < 1 then 1 else if 26 < t then 26 else t

/-- A number with a weight for each digit, and the digits after it. -/
def punycodeNumber? (bias place weight value : Nat) : List Nat → Option (Nat × List Nat)
  | [] => none
  | byte :: rest => do
    let digit ← punycodeDigit? byte
    let threshold := punycodeThreshold place bias
    let value := value + digit * weight
    if digit < threshold then return (value, rest)
    else punycodeNumber? bias (place + 1) (weight * (36 - threshold)) value rest

theorem length_lt_of_punycodeNumber? {bias place weight value : Nat} {bytes : List Nat}
    {n : Nat} {rest : List Nat}
    (h : punycodeNumber? bias place weight value bytes = some (n, rest)) :
    rest.length < bytes.length := by
  induction bytes generalizing place weight value with
  | nil => simp [punycodeNumber?] at h
  | cons byte bytes ih =>
    simp only [punycodeNumber?] at h
    cases hd : punycodeDigit? byte with
    | none => simp [hd] at h
    | some digit =>
      simp only [hd, Option.bind_eq_bind, Option.bind_some] at h
      split at h
      · simp only [Option.pure_def, Option.some.injEq, Prod.mk.injEq] at h
        simp [← h.2]
      · exact Nat.lt_succ_of_lt (ih h)

/-- Divides by 35 until little is left, and counts how often. -/
def punycodeDamp (count : Nat) (delta : Nat) : Nat × Nat :=
  if 455 < delta then punycodeDamp (count + 1) (delta / 35) else (count, delta)
termination_by delta

/-- The bias for the next number. -/
def punycodeBias (delta : Nat) (isFirst : Bool) (length : Nat) : Nat :=
  let delta := if isFirst then delta / 700 else delta / 2
  let (count, delta) := punycodeDamp 0 (delta + delta / length)
  36 * count + 36 * delta / (delta + 38)

/-- Inserts code points as the digits say. `point` is the last one, `place` the place after it. -/
def punycodeInsert? (bias point place : Nat) (isFirst : Bool) (text : Text) (digits : List Nat) :
    Option Text :=
  if digits.isEmpty then some text
  else
    match h : punycodeNumber? bias 0 1 0 digits with
    | none => none
    | some (delta, rest) =>
      have := length_lt_of_punycodeNumber? h
      let length := text.length + 1
      let point := point + (place + delta) / length
      let place := (place + delta) % length
      if hp : point < 0x110000 then
        punycodeInsert? (punycodeBias delta isFirst length) point (place + 1) false
          (text.take place ++ (⟨point, hp⟩ : CodePoint) :: text.drop place) rest
      else none
termination_by digits.length

/-- The text before the last hyphen and the digits after it. -/
def splitPunycode (bytes : List Nat) : List Nat × List Nat :=
  let digits := (bytes.reverse.takeWhile (· ≠ 0x2D)).reverse
  (bytes.take (bytes.length - digits.length - 1), digits)

/-- Bytes from 0x80 on are ill-formed, instructions that cannot be followed are inadmissible. -/
def decodePunycode (bytes : List Nat) : Except DecodeFault Text :=
  if bytes.any (0x80 ≤ ·) then .error .illFormed
  else
    let (basic, digits) := splitPunycode bytes
    match punycodeInsert? 72 0x80 0 true (basic.map CodePoint.ofNat) digits with
    | some text => .ok text
    | none => .error .inadmissible

/-! Labels -/

/-- What a label that spells other text begins with: `xn--`. -/
def labelMark : List Nat := [0x78, 0x6E, 0x2D, 0x2D]

/-- Labels are shorter than this. -/
def labelLimit : Nat := 64

def smallLetter (n : Nat) : Nat := if 0x41 ≤ n ∧ n ≤ 0x5A then n + 0x20 else n

/-- Where one character is written from right to left, none is written from left to right, and the
first and the last one are written from right to left. -/
def keepsDirection (label : List Nat) : Bool :=
  let isRightToLeft := rightToLeftRanges.contains
  !label.any isRightToLeft || (!label.any leftToRightRanges.contains &&
    label.head?.any isRightToLeft && label.getLast?.any isRightToLeft)

/-- A text beyond ASCII that a label can spell: capitals of ASCII aside, it is in the form in which
names are compared. -/
def isLabelText (text : Text) : Bool :=
  let label := text.map fun p => smallLetter p.val
  label.any (0x80 ≤ ·) && label.all (fun n => n < 0x80 || labelRanges.contains n) &&
    Composition.isComposed label && keepsDirection label && !labelMark.isPrefixOf label

/-- The text that a label spells. -/
def decodeLabel (label : List Nat) : Except DecodeFault Text :=
  if labelMark.isPrefixOf label then do
    let text ← decodePunycode (label.drop labelMark.length)
    if isLabelText text ∧ label.length < labelLimit then return text else throw .inadmissible
  else if label.any (0x80 ≤ ·) then .error .illFormed
  else .ok (label.map CodePoint.ofNat)

/-- The parts of a list between full stops. -/
def splitLabels : List Nat → List (List Nat)
  | [] => [[]]
  | byte :: rest =>
    if byte = 0x2E then [] :: splitLabels rest
    else
      match splitLabels rest with
      | label :: labels => (byte :: label) :: labels
      | [] => [[byte]]

/-- The text that a domain name spells, label by label. -/
def decodeDomainName (bytes : List Nat) : Except DecodeFault Text := do
  let labels ← (splitLabels bytes).mapM decodeLabel
  return Text.join "." labels

end RelaxCompact.Encoding
