import RelaxCompact.Text.Encoding.Basic
import RelaxCompact.Text.Encoding.Chinese
import RelaxCompact.Text.Encoding.Japanese
import RelaxCompact.Text.Encoding.Korean

/-!
Encodings by ISO 2022. Escape sequences say which set of characters the bytes after them number,
and two control characters shift between two such sets.
-/

namespace RelaxCompact.Encoding

/-- The sets that an escape sequence can call. -/
inductive GraphicSet
  | ascii | jisRoman | jisKatakana | jisX0208 | earlyJisX0208 | jisX0212
  | jisX0213First (edition : Edition)
  | jisX0213Second
  | ksX1001 | gb2312 | latinRight | greekRight
  deriving DecidableEq, Repr

namespace GraphicSet

/-- The byte that ends the escape sequences for a set. -/
def letter : GraphicSet → Nat
  | ascii | jisX0208 => 0x42
  | jisRoman => 0x4A
  | jisKatakana => 0x49
  | earlyJisX0208 => 0x40
  | jisX0212 => 0x44
  | jisX0213First .first => 0x4F
  | jisX0213First .second => 0x51
  | jisX0213Second => 0x50
  | ksX1001 => 0x43
  | gb2312 | latinRight => 0x41
  | greekRight => 0x46

/-- A character of the set takes two bytes. -/
def isWide : GraphicSet → Bool
  | ascii | jisRoman | jisKatakana | latinRight | greekRight => false
  | _ => true

/-- The characters that bytes start with, and how many bytes after the first one they take. -/
def read? : GraphicSet → Nat → List Nat → Option (List Char × Nat)
  | ascii, a, _ => (Encoding.ascii? a).map fun c => ([c], 0)
  | jisRoman, a, _ => (jisRoman? a).map fun c => ([c], 0)
  | jisKatakana, a, _ => (halfKatakana? (a + 0x80)).map fun c => ([c], 0)
  | jisX0208, a, b :: _ | earlyJisX0208, a, b :: _ =>
    (Charset.jisX0208.char? a b).map fun c => ([c], 1)
  | jisX0212, a, b :: _ => (Charset.jisX0212.char? a b).map fun c => ([c], 1)
  | jisX0213First edition, a, b :: _ => (jisX0213First? edition a b).map fun cs => (cs, 1)
  | jisX0213Second, a, b :: _ => (jisX0213Second? .second a b).map fun c => ([c], 1)
  | ksX1001, a, b :: _ => (Charset.ksX1001.char? a b).map fun c => ([c], 1)
  | gb2312, a, b :: _ => (Charset.gb2312.char? a b).map fun c => ([c], 1)
  | _, _, _ => none

/-- The Greek letters and signs of the right half of ISO 8859-7 in its first edition. -/
def greek? (byte : Nat) : Option Char :=
  if byte = 0xA1 then some '‘'
  else if byte = 0xA2 then some '’'
  else if byte = 0xAF then some '―'
  else if [0xA4, 0xA5, 0xAA, 0xAE, 0xD2, 0xFF].contains byte then none
  else if byte ≤ 0xB3 ∨ [0xB7, 0xBB, 0xBD].contains byte then some (Char.ofNat byte)
  else if 0xB4 ≤ byte then some (Char.ofNat (0x2D0 + byte))
  else none

/-- The character of the right half of a set that a byte stands for. -/
def right? : GraphicSet → Nat → Except DecodeFault Char
  | ascii, b => ((Encoding.ascii? b).map .ok).getD (.error .illFormed)
  | latinRight, b => if b < 0x80 then .ok (Char.ofNat (b + 0x80)) else .error .illFormed
  | greekRight, b =>
    if b < 0x80 then ((greek? (b + 0x80)).map .ok).getD (.error .illFormed)
    else .ok (Char.ofNat (b - 0x80))
  | _, _ => .error .noRightHalf

end GraphicSet

/-- Which sets can be called beside ASCII, and by what means. -/
structure Iso2022 where
  sets : List GraphicSet
  hasShifts : Bool := false
  hasSingleShift : Bool := false
  hasRevisions : Bool := true

namespace Iso2022

def japanese : Iso2022 := ⟨[.jisX0208, .jisRoman, .earlyJisX0208], false, false, true⟩

def japanese1 : Iso2022 := { japanese with sets := .jisX0212 :: japanese.sets }

def japanese2 : Iso2022 where
  sets := [.ksX1001, .gb2312, .latinRight, .greekRight] ++ japanese1.sets
  hasSingleShift := true

def japanese3 : Iso2022 := ⟨[.jisX0208, .jisX0213First .first, .jisX0213Second], false, false, true⟩

def japanese2004 : Iso2022 :=
  ⟨[.jisX0208, .jisX0213First .second, .jisX0213Second], false, false, true⟩

def japaneseExtended : Iso2022 := { japanese1 with sets := .jisKatakana :: japanese1.sets }

def korean : Iso2022 := ⟨[.ksX1001], true, false, false⟩

/-- The sets that have been called. After an escape sequence of another kind has begun, bytes pass
as they are. -/
structure State where
  left : GraphicSet := .ascii
  right : GraphicSet := .ascii
  single : GraphicSet := .ascii
  shifted : Bool := false
  passing : Bool := false
  deriving DecidableEq, Repr

/-- The set that an escape sequence ending in `letter` calls. -/
def called? (v : Iso2022) (wide : Bool) (letter : Nat) : Option GraphicSet :=
  (GraphicSet.ascii :: v.sets).find? fun set => set.isWide = wide ∧ set.letter = letter

/-- A byte that ends an escape sequence. -/
def isLast (byte : Nat) : Bool := 0x40 ≤ byte && byte ≤ 0x5A

/-- A byte after an escape character that calls a set: one of `( ) $ . &`. -/
def callsSet (byte : Nat) : Bool := [0x28, 0x29, 0x24, 0x2E, 0x26].contains byte

/-- The sets after an escape sequence, which is given without the escape character, and the length
of that. A sequence that names a revision may come before the one that it is about. -/
def call? (v : Iso2022) (s : State) : List Nat → Option (State × Nat)
  | 0x24 :: 0x28 :: last :: rest =>
    if isLast last then (v.called? true last).map fun set => ({ s with left := set }, 3)
    else revised (0x24 :: 0x28 :: last :: rest)
  | 0x24 :: 0x29 :: last :: rest =>
    if isLast last then (v.called? true last).map fun set => ({ s with right := set }, 3)
    else revised (0x24 :: 0x29 :: last :: rest)
  | kind :: last :: rest =>
    if isLast last ∧ ¬(v.hasRevisions ∧ kind = 0x26 ∧ last = 0x40) then
      if kind = 0x24 then (v.called? true last).map fun set => ({ s with left := set }, 2)
      else if kind = 0x28 then (v.called? false last).map fun set => ({ s with left := set }, 2)
      else if kind = 0x29 then (v.called? false last).map fun set => ({ s with right := set }, 2)
      else if kind = 0x2E ∧ v.hasSingleShift then
        (v.called? false last).map fun set => ({ s with single := set }, 2)
      else none
    else revised (kind :: last :: rest)
  | _ => none
where
  revised : List Nat → Option (State × Nat)
    | _ :: _ :: 0x1B :: 0x24 :: 0x42 :: _ =>
      if v.hasRevisions then (v.called? true 0x42).map fun set => ({ s with left := set }, 5)
      else none
    | _ => none

/-- The characters that bytes spell from a state on. -/
def decodeFrom (v : Iso2022) (s : State) : List Nat → Except DecodeFault (List Char)
  | [] => .ok []
  | byte :: rest =>
    if s.passing then do
      return Char.ofNat byte :: (← v.decodeFrom { s with passing := !isLast byte } rest)
    else if byte = 0x1B then
      match rest with
      | [] => .error .illFormed
      | next :: more =>
        if callsSet next then
          match v.call? s (next :: more) with
          | some (s, count) => v.decodeFrom s ((next :: more).drop count)
          | none => .error .illFormed
        else if v.hasSingleShift ∧ next = 0x4E then
          match more with
          | [] => .error .illFormed
          | b :: more => do
            let c ← s.single.right? b
            return c :: (← v.decodeFrom s more)
        else do
          return '\x1b' :: (← v.decodeFrom { s with passing := true } (next :: more))
    else if v.hasShifts ∧ byte = 0x0F then v.decodeFrom { s with shifted := false } rest
    else if v.hasShifts ∧ byte = 0x0E then v.decodeFrom { s with shifted := true } rest
    else if byte = 0x0A then do
      return '\n' :: (← v.decodeFrom { s with shifted := false } rest)
    else if byte < 0x20 then do
      return Char.ofNat byte :: (← v.decodeFrom s rest)
    else
      match (if s.shifted then s.right else s.left).read? byte rest with
      | some (first, count) => do return first ++ (← v.decodeFrom s (rest.drop count))
      | none => .error .illFormed
termination_by bytes => bytes.length

end Iso2022

end RelaxCompact.Encoding
