import RelaxCompact.Text.Charset.KsX1001
import RelaxCompact.Text.Encoding.Basic

/-!
Encodings of Korean text. A syllable of Hangul is an initial consonant, a vowel and maybe a final
consonant, and the syllables stand in the order of these three.
-/

namespace RelaxCompact.Encoding

/-- The letters that a syllable can begin with, in their order. -/
def hangulInitials : List Char := "ㄱㄲㄴㄷㄸㄹㅁㅂㅃㅅㅆㅇㅈㅉㅊㅋㅌㅍㅎ".toList

def hangulVowels : List Char := "ㅏㅐㅑㅒㅓㅔㅕㅖㅗㅘㅙㅚㅛㅜㅝㅞㅟㅠㅡㅢㅣ".toList

/-- The letters that a syllable can end with, in their order. -/
def hangulFinals : List Char := "ㄱㄲㄳㄴㄵㄶㄷㄹㄺㄻㄼㄽㄾㄿㅀㅁㅂㅄㅅㅆㅇㅈㅊㅋㅌㅍㅎ".toList

/-- The letter that stands in for one that a syllable lacks. -/
def hangulFiller : Char := '\u3164'

def firstSyllable : Nat := 0xAC00

def syllableCount : Nat := 11172

/-- A syllable from the places of its letters; the first final consonant has place 1. -/
def syllable (initial vowel final : Nat) : Char :=
  Char.ofNat (firstSyllable + (initial * 21 + vowel) * 28 + final)

/-- Both bytes of a character of KS X 1001 have their highest bit set. -/
def ksX1001? (a b : Nat) : Option Char := Charset.ksX1001.char? (a - 0x80) (b - 0x80)

/-- The letter that two bytes of a spelled syllable name. -/
def spelledLetter? (a b : Nat) : Option Char := do
  guard (a = 0xA4)
  ksX1001? a b

/-- A syllable that is spelled: a filler, then three letters, of which the last may be a filler. -/
def spelledSyllable? : List Nat → Option Char
  | a :: b :: c :: d :: e :: f :: _ => do
    let initial ← hangulInitials.idxOf? (← spelledLetter? a b)
    let vowel ← hangulVowels.idxOf? (← spelledLetter? c d)
    let last ← spelledLetter? e f
    let final ← if last = hangulFiller then some 0 else (hangulFinals.idxOf? last).map (· + 1)
    return syllable initial vowel final
  | _ => none

def eucKr? : Nat → List Nat → Option (List Char × Nat)
  | 0xA4, 0xD4 :: rest => (spelledSyllable? rest).map fun c => ([c], 7)
  | a, rest => pairwise? ksX1001? a rest

/-- The syllables in KS X 1001, in their order. -/
def listedSyllables : List Char :=
  (Charset.ksX1001.rows.toList.drop (0x30 - Charset.ksX1001.firstRow)).take 25
    |>.flatMap String.toList

/-- The syllable that comes after `count` others that are not listed. -/
def unlistedSyllable? (count : Nat) : Option Char :=
  let code := listedSyllables.foldl (fun code c => if c.toNat ≤ code then code + 1 else code)
    (firstSyllable + count)
  if code < firstSyllable + syllableCount then some (Char.ofNat code) else none

/-- The place of two bytes among those for the syllables that KS X 1001 lacks. They fill whole rows
first, and then the cells of the other rows that its own characters leave. -/
def unifiedPlace? (a b : Nat) : Option Nat := do
  let cell ←
    if 0x41 ≤ b ∧ b ≤ 0x5A then some (b - 0x41)
    else if 0x61 ≤ b ∧ b ≤ 0x7A then some (26 + (b - 0x61))
    else if 0x81 ≤ b ∧ b ≤ 0xFE then some (52 + (b - 0x81))
    else none
  if 0x81 ≤ a ∧ a ≤ 0xA0 then some (178 * (a - 0x81) + cell)
  else if 0xA1 ≤ a ∧ a ≤ 0xC6 ∧ cell < 84 then some (178 * 32 + 84 * (a - 0xA1) + cell)
  else none

def unifiedHangul? (a b : Nat) : Option Char :=
  ksX1001? a b <|> (unifiedPlace? a b).bind unlistedSyllable?

/-- The numbers that Johab has for the vowels. -/
def johabVowels : List Nat :=
  [3, 4, 5, 6, 7, 10, 11, 12, 13, 14, 15, 18, 19, 20, 21, 22, 23, 26, 27, 28, 29]

/-- The numbers that Johab has for final consonants. -/
def johabFinals : List Nat :=
  [2, 3, 4, 5, 6, 7, 8, 9, 10, 11, 12, 13, 14, 15, 16, 17, 19, 20, 21, 22, 23, 24, 25, 26, 27, 28,
    29]

/-- Three numbers of five bits each: an initial consonant, a vowel and a final consonant. One of
them alone is a letter, none of them a space. -/
def johabHangul? (initial vowel final : Nat) : Option Char :=
  if initial = 1 then
    if vowel = 2 then
      if final = 1 then some '\u3000' else do hangulFinals[← johabFinals.idxOf? final]?
    else do
      guard (final = 1)
      hangulVowels[← johabVowels.idxOf? vowel]?
  else do
    guard (2 ≤ initial ∧ initial < 21)
    if vowel = 2 then
      guard (final = 1)
      hangulInitials[initial - 2]?
    else
      let v ← johabVowels.idxOf? vowel
      let f ← if final = 1 then some 0 else (johabFinals.idxOf? final).map (· + 1)
      return syllable (initial - 2) v f

/-- Symbols and Hanja of KS X 1001, two of its rows for each first byte. -/
def johabSymbol? (a b : Nat) : Option Char := do
  guard (0xD9 ≤ a ∧ a ≤ 0xF9 ∧ a ≠ 0xDF)
  let place ←
    if 0x31 ≤ b ∧ b ≤ 0x7E then some (b - 0x31)
    else if 0x91 ≤ b ∧ b ≤ 0xFE then some (b - 0x43)
    else none
  guard (a ≠ 0xDA ∨ b < 0xA1 ∨ 0xD3 < b)
  let row := if a < 0xE0 then 2 * (a - 0xD9) else 2 * a - 0x197
  Charset.ksX1001.char? (row + place / 94 + 0x21) (place % 94 + 0x21)

def johab? (a b : Nat) : Option Char :=
  if a < 0xD8 then johabHangul? (a / 4 % 32) (a % 4 * 8 + b / 32) (b % 32)
  else johabSymbol? a b

end RelaxCompact.Encoding
