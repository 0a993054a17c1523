import RelaxCompact.Text.CharacterName.Alias
import RelaxCompact.Text.CharacterName.From0000
import RelaxCompact.Text.CharacterName.From1000
import RelaxCompact.Text.CharacterName.From2190
import RelaxCompact.Text.CharacterName.From2C00
import RelaxCompact.Text.CharacterName.From10000
import RelaxCompact.Text.CharacterName.From12000
import RelaxCompact.Text.CharacterName.From1D000
import RelaxCompact.Text.CharacterName.From1F300

/-!
The characters by their names in Unicode. Case does not matter, except in the names of ideographs
and of Hangul syllables, which follow from their numbers.
-/

namespace RelaxCompact.CharacterName

def tables : List (List Block) :=
  [from0000, from0590, from0900, from1000, from1D00, from2190, from2500, from2C00, fromA000,
    fromAC00, from10000, from11000, from12000, from16F00, from1D000, from1E000, from1F300]

/-- The number of a character whose name is listed. -/
def listed? (name : String) : Option Nat :=
  let words := name.splitOn " "
  ((aliases.find? fun (_, other) => other = name).map (·.1)) <|>
    tables.findSome? fun blocks => blocks.findSome? fun block => block.find? words

/-- The value of digits in base 16, of which the letters are capitals. -/
def hexValue? (digits : List Char) : Option Nat :=
  digits.foldlM (fun value d =>
    if d.isDigit then some (16 * value + (d.toNat - '0'.toNat))
    else if 'A' ≤ d ∧ d ≤ 'F' then some (16 * value + (d.toNat - 'A'.toNat + 10))
    else none) 0

/-- First and last characters of the areas in which names end in the number of the character. -/
def unifiedIdeographs : List (Nat × Nat) :=
  [(0x3400, 0x4DBF), (0x4E00, 0x9FFF), (0x20000, 0x2A6DF), (0x2A700, 0x2B738), (0x2B740, 0x2B81D),
    (0x2B820, 0x2CEA1), (0x2CEB0, 0x2EBE0), (0x30000, 0x3134A)]

def numbered : List (String × List (Nat × Nat)) :=
  [("CJK COMPATIBILITY IDEOGRAPH-", [(0xF900, 0xFA6D), (0xFA70, 0xFAD9), (0x2F800, 0x2FA1D)]),
    ("KHITAN SMALL SCRIPT CHARACTER-", [(0x18B00, 0x18CD5)]),
    ("NUSHU CHARACTER-", [(0x1B170, 0x1B2FB)])]

def isWithin (areas : List (Nat × Nat)) (n : Nat) : Bool :=
  areas.any fun (first, last) => first ≤ n && n ≤ last

/-- The text after another one that it starts with. -/
def after? (stem : String) (name : List Char) : Option (List Char) :=
  if stem.toList.isPrefixOf name then some (name.drop stem.toList.length) else none

/-- The number of an ideograph, from four or five digits. -/
def unified? (digits : List Char) : Option Nat := do
  guard (digits.length = 4 ∨ digits.length = 5)
  let n ← hexValue? digits
  if isWithin unifiedIdeographs n then some n else none

/-- The number at the end of a name, as it is written there. -/
def numbered? (name : List Char) : Option Nat :=
  numbered.findSome? fun (stem, areas) => do
    let digits ← after? stem name
    guard (digits.head? ≠ some '0')
    let n ← hexValue? digits
    if isWithin areas n then some n else none

def initialNames : List String :=
  ["G", "GG", "N", "D", "DD", "R", "M", "B", "BB", "S", "SS", "", "J", "JJ", "C", "K", "T", "P", "H"]

def vowelNames : List String :=
  ["A", "AE", "YA", "YAE", "EO", "E", "YEO", "YE", "O", "WA", "WAE", "OE", "YO", "U", "WEO", "WE",
    "WI", "YU", "EU", "YI", "I"]

def finalNames : List String :=
  ["", "G", "GG", "GS", "N", "NJ", "NH", "D", "L", "LG", "LM", "LB", "LS", "LT", "LP", "LH", "M",
    "B", "BS", "S", "SS", "NG", "J", "C", "K", "T", "P", "H"]

/-- The place of the longest of some names that a text starts with, and the text after it. -/
def longest? (options : List String) (text : List Char) : Option (Nat × List Char) :=
  let fitting := options.zipIdx.filterMap fun (option, i) =>
    (after? option text).map fun rest => (i, rest)
  fitting.foldl (fun best next =>
    match best with
    | some (_, rest) => if next.2.length < rest.length then some next else best
    | none => some next) none

/-- The number of a syllable, from the names of its letters. -/
def syllable? (name : List Char) : Option Nat := do
  let (initial, rest) ← longest? initialNames name
  let (vowel, rest) ← longest? vowelNames rest
  let (final, rest) ← longest? finalNames rest
  guard rest.isEmpty
  return 0xAC00 + (initial * 21 + vowel) * 28 + final

/-- The number of the character with a name. -/
def find? (name : List Char) : Option Nat :=
  match after? "HANGUL SYLLABLE " name with
  | some rest => syllable? rest
  | none =>
    match after? "CJK UNIFIED IDEOGRAPH-" name with
    | some rest => unified? rest
    | none =>
      let capitals := name.map Char.toUpper
      numbered? capitals <|> listed? (String.ofList capitals)

end RelaxCompact.CharacterName
