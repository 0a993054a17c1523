import RelaxCompact.Text.Charset.Japanese
import RelaxCompact.Text.Encoding.Basic

/-!
Encodings of Japanese text. Shift JIS and EUC number the same rows and cells by other bytes.
-/

namespace RelaxCompact.Encoding

/-- The editions of JIS X 0213. The second one has more characters and changes one. -/
inductive Edition
  | first | second
  deriving DecidableEq, Repr

/-- Katakana of half width have one byte. -/
def halfKatakana? (byte : Nat) : Option Char :=
  if 0xA1 ≤ byte ∧ byte ≤ 0xDF then some (Char.ofNat (0xFEC0 + byte)) else none

/-- The Japanese form of ASCII has a yen sign and an overline. -/
def jisRoman? (byte : Nat) : Option Char :=
  if byte = 0x5C then some '¥' else if byte = 0x7E then some '‾' else ascii? byte

/-- The cells that the second edition of JIS X 0213 gives to characters. -/
def secondEditionCells : List Nat :=
  [0x2E21, 0x2F7E, 0x4F54, 0x4F7E, 0x7427, 0x7E7A, 0x7E7B, 0x7E7C, 0x7E7D, 0x7E7E]

/-- A character of the first plane of JIS X 0213; some are two characters here. -/
def jisX0213First? (edition : Edition) (row cell : Nat) : Option (List Char) :=
  let code := 0x100 * row + cell
  if edition = .first ∧ secondEditionCells.contains code then none
  else
    ((Charset.jisX0208.char? row cell <|> Charset.jisX0213Plane1.char? row cell).map fun c => [c])
      <|> (Charset.jisX0213Pairs.lookup code).map String.toList

def jisX0213Second? (edition : Edition) (row cell : Nat) : Option Char :=
  if edition = .first ∧ row = 0x7D ∧ cell = 0x3B then some '鬝'
  else Charset.jisX0213Plane2.char? row cell

/-- Rows and cells by two bytes with their highest bits set. A byte before them tells of katakana
or of JIS X 0212. -/
def eucJp? : Nat → List Nat → Option (List Char × Nat)
  | 0x8E, b :: _ => (halfKatakana? b).map fun c => ([c], 1)
  | 0x8F, b :: c :: _ => (Charset.jisX0212.char? (b - 0x80) (c - 0x80)).map fun c => ([c], 2)
  | 0x8F, _ => none
  | a, rest => pairwise? (fun a b => Charset.jisX0208.char? (a - 0x80) (b - 0x80)) a rest

/-- With JIS X 0213 in place of JIS X 0208. -/
def eucJis? (edition : Edition) : Nat → List Nat → Option (List Char × Nat)
  | 0x8E, b :: _ => (halfKatakana? b).map fun c => ([c], 1)
  | 0x8F, b :: c :: _ =>
    (jisX0213Second? edition (b - 0x80) (c - 0x80) <|>
      Charset.jisX0212.char? (b - 0x80) (c - 0x80)).map fun c => ([c], 2)
  | 0x8F, _ => none
  | 0xA2, 0xB2 :: _ => some (['～'], 1)
  | a, rest =>
    match ascii? a, rest with
    | some c, _ => some ([c], 0)
    | none, b :: _ => (jisX0213First? edition (a - 0x80) (b - 0x80)).map fun cs => (cs, 1)
    | none, [] => none

/-- The row and the cell, from zero on, that two bytes of Shift JIS stand for. -/
def shiftJisCell? (a b : Nat) : Option (Nat × Nat) := do
  let lead ←
    if 0x81 ≤ a ∧ a ≤ 0x9F then some (a - 0x81)
    else if 0xE0 ≤ a ∧ a ≤ 0xFC then some (a - 0xC1)
    else none
  let place ←
    if 0x40 ≤ b ∧ b ≤ 0x7E then some (b - 0x40)
    else if 0x80 ≤ b ∧ b ≤ 0xFC then some (b - 0x41)
    else none
  return (2 * lead + place / 94, place % 94)

def shiftJisPair? (a b : Nat) : Option Char := do
  let (row, cell) ← shiftJisCell? a b
  Charset.jisX0208.char? (row + 0x21) (cell + 0x21)

def shiftJis? : Nat → List Nat → Option (List Char × Nat)
  | a, rest =>
    match halfKatakana? a with
    | some c => some ([c], 0)
    | none => pairwise? shiftJisPair? a rest

/-- The rows of the second plane of JIS X 0213 in the order in which Shift JIS goes on to them. -/
def shiftJisSecondRow (place : Nat) : Nat :=
  ([0x21, 0x28, 0x23, 0x24, 0x25, 0x2C, 0x2D, 0x2E, 0x2F][place]?).getD (place + 0x65)

def shiftJis2004Pair? (edition : Edition) (a b : Nat) : Option (List Char) := do
  let (row, cell) ← shiftJisCell? a b
  if row < 94 then
    if row = 0 ∧ cell = 0x1F then some ['\\']
    else jisX0213First? edition (row + 0x21) (cell + 0x21)
  else (jisX0213Second? edition (shiftJisSecondRow (row - 94)) (cell + 0x21)).map fun c => [c]

/-- Shift JIS with the Japanese form of ASCII and with JIS X 0213. -/
def shiftJis2004? (edition : Edition) : Nat → List Nat → Option (List Char × Nat)
  | a, rest =>
    match jisRoman? a <|> halfKatakana? a, rest with
    | some c, _ => some ([c], 0)
    | none, b :: _ => (shiftJis2004Pair? edition a b).map fun cs => (cs, 1)
    | none, [] => none

/-- Windows gives the bytes that Shift JIS leaves to characters of private use. -/
def windowsSingle? (byte : Nat) : Option Char :=
  if byte ≤ 0x80 then some (Char.ofNat byte)
  else if byte = 0xA0 then some '\uf8f0'
  else if 0xFD ≤ byte then some (Char.ofNat (0xF8F1 + (byte - 0xFD)))
  else halfKatakana? byte

/-- The area for characters of the user's own. -/
def windowsUser? (a b : Nat) : Option Char := do
  guard (0xF0 ≤ a ∧ a ≤ 0xF9)
  let (row, cell) ← shiftJisCell? a b
  return Char.ofNat (0xE000 + 94 * (row - 94) + cell)

def windowsPair? (a b : Nat) : Option Char :=
  Charset.listed? Charset.windowsJapanese (0x100 * a + b) <|> shiftJisPair? a b <|>
    windowsUser? a b

def windowsJapanese? : Nat → List Nat → Option (List Char × Nat)
  | a, rest =>
    match windowsSingle? a, rest with
    | some c, _ => some ([c], 0)
    | none, b :: _ => (windowsPair? a b).map fun c => ([c], 1)
    | none, [] => none

end RelaxCompact.Encoding
