import RelaxCompact.Text.Charset.Chinese
import RelaxCompact.Text.Encoding.Basic

/-!
Encodings of Chinese text. GBK and GB 18030 each keep what the one before them spells.
-/

namespace RelaxCompact.Encoding

/-- Both bytes of a character of GB 2312 have their highest bit set. -/
def gb2312? (a b : Nat) : Option Char := Charset.gb2312.char? (a - 0x80) (b - 0x80)

def gbk? (a b : Nat) : Option Char :=
  Charset.listed? Charset.gbkSymbols (0x100 * a + b) <|> gb2312? a b <|> Charset.gbk.char? a b

/-- The areas of GB 18030 for characters of the user's own. -/
def gb18030User? (a b : Nat) : Option Char :=
  if 0xAA ≤ a ∧ a ≤ 0xAF ∧ 0xA1 ≤ b ∧ b ≤ 0xFE then
    some (Char.ofNat (0xE000 + 94 * (a - 0xAA) + (b - 0xA1)))
  else if 0xF8 ≤ a ∧ a ≤ 0xFE ∧ 0xA1 ≤ b ∧ b ≤ 0xFE then
    some (Char.ofNat (0xE234 + 94 * (a - 0xF8) + (b - 0xA1)))
  else if 0xA1 ≤ a ∧ a ≤ 0xA7 ∧ 0x40 ≤ b ∧ b ≤ 0xA0 ∧ b ≠ 0x7F then
    some (Char.ofNat (0xE4C6 + 96 * (a - 0xA1) + (if b < 0x7F then b - 0x40 else b - 0x41)))
  else none

def gb18030Pair? (a b : Nat) : Option Char :=
  gbk? a b <|> Charset.listed? Charset.gb18030 (0x100 * a + b) <|> gb18030User? a b

/-- The place of four bytes in the order of all codes of four bytes. -/
def gb18030Place? (a b c d : Nat) : Option Nat :=
  if 0x81 ≤ a ∧ a ≤ 0xFE ∧ 0x30 ≤ b ∧ b ≤ 0x39 ∧ 0x81 ≤ c ∧ c ≤ 0xFE ∧ 0x30 ≤ d ∧ d ≤ 0x39 then
    some ((((a - 0x81) * 10 + (b - 0x30)) * 126 + (c - 0x81)) * 10 + (d - 0x30))
  else none

/-- How many codes of four bytes spell characters below U+10000. -/
def gb18030LowCount : Nat := 39420

/-- The place of the code for U+10000. -/
def gb18030HighPlace : Nat := 189000

/-- The characters that have no shorter code stand in their own order. -/
def gb18030Quad? (a b c d : Nat) : Option Char := do
  let place ← gb18030Place? a b c d
  if place < gb18030LowCount then
    let (start, first) ← Charset.gb18030Runs.reverse.find? fun (start, _) => start ≤ place
    return Char.ofNat (first + (place - start))
  else if gb18030HighPlace ≤ place ∧ place < gb18030HighPlace + 0x100000 then
    return Char.ofNat (0x10000 + (place - gb18030HighPlace))
  else none

def gb18030? : Nat → List Nat → Option (List Char × Nat)
  | a, rest =>
    match ascii? a, rest with
    | some c, _ => some ([c], 0)
    | none, b :: c :: d :: _ =>
      if 0x30 ≤ b ∧ b ≤ 0x39 then (gb18030Quad? a b c d).map fun c => ([c], 3)
      else (gb18030Pair? a b).map fun c => ([c], 1)
    | none, b :: _ => (gb18030Pair? a b).map fun c => ([c], 1)
    | none, [] => none

/-- A tilde ends a line, is itself, or switches between ASCII and GB 2312 without highest bits. -/
def decodeHz? (chinese : Bool) : List Nat → Option (List Char)
  | [] => some []
  | 0x7E :: 0x7E :: rest => do
    guard !chinese
    return '~' :: (← decodeHz? false rest)
  | 0x7E :: 0x7B :: rest => if chinese then none else decodeHz? true rest
  | 0x7E :: 0x7D :: rest => if chinese then decodeHz? false rest else none
  | 0x7E :: 0x0A :: rest => if chinese then none else decodeHz? false rest
  | 0x7E :: _ => none
  | a :: rest =>
    if chinese then
      match rest with
      | b :: rest => do
        let c ← Charset.gb2312.char? a b
        return c :: (← decodeHz? true rest)
      | [] => none
    else do
      let c ← ascii? a
      return c :: (← decodeHz? false rest)

/-- The cell that the second byte of a character of Big5 stands for. -/
def big5Cell? (b : Nat) : Option Nat :=
  if 0x40 ≤ b ∧ b ≤ 0x7E then some (b - 0x40)
  else if 0xA1 ≤ b ∧ b ≤ 0xFE then some (b - 0x62)
  else none

def big5? (a b : Nat) : Option Char := do Charset.big5.char? a (← big5Cell? b)

def windowsBig5? (a b : Nat) : Option Char :=
  Charset.listed? Charset.windowsBig5 (0x100 * a + b) <|> big5? a b

/-- The rows of Big5 that Hong Kong gives to other characters. -/
def isReassigned (a b : Nat) : Bool :=
  let code := 0x100 * a + b
  0xC6A1 ≤ code && code < 0xC900

/-- Letters with two marks have a code of their own, but are two characters. -/
def hongKongLetters : List (Nat × List Char) :=
  [(0x8862, ['Ê', '\u0304']), (0x8864, ['Ê', '\u030c']), (0x88A3, ['ê', '\u0304']),
    (0x88A5, ['ê', '\u030c'])]

def hongKongPair? (a b : Nat) : Option (List Char) :=
  let single := do
    let cell ← big5Cell? b
    if isReassigned a b then Charset.hongKong.char? a cell
    else big5? a b <|> Charset.hongKong.char? a cell
  (single.map fun c => [c]) <|> hongKongLetters.lookup (0x100 * a + b)

def hongKong? : Nat → List Nat → Option (List Char × Nat)
  | a, rest =>
    match ascii? a, rest with
    | some c, _ => some ([c], 0)
    | none, b :: _ => (hongKongPair? a b).map fun cs => (cs, 1)
    | none, [] => none

end RelaxCompact.Encoding
