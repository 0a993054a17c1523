import RelaxCompact.Proofs.Printing.Scanning

/-!
Lexemes as they may be written: a backslash in front of what would be a keyword, and the code points
of a literal as they are or by their numbers. Scanning what is written gives the lexemes back.
-/

namespace RelaxCompact

open Lexer

/-- How the code points of literals are written. Each may stand for itself or as a hexadecimal
numeral; a quote, a backslash and a line feed may not stand for themselves, and a surrogate, which
is no character, cannot. -/
structure Escaping where
  coded : Char → Bool
  digits : CodePoint → List Char
  quote : coded '\"' = true
  backslash : coded '\\' = true
  lineFeed : coded '\n' = true
  hexadecimal : ∀ p, Hexadecimal (digits p) p.val

namespace Escaping

variable (e : Escaping)

/-- A code point as it is written in a literal. -/
def item (p : CodePoint) : LiteralItem :=
  match p.toChar? with
  | some c => if e.coded c then .coded (e.digits p) p else .plain c
  | none => .coded (e.digits p) p

/-- A lexeme as it is written: a literal in double quotes, any other one as it is spelled, which
puts a backslash in front of an identifier that spells a keyword. -/
def write : Lexeme → List Char
  | .literal value => '\"' :: (value.flatMap (fun p => (e.item p).spelling) ++ ['\"'])
  | l => l.spelling

/-- Lexemes as they are written, with single spaces between them. -/
def writeAll (ls : List Lexeme) : List Char := [' '].intercalate (ls.map e.write)

theorem quotable_item (p : CodePoint) : Quotable (e.item p) := by
  have hcoded := quotable_coded (e.hexadecimal p)
  unfold item
  split
  case h_1 c _ =>
    split
    case isTrue => exact hcoded
    case isFalse hplain =>
      refine quotable_plain ?_ ?_ ?_
      · rintro rfl
        exact hplain e.quote
      · rintro rfl
        exact hplain e.lineFeed
      · rintro rfl
        exact hplain e.backslash
  case h_2 => exact hcoded

theorem point_item (p : CodePoint) : (e.item p).point = p := by
  unfold item
  split
  case h_1 c hc =>
    split
    case isTrue => rfl
    case isFalse => exact CodePoint.ofChar_of_toChar? hc
  case h_2 => rfl

/-- A lexeme is read as it is written, if a blank follows it. -/
theorem reads_write {l : Lexeme} (hl : l.writable = true) : l.Reads (e.write l) [' '] := by
  cases l with
  | literal value => exact reads_literal e.quotable_item e.point_item value (by simp)
  | _ => exact reads_spelling hl

theorem spread_write (ls : List Lexeme) : spread (spacedCells e.write ls) [] = e.writeAll ls := by
  cases ls with
  | nil => rfl
  | cons l ls =>
    induction ls generalizing l with
    | nil => simp [spacedCells, cellsBehind, spread, writeAll, List.intercalate]
    | cons l' ls ih =>
      have htail := ih l'
      simp only [spacedCells, cellsBehind, spread, writeAll, List.map_cons, List.nil_append]
        at htail ⊢
      rw [List.intercalate_cons_cons, ← htail]
      simp

end Escaping

/-- **Tokens read back.** Lexemes that are written, with single spaces between them, are scanned as
they were, and the end of the file behind them. -/
theorem scan_writeAll (e : Escaping) (path : Text) {ls : List Lexeme}
    (hw : ∀ l ∈ ls, l.writable = true) :
    ∃ scanned, (Source.text (.ofChars (e.writeAll ls))).scan path = .ok scanned ∧
      scanned.tokens.map Token.lexeme = ls ++ [.eof] := by
  rw [← e.spread_write]
  exact scan_spacedCells path (fun l hl => e.reads_write (hw l hl)) .nil

/-- Digits in positional notation are a numeral. -/
theorem hexadecimal_toDigits (n : Nat) : Hexadecimal (Nat.toDigits 16 n) n := by
  have hdigit : ∀ d : Fin 16, HexDigit (Nat.digitChar d) d := by
    unfold HexDigit
    decide
  induction n using Nat.strongRecOn with
  | ind n ih =>
    by_cases hn : n < 16
    · rw [Nat.toDigits_of_lt_base hn]
      exact .digit (hdigit ⟨n, hn⟩)
    · rw [Nat.toDigits_of_base_le (by decide) (Nat.le_of_not_lt hn)]
      have hmore := (ih (n / 16) (by omega)).more (hdigit ⟨n % 16, Nat.mod_lt _ (by decide)⟩)
      rwa [Nat.mul_comm, Nat.div_add_mod] at hmore

/-- Only what has to be is written by its number. -/
def Escaping.least : Escaping where
  coded c := c = '\"' || c = '\\' || c = '\n'
  digits p := Nat.toDigits 16 p.val
  quote := rfl
  backslash := rfl
  lineFeed := rfl
  hexadecimal p := hexadecimal_toDigits p.val

namespace Written

/-! A name like a keyword, qualified names, literals with a surrogate and with nothing in them, and
operators of which one begins with another. -/

def lexemes : List Lexeme :=
  [.identifier "text", .prefixedName "a.b" "c-d", .nsName "x", .literal [],
    .literal (Text.ofString "\"\\\n" ++ [CodePoint.ofNat 0xd800] ++ Text.ofString "'"),
    .keyword .text, .symbol .pipe, .symbol .choiceAssign]

theorem scan_writeAll_least :
    Text.ofChars (Escaping.least.writeAll lexemes) =
        Text.ofString ("\\text a.b:c-d x:* \"\" " ++
          "\"\\x\x7b22\x7d\\x\x7b5c\x7d\\x\x7ba\x7d\\x\x7bd800\x7d'\" text | |=") ∧
      (∀ l ∈ lexemes, l.writable = true) ∧
      ∃ scanned,
        (Source.text (.ofChars (Escaping.least.writeAll lexemes))).scan [] = .ok scanned ∧
        scanned.tokens.map Token.lexeme = lexemes ++ [.eof] := by
  have hw : ∀ l ∈ lexemes, l.writable = true := by decide
  exact ⟨by decide +kernel, hw, scan_writeAll .least [] hw⟩

end Written

end RelaxCompact
