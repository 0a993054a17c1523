import RelaxCompact.Proofs.Scanning.Layout
import RelaxCompact.Proofs.Scanning.Sources

/-!
Tokens tile their source. Each token says where its lexeme stands, counted in lines, columns and
bytes from the start of the source, and between two lexemes there are only blanks and comments.
-/

namespace RelaxCompact

open Lexer

/-- The position behind a text: lines and columns count from one, the column starts anew behind a
line feed, and the offset counts the bytes of the UTF-8 form. -/
def Position.behind (cs : List Char) : Position where
  line := 1 + cs.count '\n'
  column := 1 + (cs.reverse.takeWhile (· ≠ '\n')).length
  offset := utf8Length cs

/-- A lexeme stands in a text as its value, escaped if it is an identifier, or with the sign of a
wildcard behind it. How a literal stands does not follow from its value. -/
def Lexeme.Spelled (l : Lexeme) (text : List Char) : Prop :=
  match l.type with
  | .literal => True
  | .identifier => Text.ofChars text = l.value ∨ Text.ofChars text = "\\" ++ l.value
  | .nsName => Text.ofChars text = l.value ++ ":*"
  | _ => Text.ofChars text = l.value

/-- The tokens of a text tile it: they stand where the cells of the text have their lexemes, and the
end of the file behind all of it. -/
structure Tiled (path : Text) (text : List Char) (cells : List Cell) (last : List Char)
    (tokens : List Token) : Prop where
  layout : text = spread cells last
  gaps : ∀ cell ∈ cells, Spacing cell.gap
  ending : Trailing last
  stands : ∀ cell ∈ cells, cell.lexeme.Stands cell.text ∧ cell.lexeme.Spelled cell.text
  token : ∀ before cell after, cells = before ++ cell :: after →
    tokens[before.length]? =
      some ⟨cell.lexeme, path, .behind (spread before cell.gap), utf8Length cell.text⟩
  eof : tokens[cells.length]? = some ⟨.eof, path, .behind text, 0⟩
  length : tokens.length = cells.length + 1

/-! Positions -/

namespace Position

theorem behind_append_singleton (cs : List Char) (c : Char) :
    behind (cs ++ [c]) = (behind cs).after c := by
  unfold behind after
  by_cases hc : c = '\n'
  · simp [hc, List.count_append, Nat.add_assoc]
  · simp [hc, List.count_append, Nat.add_comm]

theorem advance_behind (done cs : List Char) : (behind done).advance cs = behind (done ++ cs) := by
  induction cs generalizing done with
  | nil => rw [List.append_nil]; rfl
  | cons c cs ih =>
    change ((behind done).after c).advance cs = _
    rw [← behind_append_singleton, ih, List.append_assoc]
    rfl

/-- The position behind a text is where reading it gets to. -/
theorem advance_eq_behind (cs : List Char) : advance {} cs = behind cs := advance_behind [] cs

theorem offset_advance (p : Position) (cs : List Char) :
    (p.advance cs).offset = p.offset + utf8Length cs := by
  induction cs generalizing p with
  | nil => rfl
  | cons c cs ih =>
    change ((p.after c).advance cs).offset = _
    rw [ih, ← List.singleton_append, utf8Length_append, utf8Length_singleton, ← Nat.add_assoc]
    rfl

end Position

/-! Lexemes -/

theorem Lexeme.Stands.spelled {l : Lexeme} {text : List Char} (h : l.Stands text) :
    l.Spelled text := by
  cases h with
  | identifier => exact .inl rfl
  | escaped => exact .inr rfl
  | prefixedName => simp [Spelled, type, value, Text.ofString, Text.ofChars]
  | nsName => simp [Spelled, type, value, Text.ofString, Text.ofChars]
  | literal => trivial
  | keyword => rfl
  | symbol => rfl

theorem Lexeme.Reads.length_pos {l : Lexeme} {text rest : List Char} (h : l.Reads text rest) :
    0 < utf8Length text := by
  obtain ⟨c, inner, rfl, -⟩ := h
  rw [← List.singleton_append, utf8Length_append, utf8Length_singleton]
  exact Nat.add_pos_left c.utf8Size_pos _

theorem Lexes.trailing {cells : List Cell} {last : List Char} (h : Lexes cells last) :
    Trailing last := by
  induction h with
  | last hlast => exact hlast
  | cell _ _ _ ih => exact ih

namespace Lexer

variable {path : Text} {p : Position} {cells : List Cell} {last : List Char}

/-! Tokens -/

theorem length_tokensFrom : (tokensFrom path p cells last).length = cells.length + 1 := by
  induction cells generalizing p with
  | nil => rfl
  | cons cell cells ih => rw [tokensFrom_cons, List.length_cons, ih, List.length_cons]

theorem getElem?_tokensFrom (before : List Cell) (cell : Cell) (after : List Cell) :
    (tokensFrom path p (before ++ cell :: after) last)[before.length]? =
      some ⟨cell.lexeme, path, p.advance (spread before cell.gap), utf8Length cell.text⟩ := by
  induction before generalizing p with
  | nil =>
    rw [List.nil_append, tokensFrom_cons, Position.offset_advance (p.advance cell.gap),
      Nat.add_sub_cancel_left]
    rfl
  | cons first before ih =>
    rw [List.cons_append, tokensFrom_cons, List.length_cons, List.getElem?_cons_succ, ih, spread,
      Position.advance_append, Position.advance_append]

theorem getElem?_tokensFrom_eof : (tokensFrom path p cells last)[cells.length]? =
    some ⟨.eof, path, p.advance (spread cells last), 0⟩ := by
  induction cells generalizing p with
  | nil => rfl
  | cons cell cells ih =>
    rw [tokensFrom_cons, List.length_cons, List.getElem?_cons_succ, ih, spread,
      Position.advance_append, Position.advance_append]

/-- The tokens of a row of cells stand behind where it starts. -/
theorem exists_advance_of_mem {t : Token} (ht : t ∈ tokensFrom path p cells last) :
    ∃ cs, t.start = p.advance cs := by
  induction cells generalizing p with
  | nil =>
    cases List.mem_singleton.mp ht
    exact ⟨_, rfl⟩
  | cons cell cells ih =>
    rw [tokensFrom_cons] at ht
    rcases List.mem_cons.mp ht with rfl | ht
    · exact ⟨_, rfl⟩
    · obtain ⟨cs, hstart⟩ := ih ht
      refine ⟨cell.gap ++ cell.text ++ cs, ?_⟩
      rw [Position.advance_append, Position.advance_append, hstart]

theorem offset_le_of_mem {t : Token} (ht : t ∈ tokensFrom path p cells last) :
    p.offset ≤ t.start.offset := by
  obtain ⟨cs, hstart⟩ := exists_advance_of_mem ht
  rw [hstart, Position.offset_advance]
  exact Nat.le_add_right _ _

/-- One token starts before another, and ends before the other starts. -/
def Precedes (t u : Token) : Prop :=
  t.span.offset < u.span.offset ∧ t.span.stop ≤ u.span.offset

theorem precedes_iff {t u : Token} : Precedes t u ↔
    t.start.offset < u.start.offset ∧ t.start.offset + t.length ≤ u.start.offset := by
  unfold Precedes Span.stop Token.span Position.span
  dsimp only
  omega

theorem pairwise_tokensFrom (h : Lexes cells last) :
    (tokensFrom path p cells last).Pairwise Precedes := by
  induction h generalizing p with
  | last => exact List.pairwise_singleton _ _
  | @cell cell cells last _ hreads _ ih =>
    rw [tokensFrom_cons]
    refine List.pairwise_cons.mpr ⟨fun u hu => ?_, ih⟩
    have hle := offset_le_of_mem hu
    have hpos := hreads.length_pos
    rw [Position.offset_advance (p.advance cell.gap)] at hle
    have hlt : (p.advance cell.gap).offset < u.start.offset := by omega
    rw [Position.offset_advance (p.advance cell.gap), Nat.add_sub_cancel_left]
    exact precedes_iff.mpr ⟨hlt, hle⟩

theorem dropLast_tokensFrom : (tokensFrom path p cells last).dropLast = cellTokens path p cells :=
  List.dropLast_concat

theorem tiled_of_lexes (path : Text) (h : Lexes cells last) :
    Tiled path (spread cells last) cells last (tokensFrom path {} cells last) where
  layout := rfl
  gaps cell hcell := (h.mem cell hcell).1
  ending := h.trailing
  stands cell hcell := ⟨h.stands cell hcell, (h.stands cell hcell).spelled⟩
  token before cell after hcells := by
    rw [hcells, getElem?_tokensFrom, Position.advance_eq_behind]
  eof := by rw [getElem?_tokensFrom_eof, Position.advance_eq_behind]
  length := length_tokensFrom

end Lexer

/-! What tiles a text is told by its tokens -/

theorem utf8Length_eq_zero {cs : List Char} : utf8Length cs = 0 ↔ cs = [] := by
  cases cs with
  | nil => simp
  | cons c cs =>
    have hpos := c.utf8Size_pos
    rw [← List.singleton_append, utf8Length_append, utf8Length_singleton]
    simp only [List.singleton_append, reduceCtorEq, iff_false]
    omega

/-- A text is cut in one way after a number of bytes. -/
theorem append_inj_of_utf8Length {a b a' b' : List Char} (h : a ++ b = a' ++ b')
    (hlength : utf8Length a = utf8Length a') : a = a' ∧ b = b' := by
  rcases List.append_eq_append_iff.mp h with ⟨c, rfl, rfl⟩ | ⟨c, rfl, rfl⟩
  · rw [utf8Length_append, Nat.left_eq_add, utf8Length_eq_zero] at hlength
    subst hlength
    exact ⟨(List.append_nil _).symm, rfl⟩
  · rw [utf8Length_append, Nat.add_eq_left, utf8Length_eq_zero] at hlength
    subst hlength
    exact ⟨List.append_nil _, rfl⟩

theorem tokensFrom_inj {path : Text} {p : Position} {cells cells' : List Cell}
    {last last' : List Char} (htext : spread cells last = spread cells' last')
    (h : tokensFrom path p cells last = tokensFrom path p cells' last') :
    cells = cells' ∧ last = last' := by
  induction cells generalizing p cells' with
  | nil =>
    cases cells' with
    | nil => exact ⟨rfl, htext⟩
    | cons =>
      have hlength := congrArg List.length h
      simp [length_tokensFrom] at hlength
  | cons cell cells ih =>
    cases cells' with
    | nil =>
      have hlength := congrArg List.length h
      simp [length_tokensFrom] at hlength
    | cons cell' cells' =>
      rw [tokensFrom_cons, tokensFrom_cons] at h
      obtain ⟨htoken, htokens⟩ := List.cons.inj h
      simp only [Token.mk.injEq, true_and, Position.offset_advance (Position.advance _ _),
        Nat.add_sub_cancel_left] at htoken
      obtain ⟨hlexeme, hstart, hsize⟩ := htoken
      have hoffset := congrArg Position.offset hstart
      rw [Position.offset_advance, Position.offset_advance, Nat.add_left_cancel_iff] at hoffset
      obtain ⟨hgap, hbehind⟩ := append_inj_of_utf8Length htext hoffset
      obtain ⟨hinner, hrest⟩ := append_inj_of_utf8Length hbehind hsize
      rw [hstart, hinner] at htokens
      obtain ⟨rfl, rfl⟩ := ih hrest htokens
      cases cell
      cases cell'
      cases hlexeme
      cases hgap
      cases hinner
      exact ⟨rfl, rfl⟩

namespace Tiled

variable {path : Text} {text : List Char} {cells : List Cell} {last : List Char}
  {tokens : List Token}

theorem tokens_eq (h : Tiled path text cells last tokens) :
    tokens = tokensFrom path {} cells last := by
  have hlength : tokens.length = (tokensFrom path {} cells last).length := by
    rw [h.length, length_tokensFrom]
  refine List.ext_getElem? fun i => ?_
  rcases Nat.lt_trichotomy i cells.length with hi | rfl | hi
  · have hsplit : cells = cells.take i ++ cells[i] :: cells.drop (i + 1) := by simp
    have hbefore : (cells.take i).length = i := List.length_take_of_le (Nat.le_of_lt hi)
    have htoken := h.token _ _ _ hsplit
    have htoken' := @getElem?_tokensFrom path {} last
      (cells.take i) cells[i] (cells.drop (i + 1))
    rw [← hsplit, Position.advance_eq_behind] at htoken'
    rw [hbefore] at htoken htoken'
    rw [htoken, htoken']
  · rw [h.eof, getElem?_tokensFrom_eof, Position.advance_eq_behind, h.layout]
  · have hbeyond : tokens.length ≤ i := by rw [h.length]; exact hi
    rw [List.getElem?_eq_none hbeyond, List.getElem?_eq_none (hlength ▸ hbeyond)]

/-- A text has one tiling by its tokens. -/
theorem unique {cells' : List Cell} {last' : List Char} (h : Tiled path text cells last tokens)
    (h' : Tiled path text cells' last' tokens) : cells = cells' ∧ last = last' :=
  tokensFrom_inj (h.layout.symm.trans h'.layout) (h.tokens_eq.symm.trans h'.tokens_eq)

end Tiled

/-- What is scanned spells a text that is laid out in cells, which its tokens tile. -/
theorem Source.exists_lexes {source : Source} {path : Text} {scanned : Scanned}
    (h : source.scan path = .ok scanned) :
    ∃ text cells last, source.Spells path text ∧ Lexes cells last ∧
      Tiled path text cells last scanned.tokens := by
  obtain ⟨text, htext⟩ := Source.exists_spells h
  rw [htext.scan] at h
  obtain ⟨cells, last, rfl, hlexes, htokens⟩ := lexes_of_scanFrom h
  exact ⟨_, cells, last, htext, hlexes, htokens ▸ tiled_of_lexes path hlexes⟩

/-- Lines count from one. -/
theorem Source.one_le_line {source : Source} {path : Text} {scanned : Scanned}
    (h : source.scan path = .ok scanned) {t : Token} (ht : t ∈ scanned.tokens) :
    1 ≤ t.start.line := by
  obtain ⟨text, htext⟩ := Source.exists_spells h
  rw [htext.scan] at h
  obtain ⟨cells, last, -, -, htokens⟩ := lexes_of_scanFrom h
  rw [htokens] at ht
  obtain ⟨cs, hstart⟩ := exists_advance_of_mem ht
  rw [hstart]
  exact line_le_advance {} cs

/-- The tokens of every source that is scanned tile it. They are in order, do not overlap, and only
the last of them is the end of the file. -/
theorem scan_tiles {source : Source} {path : Text} {scanned : Scanned}
    (h : source.scan path = .ok scanned) :
    ∃ text cells last, source.Spells path text ∧ Tiled path text cells last scanned.tokens ∧
      scanned.tokens.Pairwise Precedes ∧ ∀ t ∈ scanned.tokens.dropLast, t.lexeme ≠ .eof := by
  obtain ⟨text, htext⟩ := Source.exists_spells h
  rw [htext.scan] at h
  obtain ⟨cells, last, rfl, hlexes, htokens⟩ := lexes_of_scanFrom h
  refine ⟨_, cells, last, htext, ?_, ?_, ?_⟩
  · rw [htokens]
    exact tiled_of_lexes path hlexes
  · rw [htokens]
    exact pairwise_tokensFrom hlexes
  · rw [htokens, dropLast_tokensFrom]
    intro t ht
    obtain ⟨cell, hcell, hlexeme⟩ := lexeme_of_mem_cellTokens ht
    rw [hlexeme]
    exact (hlexes.stands cell hcell).ne_eof

namespace Tiles

/-! A comment in two-byte letters behind a byte order mark, an identifier spelled like a keyword, a
literal with an escape, and a comment that ends with the text. -/

def source : Source := .text "\ufeff## \u00e9\n\\text = \"\\x\x7be9\x7d\" # end"

def tokens : List Token :=
  [⟨.identifier "text", [], ⟨2, 1, 6⟩, 5⟩, ⟨.symbol .assign, [], ⟨2, 7, 12⟩, 1⟩,
    ⟨.literal "\u00e9", [], ⟨2, 9, 14⟩, 8⟩, ⟨.eof, [], ⟨2, 23, 28⟩, 0⟩]

theorem scan_tiles_escapes :
    source.scan [] = .ok ⟨tokens, [(1, "\u00e9")]⟩ ∧
      ∃ text cells last, source.Spells [] text ∧ Tiled [] text cells last tokens ∧
        tokens.Pairwise Precedes ∧ ∀ t ∈ tokens.dropLast, t.lexeme ≠ .eof := by
  have hscan : source.scan [] = .ok ⟨tokens, [(1, "\u00e9")]⟩ := by decide +kernel
  exact ⟨hscan, scan_tiles hscan⟩

end Tiles

end RelaxCompact
