import RelaxCompact.Proofs.Scanning.Tiling

/-!
Text put in front of a lexeme. Text that is scanned by itself from an opening bracket to a closing
one is scanned to the same lexemes where it is put in front of another lexeme.
-/

namespace RelaxCompact

open Lexer

theorem spread_append (cells cells' : List Cell) (last : List Char) :
    spread (cells ++ cells') last = spread cells (spread cells' last) := by
  induction cells with
  | nil => rfl
  | cons cell cells ih => rw [List.cons_append, spread, spread, ih]

theorem spread_eq_append (cells : List Cell) (last rest : List Char) :
    spread cells (last ++ rest) = spread cells last ++ rest := by
  induction cells with
  | nil => rfl
  | cons cell cells ih => rw [spread, spread, ih, List.append_assoc, List.append_assoc]

theorem spread_cell (before : List Cell) (cell : Cell) (after : List Cell) (last : List Char) :
    spread (before ++ cell :: after) last =
      spread before cell.gap ++ (cell.text ++ spread after last) := by
  rw [spread_append, spread, spread_eq_append]

/-- What cells begin with is told by the first of them. -/
theorem head?_spread {cell : Cell} {rest : List Char} (h : cell.lexeme.Reads cell.text rest)
    (cells cells' : List Cell) (last last' : List Char) :
    (spread (cell :: cells') last').head? = (spread (cell :: cells) last).head? := by
  obtain ⟨c, inner, htext, -⟩ := h
  rw [spread, spread, htext]
  cases cell.gap <;> rfl

/-- A bracket is read whatever follows it. -/
theorem reads_bracket {sym : Symbol} (hsym : sym = .leftBracket ∨ sym = .rightBracket)
    {text rest : List Char} (h : (Lexeme.symbol sym).Reads text rest) (rest' : List Char) :
    (Lexeme.symbol sym).Reads text rest' := by
  cases h.stands
  rcases hsym with rfl | rfl <;> exact reads_symbol rfl

/-- Cells up to a closing bracket, with others behind it. -/
theorem Lexes.behind_rightBracket {inner cells : List Cell} {close : Cell} {last : List Char}
    (h : Lexes (inner ++ [close]) []) (hclose : close.lexeme = .symbol .rightBracket)
    (h' : Lexes cells last) : Lexes (inner ++ close :: cells) last := by
  induction inner with
  | nil =>
    cases h with
    | cell hgap hreads _ =>
      rw [hclose] at hreads
      exact .cell hgap (hclose ▸ reads_bracket (.inr rfl) hreads _) h'
  | cons cell inner ih =>
    cases h with
    | cell hgap hreads hinner =>
      refine .cell hgap (hreads.borders (hinner.head?_ne piece_colon) (.inl ?_)) (ih hinner)
      cases inner with
      | nil =>
        cases hinner with
        | cell _ hfirst _ => exact head?_spread hfirst _ _ _ _
      | cons =>
        cases hinner with
        | cell _ hfirst _ => exact head?_spread hfirst _ _ _ _

section

variable {cell left right : Cell} {before after inner : List Cell} {last : List Char}

/-- Behind a lexeme stands the same, or the gap in front of a bracket, or the bracket. -/
theorem borders_bracket {rest : List Char} (hgap : Spacing left.gap)
    (hreads : left.lexeme.Reads left.text rest) (hleft : left.lexeme = .symbol .leftBracket)
    (cells cells' : List Cell) (last last' : List Char) :
    Borders (spread (cell :: cells) last)
      (spread ({ left with gap := cell.gap ++ left.gap } :: cells') last') := by
  rw [spread, spread]
  dsimp only
  cases cell.gap with
  | cons c gap => exact .inl rfl
  | nil =>
    cases hgap' : left.gap with
    | cons c gap =>
      refine .of_gap _ ?_
      rw [hgap'] at hgap
      exact hgap.head
    | nil =>
      have hstands := hreads.stands
      have htext : left.text = ['['] := by
        rw [hleft] at hstands
        generalize left.text = text at hstands ⊢
        cases hstands
        rfl
      rw [htext]
      refine .inr fun c hc => ?_
      cases hc
      exact .inr rfl

/-- Cells from an opening bracket to a closing one may be put in front of another cell. -/
theorem Lexes.insert (h : Lexes (before ++ cell :: after) last)
    (hbrackets : Lexes (left :: inner ++ [right]) []) (hleft : left.lexeme = .symbol .leftBracket)
    (hright : right.lexeme = .symbol .rightBracket) :
    Lexes (before ++ ({ left with gap := cell.gap ++ left.gap } :: inner ++
      right :: { cell with gap := [] } :: after)) last := by
  induction before with
  | nil =>
    cases h with
    | cell hgap hreads hafter =>
      cases hbrackets with
      | cell hopen hbracket hinner =>
        refine @Lexes.behind_rightBracket ({ left with gap := cell.gap ++ left.gap } :: inner)
          _ right last (.cell (hgap.append hopen) hbracket hinner) hright ?_
        exact .cell .nil hreads hafter
  | cons first before ih =>
    cases h with
    | cell hgap hreads hbehind =>
      refine .cell hgap (hreads.borders (hbehind.head?_ne piece_colon) ?_) (ih hbehind)
      cases before with
      | nil =>
        cases hbrackets with
        | cell hopen hbracket _ => exact borders_bracket hopen hbracket hleft _ _ _ _
      | cons =>
        cases hbehind with
        | cell _ hnext _ => exact .inl (head?_spread hnext _ _ _ _)

end

/-! Sources -/

/-- Where a token stands that is not the end of the file there is a cell. -/
theorem exists_cell {path : Text} {cells : List Cell} {last front back : List Char}
    {before after : List Token} {t : Token}
    (htokens : tokensFrom path {} cells last = before ++ t :: after)
    (ht : t.lexeme ≠ .eof) (hfront : t.start = .behind front)
    (htext : front ++ back = spread cells last) :
    ∃ (done : List Cell) (cell : Cell) (rest : List Cell),
      cells = done ++ cell :: rest ∧ front = spread done cell.gap ∧
      back = cell.text ++ spread rest last ∧ before.map Token.lexeme = done.map Cell.lexeme ∧
      (t :: after).map Token.lexeme = (cell :: rest).map Cell.lexeme ++ [Lexeme.eof] := by
  have hget : (tokensFrom path {} cells last)[before.length]? = some t := by
    rw [htokens, List.getElem?_append_right (Nat.le_refl _), Nat.sub_self]
    rfl
  have hlength : before.length < cells.length := by
    have hle := congrArg List.length htokens
    rw [length_tokensFrom, List.length_append, List.length_cons] at hle
    refine Nat.lt_of_le_of_ne (by omega) fun heq => ?_
    rw [heq, getElem?_tokensFrom_eof] at hget
    cases hget
    exact ht rfl
  obtain ⟨done, cell, rest, rfl, hdone⟩ : ∃ done cell rest, cells = done ++ cell :: rest ∧
      done.length = before.length :=
    ⟨cells.take before.length, cells[before.length], cells.drop (before.length + 1), by simp,
      List.length_take_of_le (Nat.le_of_lt hlength)⟩
  rw [← hdone, getElem?_tokensFrom, Position.advance_eq_behind] at hget
  have hstart : Position.behind front = .behind (spread done cell.gap) := by
    cases hget
    exact hfront.symm
  obtain ⟨hbefore, hbehind⟩ := append_inj_of_utf8Length
    (htext.trans (spread_cell done cell rest last)) (congrArg Position.offset hstart)
  have hlexemes := congrArg (List.map Token.lexeme) htokens
  rw [map_lexeme_tokensFrom, List.map_append, List.map_append, List.append_assoc] at hlexemes
  obtain ⟨hfirst, hsecond⟩ := List.append_inj hlexemes (by simp [hdone])
  exact ⟨done, cell, rest, rfl, hbefore, hbehind, hfirst.symm, hsecond.symm⟩

/-- The cells of text that ends with a token. -/
theorem exists_cells {path : Text} {cells : List Cell} {ending : List Char} {inner : List Token}
    {left right last : Token}
    (htokens : tokensFrom path {} cells ending = left :: inner ++ [right, last])
    (hlast : last.start.offset = right.start.offset + right.length) :
    ∃ (first : Cell) (between : List Cell) (close : Cell),
      cells = first :: between ++ [close] ∧ ending = [] ∧
      first.lexeme = left.lexeme ∧ close.lexeme = right.lexeme ∧
      between.map Cell.lexeme = inner.map Token.lexeme := by
  have hlexemes := congrArg (List.map Token.lexeme) htokens
  rw [map_lexeme_tokensFrom] at hlexemes
  have hsplit : (left :: inner ++ [right, last]).map Token.lexeme =
      (left.lexeme :: inner.map Token.lexeme ++ [right.lexeme]) ++ [last.lexeme] := by simp
  obtain ⟨hcells, -⟩ := List.append_inj' (hlexemes.trans hsplit) rfl
  obtain ⟨first, cells, rfl, hfirst, hcells⟩ := List.map_eq_cons_iff.mp hcells
  obtain ⟨between, ending', rfl, hbetween, hcells⟩ := List.map_eq_append_iff.mp hcells
  obtain ⟨close, rfl, hclose⟩ := List.map_eq_singleton_iff.mp hcells
  refine ⟨first, between, close, rfl, ?_, hfirst, hclose, hbetween⟩
  -- The closing bracket ends where the end of the text stands.
  have hlength := congrArg List.length hbetween
  rw [List.length_map, List.length_map] at hlength
  have hright : (left :: inner ++ [right, last])[(first :: between).length]? = some right := by
    simp [hlength]
  have hend : (left :: inner ++ [right, last])[(first :: (between ++ [close])).length]? =
      some last := by
    simp [hlength]
  rw [← htokens, ← List.cons_append, getElem?_tokensFrom (first :: between) close [],
    Option.some.injEq] at hright
  rw [← htokens, getElem?_tokensFrom_eof, Option.some.injEq] at hend
  rw [← hright, ← hend, Position.offset_advance, Position.offset_advance, ← List.cons_append,
    spread_cell, utf8Length_append, utf8Length_append] at hlast
  have hempty : utf8Length (spread [] ending) = 0 := by
    dsimp only at hlast
    omega
  exact utf8Length_eq_zero.mp hempty

/-- Text that is scanned by itself from an opening bracket to a closing one, where it ends, may be
put in front of a token. -/
theorem scan_inserted {source source' : Source} {path : Text} {scanned brackets : Scanned}
    {front back note : List Char} {before after inner : List Token}
    {t left right last : Token}
    (h : source.scan path = .ok scanned) (htext : source.Spells path (front ++ back))
    (htokens : scanned.tokens = before ++ t :: after) (ht : t.lexeme ≠ .eof)
    (hfront : t.start = .behind front) (hscan : scanFrom path {} none note = .ok brackets)
    (hbrackets : brackets.tokens = left :: inner ++ [right, last])
    (hleft : left.lexeme = .symbol .leftBracket) (hright : right.lexeme = .symbol .rightBracket)
    (hlast : last.start.offset = right.start.offset + right.length)
    (htext' : source'.Spells path (front ++ note ++ back)) :
    ∃ scanned', source'.scan path = .ok scanned' ∧
      scanned'.tokens.map Token.lexeme =
        (before ++ (left :: inner ++ [right]) ++ t :: after).map Token.lexeme := by
  rw [htext.scan] at h
  obtain ⟨cells, ending, hspread, hlexes, hcells⟩ := lexes_of_scanFrom h
  obtain ⟨done, cell, rest, rfl, rfl, rfl, hdone, hrest⟩ :=
    exists_cell (hcells.symm.trans htokens) ht hfront hspread
  obtain ⟨own, ending', rfl, hown, htokens'⟩ := lexes_of_scanFrom hscan
  rw [hbrackets] at htokens'
  obtain ⟨first, between, close, rfl, rfl, hfirst, hclose, hbetween⟩ :=
    exists_cells htokens'.symm hlast
  have hinserted := hlexes.insert hown (hfirst.trans hleft) (hclose.trans hright)
  have hlaid : spread (done ++ ({ first with gap := cell.gap ++ first.gap } :: between ++
      close :: { cell with gap := [] } :: rest)) ending =
      spread done cell.gap ++ spread (first :: between ++ [close]) [] ++
        (cell.text ++ spread rest ending) := by
    simp only [spread_append, spread, List.cons_append, List.nil_append, List.append_assoc,
      ← spread_eq_append]
  rw [← hlaid] at htext'
  obtain ⟨docs, hscan'⟩ := @scanFrom_of_lexes path {} none _ _ hinserted
  rw [← htext'.scan] at hscan'
  refine ⟨_, hscan', ?_⟩
  rw [map_lexeme_tokensFrom]
  simp only [List.map_append, hdone, hrest]
  simp only [List.map_cons, List.map_nil, hfirst, hclose, hbetween, List.append_assoc,
    List.cons_append, List.nil_append]

end RelaxCompact
