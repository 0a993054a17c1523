import RelaxCompact.Proofs.Printing.Spelling
import RelaxCompact.Proofs.Scanning.Layout
import RelaxCompact.Proofs.Scanning.Sources

/-! Scanning the text of lexemes gives the lexemes back, and what is scanned has names. -/

namespace RelaxCompact

/-! Lexemes with blanks between them, however each of them is written. -/

section

open Lexer

variable (write : Lexeme → List Char)

/-- The cells of lexemes, each written behind a blank. -/
def cellsBehind (ls : List Lexeme) : List Cell := ls.map fun l => ⟨[' '], l, write l⟩

/-- The cells of lexemes that are written with single blanks between them. -/
def spacedCells : List Lexeme → List Cell
  | [] => []
  | l :: ls => ⟨[], l, write l⟩ :: cellsBehind write ls

theorem map_lexeme_spacedCells (ls : List Lexeme) :
    (spacedCells write ls).map Cell.lexeme = ls := by
  cases ls with
  | nil => rfl
  | cons l ls =>
    simp only [spacedCells, cellsBehind, List.map_cons, List.map_map, List.cons.injEq, true_and]
    exact List.map_id _

theorem borders_cellsBehind (ls : List Lexeme) {last : List Char} (hlast : Spacing last) :
    Borders [' '] (spread (cellsBehind write ls) last) := by
  cases ls with
  | nil => exact .of_gap _ hlast.head
  | cons => exact .inl rfl

variable {write} {ls : List Lexeme} {last : List Char}

theorem lexes_cellsBehind (hw : ∀ l ∈ ls, l.Reads (write l) [' ']) (hlast : Spacing last) :
    Lexes (cellsBehind write ls) last := by
  induction ls with
  | nil => exact .last (.spacing hlast)
  | cons l ls ih =>
    obtain ⟨hl, hls⟩ := List.forall_mem_cons.mp hw
    have hreads := hl.borders (by simp) (borders_cellsBehind write ls hlast)
    exact .cell (.blank (by simp) .nil) hreads (ih hls)

theorem lexes_spacedCells (hw : ∀ l ∈ ls, l.Reads (write l) [' ']) (hlast : Spacing last) :
    Lexes (spacedCells write ls) last := by
  cases ls with
  | nil => exact .last (.spacing hlast)
  | cons l ls =>
    obtain ⟨hl, hls⟩ := List.forall_mem_cons.mp hw
    have hreads := hl.borders (by simp) (borders_cellsBehind write ls hlast)
    exact .cell .nil hreads (lexes_cellsBehind hls hlast)

theorem scan_spacedCells (path : Text) (hw : ∀ l ∈ ls, l.Reads (write l) [' '])
    (hlast : Spacing last) :
    ∃ scanned,
      (Source.text (.ofChars (spread (spacedCells write ls) last))).scan path = .ok scanned ∧
      scanned.tokens.map Token.lexeme = ls ++ [Lexeme.eof] := by
  have hlexes := lexes_spacedCells hw hlast
  obtain ⟨docs, hscan⟩ := @scanFrom_of_lexes path {} none _ _ hlexes
  have htext := @Source.spells_text path _ (hlexes.head?_ne piece_byteOrderMark)
  refine ⟨_, htext.scan.trans hscan, ?_⟩
  rw [map_lexeme_tokensFrom, map_lexeme_spacedCells]

end

namespace Lexer

theorem reads_word {name : String} (h : isName name = true) :
    (namePiece.word name.toList).Reads name.toList [' '] := by
  obtain ⟨hstarts, hname⟩ := startsName_of_isName h
  exact reads_name hstarts (namePiece_of_stops hname (Stops.blank []) (by simp))

/-- A lexeme is read as it is spelled, if a blank follows. -/
theorem reads_spelling {l : Lexeme} (hl : l.writable = true) : l.Reads l.spelling [' '] := by
  obtain ⟨hn, he⟩ := Bool.and_eq_true_iff.mp hl
  cases l with
  | identifier name =>
    obtain ⟨hstarts, hname⟩ := startsName_of_isName hn
    cases hk : Keyword.ofName? name with
    | none =>
      have hspelling : (Lexeme.identifier name).spelling = name.toList := by
        simp [Lexeme.spelling, hk]
      rw [hspelling, ← word_of_ofName?_eq_none hk]
      exact reads_word hn
    | some k =>
      have hspelling : (Lexeme.identifier name).spelling = '\\' :: name.toList := by
        simp [Lexeme.spelling, hk]
      have hreads := reads_escaped hstarts hname (Stops.blank [])
      rwa [String.ofList_toList, ← hspelling] at hreads
  | prefixedName qualifier localName =>
    obtain ⟨hq, hl⟩ := Bool.and_eq_true_iff.mp hn
    obtain ⟨hstarts, hqualifier⟩ := startsName_of_isName hq
    obtain ⟨hstarts', hlocal⟩ := startsName_of_isName hl
    have hpiece := namePiece_qualified hqualifier hlocal hstarts' (Stops.blank [])
    rw [String.ofList_toList, String.ofList_toList] at hpiece
    refine reads_name (startsName_append hstarts _) ?_
    rw [Lexeme.spelling, List.append_assoc]
    exact hpiece
  | nsName qualifier =>
    obtain ⟨hstarts, hqualifier⟩ := startsName_of_isName hn
    have hpiece := namePiece_wildcard hqualifier [' ']
    rw [String.ofList_toList] at hpiece
    refine reads_name (startsName_append hstarts _) ?_
    rw [Lexeme.spelling, List.append_assoc]
    exact hpiece
  | literal value => exact reads_literal quotable_literalItem point_literalItem value (by simp)
  | keyword k =>
    have hreads := reads_word k.isName_spelling
    rwa [word_of_ofName?_eq_some k.ofName?_spelling] at hreads
  | symbol s =>
    refine reads_symbol ?_
    cases s <;> rfl
  | eof => cases he

theorem spread_spelling (ls : List Lexeme) :
    spread (cellsBehind Lexeme.spelling ls) [' '] = ' ' :: spellAll ls := by
  induction ls with
  | nil => rfl
  | cons l ls ih =>
    change [' '] ++ (l.spelling ++ spread (cellsBehind Lexeme.spelling ls) [' ']) = _
    rw [ih]
    simp [spellAll]

/-- Scanning the text of lexemes gives the lexemes back. -/
theorem scan_spellAll (path : Text) {ls : List Lexeme} (hw : ∀ l ∈ ls, l.writable = true) :
    ∃ scanned, (Source.text (.ofChars (spellAll ls))).scan path = .ok scanned ∧
      scanned.tokens.map Token.lexeme = ls ++ [Lexeme.eof] := by
  have hreads : ∀ l ∈ ls, l.Reads l.spelling [' '] := fun l hl => reads_spelling (hw l hl)
  cases ls with
  | nil => exact scan_spacedCells path hreads .nil
  | cons l ls =>
    have htext : spread (spacedCells Lexeme.spelling (l :: ls)) [' '] = spellAll (l :: ls) := by
      change l.spelling ++ spread (cellsBehind Lexeme.spelling ls) [' '] = _
      rw [spread_spelling]
      simp [spellAll]
    rw [← htext]
    exact scan_spacedCells path hreads (.blank (by simp) .nil)

/-! Names of tokens -/

theorem isName_takeWhile {cs : List Char} (h : startsName cs = true) :
    isName (String.ofList (cs.takeWhile isNameChar)) = true := by
  cases cs with
  | nil => cases h
  | cons c cs =>
    have hc : isNameStart c = true := h
    rw [isName, String.toList_ofList, List.takeWhile_cons_of_pos (isNameChar_of_isNameStart hc),
      Bool.and_eq_true]
    refine ⟨hc, ?_⟩
    rw [List.all_cons, isNameChar_of_isNameStart hc, Bool.true_and]
    exact List.all_takeWhile

/-- The lexeme of a piece, if it has one, is named. -/
def Piece.Named : Piece → Prop
  | .lexeme value _ => value.named = true
  | _ => True

theorem named_word {cs : List Char} (h : isName (String.ofList cs) = true) (spelling : List Char) :
    (Piece.lexeme (namePiece.word cs) spelling).Named := by
  unfold namePiece.word
  split
  case h_1 => rfl
  case h_2 => exact h

theorem named_namePiece {cs : List Char} (h : startsName cs = true) : (namePiece cs).Named := by
  have hname := isName_takeWhile h
  unfold namePiece
  dsimp only
  split
  case h_1 => exact hname
  case h_2 rest _ =>
    split
    case isTrue hr => exact Bool.and_eq_true_iff.mpr ⟨hname, isName_takeWhile hr⟩
    case isFalse => exact named_word hname _
  case h_3 => exact named_word hname _

theorem named_piece {c : Char} {cs : List Char} {next : Piece} (h : piece c cs = .ok next) :
    next.Named := by
  unfold piece at h
  split at h
  case isTrue => cases h; trivial
  split at h
  case isTrue => cases h; trivial
  split at h
  case isTrue =>
    unfold literalPiece at h
    cases hi : literalItems (Delimiter.ofQuote c cs)
        ((c :: cs).drop (Delimiter.ofQuote c cs).spelling.length) with
    | error e =>
      simp only [hi] at h
      cases h
    | ok items =>
      simp only [hi] at h
      cases h
      rfl
  split at h
  case isTrue =>
    split at h
    case isTrue hs => cases h; exact isName_takeWhile hs
    case isFalse => cases h
  split at h
  case isTrue hs => cases h; exact named_namePiece hs
  split at h
  case h_1 => cases h; rfl
  case h_2 => cases h

/-- All that is scanned is named. -/
theorem named_scan {source : Source} {path : Text} {scanned : Scanned}
    (h : source.scan path = .ok scanned) : ∀ t ∈ scanned.tokens, t.lexeme.named = true := by
  obtain ⟨text, htext⟩ := Source.exists_spells h
  rw [htext.scan] at h
  obtain ⟨cells, last, -, hlexes, htokens⟩ := lexes_of_scanFrom h
  intro t ht
  rw [htokens] at ht
  rcases List.mem_append.mp ht with ht | ht
  · obtain ⟨cell, hcell, hlexeme⟩ := lexeme_of_mem_cellTokens ht
    obtain ⟨-, rest, c, inner, -, hpiece⟩ := hlexes.mem cell hcell
    rw [hlexeme]
    exact named_piece hpiece
  · cases List.mem_singleton.mp ht
    rfl

end Lexer

end RelaxCompact
