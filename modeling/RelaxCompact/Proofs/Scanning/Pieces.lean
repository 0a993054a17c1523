import Mathlib.Data.List.TakeWhile
import RelaxCompact.Proofs.Run
import RelaxCompact.Token.Lexer

/-!
Lexemes as they stand in a text, and what may follow them. The lexer looks ahead by two characters
at most, so what follows a lexeme may be changed as long as it begins alike, or with a blank or a
comment.
-/

namespace RelaxCompact

/-- How a lexeme stands in a text. The end of a file stands nowhere. -/
inductive Lexeme.Stands : Lexeme → List Char → Prop
  | identifier {name : String} :
    Keyword.ofName? name = none → Stands (.identifier name) name.toList
  | escaped {name : String} : Stands (.identifier name) ('\\' :: name.toList)
  | prefixedName {qualifier localName : String} :
    Stands (.prefixedName qualifier localName) (qualifier.toList ++ ':' :: localName.toList)
  | nsName {qualifier : String} : Stands (.nsName qualifier) (qualifier.toList ++ [':', '*'])
  | literal {d : Lexer.Delimiter} {items : List Lexer.LiteralItem} :
    d.quote = '\"' ∨ d.quote = '\'' →
    Stands (.literal (items.map Lexer.LiteralItem.point))
      (d.spelling ++ items.flatMap Lexer.LiteralItem.spelling ++ d.spelling)
  | keyword {k : Keyword} : Stands (.keyword k) k.spelling.toList
  | symbol {s : Symbol} : Stands (.symbol s) s.spelling

theorem Lexeme.Stands.ne_eof {l : Lexeme} {text : List Char} (h : l.Stands text) : l ≠ .eof := by
  rintro rfl
  cases h

namespace Lexer

open Run

/-- What follows a lexeme may become this: it begins alike, or with a blank, a comment or an opening
bracket, or nothing is left. -/
def Borders (rest rest' : List Char) : Prop :=
  rest'.head? = rest.head? ∨ ∀ c ∈ rest'.head?, (isGap c = true ∨ c = '#') ∨ c = '['

theorem Borders.of_gap {rest' : List Char} (rest : List Char)
    (h : ∀ c ∈ rest'.head?, isGap c = true ∨ c = '#') : Borders rest rest' :=
  .inr fun c hc => .inl (h c hc)

/-- What starts no comment and no annotation and is no blank stays out of reach. -/
theorem Borders.head_ne {rest rest' : List Char} (h : Borders rest rest') {c : Char}
    (hgap : isGap c = false) (hmark : c ≠ '#') (hbracket : c ≠ '[') (hc : rest.head? ≠ some c) :
    rest'.head? ≠ some c := by
  intro hc'
  rcases h with heq | hblank
  · exact hc (heq ▸ hc')
  · rcases hblank c hc' with (hg | rfl) | rfl
    · exact Bool.false_ne_true (hgap.symm.trans hg)
    · exact hmark rfl
    · exact hbracket rfl

theorem head?_ne {cs : List Char} {c : Char} (h : ∀ tail, cs = c :: tail → False) :
    cs.head? ≠ some c := by
  intro hhead
  obtain ⟨tail, hcs⟩ := List.head?_eq_some_iff.mp hhead
  exact h tail hcs

/-! Names -/

theorem not_isNameChar {c : Char} (h : (isGap c = true ∨ c = '#') ∨ c = '[') :
    isNameChar c = false := by
  rcases h with (h | rfl) | rfl
  · simp only [isGap, Bool.or_eq_true, decide_eq_true_eq] at h
    obtain ((rfl | rfl) | rfl) | rfl := h <;> decide
  · decide
  · decide

theorem isNameChar_of_isNameStart {c : Char} (h : isNameStart c = true) :
    isNameChar c = true := by
  simp only [isNameStart, Bool.or_eq_true] at h
  simp only [isNameChar, Bool.or_eq_true]
  obtain h | h := h
  · exact .inl (.inl (.inl (.inl h)))
  · exact .inl (.inl (.inr h))

/-- What starts a name starts no other piece, and is no byte order mark. -/
theorem start_of_isNameStart {c : Char} (h : isNameStart c = true) :
    isGap c = false ∧ c ≠ byteOrderMark ∧ c ≠ '#' ∧ ¬(c = '\"' ∨ c = '\'') ∧ c ≠ '\\' := by
  refine ⟨Bool.eq_false_iff.mpr fun hc => ?_, ?_, ?_, ?_, ?_⟩
  · simp only [isGap, Bool.or_eq_true, decide_eq_true_eq] at hc
    obtain ((rfl | rfl) | rfl) | rfl := hc <;> revert h <;> decide
  · rintro rfl
    revert h
    decide +kernel
  · rintro rfl
    revert h
    decide
  · rintro (rfl | rfl) <;> revert h <;> decide
  · rintro rfl
    revert h
    decide

theorem piece_of_isNameStart {c : Char} (h : isNameStart c = true) (cs : List Char) :
    piece c cs = .ok (namePiece (c :: cs)) := by
  obtain ⟨hg, -, hs, hq, hb⟩ := start_of_isNameStart h
  unfold piece
  rw [if_neg (by simp [hg]), if_neg hs, if_neg hq, if_neg hb, if_pos h]

theorem startsName_append {cs : List Char} (h : startsName cs = true) (rest : List Char) :
    startsName (cs ++ rest) = true := by
  cases cs with
  | nil => cases h
  | cons c cs => exact h

theorem startsName_takeWhile {cs : List Char} (h : startsName cs = true) :
    startsName (cs.takeWhile isNameChar) = true := by
  cases cs with
  | nil => cases h
  | cons c cs =>
    have hc : isNameStart c = true := h
    rw [List.takeWhile_cons_of_pos (isNameChar_of_isNameStart hc)]
    exact hc

/-- No character of a name stands here. -/
def Stops (rest : List Char) : Prop := ∀ c ∈ rest.head?, isNameChar c = false

theorem Borders.stops {rest rest' : List Char} (h : Borders rest rest') (hrest : Stops rest) :
    Stops rest' := by
  intro c hc
  rcases h with heq | hblank
  · exact hrest c (heq ▸ hc)
  · exact not_isNameChar (hblank c hc)

theorem stops_dropWhile (cs : List Char) : Stops (cs.dropWhile isNameChar) := by
  intro c hc
  have h := List.head?_dropWhile_not isNameChar cs
  rw [hc] at h
  exact h

theorem Stops.colon (rest : List Char) : Stops (':' :: rest) := by
  intro c hc
  cases hc
  decide

theorem Stops.blank (rest : List Char) : Stops (' ' :: rest) := by
  intro c hc
  cases hc
  decide

/-- A name ends where no character of a name stands. -/
theorem Stops.span {rest : List Char} (h : Stops rest) {name : List Char}
    (hname : ∀ c ∈ name, isNameChar c = true) :
    (name ++ rest).takeWhile isNameChar = name ∧ (name ++ rest).dropWhile isNameChar = rest := by
  rw [List.takeWhile_append_of_pos hname, List.dropWhile_append_of_pos hname]
  cases rest with
  | nil => exact ⟨List.append_nil _, rfl⟩
  | cons c rest =>
    have hc : ¬ isNameChar c = true := Bool.eq_false_iff.mp (h c rfl)
    rw [List.takeWhile_cons_of_neg hc, List.dropWhile_cons_of_neg hc]
    exact ⟨List.append_nil _, rfl⟩

section

variable {name localName rest : List Char} (hname : ∀ c ∈ name, isNameChar c = true)

include hname

theorem namePiece_of_stops (hrest : Stops rest) (hcolon : rest.head? ≠ some ':') :
    namePiece (name ++ rest) = .lexeme (namePiece.word name) name := by
  obtain ⟨htake, hdrop⟩ := hrest.span hname
  unfold namePiece
  simp only [htake, hdrop]
  split
  case h_1 => exact absurd rfl hcolon
  case h_2 => exact absurd rfl hcolon
  case h_3 => rfl

theorem namePiece_wildcard (rest : List Char) :
    namePiece (name ++ ':' :: '*' :: rest) =
      .lexeme (.nsName (String.ofList name)) (name ++ [':', '*']) := by
  obtain ⟨htake, hdrop⟩ := (Stops.colon ('*' :: rest)).span hname
  unfold namePiece
  simp only [htake, hdrop]

theorem namePiece_qualified (hlocal : ∀ c ∈ localName, isNameChar c = true)
    (hstarts : startsName localName = true) (hrest : Stops rest) :
    namePiece (name ++ ':' :: (localName ++ rest)) =
      .lexeme (.prefixedName (String.ofList name) (String.ofList localName))
        (name ++ ':' :: localName) := by
  obtain ⟨htake, hdrop⟩ := (Stops.colon (localName ++ rest)).span hname
  obtain ⟨htakeLocal, -⟩ := hrest.span hlocal
  cases localName with
  | nil => cases hstarts
  | cons c cs =>
    have hc : isNameStart c = true := hstarts
    have hstar : c ≠ '*' := by
      rintro rfl
      revert hc
      decide
    have hstarts' : startsName (c :: cs ++ rest) = true := hc
    unfold namePiece
    simp only [htake, hdrop]
    split
    case h_1 heq =>
      cases heq
      exact absurd rfl hstar
    case h_2 heq =>
      cases heq
      rw [if_pos hstarts', htakeLocal]
    case h_3 hne => exact absurd rfl (hne _)

end

theorem stands_word (name : List Char) : (namePiece.word name).Stands name := by
  unfold namePiece.word
  split
  case h_1 k hk =>
    unfold Keyword.ofName? at hk
    have hfound := List.find?_some hk
    have hspelling : k.spelling = String.ofList name := of_decide_eq_true hfound
    have hname : name = k.spelling.toList := by rw [hspelling, String.toList_ofList]
    rw [hname]
    exact .keyword
  case h_2 hk =>
    have hstands := Lexeme.Stands.identifier hk
    rwa [String.toList_ofList] at hstands

/-- A name is read without its neighbour being looked at, unless that is a colon. -/
theorem namePiece_local {cs text : List Char} {l : Lexeme} (hstart : startsName cs = true)
    (h : namePiece cs = .lexeme l text) :
    ∃ rest, cs = text ++ rest ∧ startsName text = true ∧ l.Stands text ∧
      (rest.head? ≠ some ':' → ∀ rest', Borders rest rest' →
        namePiece (text ++ rest') = .lexeme l text) := by
  have hsplit := List.takeWhile_append_dropWhile (p := isNameChar) (l := cs)
  have hname : ∀ c ∈ cs.takeWhile isNameChar, isNameChar c = true :=
    fun c hc => List.mem_takeWhile_imp hc
  have hstops := stops_dropWhile cs
  have hstart' := startsName_takeWhile hstart
  unfold namePiece at h
  dsimp only at h
  split at h
  case h_1 rest hdrop =>
    cases h
    rw [hdrop] at hsplit
    refine ⟨rest, by simp [hsplit], startsName_append hstart' _, ?_, fun _ rest' _ => ?_⟩
    · have hstands := @Lexeme.Stands.nsName (String.ofList (cs.takeWhile isNameChar))
      rwa [String.toList_ofList] at hstands
    · rw [List.append_assoc]
      exact namePiece_wildcard hname rest'
  case h_2 rest _ hdrop =>
    split at h
    case isTrue hstarts =>
      cases h
      rw [hdrop] at hsplit
      have hlocal : ∀ c ∈ rest.takeWhile isNameChar, isNameChar c = true :=
        fun c hc => List.mem_takeWhile_imp hc
      refine ⟨rest.dropWhile isNameChar, by simp [hsplit], startsName_append hstart' _, ?_,
        fun _ rest' hborders => ?_⟩
      · have hstands := @Lexeme.Stands.prefixedName (String.ofList (cs.takeWhile isNameChar))
          (String.ofList (rest.takeWhile isNameChar))
        rwa [String.toList_ofList, String.toList_ofList] at hstands
      · rw [List.append_assoc]
        exact namePiece_qualified hname hlocal (startsName_takeWhile hstarts)
          (hborders.stops (stops_dropWhile rest))
    case isFalse =>
      cases h
      exact ⟨':' :: rest, by rw [← hdrop, hsplit], hstart', stands_word _,
        fun hcolon => absurd rfl hcolon⟩
  case h_3 =>
    cases h
    refine ⟨_, hsplit.symm, hstart', stands_word _, fun hcolon rest' hborders => ?_⟩
    exact namePiece_of_stops hname (hborders.stops hstops)
      (hborders.head_ne (by decide) (by decide) (by decide) hcolon)

/-! Literals -/

namespace Delimiter

variable {d : Delimiter} {cs rest : List Char}

theorem spelling_eq_cons (d : Delimiter) : d.spelling = d.quote :: d.spelling.tail := by
  unfold spelling
  cases d.triple
  · rfl
  · rfl

theorem close?_eq_some : d.close? cs = some rest ↔ cs = d.spelling ++ rest := by
  unfold close?
  constructor
  · intro h
    split at h
    case isTrue hp =>
      obtain ⟨after, rfl⟩ := List.isPrefixOf_iff_prefix.mp hp
      rw [List.drop_left] at h
      cases h
      rfl
    case isFalse => cases h
  · rintro rfl
    rw [if_pos (List.isPrefixOf_iff_prefix.mpr (List.prefix_append _ _)), List.drop_left]

theorem close?_eq_none : d.close? cs = none ↔ ¬ d.spelling <+: cs := by
  unfold close?
  rw [← List.isPrefixOf_iff_prefix]
  split
  case isTrue h => simp [h]
  case isFalse h => simp [h]

/-- Whether a literal closes is decided by as many characters as its delimiter has. -/
theorem close?_of_later (inner rest' : List Char)
    (h : d.close? (inner ++ d.spelling ++ rest) = none) :
    d.close? (inner ++ d.spelling ++ rest') = none := by
  rw [close?_eq_none] at h ⊢
  intro hp
  have hlength : d.spelling.length ≤ (inner ++ d.spelling).length := by
    rw [List.length_append]
    exact Nat.le_add_left _ _
  have hinner := List.prefix_of_prefix_length_le hp (List.prefix_append _ _) hlength
  exact h (hinner.trans (List.prefix_append _ _))

/-- What stands before the end of a delimiter does not depend on what is behind it. -/
theorem head?_before (inner rest rest' : List Char) :
    (inner ++ d.spelling ++ rest).head? = (inner ++ d.spelling ++ rest').head? := by
  rw [d.spelling_eq_cons]
  simp [List.head?_append]

/-- A delimiter is read as it stands, if a single quote does not stand before two more. -/
theorem ofQuote_spelling {body : List Char} (h : d.triple = false → ¬ [d.quote, d.quote] <+: body) :
    ofQuote d.quote (d.spelling.tail ++ body) = d := by
  obtain ⟨quote, triple⟩ := d
  unfold ofQuote spelling
  congr 1
  cases triple with
  | false =>
    have hbody := h rfl
    rw [← List.isPrefixOf_iff_prefix] at hbody
    exact Bool.eq_false_iff.mpr hbody
  | true => simp [List.isPrefixOf]

theorem ofQuote_cases (quote : Char) (cs : List Char) :
    ∃ body, cs = (ofQuote quote cs).spelling.tail ++ body ∧
      ((ofQuote quote cs).triple = false → ¬ [quote, quote] <+: body) := by
  unfold ofQuote
  cases h : [quote, quote].isPrefixOf cs with
  | false =>
    rw [Bool.eq_false_iff, ne_eq, List.isPrefixOf_iff_prefix] at h
    exact ⟨cs, rfl, fun _ => h⟩
  | true =>
    obtain ⟨body, hbody⟩ := List.isPrefixOf_iff_prefix.mp h
    exact ⟨body, hbody.symm, fun htriple => Bool.noConfusion htriple⟩

end Delimiter

section

variable {d : Delimiter} {cs rest : List Char} {items : List LiteralItem} {c : Char}

theorem literalItems_close (rest : List Char) :
    literalItems d (d.spelling ++ rest) = .ok ([], rest) := by
  have hclose := Delimiter.close?_eq_some.mpr (Eq.refl (d.spelling ++ rest))
  rw [d.spelling_eq_cons, List.cons_append] at hclose ⊢
  rw [literalItems.eq_def]
  simp only [hclose]

/-- Puts an item in front of a literal that is read. -/
def consItem (item : LiteralItem) (read : List LiteralItem × List Char) :
    List LiteralItem × List Char :=
  (item :: read.1, read.2)

theorem literalItems_plain (hclose : d.close? (c :: cs) = none)
    (hn : ¬(c = '\n' ∧ (!d.triple) = true)) (hb : c ≠ '\\') :
    literalItems d (c :: cs) = (literalItems d cs).map (consItem (.plain c)) := by
  rw [literalItems.eq_def]
  simp only [hclose, if_neg hn, if_neg hb]
  cases literalItems d cs with
  | ok read => rfl
  | error fault => rfl

theorem literalItems_escaped (hclose : d.close? ('\\' :: c :: cs) = none)
    (hx : c = 'x' → cs.head? ≠ some '{') :
    literalItems d ('\\' :: c :: cs) = (literalItems d cs).map (consItem (.escaped c)) := by
  rw [literalItems.eq_def]
  simp only [hclose, show '\\' ≠ '\n' by decide, false_and, if_false, if_true]
  split
  case h_1 heq => cases heq
  case h_2 heq =>
    cases heq
    exact absurd rfl (hx rfl)
  case h_3 heq =>
    cases heq
    cases literalItems d cs with
    | ok read => rfl
    | error fault => rfl

theorem literalItems_coded {digits : List Char} (hd : '}' ∉ digits)
    (hclose : d.close? ('\\' :: 'x' :: '{' :: (digits ++ '}' :: cs)) = none) :
    literalItems d ('\\' :: 'x' :: '{' :: (digits ++ '}' :: cs)) =
      (codedPoint digits).bind fun point =>
        (literalItems d cs).map (consItem (.coded digits point)) := by
  have hall : ∀ c ∈ digits, (decide (c ≠ '}')) = true := by
    intro c hc
    exact decide_eq_true fun he => hd (he ▸ hc)
  have htake : (digits ++ '}' :: cs).takeWhile (· ≠ '}') = digits := by
    rw [List.takeWhile_append_of_pos hall, List.takeWhile_cons_of_neg (by simp)]
    exact List.append_nil _
  have hdrop : (digits ++ '}' :: cs).dropWhile (· ≠ '}') = '}' :: cs := by
    rw [List.dropWhile_append_of_pos hall, List.dropWhile_cons_of_neg (by simp)]
  rw [literalItems.eq_def]
  simp only [hclose, show '\\' ≠ '\n' by decide, false_and, if_false, if_true]
  split
  case h_1 heq =>
    rw [hdrop] at heq
    cases heq
  case h_2 heq =>
    rw [hdrop] at heq
    cases heq
    simp only [htake]
    cases codedPoint digits with
    | error fault => rfl
    | ok point =>
      cases literalItems d cs with
      | ok read => rfl
      | error fault => rfl

/-- The digits of an escape, the brace that closes it, and what follows. -/
theorem escape_eq {cs rest : List Char} {c : Char} (h : cs.dropWhile (· ≠ '}') = c :: rest) :
    cs = cs.takeWhile (· ≠ '}') ++ ['}'] ++ rest := by
  have hbrace : c = '}' := by
    have hne : cs.dropWhile (· ≠ '}') ≠ [] := h ▸ List.cons_ne_nil _ _
    have hhead := List.head_dropWhile_not (p := (· ≠ '}')) hne
    simp only [h, List.head_cons] at hhead
    simpa using hhead
  have hsplit := List.takeWhile_append_dropWhile (p := (· ≠ '}')) (l := cs)
  rw [h, hbrace] at hsplit
  rw [List.append_assoc]
  exact hsplit.symm

/-- A literal stands as it is written, and reading it does not look behind its delimiter. -/
theorem literalItems_local (h : literalItems d cs = .ok (items, rest)) :
    cs = items.flatMap LiteralItem.spelling ++ d.spelling ++ rest ∧
      ∀ rest', literalItems d (items.flatMap LiteralItem.spelling ++ d.spelling ++ rest') =
        .ok (items, rest') := by
  fun_induction literalItems d cs generalizing items rest with
  | case1 | case3 | case4 | case5 => cases h
  | case2 c cs after hclose =>
    cases h
    exact ⟨Delimiter.close?_eq_some.mp hclose, literalItems_close⟩
  | case6 cs' c after hdrop hlt digits hn hclose =>
    rename_i ih
    obtain ⟨point, hpoint, h⟩ := ok_of_bind h
    obtain ⟨⟨items', rest''⟩, hitems, h⟩ := ok_of_bind h
    cases h
    obtain ⟨hafter, hlocal⟩ := ih hitems
    have hbrace : '}' ∉ digits := by
      intro hd
      have hne := List.mem_takeWhile_imp hd
      exact of_decide_eq_true hne rfl
    have hsplit : '\\' :: 'x' :: '{' :: cs' =
        (LiteralItem.coded digits point :: items').flatMap LiteralItem.spelling ++ d.spelling ++
          rest := by
      rw [escape_eq hdrop, hafter]
      simp [LiteralItem.spelling, digits]
    refine ⟨hsplit, fun rest' => ?_⟩
    rw [hsplit] at hclose
    have hclose' := Delimiter.close?_of_later _ rest' hclose
    simp only [List.flatMap_cons, LiteralItem.spelling, List.append_assoc, List.cons_append,
      List.nil_append] at hclose' hlocal ⊢
    rw [literalItems_coded hbrace hclose', hpoint, hlocal rest']
    rfl
  | case7 e cs' hx hn hclose ih =>
    obtain ⟨⟨items', rest''⟩, hitems, h⟩ := ok_of_bind h
    cases h
    obtain ⟨hsplit, hlocal⟩ := ih hitems
    refine ⟨congrArg ('\\' :: e :: ·) hsplit, fun rest' => ?_⟩
    rw [hsplit] at hclose
    have hclose' :=
      Delimiter.close?_of_later ('\\' :: e :: items'.flatMap LiteralItem.spelling) rest' hclose
    have hnotCoded : e = 'x' →
        (items'.flatMap LiteralItem.spelling ++ d.spelling ++ rest').head? ≠ some '{' := by
      intro he hhead
      rw [Delimiter.head?_before _ rest' rest, ← hsplit] at hhead
      exact head?_ne (fun tail => hx tail he) hhead
    exact (literalItems_escaped hclose' hnotCoded).trans (congrArg (Except.map _) (hlocal rest'))
  | case8 c cs hclose hn hb ih =>
    obtain ⟨⟨items', rest''⟩, hitems, h⟩ := ok_of_bind h
    cases h
    obtain ⟨hsplit, hlocal⟩ := ih hitems
    refine ⟨congrArg (c :: ·) hsplit, fun rest' => ?_⟩
    rw [hsplit] at hclose
    have hclose' :=
      Delimiter.close?_of_later (c :: items'.flatMap LiteralItem.spelling) rest' hclose
    exact (literalItems_plain hclose' hn hb).trans (congrArg (Except.map _) (hlocal rest'))

theorem literalPiece_of_items {body : List Char}
    (hopen : d.triple = false → ¬ [d.quote, d.quote] <+: body)
    (h : literalItems d body = .ok (items, rest)) :
    literalPiece d.quote (d.spelling.tail ++ body) =
      .ok (.lexeme (.literal (items.map LiteralItem.point))
        (d.spelling ++ items.flatMap LiteralItem.spelling ++ d.spelling)) := by
  have hdrop : (d.quote :: (d.spelling.tail ++ body)).drop d.spelling.length = body := by
    rw [← List.cons_append, ← d.spelling_eq_cons, List.drop_left]
  unfold literalPiece
  simp only [Delimiter.ofQuote_spelling hopen, hdrop, h]
  rfl

/-- An opening quote still stands before no two more if what follows the literal is changed. -/
theorem opens_of_borders {inner rest' : List Char} (hquote : d.quote = '\"' ∨ d.quote = '\'')
    (hopen : ¬ [d.quote, d.quote] <+: inner ++ [d.quote] ++ rest) (hborders : Borders rest rest') :
    ¬ [d.quote, d.quote] <+: inner ++ [d.quote] ++ rest' := by
  intro hp
  cases inner with
  | nil =>
    have hmark : isGap d.quote = false ∧ d.quote ≠ '#' ∧ d.quote ≠ '[' := by
      rcases hquote with h | h
      · rw [h]
        decide
      · rw [h]
        decide
    have hhead : rest.head? ≠ some d.quote :=
      head?_ne fun tail htail => hopen (htail ▸ ⟨tail, rfl⟩)
    obtain ⟨cs, hcs⟩ := hp
    cases hcs
    exact hborders.head_ne hmark.1 hmark.2.1 hmark.2.2 hhead rfl
  | cons c inner =>
    have hlength : [d.quote, d.quote].length ≤ (c :: inner ++ [d.quote]).length := by simp
    have hinner := List.prefix_of_prefix_length_le hp (List.prefix_append _ _) hlength
    exact hopen (hinner.trans (List.prefix_append _ _))

/-- A literal is read without its neighbour being looked at, unless it is empty. -/
theorem literalPiece_local {quote : Char} {text : List Char} {l : Lexeme}
    (hquote : quote = '\"' ∨ quote = '\'') (h : literalPiece quote cs = .ok (.lexeme l text)) :
    ∃ inner rest, text = quote :: inner ∧ cs = inner ++ rest ∧ l.Stands text ∧
      ∀ rest', Borders rest rest' → literalPiece quote (inner ++ rest') = .ok (.lexeme l text) := by
  obtain ⟨body, hbody, hopen⟩ := Delimiter.ofQuote_cases quote cs
  set d := Delimiter.ofQuote quote cs with hd
  have hdquote : d.quote = quote := rfl
  obtain ⟨⟨items, rest⟩, hitems, h⟩ := ok_of_bind h
  cases h
  have hdrop : (quote :: cs).drop d.spelling.length = body := by
    rw [hbody, ← List.cons_append, ← hdquote, ← d.spelling_eq_cons, List.drop_left]
  rw [← hd, hdrop] at hitems
  obtain ⟨hinner, hlocal⟩ := literalItems_local hitems
  refine ⟨d.spelling.tail ++ (items.flatMap LiteralItem.spelling ++ d.spelling), rest, ?_, ?_,
    .literal hquote, fun rest' hborders => ?_⟩
  · rw [List.append_assoc]
    exact congrArg (· ++ (items.flatMap LiteralItem.spelling ++ d.spelling)) d.spelling_eq_cons
  · rw [hbody, hinner]
    simp only [List.append_assoc]
  · have hopen' : d.triple = false →
        ¬ [d.quote, d.quote] <+: items.flatMap LiteralItem.spelling ++ d.spelling ++ rest' := by
      intro htriple
      have hspelling : d.spelling = [d.quote] := by
        unfold Delimiter.spelling
        rw [htriple]
        rfl
      have hopen := hopen htriple
      rw [hinner, hspelling] at hopen
      rw [hspelling]
      exact opens_of_borders hquote hopen hborders
    rw [List.append_assoc]
    exact literalPiece_of_items hopen' (hlocal rest')

end

/-! Symbols -/

/-- What starts a symbol starts no other piece, and is no byte order mark. -/
theorem start_of_symbol (s : Symbol) : ∃ c cs, s.spelling = c :: cs ∧ isGap c = false ∧
    c ≠ byteOrderMark ∧ c ≠ '#' ∧ ¬(c = '\"' ∨ c = '\'') ∧ c ≠ '\\' ∧ isNameStart c = false := by
  cases s
  all_goals exact ⟨_, _, rfl, by decide⟩

theorem read?_pipe {rest : List Char} (h : rest.head? ≠ some '=') :
    Symbol.read? ('|' :: rest) = some .pipe := by
  unfold Symbol.read?
  split
  all_goals simp_all

theorem read?_ampersand {rest : List Char} (h : rest.head? ≠ some '=') :
    Symbol.read? ('&' :: rest) = some .ampersand := by
  unfold Symbol.read?
  split
  all_goals simp_all

/-- Only the sign that makes a symbol a longer one decides whether it is read. -/
theorem read?_local {cs : List Char} {s : Symbol} (h : Symbol.read? cs = some s) :
    ∃ rest, cs = s.spelling ++ rest ∧
      ∀ rest', Borders rest rest' → Symbol.read? (s.spelling ++ rest') = some s := by
  unfold Symbol.read? at h
  split at h
  case h_4 rest hassign =>
    cases h
    refine ⟨rest, rfl, fun rest' hborders => ?_⟩
    exact read?_pipe (hborders.head_ne (by decide) (by decide) (by decide) (head?_ne hassign))
  case h_5 rest hassign =>
    cases h
    refine ⟨rest, rfl, fun rest' hborders => ?_⟩
    exact read?_ampersand (hborders.head_ne (by decide) (by decide) (by decide) (head?_ne hassign))
  all_goals cases h
  all_goals exact ⟨_, rfl, fun _ _ => rfl⟩

end Lexer

/-- A text is read as a lexeme where something follows it. -/
def Lexeme.Reads (l : Lexeme) (text rest : List Char) : Prop :=
  ∃ c inner, text = c :: inner ∧ Lexer.piece c (inner ++ rest) = .ok (.lexeme l text)

namespace Lexer

/-! Pieces -/

section

variable {rest : List Char} {l : Lexeme}

theorem reads_escaped {name : List Char} (hstarts : startsName name = true)
    (hname : ∀ c ∈ name, isNameChar c = true) (hstops : Stops rest) :
    (Lexeme.identifier (String.ofList name)).Reads ('\\' :: name) rest := by
  refine ⟨'\\', name, rfl, ?_⟩
  unfold piece
  rw [if_neg (by decide), if_neg (by decide), if_neg (by decide), if_pos rfl,
    if_pos (startsName_append hstarts rest)]
  simp only [(hstops.span hname).1]

theorem reads_name {text : List Char} (hstarts : startsName text = true)
    (h : namePiece (text ++ rest) = .lexeme l text) : l.Reads text rest := by
  cases text with
  | nil => cases hstarts
  | cons c inner =>
    refine ⟨c, inner, rfl, ?_⟩
    rw [piece_of_isNameStart hstarts]
    exact congrArg _ h

theorem reads_symbol {s : Symbol} (h : Symbol.read? (s.spelling ++ rest) = some s) :
    (Lexeme.symbol s).Reads s.spelling rest := by
  obtain ⟨c, cs, hspelling, hgap, -, hmark, hquote, hescape, hname⟩ := start_of_symbol s
  refine ⟨c, cs, hspelling, ?_⟩
  rw [hspelling, List.cons_append] at h
  unfold piece
  rw [if_neg (Bool.eq_false_iff.mp hgap), if_neg hmark, if_neg hquote, if_neg hescape,
    if_neg (Bool.eq_false_iff.mp hname), h]

theorem piece_colon (cs : List Char) : piece ':' cs = .error (.unexpected ':') := by
  unfold piece
  rw [if_neg (by decide), if_neg (by decide), if_neg (by decide), if_neg (by decide),
    if_neg (by decide)]
  rfl

theorem piece_byteOrderMark (cs : List Char) :
    piece byteOrderMark cs = .error (.unexpected byteOrderMark) := by
  unfold piece
  rw [if_neg (by decide), if_neg (by decide), if_neg (by decide), if_neg (by decide),
    if_neg (by decide +kernel)]
  rfl

/-- A lexeme stands as it is read, and is still read if what borders on it is changed. -/
theorem reads_of_piece {c : Char} {cs text : List Char}
    (h : piece c cs = .ok (.lexeme l text)) :
    ∃ inner rest, text = c :: inner ∧ cs = inner ++ rest ∧ l.Stands text ∧
      (rest.head? ≠ some ':' → ∀ rest', Borders rest rest' → l.Reads text rest') := by
  unfold piece at h
  split at h
  case isTrue => cases h
  case isFalse hgap =>
  split at h
  case isTrue => cases h
  case isFalse hmark =>
  split at h
  case isTrue hquote =>
    obtain ⟨inner, rest, rfl, rfl, hstands, hlocal⟩ := literalPiece_local hquote h
    refine ⟨inner, rest, rfl, rfl, hstands, fun _ rest' hborders => ⟨c, inner, rfl, ?_⟩⟩
    unfold piece
    rw [if_neg hgap, if_neg hmark, if_pos hquote]
    exact hlocal rest' hborders
  case isFalse =>
  split at h
  case isTrue hescape =>
    split at h
    case isTrue hstarts =>
      cases h
      have hname : ∀ c ∈ cs.takeWhile isNameChar, isNameChar c = true :=
        fun c hc => List.mem_takeWhile_imp hc
      have hstands := @Lexeme.Stands.escaped (String.ofList (cs.takeWhile isNameChar))
      rw [String.toList_ofList] at hstands
      refine ⟨_, cs.dropWhile isNameChar, rfl, List.takeWhile_append_dropWhile.symm, ?_,
        fun _ rest' hborders => ?_⟩
      · rw [hescape]
        exact hstands
      · rw [hescape]
        exact reads_escaped (startsName_takeWhile hstarts) hname
          (hborders.stops (stops_dropWhile cs))
    case isFalse => cases h
  case isFalse =>
  split at h
  case isTrue hstart =>
    obtain ⟨rest, hsplit, hstarts, hstands, hlocal⟩ :=
      @namePiece_local (c :: cs) text l hstart (Except.ok.inj h)
    cases text with
    | nil => cases hstarts
    | cons c' inner =>
      cases hsplit
      refine ⟨inner, rest, rfl, rfl, hstands, fun hcolon rest' hborders => ?_⟩
      exact reads_name hstarts (hlocal hcolon rest' hborders)
  case isFalse =>
  split at h
  case h_1 s hs =>
    cases h
    obtain ⟨rest, hsplit, hlocal⟩ := read?_local hs
    obtain ⟨c', inner, hspelling, -⟩ := start_of_symbol s
    rw [hspelling] at hsplit
    cases hsplit
    exact ⟨inner, rest, hspelling, rfl, .symbol,
      fun _ rest' hborders => reads_symbol (hlocal rest' hborders)⟩
  case h_2 => cases h

end

end Lexer

namespace Lexeme.Reads

variable {l : Lexeme} {text rest : List Char} (h : l.Reads text rest)

include h

theorem stands : l.Stands text := by
  obtain ⟨c, inner, rfl, hpiece⟩ := h
  obtain ⟨_, _, -, -, hstands, -⟩ := Lexer.reads_of_piece hpiece
  exact hstands

/-- A colon behind a lexeme starts no piece, so nothing is lost by leaving it out. -/
theorem borders {rest' : List Char} (hcolon : rest.head? ≠ some ':')
    (hborders : Lexer.Borders rest rest') : l.Reads text rest' := by
  obtain ⟨c, inner, rfl, hpiece⟩ := h
  obtain ⟨inner', rest₁, hinner, hrest, -, hlocal⟩ := Lexer.reads_of_piece hpiece
  cases hinner
  cases List.append_cancel_left hrest
  exact hlocal hcolon rest' hborders

end Lexeme.Reads

end RelaxCompact
