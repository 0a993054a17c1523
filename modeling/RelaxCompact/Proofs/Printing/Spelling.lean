import Mathlib
import RelaxCompact.Proofs.Printing.Printer
import RelaxCompact.Proofs.Scanning.Numerals
import RelaxCompact.Proofs.Scanning.Pieces

/-! The lexer reads names and literals back as they are spelled, whatever has to be escaped. -/

namespace RelaxCompact

/-! Code points -/

theorem CodePoint.toChar?_ofChar (c : Char) : (CodePoint.ofChar c).toChar? = some c := by
  unfold toChar?
  rw [dif_pos (show (ofChar c).val.isValidChar from c.valid)]
  rfl

theorem CodePoint.ofChar_of_toChar? {p : CodePoint} {c : Char} (h : p.toChar? = some c) :
    CodePoint.ofChar c = p := by
  unfold toChar? at h
  split at h
  case isTrue hp =>
    cases h
    rfl
  case isFalse => cases h

/-- What is no character is a surrogate, so it has four digits of which the first is `d`. -/
theorem CodePoint.eq_of_toChar?_eq_none {p : CodePoint} (h : p.toChar? = none) :
    p.val / 4096 = 13 := by
  unfold toChar? at h
  split at h
  case isTrue => cases h
  case isFalse hp =>
    have hlt := p.isLt
    simp only [Nat.isValidChar, not_or, not_and] at hp
    omega

theorem Text.toChars?_ofChars (cs : List Char) : (Text.ofChars cs).toChars? = some cs := by
  induction cs with
  | nil => rfl
  | cons c cs ih =>
    change ((ofChars cs).cons (.ofChar c)).mapM CodePoint.toChar? = _
    rw [List.mapM_cons, CodePoint.toChar?_ofChar]
    change (some c >>= fun c => toChars? (ofChars cs) >>= fun cs => pure (c :: cs)) = _
    rw [ih]
    rfl

/-! Keywords -/

theorem Keyword.isName_spelling (k : Keyword) : Lexer.isName k.spelling = true := by
  cases k <;> decide

theorem Keyword.ofName?_spelling (k : Keyword) : ofName? k.spelling = some k := by
  cases k <;> decide

namespace Lexer

/-! Names -/

theorem startsName_of_isName {name : String} (h : isName name = true) :
    startsName name.toList = true ∧ ∀ c ∈ name.toList, isNameChar c = true := by
  obtain ⟨hs, ha⟩ := Bool.and_eq_true_iff.mp h
  exact ⟨hs, List.all_eq_true.mp ha⟩

theorem word_of_ofName?_eq_some {name : String} {k : Keyword} (h : Keyword.ofName? name = some k) :
    namePiece.word name.toList = .keyword k := by
  unfold namePiece.word
  rw [String.ofList_toList, h]

theorem word_of_ofName?_eq_none {name : String} (h : Keyword.ofName? name = none) :
    namePiece.word name.toList = .identifier name := by
  unfold namePiece.word
  rw [String.ofList_toList, h]

/-! Literals -/

theorem point_literalItem (p : CodePoint) : (literalItem p).point = p := by
  unfold literalItem
  split
  case h_1 => rfl
  case h_2 c hc =>
    rw [← CodePoint.ofChar_of_toChar? hc]
    split
    case isTrue hn =>
      subst hn
      rfl
    case isFalse hn =>
      split
      case isTrue hq => obtain rfl | rfl := hq <;> rfl
      case isFalse => rfl

theorem hexDigit_hexDigit (d : Fin 16) : HexDigit (hexDigit d) d := by
  unfold HexDigit
  revert d
  decide

/-- A surrogate has four digits. -/
theorem hexadecimal_surrogateDigits {p : CodePoint} (h : p.toChar? = none) :
    Hexadecimal (surrogateDigits p) p.val := by
  have hp := CodePoint.eq_of_toChar?_eq_none h
  have hdigit (n : Nat) (hn : n < 16) : HexDigit (hexDigit n) n := hexDigit_hexDigit ⟨n, hn⟩
  have hvalue : ((p.val / 4096 * 16 + p.val / 256 % 16) * 16 + p.val / 16 % 16) * 16 + p.val % 16 =
      p.val := by omega
  have hdigits : Hexadecimal (surrogateDigits p)
      (((p.val / 4096 * 16 + p.val / 256 % 16) * 16 + p.val / 16 % 16) * 16 + p.val % 16) :=
    .more (.more (.more (.digit (hdigit _ (by omega))) (hdigit _ (by omega)))
      (hdigit _ (by omega))) (hdigit _ (by omega))
  rwa [hvalue] at hdigits

/-- The delimiter of literals as they are printed. -/
def quoted : Delimiter := ⟨'\"', false⟩

section

variable {cs rest : List Char} {items : List LiteralItem}

theorem close?_quoted (c : Char) (cs : List Char) :
    quoted.close? (c :: cs) = if c = '\"' then some cs else none := by
  unfold Delimiter.close?
  by_cases h : c = '\"'
  · subst h
    rfl
  · have : quoted.spelling.isPrefixOf (c :: cs) = false := by
      simp [quoted, Delimiter.spelling, List.isPrefixOf, Ne.symm h]
    rw [this, if_neg h]
    rfl

theorem close?_escape (cs : List Char) : quoted.close? ('\\' :: cs) = none := by
  rw [close?_quoted, if_neg (by decide)]

end

/-- An item that may stand anywhere between double quotes. -/
structure Quotable (item : LiteralItem) : Prop where
  reads {cs rest : List Char} {items : List LiteralItem} :
    literalItems quoted cs = .ok (items, rest) →
      literalItems quoted (item.spelling ++ cs) = .ok (item :: items, rest)
  head : item.spelling.head? ≠ some '\"'
  ne_nil : item.spelling ≠ []

theorem quotable_plain {c : Char} (hq : c ≠ '\"') (hn : c ≠ '\n') (hb : c ≠ '\\') :
    Quotable (.plain c) where
  reads h :=
    (literalItems_plain (by rw [close?_quoted, if_neg hq]) (fun hline => hn hline.1) hb).trans
      (congrArg (Except.map _) h)
  head hc := hq (Option.some.inj hc)
  ne_nil := List.cons_ne_nil _ _

theorem quotable_escaped {c : Char} (hx : c ≠ 'x') : Quotable (.escaped c) where
  reads h :=
    (literalItems_escaped (close?_escape _) fun hc => absurd hc hx).trans
      (congrArg (Except.map _) h)
  head hc := nomatch hc
  ne_nil := List.cons_ne_nil _ _

theorem quotable_coded {digits : List Char} {p : CodePoint} (h : Hexadecimal digits p.val) :
    Quotable (.coded digits p) where
  reads {cs rest items} hcs := by
    have hspelling : (LiteralItem.coded digits p).spelling ++ cs =
        '\\' :: 'x' :: '{' :: (digits ++ '}' :: cs) := by
      simp [LiteralItem.spelling]
    rw [hspelling, literalItems_coded (not_brace_of_hexadecimal h) (close?_escape _),
      codedPoint_hexadecimal h, hcs]
    rfl
  head hc := nomatch hc
  ne_nil := List.cons_ne_nil _ _

/-- The item of a code point is read as it is written. -/
theorem quotable_literalItem (p : CodePoint) : Quotable (literalItem p) := by
  unfold literalItem
  split
  case h_1 hp => exact quotable_coded (hexadecimal_surrogateDigits hp)
  case h_2 c hc =>
    split
    case isTrue => exact quotable_escaped (by decide)
    case isFalse hn =>
      split
      case isTrue hq =>
        refine quotable_escaped ?_
        obtain rfl | rfl := hq <;> decide
      case isFalse hq =>
        rw [not_or] at hq
        exact quotable_plain hq.1 hn hq.2

section

variable {items : List LiteralItem} (h : ∀ item ∈ items, Quotable item)

include h

theorem literalItems_quotable (rest : List Char) :
    literalItems quoted (items.flatMap LiteralItem.spelling ++ '\"' :: rest) =
      .ok (items, rest) := by
  induction items with
  | nil => exact literalItems_close rest
  | cons item items ih =>
    obtain ⟨hitem, hitems⟩ := List.forall_mem_cons.mp h
    rw [List.flatMap_cons, List.append_assoc]
    exact hitem.reads (ih hitems)

/-- An empty literal is followed by no quote, and no quote stands in another one. -/
theorem opens_quotable {rest : List Char} (hrest : rest.head? ≠ some '\"') :
    ¬ ['\"', '\"'] <+: items.flatMap LiteralItem.spelling ++ '\"' :: rest := by
  rintro ⟨tail, htail⟩
  cases items with
  | nil =>
    cases htail
    exact hrest rfl
  | cons item items =>
    obtain ⟨-, hhead, hne⟩ := h item List.mem_cons_self
    cases hspelling : item.spelling with
    | nil => exact hne hspelling
    | cons c cs =>
      rw [List.flatMap_cons, hspelling] at htail
      have hc : '\"' = c := List.head_eq_of_cons_eq htail
      exact hhead (by rw [hspelling, hc]; rfl)

/-- A literal between double quotes is read, if no quote follows it. -/
theorem literalPiece_quotable {rest : List Char} (hrest : rest.head? ≠ some '\"') :
    literalPiece '\"' (items.flatMap LiteralItem.spelling ++ '\"' :: rest) =
      .ok (.lexeme (.literal (items.map LiteralItem.point))
        ('\"' :: (items.flatMap LiteralItem.spelling ++ ['\"']))) :=
  literalPiece_of_items (fun _ => opens_quotable h hrest) (literalItems_quotable h rest)

end

/-- A literal is read if each of its code points is written as some item for it. -/
theorem reads_literal {item : CodePoint → LiteralItem} (hitem : ∀ p, Quotable (item p))
    (hpoint : ∀ p, (item p).point = p) (value : Text) {rest : List Char}
    (hrest : rest.head? ≠ some '\"') :
    (Lexeme.literal value).Reads
      ('\"' :: (value.flatMap (fun p => (item p).spelling) ++ ['\"'])) rest := by
  have hitems : (value.map item).map LiteralItem.point = value := by
    rw [List.map_map]
    exact (List.map_congr_left fun p _ => hpoint p).trans (List.map_id _)
  have hquotable : ∀ i ∈ value.map item, Quotable i := List.forall_mem_map.mpr fun p _ => hitem p
  have hpiece := literalPiece_quotable hquotable hrest
  rw [hitems, List.flatMap_map] at hpiece
  refine ⟨'\"', _, rfl, ?_⟩
  unfold piece
  rw [if_neg (by decide), if_neg (by decide), if_pos (.inl rfl), List.append_assoc]
  exact hpiece

end Lexer

end RelaxCompact
