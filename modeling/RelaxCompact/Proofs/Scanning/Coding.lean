import RelaxCompact.Proofs.Scanning.Integers
import RelaxCompact.Proofs.Scanning.Unclosed

/-!
Code points by their numbers. A literal that holds an escape is read only if what stands between the
braces denotes the number of a code point, which is then what the escape contributes. Every other
escape is refused where the literal opens, unless a number is beyond 32 bits.
-/

namespace RelaxCompact

open Lexer

namespace Lexer

/-- What stands in a literal between its opening delimiter and one of its escapes: plain characters
that do not close it, and whole escapes. -/
inductive Within (d : Delimiter) : List Char → Prop
  | nil : Within d []
  | plain {c : Char} {inner : List Char} :
    ¬ d.spelling <+: c :: inner → ¬(c = '\n' ∧ d.triple = false) → c ≠ '\\' →
      Within d inner → Within d (c :: inner)
  | escaped {c : Char} {inner : List Char} :
    (c = 'x' → inner.head? ≠ some '{') → Within d inner → Within d ('\\' :: c :: inner)
  | coded {digits inner : List Char} :
    '}' ∉ digits → Within d inner → Within d ('\\' :: 'x' :: '{' :: (digits ++ '}' :: inner))

/-- The code points that a part of a literal contributes. -/
inductive Contributes : List Char → List CodePoint → Prop
  | nil : Contributes [] []
  | plain {c : Char} {cs : List Char} {value : List CodePoint} :
    c ≠ '\\' → Contributes cs value → Contributes (c :: cs) (.ofChar c :: value)
  | escaped {c : Char} {cs : List Char} {value : List CodePoint} :
    (c = 'x' → cs.head? ≠ some '{') → Contributes cs value →
      Contributes ('\\' :: c :: cs) ((LiteralItem.escaped c).point :: value)
  | coded {digits cs : List Char} {p : CodePoint} {value : List CodePoint} :
    '}' ∉ digits → Integer.Denotes digits p.val → Contributes cs value →
      Contributes ('\\' :: 'x' :: '{' :: (digits ++ '}' :: cs)) (p :: value)

/-- An escape with what stands between its braces. -/
def escape (digits : List Char) : List Char := '\\' :: 'x' :: '{' :: (digits ++ ['}'])

/-! Numbers of code points -/

theorem ofInt?_eq_some {i : Int} {p : CodePoint} :
    CodePoint.ofInt? i = some p ↔ i = p.val := by
  have hlt := p.isLt
  unfold CodePoint.ofInt?
  constructor
  · intro h
    split at h
    · cases h
      dsimp only
      omega
    · cases h
  · rintro rfl
    rw [dif_pos (by omega)]
    rfl

/-- What an escape contributes is the code point whose number it denotes. -/
theorem codedPoint_eq_ok {digits : List Char} {p : CodePoint} :
    codedPoint digits = .ok p ↔ Integer.Denotes digits p.val := by
  rw [← Integer.read?_iff]
  constructor
  · intro h
    unfold codedPoint at h
    split at h
    · cases h
    next n hn =>
      split at h
      next point hpoint =>
        cases h
        rw [hn, ofInt?_eq_some.mp hpoint]
      · split at h <;> cases h
  · exact fun h => codedPoint_ok h (ofInt?_eq_some.mpr rfl)

/-! Literals up to an escape -/

section

variable {d : Delimiter} {cs rest : List Char} {items : List LiteralItem}

/-- What an escape is refused with. -/
def Denied (cs : List Char) (fault : Fault) : Prop :=
  (∃ digits, fault = .invalidEscape digits) ∨ fault = .escapeOverflow ∧ Overflowing cs

theorem Denied.mono {cs' : List Char} {fault : Fault} (h : Denied cs fault) (hsub : cs <:+: cs') :
    Denied cs' fault :=
  h.imp_right fun ⟨hfault, hover⟩ => ⟨hfault, hover.mono hsub⟩

theorem denied_of_codedPoint {digits : List Char} {fault : Fault}
    (h : codedPoint digits = .error fault) : Denied (escape digits) fault := by
  obtain rfl | rfl := codedPoint_error h
  · exact .inl ⟨digits, rfl⟩
  · exact .inr ⟨rfl, digits, List.infix_rfl, oversized_of_codedPoint h⟩

theorem Denied.lexicalAt {fault : Fault} (path : Text) (p : Position) (h : Denied cs fault) :
    (fault.failure path p).LexicalAt (p.span path 1) ∨
      fault.failure path p = .escapeOverflow ∧ Overflowing cs := by
  obtain ⟨digits, rfl⟩ | ⟨rfl, hover⟩ := h
  · exact .inl ⟨_, _, rfl, rfl, rfl⟩
  · exact .inr ⟨rfl, hover⟩

/-- A backslash closes no literal, neither where it stands nor behind a part of a delimiter. -/
theorem close?_within (hquote : d.quote ≠ '\\') {inner : List Char} (h : ¬ d.spelling <+: inner)
    (rest : List Char) : d.close? (inner ++ '\\' :: rest) = none := by
  rw [Delimiter.close?_eq_none]
  intro hp
  rcases Nat.le_total d.spelling.length inner.length with hle | hle
  · exact h (List.prefix_of_prefix_length_le hp (List.prefix_append _ _) hle)
  · have hinner : inner <+: d.spelling :=
      List.prefix_of_prefix_length_le (List.prefix_append _ _) hp hle
    obtain ⟨tail, htail⟩ := hinner
    cases tail with
    | nil => exact h (by rw [← htail, List.append_nil])
    | cons c tail =>
      rw [← htail] at hp
      obtain ⟨rfl, -⟩ := List.cons_prefix_cons.mp ((List.prefix_append_right_inj _).mp hp)
      have hmem : '\\' ∈ d.spelling := by rw [← htail]; simp
      exact hquote (List.eq_of_mem_replicate hmem).symm

/-- Puts items in front of a literal that is read. -/
def prepend (items : List LiteralItem) (read : List LiteralItem × List Char) :
    List LiteralItem × List Char :=
  (items ++ read.1, read.2)

theorem map_consItem_prepend (item : LiteralItem) (items : List LiteralItem)
    (read : Except Fault (List LiteralItem × List Char)) :
    (read.map (prepend items)).map (consItem item) = read.map (prepend (item :: items)) := by
  cases read <;> rfl

/-- What stands in front of an escape is refused, or it contributes its code points. -/
theorem literalItems_within (hquote : d.quote ≠ '\\') {inner : List Char} (h : Within d inner)
    (rest : List Char) :
    (∃ fault, literalItems d (inner ++ '\\' :: rest) = .error fault ∧ Denied inner fault) ∨
      ∃ items, Contributes inner (items.map LiteralItem.point) ∧
        literalItems d (inner ++ '\\' :: rest) =
          (literalItems d ('\\' :: rest)).map (prepend items) := by
  have hbackslash (cs : List Char) : d.close? ('\\' :: cs) = none :=
    close?_of_ne (Ne.symm hquote) cs
  induction h with
  | nil =>
    refine .inr ⟨[], .nil, ?_⟩
    cases hread : literalItems d ('\\' :: rest) <;> rw [List.nil_append, hread] <;> rfl
  | @plain c inner hclose hfeed hb _ ih =>
    have hline : ¬(c = '\n' ∧ (!d.triple) = true) := by
      rwa [Bool.not_eq_true']
    have hread := @literalItems_plain d (inner ++ '\\' :: rest) c
      (close?_within hquote hclose rest) hline hb
    obtain ⟨fault, hfault, hdenied⟩ | ⟨items, hitems, hrest⟩ := ih
    · refine .inl ⟨fault, ?_, hdenied.mono (List.suffix_cons c inner).isInfix⟩
      rw [List.cons_append, hread, hfault]
      rfl
    · refine .inr ⟨.plain c :: items, .plain hb hitems, ?_⟩
      rw [List.cons_append, hread, hrest, map_consItem_prepend]
  | @escaped c inner hx _ ih =>
    have hx' : c = 'x' → (inner ++ '\\' :: rest).head? ≠ some '{' := by
      intro hc
      cases inner with
      | nil => simp
      | cons => exact hx hc
    have hread := literalItems_escaped (hbackslash (c :: (inner ++ '\\' :: rest))) hx'
    obtain ⟨fault, hfault, hdenied⟩ | ⟨items, hitems, hrest⟩ := ih
    · refine .inl ⟨fault, ?_, hdenied.mono (List.suffix_append ['\\', c] inner).isInfix⟩
      rw [List.cons_append, List.cons_append, hread, hfault]
      rfl
    · refine .inr ⟨.escaped c :: items, .escaped hx hitems, ?_⟩
      rw [List.cons_append, List.cons_append, hread, hrest, map_consItem_prepend]
  | @coded digits inner hbrace _ ih =>
    have hread := @literalItems_coded d (inner ++ '\\' :: rest) digits hbrace (hbackslash _)
    simp only [List.cons_append, List.append_assoc] at hread ⊢
    rw [hread]
    cases hpoint : codedPoint digits with
    | error fault =>
      refine .inl ⟨fault, rfl, (denied_of_codedPoint hpoint).mono ⟨[], inner, ?_⟩⟩
      simp [escape]
    | ok p =>
      obtain ⟨fault, hfault, hdenied⟩ | ⟨items, hitems, hrest⟩ := ih
      · refine .inl ⟨fault, by rw [hfault]; rfl, hdenied.mono ⟨escape digits, [], ?_⟩⟩
        simp [escape]
      · refine .inr ⟨.coded digits p :: items,
          .coded hbrace (codedPoint_eq_ok.mp hpoint) hitems, ?_⟩
        rw [hrest]
        exact map_consItem_prepend _ _ _

/-- A literal that is read contributes the code points of its items. -/
theorem contributes_of_literalItems (h : literalItems d cs = .ok (items, rest)) :
    ∃ inner, cs = inner ++ d.spelling ++ rest ∧ Contributes inner (items.map LiteralItem.point) := by
  fun_induction literalItems d cs generalizing items rest with
  | case1 | case3 | case4 | case5 => cases h
  | case2 c cs after hclose =>
    cases h
    exact ⟨[], Delimiter.close?_eq_some.mp hclose, .nil⟩
  | case6 cs' c after hdrop hlt digits hn hclose =>
    rename_i ih
    obtain ⟨point, hpoint, h⟩ := Run.ok_of_bind h
    obtain ⟨⟨items', rest''⟩, hitems, h⟩ := Run.ok_of_bind h
    cases h
    obtain ⟨inner, hinner, hcontributes⟩ := ih hitems
    have hbrace : '}' ∉ digits := by
      intro hd
      have hne := List.mem_takeWhile_imp hd
      exact of_decide_eq_true hne rfl
    refine ⟨'\\' :: 'x' :: '{' :: (digits ++ '}' :: inner), ?_,
      .coded hbrace (codedPoint_eq_ok.mp hpoint) hcontributes⟩
    rw [escape_eq hdrop, hinner]
    simp [digits]
  | case7 e cs' hx hn hclose ih =>
    obtain ⟨⟨items', rest''⟩, hitems, h⟩ := Run.ok_of_bind h
    cases h
    obtain ⟨inner, rfl, hcontributes⟩ := ih hitems
    refine ⟨'\\' :: e :: inner, rfl, .escaped (fun he hhead => ?_) hcontributes⟩
    obtain ⟨tail, rfl⟩ := List.head?_eq_some_iff.mp hhead
    exact hx _ he rfl
  | case8 c cs hclose hn hb ih =>
    obtain ⟨⟨items', rest''⟩, hitems, h⟩ := Run.ok_of_bind h
    cases h
    obtain ⟨inner, rfl, hcontributes⟩ := ih hitems
    exact ⟨c :: inner, rfl, .plain hb hcontributes⟩

/-- A literal up to one of its escapes: something is refused in front of it, the escape itself is,
or its code point is what the escape contributes. -/
theorem literalItems_escape (hquote : d.quote ≠ '\\') {inner digits : List Char}
    (h : Within d inner) (hbrace : '}' ∉ digits) (behind : List Char) :
    (∃ fault, literalItems d (inner ++ escape digits ++ behind) = .error fault ∧
      Denied (inner ++ escape digits) fault) ∨
    ∃ (front : List LiteralItem) (p : CodePoint),
      Contributes inner (front.map LiteralItem.point) ∧ Integer.Denotes digits p.val ∧
        literalItems d (inner ++ escape digits ++ behind) =
          (literalItems d behind).map (prepend (front ++ [LiteralItem.coded digits p])) := by
  have hsplit : inner ++ escape digits ++ behind =
      inner ++ '\\' :: ('x' :: '{' :: (digits ++ '}' :: behind)) := by
    simp [escape]
  have hread := @literalItems_coded d behind digits hbrace (close?_of_ne (Ne.symm hquote) _)
  rw [hsplit]
  obtain ⟨fault, hfault, hdenied⟩ | ⟨front, hfront, hrest⟩ :=
    literalItems_within hquote h ('x' :: '{' :: (digits ++ '}' :: behind))
  · exact .inl ⟨fault, hfault, hdenied.mono (List.prefix_append _ _).isInfix⟩
  · rw [hrest, hread]
    cases hpoint : codedPoint digits with
    | error fault =>
      exact .inl ⟨fault, rfl, (denied_of_codedPoint hpoint).mono (List.suffix_append _ _).isInfix⟩
    | ok p =>
      refine .inr ⟨front, p, hfront, codedPoint_eq_ok.mp hpoint, ?_⟩
      cases literalItems d behind with
      | error fault => rfl
      | ok read => simp [Except.map, Except.bind, consItem, prepend]

end

/-! Pieces -/

variable {d : Delimiter} {inner : List Char}

theorem Within.opens (hquote : d.quote ≠ '\\') (h : Within d inner) (rest : List Char) :
    d.triple = false → ¬ [d.quote, d.quote] <+: inner ++ '\\' :: rest := by
  intro htriple hp
  have hspelling : d.spelling = [d.quote] := by
    unfold Delimiter.spelling
    rw [htriple]
    rfl
  cases h with
  | nil => exact hquote (List.cons_prefix_cons.mp hp).1
  | plain hclose =>
    rw [hspelling] at hclose
    exact hclose (List.cons_prefix_cons.mpr ⟨(List.cons_prefix_cons.mp hp).1, List.nil_prefix⟩)
  | escaped => exact hquote (List.cons_prefix_cons.mp hp).1
  | coded => exact hquote (List.cons_prefix_cons.mp hp).1

/-- A literal is read from its opening delimiter on. -/
theorem piece_literal (hquote : d.quote = '\"' ∨ d.quote = '\'') {body : List Char}
    (hopen : d.triple = false → ¬ [d.quote, d.quote] <+: body) :
    piece d.quote (d.spelling.tail ++ body) = (literalItems d body).map fun read =>
      .lexeme (.literal (read.1.map LiteralItem.point))
        (d.spelling ++ read.1.flatMap LiteralItem.spelling ++ d.spelling) := by
  have hmark : ¬ isGap d.quote = true ∧ d.quote ≠ '#' := by
    obtain hq | hq := hquote <;> rw [hq] <;> decide
  have hdrop : (d.quote :: (d.spelling.tail ++ body)).drop d.spelling.length = body := by
    rw [← List.cons_append, ← d.spelling_eq_cons, List.drop_left]
  unfold piece
  rw [if_neg hmark.1, if_neg hmark.2, if_pos hquote]
  unfold literalPiece
  simp only [Delimiter.ofQuote_spelling hopen, hdrop]
  cases literalItems d body <;> rfl

/-- A lexeme that is reached is a token. -/
theorem Reaches.scanFrom_ok {path : Text} {p : Position} {lastLine : Option Nat} {cells : List Cell}
    {gap cs : List Char} {c : Char} {l : Lexeme} {text : List Char} {scanned : Scanned}
    (h : Reaches cells gap (c :: cs)) (hpiece : piece c cs = .ok (.lexeme l text))
    (hscan : scanFrom path p lastLine (spread cells (gap ++ c :: cs)) = .ok scanned) :
    ∃ length, scanned.tokens[cells.length]? =
      some ⟨l, path, p.advance (spread cells gap), length⟩ := by
  generalize hrest : c :: cs = rest at h
  induction h generalizing p lastLine scanned with
  | gap hgap =>
    subst hrest
    obtain ⟨docs, hdocs⟩ := scanFrom_spacing path p lastLine hgap
    rw [spread, hdocs, scanFrom_piece path _ _ hpiece] at hscan
    obtain ⟨_, hbehind, rfl⟩ := map_eq_ok hscan
    obtain ⟨_, -, rfl⟩ := map_eq_ok hbehind
    exact ⟨_, rfl⟩
  | @cell cell cells gap rest hgap hreads _ ih =>
    obtain ⟨docs, hdocs⟩ := scanFrom_spacing path p lastLine hgap
    rw [hrest, spread, hdocs, scanFrom_reads path _ _ hreads] at hscan
    obtain ⟨_, hbehind, rfl⟩ := map_eq_ok hscan
    obtain ⟨_, hcells, rfl⟩ := map_eq_ok hbehind
    rw [spread, Position.advance_append, Position.advance_append]
    exact ih (hrest ▸ hcells) hrest

end Lexer

/-- **Escapes by number.** A literal with an escape is read only if the escape denotes the number of
a code point, which is then what it contributes; for a hexadecimal numeral that is its value. An
escape that denotes no code point is refused where the literal opens, unless a number is beyond 32
bits. -/
theorem scan_escape (path : Text) (source : Source) (cells : List Cell) (gap : List Char)
    (d : Delimiter) (inner digits behind : List Char)
    (hspells : source.Spells path
      (spread cells (gap ++ (d.spelling ++ (inner ++ escape digits ++ behind)))))
    (hreaches : Reaches cells gap (d.spelling ++ (inner ++ escape digits ++ behind)))
    (hquote : d.quote = '\"' ∨ d.quote = '\'') (hwithin : Within d inner) (hbrace : '}' ∉ digits) :
    (∀ scanned : Scanned, source.scan path = .ok scanned →
      ∃ front p back rest after length, Contributes inner front ∧ Integer.Denotes digits p.val ∧
        (∀ n, Hexadecimal digits n → n = p.val) ∧ behind = rest ++ d.spelling ++ after ∧
        Contributes rest back ∧ scanned.tokens[cells.length]? =
          some ⟨.literal (front ++ p :: back), path, .behind (spread cells gap), length⟩) ∧
    ((∀ p : CodePoint, ¬ Integer.Denotes digits p.val) →
      ∃ e, source.scan path = .error e ∧
        (e.LexicalAt ((Position.behind (spread cells gap)).span path 1) ∨
          e = .escapeOverflow ∧ Overflowing (inner ++ escape digits))) := by
  have hbackslash : d.quote ≠ '\\' := by
    obtain hq | hq := hquote <;> rw [hq] <;> decide
  have hopen : d.triple = false → ¬ [d.quote, d.quote] <+: inner ++ escape digits ++ behind := by
    have hopens := hwithin.opens hbackslash ('x' :: '{' :: (digits ++ ['}'] ++ behind))
    rwa [List.append_assoc]
  have hpiece := piece_literal hquote hopen
  rw [d.spelling_eq_cons, List.cons_append] at hspells hreaches
  obtain ⟨fault, hfault, hdenied⟩ | ⟨front, p, hfront, hp, hrest⟩ :=
    literalItems_escape hbackslash hwithin hbrace behind
  · rw [hfault] at hpiece
    have herror := hspells.scan.trans (hreaches.scanFrom_error hpiece)
    rw [Position.advance_eq_behind] at herror
    refine ⟨fun scanned hscan => ?_, fun _ => ⟨_, herror, hdenied.lexicalAt path _⟩⟩
    rw [herror] at hscan
    cases hscan
  · refine ⟨fun scanned hscan => ?_, fun hnone => (hnone p hp).elim⟩
    rw [hrest] at hpiece
    cases hitems : literalItems d behind with
    | error fault =>
      rw [hitems] at hpiece
      rw [hspells.scan, hreaches.scanFrom_error hpiece] at hscan
      cases hscan
    | ok read =>
      obtain ⟨items, after⟩ := read
      rw [hitems] at hpiece
      obtain ⟨rest, hbehind, hback⟩ := contributes_of_literalItems hitems
      rw [hspells.scan] at hscan
      obtain ⟨length, htoken⟩ := hreaches.scanFrom_ok hpiece hscan
      rw [Position.advance_eq_behind] at htoken
      refine ⟨_, p, _, rest, after, length, hfront, hp, fun n hn => ?_, hbehind, hback, ?_⟩
      · exact Int.ofNat.inj ((Integer.denotes_hexadecimal hn).unique hp)
      · rw [htoken]
        simp [LiteralItem.point, prepend]

namespace Coded

/-! An escape behind a character, one without digits, and one with a mark of its base. -/

def quote : Delimiter := ⟨'\"', false⟩

def literal (digits : List Char) : List Char := '\"' :: ('a' :: escape digits ++ ['\"'])

def source (digits : List Char) : Source := .text (.ofChars (literal digits))

def token (length : Nat) : Token := ⟨.literal "aA", [], {}, length⟩

theorem scan_hexadecimal : (source ['4', '1']).scan [] =
    .ok ⟨[token 9, ⟨.eof, [], ⟨1, 10, 9⟩, 0⟩], []⟩ := by
  decide +kernel

theorem scan_marked : (source ['0', 'x', '4', '1']).scan [] =
    .ok ⟨[token 11, ⟨.eof, [], ⟨1, 12, 11⟩, 0⟩], []⟩ := by
  decide +kernel

theorem within : Within quote ['a'] := .plain (by decide) (by decide) (by decide) .nil

theorem reaches (digits : List Char) :
    Reaches [] [] (quote.spelling ++ (['a'] ++ escape digits ++ ['\"'])) :=
  .gap .nil

theorem spells (digits : List Char) : (source digits).Spells []
    (spread [] ([] ++ (quote.spelling ++ (['a'] ++ escape digits ++ ['\"'])))) :=
  @Source.spells_text [] (literal digits) (by simp [literal, byteOrderMark])

theorem not_denotes (p : CodePoint) : ¬ Integer.Denotes [] p.val := by
  rw [← Integer.read?_iff]
  exact nofun

theorem scan_escape_hexadecimal :
    ((source ['4', '1']).scan [] = .ok ⟨[token 9, ⟨.eof, [], ⟨1, 10, 9⟩, 0⟩], []⟩ ∧
      ∃ front p back rest after length, Contributes ['a'] front ∧
        Integer.Denotes ['4', '1'] (p : CodePoint).val ∧
        (∀ n, Hexadecimal ['4', '1'] n → n = p.val) ∧ ['\"'] = rest ++ quote.spelling ++ after ∧
        Contributes rest back ∧
        some (token 9) = some ⟨.literal (front ++ p :: back), [], .behind [], length⟩) ∧
    ∃ e, (source []).scan [] = .error e ∧
      (e.LexicalAt ⟨[], 1, 1, 0, 1⟩ ∨
        e = .escapeOverflow ∧ Overflowing (['a'] ++ escape [])) :=
  ⟨⟨scan_hexadecimal, (scan_escape [] _ [] [] quote ['a'] ['4', '1'] ['\"'] (spells _) (reaches _)
      (.inl rfl) within (by decide)).1 _ scan_hexadecimal⟩,
    (scan_escape [] _ [] [] quote ['a'] [] ['\"'] (spells _) (reaches _) (.inl rfl) within
      (by decide)).2 not_denotes⟩

theorem not_hexadecimal (n : Nat) : ¬ Hexadecimal ['0', 'x', '4', '1'] n := by
  intro h
  have hdigits : ∀ c ∈ ['0', 'x', '4', '1'], c ≠ 'x' := h.forall_mem fun c d hc => by
    obtain ⟨-, -, -, hsign⟩ := hc.facts
    rintro rfl
    exact hsign (by decide)
  exact hdigits 'x' (by decide) rfl

/-- An escape may hold more than hexadecimal digits. -/
theorem scan_escape_beyond : ¬ ∀ (path : Text) (source : Source) (cells : List Cell)
    (gap : List Char) (d : Delimiter) (inner digits behind : List Char),
    source.Spells path
      (spread cells (gap ++ (d.spelling ++ (inner ++ escape digits ++ behind)))) →
    Reaches cells gap (d.spelling ++ (inner ++ escape digits ++ behind)) →
    d.quote = '\"' ∨ d.quote = '\'' → Within d inner → '}' ∉ digits →
    (∀ scanned : Scanned, source.scan path = .ok scanned →
      ∃ (p : CodePoint) (front back : List CodePoint) (length : Nat),
        Hexadecimal digits p.val ∧ Contributes inner front ∧ scanned.tokens[cells.length]? =
          some ⟨.literal (front ++ p :: back), path, .behind (spread cells gap), length⟩) ∧
    ((∀ p : CodePoint, ¬ Hexadecimal digits p.val) →
      ∃ e, source.scan path = .error e ∧
        e.LexicalAt ((Position.behind (spread cells gap)).span path 1)) := by
  intro h
  obtain ⟨p, _, _, _, hp, -⟩ := (h [] _ [] [] quote ['a'] ['0', 'x', '4', '1'] ['\"'] (spells _)
    (reaches _) (.inl rfl) within (by decide)).1 _ scan_marked
  exact not_hexadecimal _ hp

end Coded

end RelaxCompact
