import RelaxCompact.Proofs.Parsing.Overflowing
import RelaxCompact.Proofs.Scanning.Tiling

/-!
Literals and the ends of lines. A literal between single quotes holds a line feed only where an
escape takes one in, and a quote that is not closed in its line is refused where it stands, unless
the line ends within an escape.
-/

namespace RelaxCompact

open Lexer

namespace Lexer

/-- A piece of a line in which a literal goes on: plain characters and whole escapes. -/
inductive Unclosed (quote : Char) : List Char → Prop
  | nil : Unclosed quote []
  | plain {c : Char} {line : List Char} :
    c ≠ '\n' → c ≠ quote → c ≠ '\\' → Unclosed quote line → Unclosed quote (c :: line)
  | escaped {c : Char} {line : List Char} :
    c ≠ '\n' → (c = 'x' → line.head? ≠ some '{') → Unclosed quote line →
      Unclosed quote ('\\' :: c :: line)
  | coded {digits line : List Char} :
    '\n' ∉ digits → '}' ∉ digits → Unclosed quote line →
      Unclosed quote ('\\' :: 'x' :: '{' :: (digits ++ '}' :: line))

/-- A literal is closed in a line. -/
def Closes (quote : Char) (line : List Char) : Prop :=
  ∃ inner behind, line = inner ++ quote :: behind ∧ Unclosed quote inner

/-- A line ends within an escape of a literal. -/
def BreaksOff (quote : Char) (line : List Char) : Prop :=
  ∃ inner escape, line = inner ++ '\\' :: escape ∧ Unclosed quote inner ∧
    (escape = [] ∨ ∃ digits, escape = 'x' :: '{' :: digits ∧ '}' ∉ digits)

/-- Cells that are read in front of a gap, where the rest of the text is reached. -/
inductive Reaches : List Cell → List Char → List Char → Prop
  | gap {gap rest : List Char} : Spacing gap → Reaches [] gap rest
  | cell {cell : Cell} {cells : List Cell} {gap rest : List Char} :
    Spacing cell.gap → cell.lexeme.Reads cell.text (spread cells (gap ++ rest)) →
      Reaches cells gap rest → Reaches (cell :: cells) gap rest

variable {path : Text} {p : Position} {lastLine : Option Nat}

/-- A fault is reported where it is reached. -/
theorem Reaches.scanFrom_error {cells : List Cell} {gap cs : List Char} {c : Char} {fault : Fault}
    (h : Reaches cells gap (c :: cs)) (hpiece : piece c cs = .error fault) :
    scanFrom path p lastLine (spread cells (gap ++ c :: cs)) =
      .error (fault.failure path (p.advance (spread cells gap))) := by
  generalize hrest : c :: cs = rest at h
  induction h generalizing p lastLine with
  | gap hgap =>
    subst hrest
    obtain ⟨docs, hdocs⟩ := scanFrom_spacing path p lastLine hgap
    rw [spread, hdocs, scanFrom, hpiece]
    rfl
  | @cell cell cells gap rest hgap hreads _ ih =>
    obtain ⟨docs, hdocs⟩ := scanFrom_spacing path p lastLine hgap
    have hrest' := @ih ((p.advance cell.gap).advance cell.text) (some (p.advance cell.gap).line) hrest
    rw [spread, hdocs, scanFrom_reads path _ _ hreads, hrest', spread, Position.advance_append,
      Position.advance_append]
    rfl

/-! What becomes of a literal in its line -/

/-- A literal goes on behind its line, is closed in it, or is left within an escape. -/
def Fate (quote : Char) (line : List Char) : Prop :=
  Unclosed quote line ∨ Closes quote line ∨ BreaksOff quote line

theorem Fate.behind {quote : Char} {front line : List Char} (h : Fate quote line)
    (hfront : ∀ inner, inner <+: line → Unclosed quote inner → Unclosed quote (front ++ inner)) :
    Fate quote (front ++ line) := by
  obtain h | ⟨inner, behind, rfl, h⟩ | ⟨inner, escape, rfl, h, hescape⟩ := h
  · exact .inl (hfront line List.prefix_rfl h)
  · exact .inr (.inl ⟨front ++ inner, behind, (List.append_assoc _ _ _).symm,
      hfront inner (List.prefix_append _ _) h⟩)
  · exact .inr (.inr ⟨front ++ inner, escape, (List.append_assoc _ _ _).symm,
      hfront inner (List.prefix_append _ _) h, hescape⟩)

theorem fate {quote : Char} {line : List Char} (h : '\n' ∉ line) : Fate quote line := by
  -- An escape is passed over as a whole, so the induction is on the length.
  induction hn : line.length using Nat.strongRecOn generalizing line with
  | ind n ih =>
    have hlater : ∀ front behind, line = front ++ behind → front ≠ [] → Fate quote behind := by
      rintro front behind rfl hfront
      refine ih behind.length ?_ (fun hc => h (List.mem_append_right _ hc)) rfl
      have hpos := List.length_pos_iff.mpr hfront
      rw [← hn, List.length_append]
      omega
    cases line with
    | nil => exact .inl .nil
    | cons c line =>
    have hc : c ≠ '\n' := fun hc => h (hc ▸ List.mem_cons_self)
    by_cases hq : c = quote
    · exact .inr (.inl ⟨[], line, by rw [hq]; rfl, .nil⟩)
    by_cases hb : c = '\\'
    · subst hb
      cases line with
      | nil => exact .inr (.inr ⟨[], [], rfl, .nil, .inl rfl⟩)
      | cons e line =>
      by_cases hx : e = 'x' ∧ line.head? = some '{'
      · obtain ⟨rfl, hhead⟩ := hx
        obtain ⟨cs, rfl⟩ := List.head?_eq_some_iff.mp hhead
        by_cases hbrace : '}' ∈ cs
        · obtain ⟨digits, behind, rfl, hdigits⟩ := List.eq_append_cons_of_mem hbrace
          have hfeed : '\n' ∉ digits := fun hd => h (by simp [hd])
          have hsplit : '\\' :: 'x' :: '{' :: (digits ++ '}' :: behind) =
              '\\' :: 'x' :: '{' :: (digits ++ ['}']) ++ behind := by simp
          have hbehind := hlater _ behind hsplit (List.cons_ne_nil _ _)
          rw [hsplit]
          refine hbehind.behind fun inner _ hunclosed => ?_
          rw [List.cons_append, List.cons_append, List.cons_append, List.append_assoc]
          exact .coded hfeed hdigits hunclosed
        · exact .inr (.inr ⟨[], 'x' :: '{' :: cs, rfl, .nil, .inr ⟨cs, rfl, hbrace⟩⟩)
      · have he : e ≠ '\n' := fun he => h (he ▸ List.mem_cons_of_mem _ List.mem_cons_self)
        have hbehind := hlater ['\\', e] line rfl (List.cons_ne_nil _ _)
        refine @Fate.behind quote ['\\', e] line hbehind fun inner hinner hunclosed => ?_
        refine .escaped he (fun hx' hhead => hx ⟨hx', ?_⟩) hunclosed
        obtain ⟨cs, rfl⟩ := List.head?_eq_some_iff.mp hhead
        obtain ⟨tail, rfl⟩ := hinner
        rfl
    · have hbehind := hlater [c] line rfl (List.cons_ne_nil _ _)
      exact @Fate.behind quote [c] line hbehind fun inner _ hunclosed => .plain hc hq hb hunclosed

section

variable {d : Delimiter} {cs line rest : List Char} {items : List LiteralItem}

theorem close?_of_ne {c : Char} (h : c ≠ d.quote) (cs : List Char) : d.close? (c :: cs) = none := by
  rw [Delimiter.close?_eq_none, d.spelling_eq_cons]
  exact fun hp => h (List.cons_prefix_cons.mp hp).1.symm

/-- What refuses a literal in a line: that it is not closed, or an escape of the line. -/
def Refuses (quote : Char) (line : List Char) (fault : Fault) : Prop :=
  fault = .unterminated (some quote) ∨ (∃ digits, fault = .invalidEscape digits) ∨
    fault = .escapeOverflow ∧ Overflowing line

theorem Refuses.mono {quote : Char} {fault : Fault} {line' : List Char}
    (h : Refuses quote line fault) (hsub : line <:+: line') : Refuses quote line' fault := by
  obtain h | h | ⟨h, hover⟩ := h
  · exact .inl h
  · exact .inr (.inl h)
  · exact .inr (.inr ⟨h, hover.mono hsub⟩)

theorem codedPoint_error {digits : List Char} {fault : Fault} (h : codedPoint digits = .error fault) :
    fault = .invalidEscape digits ∨ fault = .escapeOverflow := by
  unfold codedPoint at h
  split at h
  · exact .inl (Except.error.inj h).symm
  · split at h
    · cases h
    · split at h
      · exact .inl (Except.error.inj h).symm
      · exact .inr (Except.error.inj h).symm

/-- A literal between single quotes is not read beyond a line in which it is not closed. -/
theorem literalItems_unclosed (hsingle : d.triple = false) (hquote : d.quote = '\"' ∨ d.quote = '\'')
    (h : Unclosed d.quote line) (hrest : ∀ c ∈ rest.head?, c = '\n') :
    ∃ fault, literalItems d (line ++ rest) = .error fault ∧ Refuses d.quote line fault := by
  have hescape : '\\' ≠ d.quote := by
    obtain hq | hq := hquote <;> rw [hq] <;> decide
  have hfeed : '\n' ≠ d.quote := by
    obtain hq | hq := hquote <;> rw [hq] <;> decide
  induction h with
  | nil =>
    refine ⟨_, ?_, .inl rfl⟩
    rw [List.nil_append, literalItems.eq_def]
    cases rest with
    | nil => rfl
    | cons c rest =>
      cases hrest c rfl
      simp only [close?_of_ne hfeed, hsingle]
      rfl
  | @plain c line hc hq hb _ ih =>
    obtain ⟨fault, hfault, hrefuses⟩ := ih
    refine ⟨fault, ?_, hrefuses.mono (List.suffix_cons c line).isInfix⟩
    rw [List.cons_append, literalItems_plain (close?_of_ne hq _) (fun hline => hc hline.1) hb, hfault]
    rfl
  | @escaped c line hc hx _ ih =>
    obtain ⟨fault, hfault, hrefuses⟩ := ih
    refine ⟨fault, ?_, hrefuses.mono (List.suffix_append ['\\', c] line).isInfix⟩
    have hcoded : c = 'x' → (line ++ rest).head? ≠ some '{' := by
      intro hc hhead
      cases line with
      | nil => exact absurd (hrest _ hhead) (by decide)
      | cons => exact hx hc hhead
    rw [List.cons_append, List.cons_append, literalItems_escaped (close?_of_ne hescape _) hcoded,
      hfault]
    rfl
  | @coded digits line hd hbrace _ ih =>
    obtain ⟨fault, hfault, hrefuses⟩ := ih
    have hread := @literalItems_coded d (line ++ rest) digits hbrace (close?_of_ne hescape _)
    simp only [List.cons_append, List.append_assoc, hread]
    cases hpoint : codedPoint digits with
    | error fault' =>
      refine ⟨fault', rfl, ?_⟩
      obtain rfl | rfl := codedPoint_error hpoint
      · exact .inr (.inl ⟨digits, rfl⟩)
      · refine .inr (.inr ⟨rfl, digits, ⟨[], line, ?_⟩, oversized_of_codedPoint hpoint⟩)
        simp
    | ok point =>
      refine ⟨fault, by rw [hfault]; rfl, hrefuses.mono ⟨'\\' :: 'x' :: '{' :: (digits ++ ['}']), [], ?_⟩⟩
      simp

theorem ne_quote_of_close? {c : Char} (hsingle : d.triple = false)
    (h : d.close? (c :: cs) = none) : c ≠ d.quote := by
  rintro rfl
  rw [Delimiter.close?_eq_none] at h
  unfold Delimiter.spelling at h
  rw [hsingle] at h
  exact h ⟨cs, rfl⟩

/-- The plain items of a literal between single quotes are neither line feeds nor quotes. -/
theorem plain_of_literalItems (hsingle : d.triple = false)
    (h : literalItems d cs = .ok (items, rest)) {c : Char} (hc : .plain c ∈ items) :
    c ≠ '\n' ∧ c ≠ d.quote ∧ c ≠ '\\' := by
  fun_induction literalItems d cs generalizing items rest with
  | case1 | case3 | case4 | case5 => cases h
  | case2 =>
    cases h
    cases hc
  | case6 =>
    rename_i ih
    obtain ⟨point, -, h⟩ := Run.ok_of_bind h
    obtain ⟨_, hitems, h⟩ := Run.ok_of_bind h
    cases h
    obtain hc | hc := List.mem_cons.mp hc
    · cases hc
    · exact ih hitems hc
  | case7 e _ _ _ _ ih =>
    obtain ⟨_, hitems, h⟩ := Run.ok_of_bind h
    cases h
    obtain hc | hc := List.mem_cons.mp hc
    · cases hc
    · exact ih hitems hc
  | case8 c' _ hclose hn hb ih =>
    obtain ⟨_, hitems, h⟩ := Run.ok_of_bind h
    cases h
    obtain hc | hc := List.mem_cons.mp hc
    · cases hc
      refine ⟨fun hline => hn ⟨hline, ?_⟩, ne_quote_of_close? hsingle hclose, hb⟩
      rw [hsingle]
      rfl
    · exact ih hitems hc

end

end Lexer

/-- A literal between single quotes as it stands: its line feeds are those of its escapes. -/
def Lexeme.StandsInLine (l : Lexeme) (text : List Char) : Prop :=
  ∃ (quote : Char) (items : List LiteralItem), (quote = '\"' ∨ quote = '\'') ∧
    text = quote :: (items.flatMap LiteralItem.spelling ++ [quote]) ∧
    l = .literal (items.map LiteralItem.point) ∧
    (∀ c, .plain c ∈ items → c ≠ '\n' ∧ c ≠ quote ∧ c ≠ '\\') ∧
    ('\n' ∈ text ↔
      .escaped '\n' ∈ items ∨ ∃ digits point, .coded digits point ∈ items ∧ '\n' ∈ digits)

theorem Lexer.feed_mem_spelling {item : LiteralItem} : '\n' ∈ item.spelling ↔
    item = .plain '\n' ∨ item = .escaped '\n' ∨
      ∃ digits point, item = .coded digits point ∧ '\n' ∈ digits := by
  cases item with
  | plain c => simp [LiteralItem.spelling, eq_comm]
  | escaped c => simp [LiteralItem.spelling, eq_comm]
  | coded digits point => simp [LiteralItem.spelling]

/-- A literal that does not open with three quotes is one between single quotes. -/
theorem Lexeme.Reads.standsInLine {l : Lexeme} {text rest : List Char} (h : l.Reads text rest)
    (htype : l.type = .literal) (hsingle : ∀ quote, ¬ [quote, quote, quote] <+: text) :
    l.StandsInLine text := by
  have hstands := h.stands
  obtain ⟨c, inner, rfl, hpiece⟩ := h
  have hquote : c = '\"' ∨ c = '\'' := by
    generalize htext : c :: inner = text at hstands
    cases hstands with
    | @literal d _ hd =>
      rw [d.spelling_eq_cons] at htext
      exact (List.cons.inj htext).1 ▸ hd
    | _ => cases htype
  have hgap : ¬ isGap c = true ∧ c ≠ '#' := by
    obtain rfl | rfl := hquote <;> decide
  unfold piece at hpiece
  rw [if_neg hgap.1, if_neg hgap.2, if_pos hquote] at hpiece
  obtain ⟨⟨items, after⟩, hitems, hpiece⟩ := Run.ok_of_bind hpiece
  generalize hd : Delimiter.ofQuote c (inner ++ rest) = d at hitems hpiece
  have hdquote : d.quote = c := by rw [← hd]; rfl
  obtain ⟨hl, htext⟩ := Piece.lexeme.inj (Except.ok.inj hpiece)
  have htriple : d.triple = false := by
    refine Bool.eq_false_iff.mpr fun htriple => hsingle c ?_
    rw [← htext]
    unfold Delimiter.spelling
    rw [htriple, hdquote]
    exact (List.prefix_append _ _).trans (List.prefix_append _ _)
  have hspelling : d.spelling = [c] := by
    unfold Delimiter.spelling
    rw [htriple, hdquote]
    rfl
  have hplain : ∀ c', .plain c' ∈ items → c' ≠ '\n' ∧ c' ≠ c ∧ c' ≠ '\\' :=
    fun c' hc' => hdquote ▸ plain_of_literalItems htriple hitems hc'
  rw [hspelling] at htext
  refine ⟨c, items, hquote, htext.symm, hl.symm, hplain, ?_⟩
  have hfeed : '\n' ≠ c := by
    obtain rfl | rfl := hquote <;> decide
  rw [← htext]
  simp only [List.cons_append, List.mem_cons, List.mem_append,
    List.mem_flatMap, feed_mem_spelling, hfeed, false_or, List.not_mem_nil, or_false]
  constructor
  · rintro ⟨item, hitem, rfl | rfl | ⟨digits, point, rfl, hdigits⟩⟩
    · exact absurd rfl (hplain _ hitem).1
    · exact .inl hitem
    · exact .inr ⟨digits, point, hitem, hdigits⟩
  · rintro (hitem | ⟨digits, point, hitem, hdigits⟩)
    · exact ⟨_, hitem, .inr (.inl rfl)⟩
    · exact ⟨_, hitem, .inr (.inr ⟨digits, point, rfl, hdigits⟩)⟩

/-- A source is refused with a fault of the lexer at a place. -/
def Failure.LexicalAt (e : Failure) (span : Span) : Prop :=
  ∃ cause char, e = .schema cause ∧ cause.diagnostic.category = .lexical char ∧
    cause.diagnostic.span = some span

theorem Lexer.Refuses.lexicalAt {quote : Char} {line : List Char} {fault : Fault} (path : Text)
    (p : Position) (h : Refuses quote line fault) :
    (fault.failure path p).LexicalAt (p.span path 1) ∨
      fault.failure path p = .escapeOverflow ∧ Overflowing line := by
  obtain rfl | ⟨digits, rfl⟩ | ⟨rfl, hover⟩ := h
  · exact .inl ⟨_, _, rfl, rfl, rfl⟩
  · exact .inl ⟨_, _, rfl, rfl, rfl⟩
  · exact .inr ⟨rfl, hover⟩

theorem Lexer.piece_unclosed {quote : Char} {line rest : List Char}
    (hquote : quote = '\"' ∨ quote = '\'') (h : Unclosed quote line)
    (hrest : ∀ c ∈ rest.head?, c = '\n') :
    ∃ fault, piece quote (line ++ rest) = .error fault ∧ Refuses quote line fault := by
  have hne : quote ≠ '\n' ∧ quote ≠ '\\' ∧ ¬ isGap quote = true ∧ quote ≠ '#' := by
    obtain rfl | rfl := hquote <;> decide
  have hopen : ¬ [quote, quote] <+: line ++ rest := by
    cases h with
    | nil =>
      rintro ⟨tail, htail⟩
      exact hne.1 (hrest quote (by rw [List.nil_append] at htail; rw [← htail]; rfl))
    | plain _ hq => exact fun hp => hq (List.cons_prefix_cons.mp hp).1.symm
    | escaped => exact fun hp => hne.2.1 (List.cons_prefix_cons.mp hp).1
    | coded => exact fun hp => hne.2.1 (List.cons_prefix_cons.mp hp).1
  obtain ⟨fault, hfault, hrefuses⟩ :=
    @literalItems_unclosed ⟨quote, false⟩ line rest rfl hquote h hrest
  refine ⟨fault, ?_, hrefuses⟩
  have hd : Delimiter.ofQuote quote (line ++ rest) = ⟨quote, false⟩ :=
    @Delimiter.ofQuote_spelling ⟨quote, false⟩ (line ++ rest) fun _ => hopen
  unfold piece
  rw [if_neg hne.2.2.1, if_neg hne.2.2.2, if_pos hquote]
  unfold literalPiece
  simp only [hd]
  exact congrArg (· >>= _) hfault

/-- **Literals in lines.** The line feeds of a literal between single quotes are those of its
escapes. A quote that is reached, and that is not closed in its line, is refused where it stands,
unless an escape goes on behind the line, or a number in the line is beyond 32 bits. -/
theorem scan_lines (path : Text) (source : Source) :
    (∀ scanned : Scanned, source.scan path = .ok scanned →
      ∃ text cells last, source.Spells path text ∧ Tiled path text cells last scanned.tokens ∧
        ∀ cell ∈ cells, cell.lexeme.type = .literal →
          (∀ quote, ¬ [quote, quote, quote] <+: cell.text) →
          cell.lexeme.StandsInLine cell.text) ∧
    ∀ cells gap quote line rest,
      source.Spells path (spread cells (gap ++ quote :: (line ++ rest))) →
      Reaches cells gap (quote :: (line ++ rest)) → quote = '\"' ∨ quote = '\'' →
      '\n' ∉ line → (∀ c ∈ rest.head?, c = '\n') → ¬ Closes quote line → ¬ BreaksOff quote line →
      ∃ e, source.scan path = .error e ∧
        (e.LexicalAt ((Position.behind (spread cells gap)).span path 1) ∨
          e = .escapeOverflow ∧ Overflowing line) := by
  constructor
  · intro scanned h
    obtain ⟨text, cells, last, hspells, hlexes, htiled⟩ := Source.exists_lexes h
    refine ⟨text, cells, last, hspells, htiled, fun cell hcell htype hsingle => ?_⟩
    obtain ⟨-, rest, hreads⟩ := hlexes.mem cell hcell
    exact hreads.standsInLine htype hsingle
  · intro cells gap quote line rest hspells hreaches hquote hline hrest hcloses hbreaks
    obtain hunclosed | h | h := @fate quote line hline
    · obtain ⟨fault, hfault, hrefuses⟩ := piece_unclosed hquote hunclosed hrest
      refine ⟨_, ?_, hrefuses.lexicalAt path _⟩
      rw [hspells.scan, hreaches.scanFrom_error hfault, Position.advance_eq_behind]
    · exact (hcloses h).elim
    · exact (hbreaks h).elim

namespace Unended

/-! A line feed behind a backslash, and a quote that is escaped where it would close a literal. -/

def escaped : List Char := ['\"', 'a', '\\', '\n', '\"']

def cell : Cell := ⟨[], .literal "a\n", escaped⟩

def tokens : List Token := [⟨.literal "a\n", [], {}, 5⟩, ⟨.eof, [], ⟨2, 2, 5⟩, 0⟩]

def source : Source := .text (.ofChars escaped)

theorem scan_escaped : source.scan [] = .ok ⟨tokens, []⟩ := by decide +kernel

theorem cells_escaped {text : List Char} {cells : List Cell} {last : List Char}
    (hspells : source.Spells [] text) (h : Tiled [] text cells last tokens) : cells = [cell] := by
  have hreads : cell.lexeme.Reads cell.text [] := ⟨'\"', _, rfl, by decide +kernel⟩
  have hlexes : Lexes [cell] [] := .cell .nil hreads (.last (.spacing .nil))
  have htiled := tiled_of_lexes [] hlexes
  have htokens : tokensFrom [] {} [cell] [] = tokens := by decide
  rw [htokens] at htiled
  rw [hspells.unique (Source.spells_text (by decide))] at h
  exact (h.unique htiled).1

theorem single_escaped (quote : Char) : ¬ [quote, quote, quote] <+: cell.text := by
  intro hp
  obtain ⟨rfl, hp⟩ := List.cons_prefix_cons.mp hp
  cases (List.cons_prefix_cons.mp hp).1

def unclosed : List Char := ['a', '\\', '\"']

def broken : Source := .text (.ofChars (['x', ' ', '\"'] ++ unclosed ++ ['\n', '\"']))

theorem not_closes : ¬ Closes '\"' unclosed := by
  rintro ⟨inner, behind, hsplit, hinner⟩
  rcases inner with _ | ⟨a, _ | ⟨b, _ | ⟨c, inner⟩⟩⟩
  · cases hsplit
  · cases hsplit
  · cases hsplit
    cases hinner with
    | plain _ _ _ hinner =>
      cases hinner with
      | plain _ _ hb => exact hb rfl
  · simp [unclosed] at hsplit

theorem not_breaksOff : ¬ BreaksOff '\"' unclosed := by
  rintro ⟨inner, escape, hsplit, -, hescape⟩
  rcases inner with _ | ⟨a, _ | ⟨b, _ | ⟨c, inner⟩⟩⟩
  · cases hsplit
  · cases hsplit
    obtain h | ⟨digits, h, -⟩ := hescape <;> cases h
  · cases hsplit
  · simp [unclosed] at hsplit

theorem scan_lines_unclosed :
    (source.scan [] = .ok ⟨tokens, []⟩ ∧ cell.lexeme.StandsInLine cell.text) ∧
    ∃ e, broken.scan [] = .error e ∧
      (e.LexicalAt ⟨[], 1, 3, 2, 1⟩ ∨ e = .escapeOverflow ∧ Overflowing unclosed) := by
  constructor
  · obtain ⟨text, cells, last, hspells, htiled, hlines⟩ := (scan_lines [] source).1 _ scan_escaped
    rw [cells_escaped hspells htiled] at hlines
    exact ⟨scan_escaped, hlines cell List.mem_cons_self rfl single_escaped⟩
  · have hreads : (Lexeme.identifier "x").Reads ['x']
        (' ' :: '\"' :: (unclosed ++ ['\n', '\"'])) :=
      ⟨'x', _, rfl, by decide⟩
    have hreaches : Reaches [⟨[], .identifier "x", ['x']⟩] [' ']
        ('\"' :: (unclosed ++ ['\n', '\"'])) :=
      .cell .nil hreads (.gap (.blank (by decide) .nil))
    have hspells : broken.Spells [] (['x', ' ', '\"'] ++ unclosed ++ ['\n', '\"']) :=
      Source.spells_text (by decide)
    exact (scan_lines [] broken).2 [⟨[], .identifier "x", ['x']⟩] [' '] '\"' unclosed ['\n', '\"']
      hspells hreaches (.inl rfl) (by decide) (by simp) not_closes not_breaksOff

/-- A literal between single quotes goes on in the next line. -/
theorem scan_lines_beyond : ¬ ∀ (path : Text) (source : Source),
    (∀ scanned : Scanned, source.scan path = .ok scanned →
      ∃ text cells last, source.Spells path text ∧ Tiled path text cells last scanned.tokens ∧
        ∀ cell ∈ cells, cell.lexeme.type = .literal →
          (∀ quote, ¬ [quote, quote, quote] <+: cell.text) → '\n' ∉ cell.text) ∧
    ∀ cells gap quote line rest,
      source.Spells path (spread cells (gap ++ quote :: (line ++ rest))) →
      Reaches cells gap (quote :: (line ++ rest)) → quote = '\"' ∨ quote = '\'' →
      '\n' ∉ line → rest.head? = some '\n' → ¬ Closes quote line →
      ∃ e, source.scan path = .error e ∧
        e.LexicalAt ((Position.behind (spread cells gap)).span path 1) := by
  intro h
  obtain ⟨text, cells, last, hspells, htiled, hlines⟩ := (h [] source).1 _ scan_escaped
  rw [cells_escaped hspells htiled] at hlines
  exact hlines cell List.mem_cons_self rfl single_escaped (by decide)

end Unended

end RelaxCompact
