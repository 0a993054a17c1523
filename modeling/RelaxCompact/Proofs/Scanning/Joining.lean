import RelaxCompact.Proofs.Scanning.Tiling

/-!
Texts that are joined by a line feed. The first of them is scanned as by itself, and so is the
second, only that all its places move by the lines and the bytes in front of it.
-/

namespace RelaxCompact

open Lexer

/-- The place some lines and bytes further on. -/
def Position.moved (p : Position) (lines bytes : Nat) : Position :=
  { p with line := p.line + lines, offset := p.offset + bytes }

def Span.moved (s : Span) (lines bytes : Nat) : Span :=
  { s with line := s.line + lines, offset := s.offset + bytes }

def Token.moved (t : Token) (lines bytes : Nat) : Token :=
  { t with start := t.start.moved lines bytes }

def Scanned.moved (s : Scanned) (lines bytes : Nat) : Scanned where
  tokens := s.tokens.map (·.moved lines bytes)
  docs := s.docs.map fun (line, text) => (line + lines, text)

/-- A fault of the lexer further on, and any other error as it is. -/
def SchemaError.moved (lines bytes : Nat) : SchemaError → SchemaError
  | unexpectedCharacter c span => .unexpectedCharacter c (span.moved lines bytes)
  | unterminatedLiteral quote span => .unterminatedLiteral quote (span.moved lines bytes)
  | invalidEscape digits span => .invalidEscape digits (span.moved lines bytes)
  | e => e

def Failure.moved (lines bytes : Nat) : Failure → Failure
  | schema e => .schema (e.moved lines bytes)
  | e => e

/-- Puts tokens and documentation in front of what is scanned. -/
def Scanned.after (s : Scanned) (tokens : List Token) (docs : DocLines) : Scanned :=
  ⟨tokens ++ s.tokens, docs ++ s.docs⟩

namespace Lexer

/-! Places further on -/

section

variable {lines bytes : Nat}

theorem after_moved (p : Position) (c : Char) :
    (p.moved lines bytes).after c = (p.after c).moved lines bytes := by
  unfold Position.after Position.moved
  by_cases hc : c = '\n'
  · simp only [hc, if_true, Position.mk.injEq, true_and]
    omega
  · simp only [hc, if_false, Position.mk.injEq, true_and]
    omega

theorem advance_moved (p : Position) (cs : List Char) :
    (p.moved lines bytes).advance cs = (p.advance cs).moved lines bytes := by
  induction cs generalizing p with
  | nil => rfl
  | cons c cs ih =>
    change ((p.moved lines bytes).after c).advance cs = _
    rw [after_moved, ih]
    rfl

theorem failure_moved (path : Text) (p : Position) (fault : Fault) :
    fault.failure path (p.moved lines bytes) = (fault.failure path p).moved lines bytes := by
  cases fault with
  | escapeOverflow => rfl
  | _ => simp [Fault.failure, Failure.moved, SchemaError.moved, Position.span, Span.moved,
      Position.moved]

/-- From a line on, the lines of the last tokens of two runs tell the same. -/
def SameLine (lines line : Nat) (lastLine lastLine' : Option Nat) : Prop :=
  ∀ k, line ≤ k → (lastLine' = some (k + lines) ↔ lastLine = some k)

theorem place_moved {path : Text} {p : Position} {lastLine lastLine' : Option Nat} {next : Piece}
    (h : SameLine lines p.line lastLine lastLine') (s : Scanned) :
    next.place path (p.moved lines bytes) lastLine' (s.moved lines bytes) =
      (next.place path p lastLine s).moved lines bytes := by
  cases next with
  | gap => rfl
  | comment text =>
    have hline := h p.line (Nat.le_refl _)
    cases hdoc : documentation? text with
    | none => simp only [Piece.place, hdoc]
    | some doc =>
      simp only [Piece.place, hdoc]
      by_cases hlast : lastLine = some p.line
      · rw [if_pos hlast]
        exact if_pos (hline.mpr hlast)
      · rw [if_neg hlast]
        exact if_neg (mt hline.mp hlast)
  | lexeme l text =>
    simp only [Piece.place, Scanned.moved, List.map_cons, Token.moved, advance_moved]
    simp only [Position.moved, Nat.add_sub_add_right]

theorem sameLine_lastLine {p : Position} {lastLine lastLine' : Option Nat} {next : Piece}
    (h : SameLine lines p.line lastLine lastLine') :
    SameLine lines (p.advance next.spelling).line (next.lastLine p lastLine)
      (next.lastLine (p.moved lines bytes) lastLine') := by
  intro k hk
  have hle := Nat.le_trans (line_le_advance p next.spelling) hk
  cases next with
  | gap => exact h k hle
  | comment => exact h k hle
  | lexeme => simp [Piece.lastLine, Position.moved]

/-- A text is scanned alike wherever it starts on a line of its own. -/
theorem scanFrom_moved {path : Text} {p : Position} {lastLine lastLine' : Option Nat}
    (h : SameLine lines p.line lastLine lastLine') (cs : List Char) :
    scanFrom path (p.moved lines bytes) lastLine' cs =
      ((scanFrom path p lastLine cs).map (Scanned.moved · lines bytes)).mapError
        (Failure.moved lines bytes) := by
  fun_induction scanFrom path p lastLine cs generalizing lastLine' with
  | case1 p lastLine =>
    rw [scanFrom]
    rfl
  | case2 p lastLine c cs fault hpiece =>
    rw [scanFrom, hpiece]
    exact congrArg Except.error (failure_moved path p fault)
  | case3 p lastLine c cs next hpiece ih =>
    rw [scanFrom_piece _ _ _ hpiece, advance_moved, ih (sameLine_lastLine h)]
    cases scanFrom path (p.advance next.spelling) (next.lastLine p lastLine)
        (cs.drop (next.spelling.length - 1)) with
    | error e => rfl
    | ok s => exact congrArg Except.ok (place_moved h s)

end

/-! Texts in a row -/

theorem borders_line (rest b : List Char) : Borders rest (rest ++ '\n' :: b) := by
  cases rest with
  | nil =>
    refine .of_gap _ fun c hc => ?_
    cases hc
    exact .inl (by decide)
  | cons c rest => exact .inl rfl

theorem map_after_cell (t : Token) (tokens : List Token) (docs docs' : DocLines)
    (x : Except Failure Scanned) :
    ((x.map (Scanned.after · tokens docs')).map (Scanned.push t)).map (Scanned.note docs) =
      x.map (Scanned.after · (t :: tokens) (docs ++ docs')) := by
  cases x with
  | error e => rfl
  | ok s =>
    simp only [Except.map, Scanned.after, Scanned.push, Scanned.note, List.append_assoc,
      List.cons_append]

/-- A text that is scanned is scanned alike if another line follows it, and what is scanned there
does not depend on the tokens before. -/
theorem scanFrom_line {path : Text} {p : Position} {lastLine : Option Nat} {cells : List Cell}
    {last : List Char} (h : Lexes cells last) (hline : ∀ l ∈ lastLine, l ≤ p.line) :
    ∃ docs lastLine', (∀ l ∈ lastLine', l ≤ (p.advance (spread cells last)).line) ∧
      scanFrom path p lastLine (spread cells last) =
        .ok ⟨tokensFrom path p cells last, docs⟩ ∧
      ∀ b, scanFrom path p lastLine (spread cells last ++ '\n' :: b) =
        (scanFrom path ((p.advance (spread cells last)).after '\n') lastLine' b).map
          (Scanned.after · (cellTokens path p cells) docs) := by
  induction h generalizing p lastLine with
  | @last last hlast =>
    obtain ⟨docs, hdocs⟩ := scanFrom_trailing path p lastLine hlast
    have hscan := hdocs [] (fun c hc => nomatch hc)
    rw [List.append_nil, scanFrom] at hscan
    refine ⟨docs, lastLine, fun l hl => (hline l hl).trans (line_le_advance p last), ?_,
      fun b => ?_⟩
    · change scanFrom path p lastLine last = _
      rw [hscan]
      simp only [Except.map, Scanned.note, List.append_nil]
      rfl
    · have hfeed : ∀ c ∈ ('\n' :: b).head?, c = '\n' := by
        intro c hc
        cases hc
        rfl
      change scanFrom path p lastLine (last ++ '\n' :: b) = _
      rw [hdocs _ hfeed, scanFrom_blank _ _ _ (by decide)]
      rfl
  | @cell cell cells last hgap hreads hcells ih =>
    obtain ⟨docs, hdocs⟩ := scanFrom_spacing path p lastLine hgap
    have hstart : ∀ l ∈ some (p.advance cell.gap).line,
        l ≤ ((p.advance cell.gap).advance cell.text).line := by
      intro l hl
      cases hl
      exact line_le_advance _ _
    obtain ⟨docs', lastLine', hline', hscan, hjoin⟩ := ih hstart
    rw [← Position.advance_append, ← Position.advance_append] at hline'
    refine ⟨docs ++ docs', lastLine', hline', ?_, fun b => ?_⟩
    · rw [spread, hdocs, scanFrom_reads _ _ _ hreads, hscan, tokensFrom_cons]
      rfl
    · have hreads' := hreads.borders (hcells.head?_ne piece_colon) (borders_line _ b)
      rw [spread, List.append_assoc, List.append_assoc, hdocs, scanFrom_reads _ _ _ hreads',
        hjoin b, map_after_cell, Position.advance_append p,
        Position.advance_append (p.advance cell.gap)]
      rfl

/-- A text that starts with no byte order mark is scanned in the line behind another one as it is
scanned by itself. -/
theorem scanFrom_joined {path : Text} {a : List Char} {sa : Scanned}
    (h : scanFrom path {} none a = .ok sa) (b : List Char) :
    scanFrom path {} none (a ++ '\n' :: b) =
      (((scanFrom path {} none b).map
        (Scanned.moved · (1 + a.count '\n') (utf8Length a + 1))).mapError
        (Failure.moved (1 + a.count '\n') (utf8Length a + 1))).map
        (Scanned.after · sa.tokens.dropLast sa.docs) := by
  obtain ⟨cells, last, rfl, hlexes, htokens⟩ := lexes_of_scanFrom h
  obtain ⟨docs, lastLine, hline, hscan, hjoin⟩ :=
    scanFrom_line hlexes (show ∀ l ∈ (none : Option Nat), l ≤ _ from fun l hl => nomatch hl)
  have hdocs : sa.docs = docs := by
    cases h.symm.trans hscan
    rfl
  have hposition : (Position.behind (spread cells last)).after '\n' =
      Position.moved {} (1 + (spread cells last).count '\n')
        (utf8Length (spread cells last) + 1) := by
    simp only [Position.behind, Position.after, Position.moved, if_true, Position.mk.injEq,
      true_and]
    refine ⟨Nat.add_comm _ _, (Nat.zero_add _).symm⟩
  have hsame : SameLine (1 + (spread cells last).count '\n') 1 none lastLine := by
    intro k hk
    constructor
    · intro hlast
      have hle := hline _ hlast
      rw [Position.advance_eq_behind] at hle
      change k + (1 + (spread cells last).count '\n') ≤ 1 + (spread cells last).count '\n' at hle
      omega
    · intro hlast
      cases hlast
  rw [hjoin b, Position.advance_eq_behind, hposition, scanFrom_moved hsame b, htokens,
    dropLast_tokensFrom, hdocs]

/-- Scanning fails at a fault of the text. -/
theorem fault_of_scanFrom {path : Text} {p : Position} {lastLine : Option Nat} {cs : List Char}
    {e : Failure} (h : scanFrom path p lastLine cs = .error e) :
    ∃ fault q, e = Fault.failure path q fault := by
  fun_induction scanFrom path p lastLine cs with
  | case1 => cases h
  | case2 p lastLine c cs fault hpiece =>
    cases h
    exact ⟨fault, p, rfl⟩
  | case3 p lastLine c cs next hpiece ih =>
    rcases Run.error_of_bind h with h | ⟨_, -, h⟩
    · exact ih h
    · cases h

/-- A fault further on has the same message and names the same character, at its own place. -/
theorem diagnostic_moved {path : Text} {p : Position} {fault : Fault} {e : SchemaError}
    (h : fault.failure path p = .schema e) (lines bytes : Nat) :
    (e.moved lines bytes).diagnostic.message = e.diagnostic.message ∧
      (e.moved lines bytes).diagnostic.category = e.diagnostic.category ∧
      ∃ span, e.diagnostic.span = some span ∧
        (e.moved lines bytes).diagnostic.span = some (span.moved lines bytes) := by
  cases fault with
  | escapeOverflow => cases h
  | _ =>
    cases h
    exact ⟨rfl, rfl, _, rfl, rfl⟩

end Lexer

/-- **Joined texts.** If a text is scanned, a line feed and a second text behind it give the tokens
and the documentation of both, where the second text has its places moved by the lines and the bytes
in front of it; and if the second text is refused, it is refused there alike. Neither text starts
with a byte order mark. -/
theorem scan_joined {a b path : Text} {sa : Scanned} (ha : (Source.text a).scan path = .ok sa)
    (hmarkA : a.head? ≠ some (.ofChar byteOrderMark))
    (hmarkB : b.head? ≠ some (.ofChar byteOrderMark)) :
    let joined := Source.text (a ++ .ofChar '\n' :: b)
    let lines := 1 + a.count (.ofChar '\n')
    let bytes := a.utf8Size + 1
    (∀ sb, (Source.text b).scan path = .ok sb →
      joined.scan path =
        .ok ⟨sa.tokens.dropLast ++ sb.tokens.map (·.moved lines bytes),
          sa.docs ++ sb.docs.map fun (line, text) => (line + lines, text)⟩) ∧
    ∀ e, (Source.text b).scan path = .error (.schema e) →
      ∃ e', joined.scan path = .error (.schema e') ∧
        e'.diagnostic.message = e.diagnostic.message ∧
        e'.diagnostic.category = e.diagnostic.category ∧
        ∃ span, e.diagnostic.span = some span ∧
          e'.diagnostic.span = some (span.moved lines bytes) := by
  intro joined lines bytes
  obtain ⟨as, rfl⟩ := @Source.exists_chars a path (by simp [ha])
  have hmarkA := mt Text.head?_ofChars.mpr hmarkA
  rw [(Source.spells_text hmarkA).scan] at ha
  have hjoined : ∀ bs, b = .ofChars bs →
      joined.scan path =
        ((((Source.text b).scan path).map (Scanned.moved · lines bytes)).mapError
          (Failure.moved lines bytes)).map (Scanned.after · sa.tokens.dropLast sa.docs) := by
    rintro bs rfl
    have hmarkB := mt Text.head?_ofChars.mpr hmarkB
    have htext : Text.ofChars as ++ .ofChar '\n' :: Text.ofChars bs =
        .ofChars (as ++ '\n' :: bs) := by
      rw [Text.ofChars, Text.ofChars, Text.ofChars, List.map_append, List.map_cons]
    have hmark : (as ++ '\n' :: bs).head? ≠ some byteOrderMark := by
      cases as with
      | nil =>
        have hfeed : '\n' ≠ byteOrderMark := by decide +kernel
        exact fun hhead => hfeed (Option.some.inj hhead)
      | cons => exact hmarkA
    change (Source.text (Text.ofChars as ++ .ofChar '\n' :: Text.ofChars bs)).scan path = _
    rw [htext, (Source.spells_text hmark).scan, (Source.spells_text hmarkB).scan,
      scanFrom_joined ha, ← Text.count_ofChars, ← Text.utf8Size_ofChars]
  constructor
  · intro sb hb
    obtain ⟨bs, hbs⟩ := @Source.exists_chars b path (by simp [hb])
    rw [hjoined bs hbs, hb]
    rfl
  · intro e hb
    obtain ⟨bs, rfl⟩ := @Source.exists_chars b path (by simp [hb])
    refine ⟨e.moved lines bytes, ?_, ?_⟩
    · rw [hjoined bs rfl, hb]
      rfl
    · rw [(Source.spells_text (mt Text.head?_ofChars.mpr hmarkB)).scan] at hb
      obtain ⟨fault, q, hfault⟩ := fault_of_scanFrom hb
      exact diagnostic_moved hfault.symm lines bytes

namespace Joined

/-! A comment at the end of the first text, which the line feed ends, and documentation in both. -/

def first : Text := "## a\n\u00e9 # \""

def second : Text := "## b\ny"

def broken : Text := "y \"z"

def scanned : Scanned :=
  ⟨[⟨.identifier "\u00e9", [], ⟨2, 1, 5⟩, 2⟩, ⟨.eof, [], ⟨2, 6, 11⟩, 0⟩], [(1, "a")]⟩

theorem scan_joined_comments :
    (Source.text first).scan [] = .ok scanned ∧
      (Source.text (first ++ .ofChar '\n' :: second)).scan [] =
        .ok ⟨[⟨.identifier "\u00e9", [], ⟨2, 1, 5⟩, 2⟩, ⟨.identifier "y", [], ⟨4, 1, 17⟩, 1⟩,
          ⟨.eof, [], ⟨4, 2, 18⟩, 0⟩], [(1, "a"), (3, "b")]⟩ ∧
      ∃ e span, (Source.text (first ++ .ofChar '\n' :: broken)).scan [] = .error (.schema e) ∧
        e.diagnostic.span = some span ∧ span = ⟨[], 3, 3, 14, 1⟩ := by
  have hfirst : (Source.text first).scan [] = .ok scanned := by decide +kernel
  have hmark : first.head? ≠ some (.ofChar byteOrderMark) := by decide +kernel
  refine ⟨hfirst, ?_, ?_⟩
  · exact (scan_joined hfirst hmark (by decide +kernel)).1
      ⟨[⟨.identifier "y", [], ⟨2, 1, 5⟩, 1⟩, ⟨.eof, [], ⟨2, 2, 6⟩, 0⟩], [(1, "b")]⟩
      (by decide +kernel)
  · have hbroken : (Source.text broken).scan [] =
        .error (.schema (.unterminatedLiteral (some '\"') ⟨[], 1, 3, 2, 1⟩)) := by
      decide +kernel
    obtain ⟨e, he, -, -, span, hspan, hmoved⟩ :=
      (scan_joined hfirst hmark (by decide +kernel)).2 _ hbroken
    cases hspan
    exact ⟨e, _, he, hmoved, by decide +kernel⟩

end Joined

end RelaxCompact
