import RelaxCompact.Proofs.Scanning.Pieces

/-!
Texts in cells. A text that is scanned is a row of cells, each of which is a gap and a lexeme behind
it, and a gap at its end; a row of cells whose lexemes are read where they stand is scanned as it is
laid out.
-/

namespace RelaxCompact

/-- Blanks, and comments that end with their line. -/
inductive Spacing : List Char → Prop
  | nil : Spacing []
  | blank {c : Char} {cs : List Char} :
    c ∈ [' ', '\t', '\r', '\n'] → Spacing cs → Spacing (c :: cs)
  | comment {text cs : List Char} :
    '\n' ∉ text → Spacing cs → Spacing ('#' :: (text ++ '\n' :: cs))

/-- What may stand behind the last lexeme: a comment there may end with the text. -/
inductive Trailing : List Char → Prop
  | spacing {cs : List Char} : Spacing cs → Trailing cs
  | comment {before text : List Char} :
    Spacing before → '\n' ∉ text → Trailing (before ++ '#' :: text)

/-- A lexeme as it is written, and the gap in front of it. -/
structure Cell where
  gap : List Char
  lexeme : Lexeme
  text : List Char
  deriving DecidableEq, Repr

/-- The text that cells make up, with what stands at its end. -/
def spread : List Cell → List Char → List Char
  | [], last => last
  | cell :: cells, last => cell.gap ++ (cell.text ++ spread cells last)

/-- The lexemes of cells are read where they stand. -/
inductive Lexes : List Cell → List Char → Prop
  | last {last : List Char} : Trailing last → Lexes [] last
  | cell {cell : Cell} {cells : List Cell} {last : List Char} :
    Spacing cell.gap → cell.lexeme.Reads cell.text (spread cells last) → Lexes cells last →
    Lexes (cell :: cells) last

/-- Puts documentation in front of what is scanned. -/
def Scanned.note (docs : DocLines) (s : Scanned) : Scanned := { s with docs := docs ++ s.docs }

/-- Puts a token in front of what is scanned. -/
def Scanned.push (t : Token) (s : Scanned) : Scanned := { s with tokens := t :: s.tokens }

namespace Lexer

/-- The tokens of cells that start at a position. -/
def cellTokens (path : Text) : Position → List Cell → List Token
  | _, [] => []
  | p, cell :: cells =>
    let start := p.advance cell.gap
    let stop := start.advance cell.text
    ⟨cell.lexeme, path, start, stop.offset - start.offset⟩ :: cellTokens path stop cells

/-- The tokens of cells, and the end of the file behind what stands at the end. -/
def tokensFrom (path : Text) (p : Position) (cells : List Cell) (last : List Char) : List Token :=
  cellTokens path p cells ++ [⟨.eof, path, p.advance (spread cells last), 0⟩]

/-- What a comment at a position documents, behind the line of the last token. -/
def noted (lastLine : Option Nat) (p : Position) (comment : List Char) : DocLines :=
  match documentation? comment with
  | some doc => if lastLine = some p.line then [] else [(p.line, doc)]
  | none => []

/-- What the comments of a gap document. -/
inductive Notes (lastLine : Option Nat) : Position → List Char → DocLines → Prop
  | nil {p : Position} : Notes lastLine p [] []
  | blank {p : Position} {c : Char} {cs : List Char} {docs : DocLines} :
    isGap c = true → Notes lastLine (p.after c) cs docs → Notes lastLine p (c :: cs) docs
  | comment {p : Position} {text cs : List Char} {docs : DocLines} :
    '\n' ∉ text → Notes lastLine ((p.advance ('#' :: text)).after '\n') cs docs →
      Notes lastLine p ('#' :: (text ++ '\n' :: cs)) (noted lastLine p ('#' :: text) ++ docs)
  | last {p : Position} {text : List Char} :
    '\n' ∉ text → Notes lastLine p ('#' :: text) (noted lastLine p ('#' :: text))

/-- What the comments between cells document. -/
inductive CellNotes : Option Nat → Position → List Cell → List Char → DocLines → Prop
  | last {lastLine : Option Nat} {p : Position} {last : List Char} {docs : DocLines} :
    Notes lastLine p last docs → CellNotes lastLine p [] last docs
  | cell {lastLine : Option Nat} {p : Position} {cell : Cell} {cells : List Cell}
    {last : List Char} {docs docs' : DocLines} :
    Notes lastLine p cell.gap docs →
      CellNotes (some (p.advance cell.gap).line) ((p.advance cell.gap).advance cell.text) cells last
        docs' →
      CellNotes lastLine p (cell :: cells) last (docs ++ docs')

end Lexer

theorem Position.advance_append (p : Position) (cs cs' : List Char) :
    p.advance (cs ++ cs') = (p.advance cs).advance cs' :=
  List.foldl_append

theorem Lexer.line_le_advance (p : Position) (cs : List Char) : p.line ≤ (p.advance cs).line := by
  induction cs generalizing p with
  | nil => exact Nat.le_refl _
  | cons c cs ih =>
    refine Nat.le_trans ?_ (ih (p.after c))
    unfold Position.after
    dsimp only
    split
    · exact Nat.le_succ _
    · exact Nat.le_refl _

theorem Spacing.append {gap gap' : List Char} (h : Spacing gap) (h' : Spacing gap') :
    Spacing (gap ++ gap') := by
  induction h with
  | nil => exact h'
  | blank hc _ ih => exact .blank hc ih
  | comment htext _ ih =>
    rw [List.cons_append, List.append_assoc]
    exact .comment htext ih

theorem Spacing.trailing {gap last : List Char} (h : Spacing gap) (h' : Trailing last) :
    Trailing (gap ++ last) := by
  cases h' with
  | spacing hlast => exact .spacing (h.append hlast)
  | comment hbefore htext =>
    rw [← List.append_assoc]
    exact .comment (h.append hbefore) htext

theorem Lexer.isGap_iff {c : Char} : isGap c = true ↔ c ∈ [' ', '\t', '\r', '\n'] := by
  simp only [isGap, Bool.or_eq_true, decide_eq_true_eq, List.mem_cons, List.not_mem_nil, or_false,
    or_assoc]

theorem Spacing.head {gap : List Char} (h : Spacing gap) :
    ∀ c ∈ gap.head?, Lexer.isGap c = true ∨ c = '#' := by
  intro c hc
  cases h with
  | nil => cases hc
  | blank hblank _ =>
    cases hc
    exact .inl (Lexer.isGap_iff.mpr hblank)
  | comment =>
    cases hc
    exact .inr rfl

theorem Trailing.head {last : List Char} (h : Trailing last) :
    ∀ c ∈ last.head?, Lexer.isGap c = true ∨ c = '#' := by
  cases h with
  | spacing hlast => exact hlast.head
  | @comment before text hbefore _ =>
    cases before with
    | nil =>
      intro c hc
      cases hc
      exact .inr rfl
    | cons => exact hbefore.head

/-- What is scanned starts with no character that starts no piece. -/
theorem Lexes.head?_ne {cells : List Cell} {last : List Char} (h : Lexes cells last) {c : Char}
    {fault : Lexer.Fault} (hpiece : ∀ cs, Lexer.piece c cs = .error fault) :
    (spread cells last).head? ≠ some c := by
  have hspacing : ¬(Lexer.isGap c = true ∨ c = '#') := by
    have hfault := hpiece []
    unfold Lexer.piece at hfault
    rintro (hgap | hmark)
    · rw [if_pos hgap] at hfault
      cases hfault
    · subst hmark
      cases hfault
  intro hhead
  cases h with
  | last hlast => exact hspacing (hlast.head _ hhead)
  | @cell cell cells last hgap hreads _ =>
    unfold spread at hhead
    cases hcell : cell.gap with
    | nil =>
      obtain ⟨c', inner, htext, hread⟩ := hreads
      rw [hcell, htext] at hhead
      cases hhead
      rw [hpiece] at hread
      cases hread
    | cons c' gap =>
      rw [hcell] at hhead hgap
      exact hspacing (hgap.head _ hhead)

/-- Each cell has a gap, and a lexeme that is read where it stands. -/
theorem Lexes.mem {cells : List Cell} {last : List Char} (h : Lexes cells last) :
    ∀ cell ∈ cells, Spacing cell.gap ∧ ∃ rest, cell.lexeme.Reads cell.text rest := by
  induction h with
  | last => exact fun cell hcell => nomatch hcell
  | cell hgap hreads _ ih => exact List.forall_mem_cons.mpr ⟨⟨hgap, _, hreads⟩, ih⟩

theorem Lexes.stands {cells : List Cell} {last : List Char} (h : Lexes cells last) :
    ∀ cell ∈ cells, cell.lexeme.Stands cell.text := by
  intro cell hcell
  obtain ⟨-, rest, hreads⟩ := h.mem cell hcell
  exact hreads.stands

namespace Lexer

theorem tokensFrom_cons (path : Text) (p : Position) (cell : Cell) (cells : List Cell)
    (last : List Char) :
    tokensFrom path p (cell :: cells) last =
      ⟨cell.lexeme, path, p.advance cell.gap,
        ((p.advance cell.gap).advance cell.text).offset - (p.advance cell.gap).offset⟩ ::
        tokensFrom path ((p.advance cell.gap).advance cell.text) cells last := by
  simp only [tokensFrom, cellTokens, spread, Position.advance_append, List.cons_append]

theorem map_lexeme_tokensFrom (path : Text) (p : Position) (cells : List Cell) (last : List Char) :
    (tokensFrom path p cells last).map Token.lexeme = cells.map Cell.lexeme ++ [Lexeme.eof] := by
  induction cells generalizing p with
  | nil => rfl
  | cons cell cells ih => rw [tokensFrom_cons, List.map_cons, ih, List.map_cons, List.cons_append]

theorem lexeme_of_mem_cellTokens {path : Text} {p : Position} {cells : List Cell} {t : Token}
    (ht : t ∈ cellTokens path p cells) : ∃ cell ∈ cells, t.lexeme = cell.lexeme := by
  induction cells generalizing p with
  | nil => cases ht
  | cons cell cells ih =>
    rcases List.mem_cons.mp ht with rfl | ht
    · exact ⟨cell, List.mem_cons_self, rfl⟩
    · obtain ⟨cell', hcell', h⟩ := ih ht
      exact ⟨cell', List.mem_cons_of_mem _ hcell', h⟩

/-! Gaps -/

section

variable (path : Text) (p : Position) (lastLine : Option Nat)

theorem scanFrom_piece {c : Char} {cs : List Char} {next : Piece} (h : piece c cs = .ok next) :
    scanFrom path p lastLine (c :: cs) =
      (scanFrom path (p.advance next.spelling) (next.lastLine p lastLine)
        (cs.drop (next.spelling.length - 1))).map (next.place path p lastLine) := by
  rw [scanFrom, h]
  dsimp only
  cases scanFrom path (p.advance next.spelling) (next.lastLine p lastLine)
    (cs.drop (next.spelling.length - 1)) with
  | ok s => rfl
  | error e => rfl

theorem drop_takeWhile (q : Char → Bool) (cs : List Char) :
    cs.drop (cs.takeWhile q).length = cs.dropWhile q := by
  have hsplit := List.takeWhile_append_dropWhile (p := q) (l := cs)
  calc cs.drop (cs.takeWhile q).length
      = (cs.takeWhile q ++ cs.dropWhile q).drop (cs.takeWhile q).length := by rw [hsplit]
    _ = cs.dropWhile q := List.drop_left

/-- Blanks are passed over at once. -/
theorem scanFrom_blanks (cs : List Char) :
    scanFrom path p lastLine cs =
      scanFrom path (p.advance (cs.takeWhile isGap)) lastLine (cs.dropWhile isGap) := by
  cases cs with
  | nil => rfl
  | cons c cs =>
    cases hc : isGap c with
    | true =>
      have hpiece : piece c cs = .ok (.gap (c :: cs.takeWhile isGap)) := by
        unfold piece
        rw [if_pos hc]
      rw [scanFrom_piece path p lastLine hpiece, List.takeWhile_cons_of_pos hc,
        List.dropWhile_cons_of_pos hc, ← drop_takeWhile]
      exact congrFun Except.map_id _
    | false =>
      have hne : ¬ isGap c = true := Bool.eq_false_iff.mp hc
      rw [List.takeWhile_cons_of_neg hne, List.dropWhile_cons_of_neg hne]
      rfl

theorem scanFrom_blank {c : Char} (hc : isGap c = true) (cs : List Char) :
    scanFrom path p lastLine (c :: cs) = scanFrom path (p.after c) lastLine cs := by
  rw [scanFrom_blanks path p lastLine (c :: cs), scanFrom_blanks path (p.after c) lastLine cs,
    List.takeWhile_cons_of_pos hc, List.dropWhile_cons_of_pos hc]
  rfl

theorem map_note_nil (x : Except Failure Scanned) : x.map (Scanned.note []) = x := by
  cases x with
  | ok s => rfl
  | error e => rfl

theorem map_note_append (docs docs' : DocLines) (x : Except Failure Scanned) :
    x.map (Scanned.note (docs ++ docs')) =
      (x.map (Scanned.note docs')).map (Scanned.note docs) := by
  cases x with
  | ok s =>
    simp only [Except.map, Scanned.note, List.append_assoc]
  | error e => rfl

theorem place_comment (comment : List Char) :
    (Piece.comment comment).place path p lastLine = Scanned.note (noted lastLine p comment) := by
  funext s
  cases hdoc : documentation? comment with
  | none =>
    simp only [Piece.place, noted, hdoc]
    rfl
  | some doc =>
    by_cases h : lastLine = some p.line
    · simp only [Piece.place, noted, hdoc, if_pos h]
      rfl
    · simp only [Piece.place, noted, hdoc, if_neg h]
      rfl

/-- A line is the text up to its end. -/
theorem takeWhile_line {text rest : List Char} (htext : '\n' ∉ text)
    (hrest : ∀ c ∈ rest.head?, c = '\n') : (text ++ rest).takeWhile (· ≠ '\n') = text := by
  have hall : ∀ c ∈ text, (decide (c ≠ '\n')) = true := by
    intro c hc
    exact decide_eq_true fun he => htext (he ▸ hc)
  rw [List.takeWhile_append_of_pos hall]
  cases rest with
  | nil => exact List.append_nil _
  | cons c rest =>
    rw [hrest c rfl, List.takeWhile_cons_of_neg (by simp)]
    exact List.append_nil _

/-- A comment ends with its line, or with the text. -/
theorem scanFrom_comment {text : List Char} (htext : '\n' ∉ text) (rest : List Char)
    (hrest : ∀ c ∈ rest.head?, c = '\n') :
    scanFrom path p lastLine ('#' :: (text ++ rest)) =
      (scanFrom path (p.advance ('#' :: text)) lastLine rest).map
        (Scanned.note (noted lastLine p ('#' :: text))) := by
  have hpiece : piece '#' (text ++ rest) = .ok (.comment ('#' :: text)) := by
    unfold piece
    rw [if_neg (by decide), if_pos rfl, takeWhile_line htext hrest]
  have hdrop : (text ++ rest).drop (('#' :: text).length - 1) = rest := List.drop_left
  rw [scanFrom_piece path p lastLine hpiece, place_comment, Piece.spelling, hdrop]
  rfl

/-- A gap is passed over whatever follows it, and its comments are noted. -/
theorem scanFrom_notes {gap : List Char} (h : Spacing gap) : ∃ docs,
    (∀ gap' docs', Notes lastLine (p.advance gap) gap' docs' →
      Notes lastLine p (gap ++ gap') (docs ++ docs')) ∧
    ∀ rest, scanFrom path p lastLine (gap ++ rest) =
      (scanFrom path (p.advance gap) lastLine rest).map (Scanned.note docs) := by
  induction h generalizing p with
  | nil => exact ⟨[], fun _ _ hnotes => hnotes, fun rest => (map_note_nil _).symm⟩
  | blank hc _ ih =>
    obtain ⟨docs, hnotes, hdocs⟩ := ih (p.after _)
    refine ⟨docs, fun gap' docs' h => .blank (isGap_iff.mpr hc) (hnotes gap' docs' h),
      fun rest => ?_⟩
    rw [List.cons_append, scanFrom_blank path p lastLine (isGap_iff.mpr hc)]
    exact hdocs rest
  | @comment text cs htext _ ih =>
    obtain ⟨docs, hnotes, hdocs⟩ := ih ((p.advance ('#' :: text)).after '\n')
    have hadvance : p.advance ('#' :: (text ++ '\n' :: cs)) =
        ((p.advance ('#' :: text)).after '\n').advance cs := by
      rw [← List.cons_append, Position.advance_append]
      rfl
    refine ⟨noted lastLine p ('#' :: text) ++ docs, fun gap' docs' h => ?_, fun rest => ?_⟩
    · rw [hadvance] at h
      rw [List.cons_append, List.append_assoc, List.cons_append, List.append_assoc]
      exact .comment htext (hnotes gap' docs' h)
    · rw [List.cons_append, List.append_assoc, List.cons_append,
        scanFrom_comment path p lastLine htext _ (by simp), scanFrom_blank _ _ _ (by decide), hdocs,
        map_note_append, hadvance]

theorem scanFrom_spacing {gap : List Char} (h : Spacing gap) : ∃ docs, ∀ rest,
    scanFrom path p lastLine (gap ++ rest) =
      (scanFrom path (p.advance gap) lastLine rest).map (Scanned.note docs) := by
  obtain ⟨docs, -, hdocs⟩ := scanFrom_notes path p lastLine h
  exact ⟨docs, hdocs⟩

/-- What stands at the end of a text may be followed by another line. -/
theorem scanFrom_ending {last : List Char} (h : Trailing last) :
    ∃ docs, Notes lastLine p last docs ∧ ∀ rest, (∀ c ∈ rest.head?, c = '\n') →
      scanFrom path p lastLine (last ++ rest) =
        (scanFrom path (p.advance last) lastLine rest).map (Scanned.note docs) := by
  cases h with
  | spacing hlast =>
    obtain ⟨docs, hnotes, hdocs⟩ := scanFrom_notes path p lastLine hlast
    have hnil := hnotes [] [] .nil
    rw [List.append_nil, List.append_nil] at hnil
    exact ⟨docs, hnil, fun rest _ => hdocs rest⟩
  | @comment before text hbefore htext =>
    obtain ⟨docs, hnotes, hdocs⟩ := scanFrom_notes path p lastLine hbefore
    refine ⟨_, hnotes _ _ (.last htext), fun rest hrest => ?_⟩
    rw [List.append_assoc, List.cons_append, hdocs, scanFrom_comment _ _ _ htext rest hrest,
      map_note_append, Position.advance_append]

theorem scanFrom_trailing {last : List Char} (h : Trailing last) : ∃ docs, ∀ rest,
    (∀ c ∈ rest.head?, c = '\n') →
    scanFrom path p lastLine (last ++ rest) =
      (scanFrom path (p.advance last) lastLine rest).map (Scanned.note docs) := by
  obtain ⟨docs, -, hdocs⟩ := scanFrom_ending path p lastLine h
  exact ⟨docs, hdocs⟩

theorem scanFrom_last {last : List Char} (h : Trailing last) : ∃ docs,
    Notes lastLine p last docs ∧
      scanFrom path p lastLine last = .ok ⟨tokensFrom path p [] last, docs⟩ := by
  obtain ⟨docs, hnotes, hdocs⟩ := scanFrom_ending path p lastLine h
  have hscan := hdocs [] (fun c hc => nomatch hc)
  rw [List.append_nil, scanFrom] at hscan
  refine ⟨docs, hnotes, hscan.trans ?_⟩
  simp only [Except.map, Scanned.note, List.append_nil]
  rfl

/-! Lexemes -/

theorem scanFrom_reads {l : Lexeme} {text rest : List Char} (h : l.Reads text rest) :
    scanFrom path p lastLine (text ++ rest) =
      (scanFrom path (p.advance text) (some p.line) rest).map
        (Scanned.push ⟨l, path, p, (p.advance text).offset - p.offset⟩) := by
  obtain ⟨c, inner, rfl, hpiece⟩ := h
  rw [List.cons_append, scanFrom_piece path p lastLine hpiece]
  have hdrop : (inner ++ rest).drop ((c :: inner).length - 1) = rest := List.drop_left
  rw [Piece.spelling, hdrop]
  rfl

end

theorem exists_namePiece (cs : List Char) : ∃ l text, namePiece cs = .lexeme l text := by
  unfold namePiece
  dsimp only
  split
  · exact ⟨_, _, rfl⟩
  · split
    · exact ⟨_, _, rfl⟩
    · exact ⟨_, _, rfl⟩
  · exact ⟨_, _, rfl⟩

/-- What is no blank and no comment is a lexeme. -/
theorem lexeme_of_piece {c : Char} {cs : List Char} {next : Piece} (hgap : isGap c = false)
    (hmark : c ≠ '#') (h : piece c cs = .ok next) : ∃ l text, next = .lexeme l text := by
  unfold piece at h
  rw [if_neg (Bool.eq_false_iff.mp hgap), if_neg hmark] at h
  split at h
  case isTrue =>
    obtain ⟨_, _, h⟩ := Run.ok_of_bind h
    cases h
    exact ⟨_, _, rfl⟩
  case isFalse =>
  split at h
  case isTrue =>
    split at h
    case isTrue =>
      cases h
      exact ⟨_, _, rfl⟩
    case isFalse => cases h
  case isFalse =>
  split at h
  case isTrue =>
    obtain ⟨l, text, hname⟩ := exists_namePiece (c :: cs)
    exact ⟨l, text, (Except.ok.inj h).symm.trans hname⟩
  case isFalse =>
  split at h
  case h_1 =>
    cases h
    exact ⟨_, _, rfl⟩
  case h_2 => cases h

/-- A line, and what follows it. -/
theorem exists_line (cs : List Char) :
    ∃ text, '\n' ∉ text ∧ (cs = text ∨ ∃ rest, cs = text ++ '\n' :: rest) := by
  induction cs with
  | nil => exact ⟨[], List.not_mem_nil, .inl rfl⟩
  | cons c cs ih =>
    by_cases hc : c = '\n'
    · exact ⟨[], List.not_mem_nil, .inr ⟨cs, by rw [hc]; rfl⟩⟩
    · obtain ⟨text, htext, hcs⟩ := ih
      have htext' : '\n' ∉ c :: text := List.not_mem_cons_of_ne_of_not_mem (Ne.symm hc) htext
      rcases hcs with rfl | ⟨rest, rfl⟩
      · exact ⟨c :: cs, htext', .inl rfl⟩
      · exact ⟨c :: text, htext', .inr ⟨rest, rfl⟩⟩

/-- A gap up to the end of a text, or up to the first character of a lexeme. -/
def Gapped (cs : List Char) : Prop :=
  Trailing cs ∨ ∃ gap c rest, cs = gap ++ c :: rest ∧ Spacing gap ∧ isGap c = false ∧ c ≠ '#'

theorem Gapped.behind {gap cs : List Char} (h : Gapped cs) (hgap : Spacing gap) :
    Gapped (gap ++ cs) := by
  rcases h with h | ⟨gap', c, rest, rfl, hgap', hc⟩
  · exact .inl (hgap.trailing h)
  · exact .inr ⟨gap ++ gap', c, rest, (List.append_assoc _ _ _).symm, hgap.append hgap', hc⟩

theorem gapped (cs : List Char) : Gapped cs := by
  -- A comment is passed over as a whole, so the induction is on the length.
  induction hn : cs.length using Nat.strongRecOn generalizing cs with
  | ind n ih =>
    cases cs with
    | nil => exact .inl (.spacing .nil)
    | cons c cs =>
      by_cases hc : isGap c = true
      · have hrest := ih cs.length (hn ▸ Nat.lt_succ_self _) cs rfl
        exact hrest.behind (.blank (isGap_iff.mp hc) .nil)
      · by_cases hmark : c = '#'
        · subst hmark
          obtain ⟨text, htext, rfl | ⟨rest, rfl⟩⟩ := exists_line cs
          · exact .inl (.comment .nil htext)
          · have hlength : rest.length < n := by
              rw [← hn, List.length_cons, List.length_append, List.length_cons]
              omega
            have hrest := (ih rest.length hlength rest rfl).behind (.comment htext .nil)
            rwa [List.cons_append, List.append_assoc] at hrest
        · exact .inr ⟨[], c, cs, rfl, .nil, Bool.eq_false_iff.mpr hc, hmark⟩

theorem map_eq_ok {ε α β : Type} {f : α → β} {x : Except ε α} {b : β} (h : x.map f = .ok b) :
    ∃ a, x = .ok a ∧ b = f a := by
  cases x with
  | ok a =>
    cases h
    exact ⟨a, rfl, rfl⟩
  | error e => cases h

/-! Cells -/

variable {path : Text} {p : Position} {lastLine : Option Nat}

/-- What is scanned is laid out in cells. -/
theorem lexes_of_scanFrom {cs : List Char} {scanned : Scanned}
    (h : scanFrom path p lastLine cs = .ok scanned) :
    ∃ cells last, cs = spread cells last ∧ Lexes cells last ∧
      scanned.tokens = tokensFrom path p cells last := by
  induction hn : cs.length using Nat.strongRecOn generalizing cs p lastLine scanned with
  | ind n ih =>
    rcases gapped cs with hlast | ⟨gap, c, rest, rfl, hgap, hc, hmark⟩
    · obtain ⟨docs, -, hdocs⟩ := scanFrom_last path p lastLine hlast
      cases h.symm.trans hdocs
      exact ⟨[], cs, rfl, .last hlast, rfl⟩
    · obtain ⟨docs, hdocs⟩ := scanFrom_spacing path p lastLine hgap
      rw [hdocs] at h
      obtain ⟨behind, hbehind, rfl⟩ := map_eq_ok h
      cases hpiece : piece c rest with
      | error fault =>
        rw [scanFrom, hpiece] at hbehind
        cases hbehind
      | ok next =>
        obtain ⟨l, text, rfl⟩ := lexeme_of_piece hc hmark hpiece
        obtain ⟨inner, after, rfl, rfl, -, -⟩ := reads_of_piece hpiece
        have hreads : l.Reads (c :: inner) after := ⟨c, inner, rfl, hpiece⟩
        rw [← List.cons_append, scanFrom_reads _ _ _ hreads] at hbehind
        obtain ⟨scanned, hscanned, rfl⟩ := map_eq_ok hbehind
        have hlength : after.length < n := by
          rw [← hn, List.length_append, List.length_cons, List.length_append]
          omega
        obtain ⟨cells, last, rfl, hlexes, htokens⟩ := ih after.length hlength hscanned rfl
        refine ⟨⟨gap, l, c :: inner⟩ :: cells, last, rfl, .cell hgap hreads hlexes, ?_⟩
        rw [tokensFrom_cons, ← htokens]
        rfl

/-- Cells are scanned as they are laid out, and the comments between them are noted. -/
theorem scanFrom_cells {cells : List Cell} {last : List Char} (h : Lexes cells last) : ∃ docs,
    CellNotes lastLine p cells last docs ∧
      scanFrom path p lastLine (spread cells last) = .ok ⟨tokensFrom path p cells last, docs⟩ := by
  induction h generalizing p lastLine with
  | last hlast =>
    obtain ⟨docs, hnotes, hdocs⟩ := scanFrom_last path p lastLine hlast
    exact ⟨docs, .last hnotes, hdocs⟩
  | @cell cell cells last hgap hreads _ ih =>
    obtain ⟨docs, hnotes, hdocs⟩ := scanFrom_notes path p lastLine hgap
    obtain ⟨docs', hnotes', hdocs'⟩ := @ih ((p.advance cell.gap).advance cell.text)
      (some (p.advance cell.gap).line)
    have hnil := hnotes [] [] .nil
    rw [List.append_nil, List.append_nil] at hnil
    refine ⟨docs ++ docs', .cell hnil hnotes', ?_⟩
    unfold spread
    rw [hdocs, scanFrom_reads path _ _ hreads, hdocs', tokensFrom_cons]
    rfl

theorem scanFrom_of_lexes {cells : List Cell} {last : List Char} (h : Lexes cells last) :
    ∃ docs, scanFrom path p lastLine (spread cells last) =
      .ok ⟨tokensFrom path p cells last, docs⟩ := by
  obtain ⟨docs, -, hdocs⟩ := @scanFrom_cells path p lastLine cells last h
  exact ⟨docs, hdocs⟩

end Lexer

end RelaxCompact
