import RelaxCompact.Proofs.Scanning.Inserting

/-!
Documentation comments. What is documented for a line is what a comment there says that opens the
line, and so does a comment behind a literal that ends on the line but starts on one above.
-/

namespace RelaxCompact

open Lexer

/-- A comment in a gap: blanks and whole comments stand in front of it, and its line ends with it. -/
def CommentIn (gap before comment : List Char) : Prop :=
  ∃ text after, gap = before ++ '#' :: (text ++ after) ∧ Spacing before ∧ comment = '#' :: text ∧
    '\n' ∉ text ∧ ∀ c ∈ after.head?, c = '\n'

/-- A gap of a text, and the cells in front of it. -/
inductive GapBehind : List Cell → List Char → List Cell → List Char → Prop
  | last {last : List Char} : GapBehind [] last [] last
  | front {cell : Cell} {cells : List Cell} {last : List Char} :
    GapBehind (cell :: cells) last [] cell.gap
  | behind {cell : Cell} {cells done : List Cell} {last gap : List Char} :
    GapBehind cells last done gap → GapBehind (cell :: cells) last (cell :: done) gap

/-- A comment of a text, with the cells and all the text in front of it. -/
def CommentBehind (cells : List Cell) (last : List Char) (done : List Cell)
    (before comment : List Char) : Prop :=
  ∃ gap part, GapBehind cells last done gap ∧ CommentIn gap part comment ∧
    before = spread done part

/-- Nothing but blanks stands at the end of a text, in its last line. -/
def OpensLine (before : List Char) : Prop :=
  ∀ c ∈ before.reverse.takeWhile (· ≠ '\n'), isGap c = true

/-- What a comment with at least two marks says: its text behind the marks and a space, without the
blanks at the end. -/
def Documents (comment : List Char) (doc : String) : Prop :=
  ∃ marks body blanks : List Char, comment = marks ++ body ∧ (∀ c ∈ marks, c = '#') ∧
    2 ≤ marks.length ∧ body.head? ≠ some '#' ∧
    (body = ' ' :: (doc.toList ++ blanks) ∨
      body.head? ≠ some ' ' ∧ body = doc.toList ++ blanks) ∧
    (∀ c ∈ blanks, isBlank c = true) ∧ ∀ c ∈ doc.toList.getLast?, isBlank c = false

/-! What comments say -/

theorem dropWhile_behind {q : Char → Bool} {front rest : List Char} (hfront : ∀ c ∈ front, q c = true)
    (hrest : ∀ c ∈ rest.head?, q c = false) : (front ++ rest).dropWhile q = rest := by
  rw [List.dropWhile_append_of_pos hfront]
  cases rest with
  | nil => rfl
  | cons c rest => exact List.dropWhile_cons_of_neg (Bool.eq_false_iff.mp (hrest c rfl))

theorem trimBlankEnd_append {doc blanks : List Char} (hblanks : ∀ c ∈ blanks, isBlank c = true)
    (hdoc : ∀ c ∈ doc.getLast?, isBlank c = false) : trimBlankEnd (doc ++ blanks) = doc := by
  rw [← List.head?_reverse] at hdoc
  unfold trimBlankEnd
  rw [List.reverse_append,
    dropWhile_behind (fun c hc => hblanks c (List.mem_reverse.mp hc)) hdoc, List.reverse_reverse]

theorem trimBlankEnd_spec (cs : List Char) :
    ∃ blanks, cs = trimBlankEnd cs ++ blanks ∧ (∀ c ∈ blanks, isBlank c = true) ∧
      ∀ c ∈ (trimBlankEnd cs).getLast?, isBlank c = false := by
  refine ⟨(cs.reverse.takeWhile isBlank).reverse, ?_, fun c hc => ?_, fun c hc => ?_⟩
  · unfold trimBlankEnd
    rw [← List.reverse_append, List.takeWhile_append_dropWhile, List.reverse_reverse]
  · exact List.mem_takeWhile_imp (List.mem_reverse.mp hc)
  · have hhead := List.head?_dropWhile_not isBlank cs.reverse
    unfold trimBlankEnd at hc
    rw [List.getLast?_reverse] at hc
    rw [hc] at hhead
    exact hhead

theorem documents_of_documentation? {comment : List Char} {doc : String}
    (h : documentation? comment = some doc) : Documents comment doc := by
  unfold documentation? at h
  split at h
  case h_1 cs =>
    dsimp only at h
    have hmarks : ∀ c ∈ '#' :: '#' :: cs.takeWhile (· = '#'), c = '#' := by
      intro c hc
      simp only [List.mem_cons] at hc
      obtain rfl | rfl | hc := hc
      · rfl
      · rfl
      · have hmark := List.mem_takeWhile_imp hc
        exact of_decide_eq_true hmark
    have hbody : (cs.dropWhile (· = '#')).head? ≠ some '#' := by
      intro hhead
      have hnot := List.head?_dropWhile_not (fun c => decide (c = '#')) cs
      rw [hhead] at hnot
      cases hnot
    have hsplit : '#' :: '#' :: cs =
        ('#' :: '#' :: cs.takeWhile (· = '#')) ++ cs.dropWhile (· = '#') := by
      rw [List.cons_append, List.cons_append, List.takeWhile_append_dropWhile]
    split at h
    case h_1 rest hrest =>
      cases h
      obtain ⟨blanks, hblanks, hall, hlast⟩ := trimBlankEnd_spec rest
      refine ⟨_, _, blanks, hsplit, hmarks, by simp, hbody, .inl ?_, hall, ?_⟩
      · rw [String.toList_ofList, ← hblanks, hrest]
      · rwa [String.toList_ofList]
    case h_2 hspace =>
      cases h
      obtain ⟨blanks, hblanks, hall, hlast⟩ := trimBlankEnd_spec (cs.dropWhile (· = '#'))
      refine ⟨_, _, blanks, hsplit, hmarks, by simp, hbody, .inr ⟨?_, ?_⟩, hall, ?_⟩
      · exact head?_ne fun tail htail => hspace tail htail
      · rw [String.toList_ofList, ← hblanks]
      · rwa [String.toList_ofList]
  case h_2 => cases h

theorem Documents.documentation? {comment : List Char} {doc : String} (h : Documents comment doc) :
    documentation? comment = some doc := by
  obtain ⟨marks, body, blanks, rfl, hmarks, hlength, hhead, hbody, hblanks, hlast⟩ := h
  obtain _ | ⟨a, _ | ⟨b, marks⟩⟩ := marks
  · simp at hlength
  · simp at hlength
  have ha : a = '#' := hmarks a (by simp)
  have hb : b = '#' := hmarks b (by simp)
  subst ha hb
  have hdrop : (marks ++ body).dropWhile (· = '#') = body := by
    refine dropWhile_behind (fun c hc => decide_eq_true (hmarks c (by simp [hc]))) fun c hc => ?_
    exact decide_eq_false fun hmark => hhead (hmark ▸ hc)
  have htrim := trimBlankEnd_append hblanks hlast
  rw [List.cons_append, List.cons_append]
  unfold Lexer.documentation?
  simp only [hdrop]
  obtain rfl | ⟨hspace, rfl⟩ := hbody
  · simp only [htrim, String.ofList_toList]
  · split
    case h_1 rest heq => exact absurd (by rw [heq]; rfl) hspace
    case h_2 => simp only [htrim, String.ofList_toList]

theorem documentation?_eq_some {comment : List Char} {doc : String} :
    documentation? comment = some doc ↔ Documents comment doc :=
  ⟨documents_of_documentation?, Documents.documentation?⟩

/-! Comments of a gap -/

theorem not_commentIn_nil {before comment : List Char} : ¬ CommentIn [] before comment := by
  rintro ⟨text, after, hgap, -⟩
  simp at hgap

theorem commentIn_blank {c : Char} {gap before comment : List Char} (hc : isGap c = true) :
    CommentIn (c :: gap) before comment ↔
      ∃ before', before = c :: before' ∧ CommentIn gap before' comment := by
  constructor
  · rintro ⟨text, after, hgap, hbefore, hcomment, htext⟩
    cases hbefore with
    | nil =>
      cases hgap
      exact absurd hc (by decide)
    | blank _ hbefore =>
      cases hgap
      exact ⟨_, rfl, text, after, rfl, hbefore, hcomment, htext⟩
    | comment =>
      cases hgap
      exact absurd hc (by decide)
  · rintro ⟨before', rfl, text, after, rfl, hbefore, hcomment, htext⟩
    exact ⟨text, after, rfl, .blank (isGap_iff.mp hc) hbefore, hcomment, htext⟩

/-- A line that ends with a text or with a line feed is told by the text. -/
theorem line_inj {text text' rest rest' : List Char} (h : text ++ rest = text' ++ rest')
    (htext : '\n' ∉ text) (hrest : ∀ c ∈ rest.head?, c = '\n') (htext' : '\n' ∉ text')
    (hrest' : ∀ c ∈ rest'.head?, c = '\n') : text = text' ∧ rest = rest' := by
  have hline := takeWhile_line htext hrest
  rw [h, takeWhile_line htext' hrest'] at hline
  subst hline
  exact ⟨rfl, List.append_cancel_left h⟩

theorem commentIn_comment {text gap before comment : List Char} (htext : '\n' ∉ text) :
    CommentIn ('#' :: (text ++ '\n' :: gap)) before comment ↔
      (before = [] ∧ comment = '#' :: text) ∨
        ∃ before', before = '#' :: (text ++ '\n' :: before') ∧ CommentIn gap before' comment := by
  constructor
  · rintro ⟨text', after, hgap, hbefore, rfl, htext', hafter⟩
    cases hbefore with
    | nil =>
      obtain ⟨rfl, -⟩ := line_inj (List.cons.inj hgap).2 htext (by simp) htext' hafter
      exact .inl ⟨rfl, rfl⟩
    | blank hc _ => exact absurd ((List.cons.inj hgap).1 ▸ hc) (by decide)
    | comment htext₁ hbefore =>
      rw [List.cons_append, List.append_assoc] at hgap
      obtain ⟨rfl, hrest⟩ := line_inj (List.cons.inj hgap).2 htext (by simp) htext₁ (by simp)
      exact .inr ⟨_, rfl, text', after, (List.cons.inj hrest).2, hbefore, rfl, htext', hafter⟩
  · rintro (⟨rfl, rfl⟩ | ⟨before', rfl, text', after, rfl, hbefore, rfl, htext', hafter⟩)
    · exact ⟨text, '\n' :: gap, rfl, .nil, rfl, htext, by simp⟩
    · refine ⟨text', after, ?_, .comment htext hbefore, rfl, htext', hafter⟩
      simp only [List.cons_append, List.append_assoc]

theorem commentIn_last {text before comment : List Char} (htext : '\n' ∉ text) :
    CommentIn ('#' :: text) before comment ↔ before = [] ∧ comment = '#' :: text := by
  constructor
  · rintro ⟨text', after, hgap, hbefore, rfl, htext', hafter⟩
    cases hbefore with
    | nil =>
      have hsplit : text ++ [] = text' ++ after := by
        rw [List.append_nil]
        exact (List.cons.inj hgap).2
      obtain ⟨rfl, -⟩ := line_inj hsplit htext (by simp) htext' hafter
      exact ⟨rfl, rfl⟩
    | blank hc _ => exact absurd ((List.cons.inj hgap).1 ▸ hc) (by decide)
    | comment =>
      refine absurd ?_ htext
      rw [(List.cons.inj hgap).2]
      simp
  · rintro ⟨rfl, rfl⟩
    exact ⟨text, [], by simp, .nil, rfl, htext, by simp⟩

namespace Lexer

variable {lastLine : Option Nat} {p : Position}

theorem mem_noted {comment : List Char} {n : Nat} {doc : String} :
    (n, doc) ∈ noted lastLine p comment ↔
      Documents comment doc ∧ p.line = n ∧ lastLine ≠ some n := by
  rw [← documentation?_eq_some]
  unfold noted
  cases documentation? comment with
  | none => simp
  | some doc' =>
    by_cases h : lastLine = some p.line
    · simp only [if_pos h, List.not_mem_nil, false_iff]
      rintro ⟨-, rfl, hlast⟩
      exact hlast h
    · simp only [if_neg h, List.mem_singleton, Prod.mk.injEq, Option.some.injEq]
      constructor
      · rintro ⟨rfl, rfl⟩
        exact ⟨rfl, rfl, h⟩
      · rintro ⟨rfl, rfl, -⟩
        exact ⟨rfl, rfl⟩

/-- What is noted of a gap is what its comments say, save those on the line of the last token. -/
theorem Notes.mem {gap : List Char} {docs : DocLines} (h : Notes lastLine p gap docs) {n : Nat}
    {doc : String} : (n, doc) ∈ docs ↔ ∃ before comment, CommentIn gap before comment ∧
      Documents comment doc ∧ (p.advance before).line = n ∧ lastLine ≠ some n := by
  induction h with
  | nil => simp [not_commentIn_nil]
  | blank hc _ ih =>
    rw [ih]
    constructor
    · rintro ⟨before, comment, hcomment, hdoc⟩
      exact ⟨_ :: before, comment, (commentIn_blank hc).mpr ⟨before, rfl, hcomment⟩, hdoc⟩
    · rintro ⟨before, comment, hcomment, hdoc⟩
      obtain ⟨before', rfl, hcomment'⟩ := (commentIn_blank hc).mp hcomment
      exact ⟨before', comment, hcomment', hdoc⟩
  | @comment p text cs docs htext _ ih =>
    have hadvance : ∀ before, (p.advance ('#' :: (text ++ '\n' :: before))).line =
        (((p.advance ('#' :: text)).after '\n').advance before).line := by
      intro before
      rw [← List.cons_append, Position.advance_append]
      rfl
    rw [List.mem_append, mem_noted, ih]
    constructor
    · rintro (hdoc | ⟨before, comment, hcomment, hdoc⟩)
      · exact ⟨[], _, (commentIn_comment htext).mpr (.inl ⟨rfl, rfl⟩), hdoc⟩
      · refine ⟨_, comment, (commentIn_comment htext).mpr (.inr ⟨before, rfl, hcomment⟩), ?_⟩
        rwa [hadvance]
    · rintro ⟨before, comment, hcomment, hdoc⟩
      obtain ⟨rfl, rfl⟩ | ⟨before', rfl, hcomment'⟩ := (commentIn_comment htext).mp hcomment
      · exact .inl hdoc
      · rw [hadvance] at hdoc
        exact .inr ⟨before', comment, hcomment', hdoc⟩
  | last htext =>
    rw [mem_noted]
    constructor
    · exact fun hdoc => ⟨[], _, (commentIn_last htext).mpr ⟨rfl, rfl⟩, hdoc⟩
    · rintro ⟨before, comment, hcomment, hdoc⟩
      obtain ⟨rfl, rfl⟩ := (commentIn_last htext).mp hcomment
      exact hdoc

theorem pairwise_noted (comment : List Char) :
    (noted lastLine p comment).Pairwise (·.1 < ·.1) := by
  unfold noted
  split
  · split
    · exact .nil
    · exact List.pairwise_singleton _ _
  · exact .nil

theorem Notes.pairwise {gap : List Char} {docs : DocLines} (h : Notes lastLine p gap docs) :
    docs.Pairwise (·.1 < ·.1) := by
  induction h with
  | nil => exact .nil
  | blank _ _ ih => exact ih
  | @comment p text cs docs _ hnotes ih =>
    refine List.pairwise_append.mpr ⟨pairwise_noted _, ih, ?_⟩
    rintro ⟨n, doc⟩ hdoc ⟨n', doc'⟩ hdoc'
    obtain ⟨-, rfl, -⟩ := mem_noted.mp hdoc
    obtain ⟨before, -, -, -, rfl, -⟩ := hnotes.mem.mp hdoc'
    calc p.line ≤ (p.advance ('#' :: text)).line := line_le_advance _ _
      _ < ((p.advance ('#' :: text)).after '\n').line := Nat.lt_succ_self _
      _ ≤ _ := line_le_advance _ _
  | last => exact pairwise_noted _

/-- The line on which the last of some cells has its lexeme start. -/
def lastStart : Option Nat → Position → List Cell → Option Nat
  | lastLine, _, [] => lastLine
  | _, p, cell :: cells =>
    lastStart (some (p.advance cell.gap).line) ((p.advance cell.gap).advance cell.text) cells

theorem lastStart_concat (cells : List Cell) (cell : Cell) :
    lastStart lastLine p (cells ++ [cell]) = some (p.advance (spread cells cell.gap)).line := by
  induction cells generalizing lastLine p with
  | nil => rfl
  | cons first cells ih =>
    rw [List.cons_append, lastStart, ih, spread, Position.advance_append, Position.advance_append]

theorem CellNotes.mem {cells : List Cell} {last : List Char} {docs : DocLines}
    (h : CellNotes lastLine p cells last docs) {n : Nat} {doc : String} :
    (n, doc) ∈ docs ↔ ∃ done before comment, CommentBehind cells last done before comment ∧
      Documents comment doc ∧ (p.advance before).line = n ∧ lastStart lastLine p done ≠ some n := by
  induction h with
  | last hnotes =>
    rw [hnotes.mem]
    constructor
    · rintro ⟨before, comment, hcomment, hdoc⟩
      exact ⟨[], before, comment, ⟨_, before, .last, hcomment, rfl⟩, hdoc⟩
    · rintro ⟨done, before, comment, ⟨gap, part, hgap, hcomment, rfl⟩, hdoc⟩
      cases hgap with
      | last => exact ⟨part, comment, hcomment, hdoc⟩
  | @cell lastLine p cell cells last docs docs' hnotes _ ih =>
    have hadvance : ∀ cells part, (p.advance (spread (cell :: cells) part)).line =
        (((p.advance cell.gap).advance cell.text).advance (spread cells part)).line := by
      intro cells part
      rw [spread, Position.advance_append, Position.advance_append]
    rw [List.mem_append, hnotes.mem, ih]
    constructor
    · rintro (⟨before, comment, hcomment, hdoc⟩ | ⟨done, before, comment, hbehind, hdoc⟩)
      · exact ⟨[], before, comment, ⟨_, before, .front, hcomment, rfl⟩, hdoc⟩
      · obtain ⟨gap, part, hgap, hcomment, rfl⟩ := hbehind
        refine ⟨cell :: done, _, comment, ⟨gap, part, .behind hgap, hcomment, rfl⟩, hdoc.1, ?_⟩
        rw [hadvance]
        exact hdoc.2
    · rintro ⟨done, before, comment, ⟨gap, part, hgap, hcomment, rfl⟩, hdoc⟩
      cases hgap with
      | front => exact .inl ⟨part, comment, hcomment, hdoc⟩
      | @behind _ _ done _ _ hgap =>
        rw [hadvance] at hdoc
        exact .inr ⟨done, _, comment, ⟨gap, part, hgap, hcomment, rfl⟩, hdoc⟩

theorem Notes.bounds {gap : List Char} {docs : DocLines} (h : Notes lastLine p gap docs)
    {d : Nat × String} (hd : d ∈ docs) :
    p.line ≤ d.1 ∧ d.1 ≤ (p.advance gap).line ∧ lastLine ≠ some d.1 := by
  obtain ⟨n, doc⟩ := d
  obtain ⟨before, -, ⟨text, after, rfl, -⟩, -, rfl, hlast⟩ := h.mem.mp hd
  refine ⟨line_le_advance _ _, ?_, hlast⟩
  rw [Position.advance_append]
  exact line_le_advance _ _

/-- The lines of what is noted ascend, and all of them are below the line of the last token. -/
theorem CellNotes.pairwise {cells : List Cell} {last : List Char} {docs : DocLines}
    (h : CellNotes lastLine p cells last docs) : docs.Pairwise (·.1 < ·.1) ∧
      ∀ d ∈ docs, p.line ≤ d.1 ∧ ∀ l ∈ lastLine, l ≤ p.line → l < d.1 := by
  have hbounds : ∀ {lastLine : Option Nat} {p : Position} {gap : List Char} {docs : DocLines},
      Notes lastLine p gap docs →
        ∀ d ∈ docs, p.line ≤ d.1 ∧ ∀ l ∈ lastLine, l ≤ p.line → l < d.1 := by
    intro lastLine p gap docs hnotes d hd
    obtain ⟨hle, -, hlast⟩ := hnotes.bounds hd
    refine ⟨hle, fun l hl hline => Nat.lt_of_le_of_ne (hline.trans hle) ?_⟩
    rintro rfl
    exact hlast hl
  induction h with
  | last hnotes => exact ⟨hnotes.pairwise, hbounds hnotes⟩
  | @cell lastLine p cell cells last docs docs' hnotes _ ih =>
    have hbehind : ∀ d ∈ docs', (p.advance cell.gap).line < d.1 :=
      fun d hd => (ih.2 d hd).2 _ rfl (line_le_advance _ _)
    refine ⟨List.pairwise_append.mpr ⟨hnotes.pairwise, ih.1, fun d hd d' hd' => ?_⟩, fun d hd => ?_⟩
    · exact Nat.lt_of_le_of_lt (hnotes.bounds hd).2.1 (hbehind d' hd')
    · obtain hd | hd := List.mem_append.mp hd
      · exact hbounds hnotes d hd
      · have hlt := hbehind d hd
        have hle := line_le_advance p cell.gap
        exact ⟨by omega, fun l _ hline => by omega⟩

end Lexer

/-! Lines -/

theorem opensLine_append_of_mem {front part : List Char} (h : '\n' ∈ part) :
    OpensLine (front ++ part) ↔ OpensLine part := by
  have hlength : ¬ (part.reverse.takeWhile (· ≠ '\n')).length = part.reverse.length := by
    intro heq
    have hall := (List.takeWhile_prefix (· ≠ '\n')).eq_of_length heq
    have hfeed := List.mem_takeWhile_imp (hall.symm ▸ List.mem_reverse.mpr h)
    exact of_decide_eq_true hfeed rfl
  unfold OpensLine
  rw [List.reverse_append, List.takeWhile_append, if_neg hlength]

theorem opensLine_append_of_not_mem {front part : List Char} (h : '\n' ∉ part) :
    OpensLine (front ++ part) ↔ OpensLine front ∧ ∀ c ∈ part, isGap c = true := by
  have hall : ∀ c ∈ part.reverse, decide (c ≠ '\n') = true := by
    intro c hc
    exact decide_eq_true fun he => h (he ▸ List.mem_reverse.mp hc)
  unfold OpensLine
  rw [List.reverse_append, List.takeWhile_append_of_pos hall]
  simp only [List.mem_append, List.mem_reverse, or_imp, forall_and]
  exact and_comm

/-- The comments of a gap end with their lines, so its last line is blank. -/
theorem Spacing.opensLine {gap : List Char} (h : Spacing gap) : OpensLine gap := by
  have hblank : ∀ {c : Char} {cs : List Char}, isGap c = true → OpensLine cs →
      OpensLine (c :: cs) := by
    intro c cs hc hcs
    rw [← List.singleton_append]
    by_cases hfeed : '\n' ∈ cs
    · rwa [opensLine_append_of_mem hfeed]
    · refine (opensLine_append_of_not_mem hfeed).mpr ⟨?_, ?_⟩
      · intro c' hc'
        have hmem := (List.takeWhile_prefix _).subset hc'
        rw [List.reverse_singleton, List.mem_singleton] at hmem
        rwa [hmem]
      · rw [← List.nil_append cs, opensLine_append_of_not_mem hfeed] at hcs
        exact hcs.2
  induction h with
  | nil => exact fun c hc => nomatch hc
  | blank hc _ ih => exact hblank (isGap_iff.mpr hc) ih
  | @comment text cs _ _ ih =>
    rw [← List.cons_append, opensLine_append_of_mem List.mem_cons_self]
    exact hblank (by decide) ih

theorem Lexeme.Reads.not_blank {l : Lexeme} {text rest : List Char} (h : l.Reads text rest) :
    ¬ ∀ c ∈ text, isGap c = true := by
  obtain ⟨c, inner, rfl, hpiece⟩ := h
  intro hblank
  unfold piece at hpiece
  rw [if_pos (hblank c List.mem_cons_self)] at hpiece
  cases hpiece

/-- No lexeme starts on the line of a comment in front of it, if the comment opens its line, or if
the last lexeme is written over lines. -/
theorem lastStart_ne_iff {done : List Cell} {part : List Char} (hpart : Spacing part)
    (hreads : ∀ cell ∈ done, ∃ rest, cell.lexeme.Reads cell.text rest) :
    lastStart none {} done ≠ some (Position.behind (spread done part)).line ↔
      OpensLine (spread done part) ∨
        ∃ (front : List Cell) (cell : Cell), done = front ++ [cell] ∧ '\n' ∈ cell.text := by
  obtain rfl | ⟨front, cell, rfl⟩ := List.eq_nil_or_concat' done
  · simp [lastStart, spread, hpart.opensLine]
  have hlast : (∃ (front' : List Cell) (cell' : Cell), front ++ [cell] = front' ++ [cell'] ∧
      '\n' ∈ cell'.text) ↔ '\n' ∈ cell.text := by
    constructor
    · rintro ⟨front', cell', heq, hfeed⟩
      obtain ⟨-, rfl⟩ := List.append_singleton_inj.mp heq
      exact hfeed
    · exact fun hfeed => ⟨front, cell, rfl, hfeed⟩
  have hline : (Position.behind (spread (front ++ [cell]) part)).line =
      (Position.behind (spread front cell.gap)).line + (cell.text ++ part).count '\n' := by
    rw [spread_cell]
    simp only [Position.behind, spread, List.count_append, Nat.add_assoc]
  rw [lastStart_concat, Position.advance_eq_behind, hline, hlast, spread_cell, spread]
  by_cases hfeed : '\n' ∈ cell.text ++ part
  · have hpos := List.count_pos_iff.mpr hfeed
    have hne : ¬ some (Position.behind (spread front cell.gap)).line =
        some ((Position.behind (spread front cell.gap)).line + (cell.text ++ part).count '\n') := by
      simp only [Option.some.injEq]
      omega
    refine iff_of_true hne ?_
    rw [opensLine_append_of_mem hfeed]
    obtain htext | hgap := List.mem_append.mp hfeed
    · exact .inr htext
    · exact .inl ((opensLine_append_of_mem hgap).mpr hpart.opensLine)
  · obtain ⟨rest, hcell⟩ := hreads cell (by simp)
    rw [List.count_eq_zero.mpr hfeed]
    refine iff_of_false (fun hne => hne rfl) ?_
    rintro (hopens | htext)
    · have hblank := ((opensLine_append_of_not_mem hfeed).mp hopens).2
      exact hcell.not_blank fun c hc => hblank c (List.mem_append_left _ hc)
    · exact hfeed (List.mem_append_left _ htext)

theorem GapBehind.mem {cells done : List Cell} {last gap : List Char}
    (h : GapBehind cells last done gap) : ∀ cell ∈ done, cell ∈ cells := by
  induction h with
  | last | front => exact fun cell hcell => nomatch hcell
  | behind _ ih =>
    refine List.forall_mem_cons.mpr ⟨List.mem_cons_self, fun cell hcell => ?_⟩
    exact List.mem_cons_of_mem _ (ih cell hcell)

/-- What is noted of a source that is scanned. -/
theorem Source.exists_notes {source : Source} {path : Text} {scanned : Scanned}
    (h : source.scan path = .ok scanned) :
    ∃ text cells last, source.Spells path text ∧ Lexes cells last ∧
      Tiled path text cells last scanned.tokens ∧ CellNotes none {} cells last scanned.docs := by
  obtain ⟨text, cells, last, hspells, hlexes, htiled⟩ := Source.exists_lexes h
  obtain ⟨docs, hnotes, hscan⟩ := @scanFrom_cells path {} none _ _ hlexes
  rw [hspells.scan, htiled.layout, hscan] at h
  cases h
  exact ⟨text, cells, last, hspells, hlexes, htiled, hnotes⟩

/-- The lines of the documentation of a source ascend from the first line on. -/
theorem Source.docs_ascend {source : Source} {path : Text} {scanned : Scanned}
    (h : source.scan path = .ok scanned) :
    scanned.docs.Pairwise (·.1 < ·.1) ∧ ∀ d ∈ scanned.docs, 1 ≤ d.1 := by
  obtain ⟨text, cells, last, -, -, -, hnotes⟩ := Source.exists_notes h
  exact ⟨hnotes.pairwise.1, fun d hd => (hnotes.pairwise.2 d hd).1⟩

/-- **Documentation.** The lines of the documentation of a source ascend. A line is documented by
what a comment there says with two marks or more, if the comment opens the line, or if the last
lexeme in front of it is written over lines; and by nothing else. -/
theorem scan_documents {source : Source} {path : Text} {scanned : Scanned}
    (h : source.scan path = .ok scanned) :
    ∃ text cells last, source.Spells path text ∧ Tiled path text cells last scanned.tokens ∧
      scanned.docs.Pairwise (·.1 < ·.1) ∧
      ∀ n doc, (n, doc) ∈ scanned.docs ↔
        ∃ done before comment, CommentBehind cells last done before comment ∧
          Documents comment doc ∧ (Position.behind before).line = n ∧
          (OpensLine before ∨ ∃ front cell, done = front ++ [cell] ∧ '\n' ∈ cell.text) := by
  obtain ⟨text, cells, last, hspells, hlexes, htiled, hnotes⟩ := Source.exists_notes h
  refine ⟨text, cells, last, hspells, htiled, (Source.docs_ascend h).1, fun n doc => ?_⟩
  have hopens : ∀ {done : List Cell} {before comment : List Char},
      CommentBehind cells last done before comment →
        (lastStart none {} done ≠ some (Position.behind before).line ↔
          OpensLine before ∨ ∃ front cell, done = front ++ [cell] ∧ '\n' ∈ cell.text) := by
    rintro done before comment ⟨gap, part, hgap, ⟨_, _, -, hpart, -⟩, rfl⟩
    exact lastStart_ne_iff hpart fun cell hcell => (hlexes.mem cell (hgap.mem cell hcell)).2
  rw [hnotes.mem]
  constructor
  · rintro ⟨done, before, comment, hbehind, hdoc, hline, hlast⟩
    rw [Position.advance_eq_behind] at hline
    exact ⟨done, before, comment, hbehind, hdoc, hline, (hopens hbehind).mp (hline ▸ hlast)⟩
  · rintro ⟨done, before, comment, hbehind, hdoc, hline, hlast⟩
    refine ⟨done, before, comment, hbehind, hdoc, ?_, hline ▸ (hopens hbehind).mpr hlast⟩
    rw [Position.advance_eq_behind, hline]

namespace Documented

/-! A comment behind a literal that starts on the line above. -/

def literal : List Char := ['\"', '\"', '\"', '\n', '\"', '\"', '\"']

def gap : List Char := [' ', '#', '#', ' ', 'd']

def cell : Cell := ⟨[], .literal "\n", literal⟩

def source : Source := .text (.ofChars (literal ++ gap))

def tokens : List Token := [⟨.literal "\n", [], {}, 7⟩, ⟨.eof, [], ⟨2, 9, 12⟩, 0⟩]

theorem scan_literal : source.scan [] = .ok ⟨tokens, [(2, "d")]⟩ := by decide +kernel

theorem scan_documents_literal :
    source.scan [] = .ok ⟨tokens, [(2, "d")]⟩ ∧
      ∃ text cells last, source.Spells [] text ∧ Tiled [] text cells last tokens ∧
        [(2, "d")].Pairwise (·.1 < ·.1) ∧
        ∀ n doc, (n, doc) ∈ [(2, "d")] ↔
          ∃ done before comment, CommentBehind cells last done before comment ∧
            Documents comment doc ∧ (Position.behind before).line = n ∧
            (OpensLine before ∨ ∃ front cell, done = front ++ [cell] ∧ '\n' ∈ cell.text) :=
  ⟨scan_literal, scan_documents scan_literal⟩

theorem cells_literal {text : List Char} {cells : List Cell} {last : List Char}
    (hspells : source.Spells [] text) (h : Tiled [] text cells last tokens) :
    cells = [cell] ∧ last = gap := by
  have hreads : cell.lexeme.Reads cell.text gap := ⟨'\"', _, rfl, by decide +kernel⟩
  have hgap : Trailing gap := .comment (.blank (by decide) .nil) (by decide)
  have htiled := tiled_of_lexes [] (.cell .nil hreads (.last hgap) : Lexes [cell] gap)
  have htokens : tokensFrom [] {} [cell] gap = tokens := by decide
  rw [htokens] at htiled
  rw [hspells.unique (Source.spells_text (by decide))] at h
  exact h.unique htiled

/-- The line of the comment does not open with it. -/
theorem scan_documents_behind : ¬ ∀ (source : Source) (path : Text) (scanned : Scanned),
    source.scan path = .ok scanned →
    ∃ text cells last, source.Spells path text ∧ Tiled path text cells last scanned.tokens ∧
      ∀ n doc, (n, doc) ∈ scanned.docs ↔
        ∃ done before comment, CommentBehind cells last done before comment ∧
          Documents comment doc ∧ (Position.behind before).line = n ∧ OpensLine before := by
  intro h
  obtain ⟨text, cells, last, hspells, htiled, hdocs⟩ := h source [] _ scan_literal
  obtain ⟨rfl, rfl⟩ := cells_literal hspells htiled
  obtain ⟨done, before, comment, ⟨gap', part, hgap, hcomment, rfl⟩, -, -, hopens⟩ :=
    (hdocs 2 "d").mp List.mem_cons_self
  cases hgap with
  | front => exact not_commentIn_nil hcomment
  | behind hgap =>
    cases hgap with
    | last =>
      obtain ⟨part', rfl, hcomment'⟩ := (commentIn_blank (by decide)).mp hcomment
      obtain ⟨rfl, -⟩ := (commentIn_last (by decide)).mp hcomment'
      exact absurd (hopens '\"' (by decide)) (by decide)

end Documented

end RelaxCompact
