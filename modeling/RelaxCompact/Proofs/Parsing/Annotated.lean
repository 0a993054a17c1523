import RelaxCompact.Proofs.Parsing.Heading
import RelaxCompact.Proofs.Scanning.Inserting
import RelaxCompact.Proofs.Scanning.Respacing

/-!
Annotations put into a source. The tokens of an accepted source can be marked by the grammar; in
front of a mark that is not an inner one an annotation may be put, unless that turns the qualified
name directly in front of it into an annotation element.
-/

namespace RelaxCompact

open Lexer Surface

/-! The end of a file -/

/-- The marks end with the end of the source, which is an inner mark. -/
def Concludes (w : List Mark) : Prop :=
  ∃ (u : List Mark) (last : Mark),
    w = u ++ [last] ∧ last.role = .inner ∧ last.token.lexeme = .eof

theorem Concludes.append {w : List Mark} (h : Concludes w) (v : List Mark) :
    Concludes (v ++ w) := by
  obtain ⟨u, last, rfl, hlast⟩ := h
  exact ⟨v ++ u, last, (List.append_assoc ..).symm, hlast⟩

theorem Concludes.behind {m : Mark} {w : List Mark} (h : Concludes (m :: w)) (passed : List Token) :
    Concludes (m.behind passed :: w) := by
  obtain ⟨u, last, he, hlast⟩ := h
  cases u with
  | nil =>
    cases he
    exact ⟨[], _, rfl, hlast⟩
  | cons _ u =>
    cases he
    exact ⟨_ :: u, last, rfl, hlast⟩

theorem concludes_body {w : List Mark} (h : Form.body.Spells w) : Concludes w := by
  cases h with
  | left h =>
    cases h with
    | seq _ hlast =>
      cases hlast with
      | behind _ hlast =>
        cases hlast with
        | one heof =>
          have hclose : Concludes [Token.mark _] := ⟨[], _, rfl, rfl, Token.lexeme_of_eof heof⟩
          exact (hclose.behind _).append _
  | right h =>
    cases h with
    | @led _ _ m w h =>
      generalize hx : m :: w = x at h
      cases h with
      | seq hpattern hend =>
        cases hend with
        | one heof =>
          -- A pattern is not empty, so the end is not the first mark.
          obtain ⟨_, _, _, rfl, -⟩ := Parser.annotated_particle.seq.seq.seq _ hpattern
          cases hx
          exact ⟨_ :: _, _, rfl, rfl, Token.lexeme_of_eof heof⟩

/-- A file ends with the end of its source, which is an inner mark. -/
theorem concludes_file {w : List Mark} (h : Form.file.Spells w) : Concludes w := by
  cases h with
  | seq _ hbody =>
    cases hbody with
    | behind _ hbody => exact ((concludes_body hbody).behind _).append _

section

variable {w : List Mark} (h : Concludes w)

include h

/-- Nothing stands behind the end of the source. -/
theorem Concludes.nothing_behind {ts : List Token} (hend : EofLast (Mark.tokens w ++ ts)) :
    ts = [] := by
  obtain ⟨u, last, rfl, -, heof⟩ := h
  refine hend (Mark.tokens u ++ last.passed) last.token ts ?_ heof
  simp only [Mark.tokens_append, Mark.tokens_cons, Mark.tokens_nil, List.append_assoc,
    List.cons_append, List.nil_append]

/-- What is no inner mark is not the end of the source. -/
theorem Concludes.ne_eof {u v : List Mark} {m : Mark} (hw : w = u ++ m :: v)
    (hm : m.role ≠ .inner) (hend : EofLast (Mark.tokens w)) : m.token.lexeme ≠ .eof := by
  intro heof
  have hnil : Mark.tokens v = [] := by
    refine hend (Mark.tokens u ++ m.passed) m.token _ ?_ heof
    rw [hw, Mark.tokens_append, Mark.tokens_cons, List.append_assoc]
  cases v with
  | nil =>
    obtain ⟨u', last, he, hlast, -⟩ := h
    obtain ⟨-, hsame⟩ := List.append_inj' (hw.symm.trans he) rfl
    cases hsame
    exact hm hlast
  | cons m' v =>
    rw [Mark.tokens_cons] at hnil
    exact List.cons_ne_nil _ _ (List.append_eq_nil_iff.mp hnil).2

end

/-! The beginning of a file -/

theorem GrammarAnnotations.head {ts : List Token} (h : GrammarAnnotations ts) :
    ts = [] ∨ ∃ t rest, ts = t :: rest ∧
      (t.is (.symbol .leftBracket) = true ∨ t.is .prefixedName = true) := by
  obtain ⟨annotations, elements, rfl, hannotations, helements⟩ := h
  obtain rfl | ⟨bracket, rest, rfl, hbracket⟩ := hannotations.head
  · obtain rfl | ⟨name, bracket, rest, rfl, hname, -⟩ := helements.head
    · exact .inl rfl
    · exact .inr ⟨name, _, rfl, .inr hname⟩
  · exact .inr ⟨bracket, _, rfl, .inl (Parser.is_of_lexeme hbracket)⟩

theorem GrammarAnnotations.behind {passed ts : List Token} (h : GrammarAnnotations ts)
    (hpassed : Annotations passed) : GrammarAnnotations (passed ++ ts) := by
  obtain ⟨annotations, elements, rfl, hannotations, helements⟩ := h
  exact ⟨passed ++ annotations, elements, (List.append_assoc ..).symm,
    hpassed.append hannotations, helements⟩

theorem Annotations.grammar {ts : List Token} (h : Annotations ts) : GrammarAnnotations ts :=
  ⟨ts, [], (List.append_nil ts).symm, h, .nil⟩

/-- A mark that begins a file: the first of a declaration, of a component or of a pattern, or the
end. -/
structure Fronts (m : Mark) : Prop where
  passed : GrammarAnnotations m.passed
  role : m.role = .inner → m.token.lexeme = .eof

theorem fronts_body {w : List Mark} (h : Form.body.Spells w) :
    ∃ m v, w = m :: v ∧ Fronts m := by
  cases h with
  | left h =>
    cases h with
    | seq hcomponents hlast =>
      cases hcomponents with
      | stop =>
        cases hlast with
        | behind hpassed hlast =>
          cases hlast with
          | one heof =>
            refine ⟨_, _, rfl, ?_, fun _ => Token.lexeme_of_eof heof⟩
            rw [Mark.behind, Token.mark, Token.used, List.append_nil]
            exact hpassed
      | more hcomponent _ =>
        cases hcomponent with
        | rule hcomponent =>
          obtain ⟨passed, t, v, rfl, hpassed, -⟩ :=
            Form.spells_led hcomponent Parser.opens_component
          exact ⟨_, _, rfl, hpassed, by simp⟩
  | right h =>
    cases h with
    | led h =>
      obtain ⟨passed, t, v, he, hpassed, -⟩ := Parser.annotated_particle.seq.seq.seq.seq _ h
      cases he
      exact ⟨_, _, rfl, hpassed.grammar, by simp⟩

theorem opens_bareDeclaration : Form.bareDeclaration.Opens fun _ => True :=
  have hword {type : TokenType} : (Form.type type).Opens fun _ => True :=
    Form.opens_one fun _ _ => trivial
  (hword.seq.alt hword.seq).alt hword.seq

/-- A file begins with a mark that is not an inner one, or with its end. -/
theorem fronts_file {w : List Mark} (h : Form.file.Spells w) :
    ∃ m v, w = m :: v ∧ Fronts m := by
  cases h with
  | seq hdeclarations hbody =>
    cases hdeclarations with
    | stop =>
      cases hbody with
      | behind hpassed hbody =>
        obtain ⟨m, v, he, hm⟩ := fronts_body hbody
        cases he
        exact ⟨_, _, rfl, hm.passed.behind hpassed, hm.role⟩
    | more hdeclaration _ =>
      obtain ⟨passed, t, v, rfl, hpassed, -⟩ := Form.spells_led hdeclaration opens_bareDeclaration
      exact ⟨_, _, rfl, hpassed.grammar, by simp⟩

namespace Surface

/-- The tokens of a file that is accepted can be marked so that annotations more do not matter. -/
theorem File.ofTokens_annotated {path : Text} {scanned : Scanned} {f : File}
    (hend : EofLast scanned.tokens) (h : File.ofTokens path scanned = .ok f) :
    ∃ w, scanned.tokens = Mark.tokens w ∧ Form.file.Spells w ∧
      ∀ w' closed', Annotates false w w' closed' →
        File.ofTokens path ⟨Mark.tokens w', scanned.docs⟩ = .ok f := by
  unfold File.ofTokens at h
  split at h
  next f' t hrun =>
    cases h
    obtain ⟨w, htokens, hw, hagain⟩ :=
      Parser.rereads_file path (Parser.rereads_level _ _) _ _ _ hrun
    have htokens : scanned.tokens = Mark.tokens w ++ t.rest := htokens
    have hrest : t.rest = [] := (concludes_file hw).nothing_behind (htokens ▸ hend)
    rw [hrest, List.append_nil] at htokens
    refine ⟨w, htokens, hw, fun w' closed' hw' => ?_⟩
    obtain ⟨t', hrun', -⟩ := hagain _ { rest := Mark.tokens w' } false closed' w' [] (Nat.le_refl _)
      (List.append_nil _).symm hw' (hrest ▸ .refl _ _) trivial
    have hrun' : Parser.file path (Parser.top scanned.docs) { rest := Mark.tokens w' } = .ok f t' :=
      hrun'
    unfold File.ofTokens
    rw [hrun']
  next => cases h

end Surface

/-- Text is a bracketed annotation: by itself it is scanned from an opening bracket to the closing
one that belongs to it, where it ends. -/
def Bracketed (path : Text) (note : List Char) : Prop :=
  ∃ scanned left inner right last, scanFrom path {} none note = .ok scanned ∧
    scanned.tokens = left :: inner ++ [right, last] ∧ left.lexeme = .symbol .leftBracket ∧
    Balanced inner ∧ right.lexeme = .symbol .rightBracket ∧
    last.start.offset = right.start.offset + right.length

/-- A source whose lexemes are those of a file is read as a file that agrees with it. -/
theorem Source.parse_of_lexemes {source : Source} {path : Text} {scanned : Scanned}
    {ts : List Token} {docs : DocLines} {f : File} (hscan : source.scan path = .ok scanned)
    (hlexemes : scanned.tokens.map Token.lexeme = ts.map Token.lexeme)
    (hf : File.ofTokens path ⟨ts, docs⟩ = .ok f) :
    ∃ f', source.parse path = .ok f' ∧ f.agrees f' = true := by
  obtain ⟨_, -, hchars⟩ := Run.ok_of_bind hscan
  obtain ⟨cells, ending, -, -, hcells⟩ := lexes_of_scanFrom hchars
  have hown : scanned.tokens.map Token.lexeme = cells.map Cell.lexeme ++ [Lexeme.eof] := by
    rw [hcells, map_lexeme_tokensFrom]
  have halike := ofTokens_alike (hlexemes.symm.trans hown) hown path docs scanned.docs
  rw [hf] at halike
  have hparse : source.parse path = (File.ofTokens path scanned).mapError Failure.schema := by
    unfold Source.parse
    rw [hscan]
    rfl
  rw [hparse]
  generalize (File.ofTokens path scanned).mapError Failure.schema = result at halike ⊢
  cases halike with
  | files hagrees => exact ⟨_, rfl, hagrees⟩

/-- **Annotations.** The tokens of an accepted source can be marked by the grammar so that an
annotation may be put in front of every mark that is not an inner one: the first token of a
declaration, a name class, a parameter, a pattern or a component. The source stays accepted, and the
file that is read is the same up to places and documentation. Only directly behind a qualified name
that is joined to the pattern in front of it without a comma, or that begins the body of a file, no
annotation may be put. -/
theorem Source.parse_annotated {source : Source} {path : Text} {f : File}
    (h : source.parse path = .ok f) :
    ∃ scanned w, source.scan path = .ok scanned ∧ scanned.tokens = Mark.tokens w ∧
      Form.file.Spells w ∧
      ∀ u m v, w = u ++ m :: v → m.role ≠ .inner →
        (m.passed = [] → ∀ last ∈ u.getLast?, last.shuts = false) →
        ∀ front back note, source.Spells path (front ++ back) →
          m.token.start = .behind front → Bracketed path note →
          ∀ source' : Source, source'.Spells path (front ++ note ++ back) →
            ∃ f', source'.parse path = .ok f' ∧ f.agrees f' = true := by
  obtain ⟨scanned, hscan, hfile⟩ := Run.ok_of_bind h
  obtain ⟨_, -, hchars⟩ := Run.ok_of_bind hscan
  have hend := Lexer.end_of_scanFrom hchars
  have hok : File.ofTokens path scanned = .ok f := by
    cases hof : File.ofTokens path scanned with
    | ok =>
      rw [hof] at hfile
      cases hfile
      rfl
    | error =>
      rw [hof] at hfile
      cases hfile
  obtain ⟨w, htokens, hw, hagain⟩ := File.ofTokens_annotated hend hok
  refine ⟨scanned, w, hscan, htokens, hw, ?_⟩
  intro u m v hsplit hm hlast front back note htext hfront hnote source' htext'
  obtain ⟨brackets, left, inner, right, last, hbrackets, hown, hleft, hinner, hright, hstop⟩ :=
    hnote
  have hne : m.token.lexeme ≠ .eof :=
    (concludes_file hw).ne_eof hsplit hm (htokens ▸ hend)
  have hplace : scanned.tokens = (Mark.tokens u ++ m.passed) ++ m.token :: Mark.tokens v := by
    rw [htokens, hsplit, Mark.tokens_append, Mark.tokens_cons, List.append_assoc]
  obtain ⟨scanned', hscan', hlexemes⟩ := scan_inserted hscan htext hplace hne hfront hbrackets hown
    hleft hright hstop htext'
  have hmore : Annotations (left :: inner ++ [right]) := .cons hleft hinner hright .nil
  obtain ⟨closed, hannotates⟩ := Annotates.at_mark (v := v) hm hlast hmore
  rw [← hsplit] at hannotates
  refine source'.parse_of_lexemes hscan' (hlexemes.trans ?_) (hagain _ closed hannotates)
  rw [Mark.tokens_append, Mark.tokens_cons, Mark.annotated]
  simp only [List.append_assoc]

namespace Marked

def path : Text := "a.rnc"

/-- A definition, and another behind a qualified name. -/
def front : List Char := "start = text xsd:string ".toList

def back : List Char := "foo = text".toList

def note : List Char := "[a:b [\"]\"]]".toList

def source : Source := .text (.ofChars (front ++ back))

def noted : Source := .text (.ofChars (front ++ note ++ back))

def token (l : Lexeme) (offset length : Nat) : Token := ⟨l, path, ⟨1, offset + 1, offset⟩, length⟩

/-- The marks in front of the second definition. -/
def before : List Mark :=
  [⟨⟨[], token (.keyword .start) 0 5⟩, .head⟩, (token (.symbol .assign) 6 1).mark,
    ⟨⟨[], token (.keyword .text) 8 4⟩, .head⟩,
    ⟨⟨[], token (.prefixedName "xsd" "string") 13 10⟩, .joined⟩]

def mark : Mark := ⟨⟨[], token (.identifier "foo") 24 3⟩, .head⟩

def after : List Mark :=
  [(token (.symbol .assign) 28 1).mark, ⟨⟨[], token (.keyword .text) 30 4⟩, .head⟩,
    (token .eof 34 0).mark]

theorem bracketed_note : Bracketed path note := by
  refine ⟨⟨[token (.symbol .leftBracket) 0 1, token (.prefixedName "a" "b") 1 3,
    token (.symbol .leftBracket) 5 1, token (.literal "]") 6 3, token (.symbol .rightBracket) 9 1,
    token (.symbol .rightBracket) 10 1, token .eof 11 0], []⟩, _, [_, _, _, _], _, _,
    by decide +kernel, rfl, rfl, ?_, rfl, rfl⟩
  refine .token nofun nofun nofun ?_
  exact @Balanced.brackets _ [_] _ [] rfl (.token nofun nofun nofun .nil) rfl .nil

theorem scan_source : source.scan path = .ok ⟨Mark.tokens (before ++ mark :: after), []⟩ := by
  decide +kernel

/-- An annotation in front of the first definition. -/
theorem parse_annotated_front :
    ∃ f f', source.parse path = .ok f ∧
      (Source.text (.ofChars (note ++ (front ++ back)))).parse path = .ok f' ∧
      f.agrees f' = true := by
  have hok : (source.parse path).isOk = true := by decide +kernel
  obtain ⟨f, hparse⟩ := Run.exists_ok_of_isOk hok
  obtain ⟨scanned, w, hscan', htokens, hw, hput⟩ := Source.parse_annotated hparse
  cases scan_source.symm.trans hscan'
  obtain ⟨m, v, rfl, hm⟩ := fronts_file hw
  rw [Mark.tokens_cons] at htokens
  obtain hpassed | ⟨t, rest, hpassed, ht⟩ := hm.passed.head
  · rw [hpassed] at htokens
    obtain ⟨htoken, -⟩ := List.cons.inj htokens
    have hrole : m.role ≠ .inner := by
      intro hinner
      have heof := hm.role hinner
      rw [← htoken] at heof
      cases heof
    obtain ⟨f', hparse', hagrees⟩ := hput [] m v rfl hrole (by simp) [] (front ++ back) note
      (Source.spells_text (by decide)) (by rw [← htoken]; decide) bracketed_note
      (.text (.ofChars (note ++ (front ++ back)))) (Source.spells_text (by decide))
    exact ⟨f, f', hparse, hparse', hagrees⟩
  · rw [hpassed] at htokens
    obtain ⟨rfl, -⟩ := List.cons.inj htokens
    rcases ht with ht | ht <;> cases ht

theorem spells_marks : Form.file.Spells (before ++ mark :: after) := by
  have hprimary {t : Token} (h : Form.barePrimary.Spells [t.mark]) :
      Form.particle.Spells [⟨⟨[], t⟩, .head⟩] :=
    .seq (@Form.Spells.rule .primary _ (Form.spells_construct .nil h)) .stop
  have hpattern {w : List Mark} (h : Form.sequence.Spells w) : Form.pattern.Spells w := by
    have hw : Form.pattern.Spells ((w ++ []) ++ []) := .seq (.seq h .stop) .stop
    rwa [List.append_nil, List.append_nil] at hw
  have hnone : GrammarAnnotations [] := ⟨[], [], rfl, .nil, .nil⟩
  have hcomponent {t op : Token} {w : List Mark}
      (ht : (Form.keyword .start + Form.type .identifier).Spells [t.mark])
      (hop : (Parser.assignment? op).isSome = true) (hw : Form.pattern.Spells w) :
      (Form.rule (.component true)).Spells (⟨⟨[], t⟩, .head⟩ :: op.mark :: w) := by
    have hdefinition : Form.definition.Spells ([t.mark] ++ ([op.mark] ++ w)) :=
      .seq ht (.seq (.one hop) hw)
    exact .rule (Form.spells_construct hnone (.left (.left hdefinition)))
  have htext (offset : Nat) :
      Form.barePrimary.Spells [(token (.keyword .text) offset 4).mark] :=
    .left (.left (.left (.left (.left (.left (.left (.right (.left (.right (.one rfl))))))))))
  have hname : (Form.keyword .string + Form.keyword .token + Form.type .prefixedName).Spells
      [(token (.prefixedName "xsd" "string") 13 10).mark] := .right (.one rfl)
  have hnothing : Form.data.Spells ([] ++ []) := .right (.seq (.right .nothing) (.right .nothing))
  have hdata : Form.barePrimary.Spells [(token (.prefixedName "xsd" "string") 13 10).mark] :=
    .left (.right (.seq hname hnothing))
  have hstart := hcomponent (t := token (.keyword .start) 0 5) (.left (.one rfl))
    (show (Parser.assignment? (token (.symbol .assign) 6 1)).isSome = true from rfl)
    (hpattern (.seq (hprimary (htext 8)) (.more (.right (.led (hprimary hdata))) .stop)))
  have hfoo := hcomponent (t := mark.token) (.right (.one rfl))
    (show (Parser.assignment? (token (.symbol .assign) 28 1)).isSome = true from rfl)
    (hpattern (.seq (hprimary (htext 30)) .stop))
  have heof : (Form.type .eof).Spells [(token .eof 34 0).mark] := .one rfl
  have hend : (Form.behind GrammarAnnotations (.type .eof)).Spells [(token .eof 34 0).mark] :=
    @Form.Spells.behind GrammarAnnotations (.type .eof) [] _ [] hnone heof
  have hcomponents := Form.Spells.more hstart (.more hfoo .stop)
  have hclosed : (Form.components true .eof).Spells _ := Form.Spells.seq hcomponents hend
  have hbody : Form.body.Spells (before ++ mark :: after) := .left hclosed
  have hfile := @Form.Spells.behind Annotations .body [] _ _ .nil hbody
  exact @Form.Spells.seq (.many .declaration) _ [] _ .stop hfile

/-- The first token of a definition, with a qualified name in front of it that is joined to the
pattern before it: with an annotation between the two the name becomes an annotation element, and
another grammar is read. -/
theorem parse_annotated_element :
    ∃ scanned f f', source.scan path = .ok scanned ∧
      scanned.tokens = Mark.tokens (before ++ mark :: after) ∧
      Form.file.Spells (before ++ mark :: after) ∧ mark.role ≠ .inner ∧
      source.Spells path (front ++ back) ∧ mark.token.start = .behind front ∧
      Bracketed path note ∧ noted.Spells path (front ++ note ++ back) ∧
      source.parse path = .ok f ∧ noted.parse path = .ok f' ∧ f.agrees f' = false := by
  have hdiffer : (match source.parse path, noted.parse path with
      | .ok f, .ok f' => f.agrees f'
      | _, _ => true) = false := by decide +kernel
  split at hdiffer
  next f f' hf hf' =>
    exact ⟨_, f, f', scan_source, rfl, spells_marks, by decide, Source.spells_text (by decide),
      by decide, bracketed_note, Source.spells_text (by decide), hf, hf', hdiffer⟩
  next => cases hdiffer

end Marked

end RelaxCompact
