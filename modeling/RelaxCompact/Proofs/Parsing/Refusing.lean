import RelaxCompact.Parser.File
import RelaxCompact.Proofs.Run

/-!
How reading a source fails. A parser refuses what stands at a token, for one of the syntactic
faults; no other failure comes out of it.
-/

namespace RelaxCompact

/-- A failure that does not come from going from file to file: neither from a cycle of includes nor
from a bound that was reached. -/
def Failure.Tame : Failure → Prop
  | .exhausted => False
  | .schema (.includeCycle _ _ _) => False
  | _ => True

/-- A schema is refused, and not for a cycle of includes. -/
def Failure.Plain : Failure → Prop
  | .schema (.includeCycle _ _ _) => False
  | .schema _ => True
  | _ => False

theorem Failure.Plain.exists_cause {e : Failure} (h : e.Plain) : ∃ cause, e = .schema cause := by
  cases e with
  | schema cause => exact ⟨cause, rfl⟩
  | _ => exact h.elim

theorem Failure.not_plain {e : Failure} (h : ¬ e.Tame) : ¬ e.Plain := by
  intro hplain
  obtain ⟨cause, rfl⟩ := hplain.exists_cause
  cases cause with
  | includeCycle => exact hplain.elim
  | _ => exact h trivial

namespace Parser

open Run Surface

/-- If the parser fails, it refuses what it found. -/
abbrev Refuses {α : Type} (p : Parser α) : Prop :=
  FailsOnly (fun e => ∃ fault found, e = .unacceptable fault found) p

variable {α β : Type} {p : Parser α}

theorem refuses_current : Refuses current := .bind .get fun _ => .pure _

theorem refuses_following : Refuses following := .bind .get fun _ => .pure _

theorem refuses_remaining : Refuses remaining := .bind .get fun _ => .pure _

theorem refuses_fail (fault : SyntaxFault) : Refuses (fail fault : Parser α) :=
  refuses_current.bind fun found => .throw ⟨fault, found, rfl⟩

theorem refuses_advance : Refuses advance := .modify _

theorem refuses_at (type : TokenType) : Refuses (at? type) := refuses_current.bind fun _ => .pure _

theorem refuses_accept (type : TokenType) : Refuses (accept type) := by
  refine (refuses_at type).bind fun b => ?_
  split
  · exact refuses_advance.bind fun _ => .pure _
  · exact .pure _

theorem refuses_expect (type : TokenType) (fault : SyntaxFault) : Refuses (expect type fault) := by
  refine refuses_current.bind fun token => ?_
  split
  · split
    · exact refuses_advance.bind fun _ => .pure _
    · exact refuses_fail _
  · exact refuses_fail _

theorem refuses_expectSymbol (s : Symbol) : Refuses (expectSymbol s) :=
  (refuses_expect _ _).bind fun _ => .pure _

theorem refuses_expectName (role : NameRole) : Refuses (expectName role) := by
  refine refuses_current.bind fun token => ?_
  split
  · exact refuses_advance.bind fun _ => .pure _
  · exact refuses_fail _

theorem refuses_skipAnnotations : Refuses skipAnnotations := by
  refine .bind .get fun s => ?_
  split
  · exact .modify _
  · exact .bind (.modify _) fun _ => refuses_fail _

theorem refuses_enclosed (h : Refuses p) : Refuses (enclosed p) := by
  intro s e t hs
  unfold enclosed at hs
  split at hs
  · cases hs
  next heq =>
    cases hs
    exact h _ _ _ heq

theorem refuses_literal : Refuses literal := by
  refine (refuses_expect _ _).bind fun token => refuses_remaining.bind fun n => ?_
  generalize token.value = text
  induction n generalizing text with
  | zero => exact .pure _
  | succ n ih =>
    refine (refuses_accept _).bind fun b => ?_
    split
    · exact (refuses_expect _ _).bind fun _ => ih _
    · exact .pure _

theorem refuses_literalOr (fault : SyntaxFault) : Refuses (literalOr fault) := by
  refine (refuses_at _).bind fun b => ?_
  split
  · exact refuses_literal
  · exact refuses_fail _

theorem refuses_inheritance : Refuses inheritance := by
  refine (refuses_accept _).bind fun b => ?_
  split
  · exact (refuses_expectSymbol _).bind fun _ => (refuses_expectName _).bind fun _ => .pure _
  · exact .pure _

theorem refuses_chain (op : Symbol) (h : Refuses p) (combine : α → α → α) :
    Refuses (chain op p combine) := by
  refine h.bind fun left => refuses_remaining.bind fun n => ?_
  induction n generalizing left with
  | zero => exact .pure _
  | succ n ih =>
    refine (refuses_accept _).bind fun b => ?_
    split
    · exact h.bind fun _ => ih _
    · exact .pure _

/-! Levels -/

/-- The parsers of a level refuse what they find. -/
structure Level.Refuses (level : Level) : Prop where
  basicName : Parser.Refuses level.basicName
  primary : Parser.Refuses level.primary
  components : ∀ allowInclude terminator,
    Parser.Refuses (level.components allowInclude terminator)

section

variable {setting : Setting} {next : Option Level} {basicName : Parser Surface.NameClass}
  {primary : Parser Pattern} (hnext : ∀ level, next = some level → level.Refuses)

include hnext in
theorem refuses_nested {content : Level → Parser α}
    (h : ∀ level, level.Refuses → Refuses (content level)) :
    Refuses (nested setting next content) := by
  unfold nested
  cases next with
  | none => exact refuses_fail _
  | some level => exact refuses_enclosed (h level (hnext level rfl))

include hnext in
/-- What is nested, up to the symbol behind it. -/
theorem refuses_delimited {content : Level → Parser α}
    (h : ∀ level, level.Refuses → Refuses (content level)) (s : Symbol) (f : α → β) :
    Refuses (do
      let a ← nested setting next content
      expectSymbol s
      return f a) :=
  (refuses_nested hnext h).bind fun _ => (refuses_expectSymbol s).bind fun _ => .pure _

theorem refuses_nameClassOf (h : Refuses basicName) : Refuses (nameClassOf basicName) :=
  refuses_chain _ h _

include hnext in
theorem refuses_nameException : Refuses (nameException setting next) := by
  refine (refuses_accept _).bind fun b => ?_
  split
  · exact (refuses_nested hnext fun level h => h.basicName).bind fun _ => .pure _
  · exact .pure _

include hnext in
theorem refuses_basicNameWith : Refuses (basicNameWith setting next) := by
  refine refuses_skipAnnotations.bind fun _ => refuses_current.bind fun token => ?_
  split
  · exact refuses_fail _
  · split
    · exact refuses_advance.bind fun _ => .pure _
    · exact refuses_advance.bind fun _ => .pure _
    · exact refuses_advance.bind fun _ => .pure _
    · exact refuses_advance.bind fun _ => (refuses_nameException hnext).bind fun _ => .pure _
    · exact refuses_advance.bind fun _ => (refuses_nameException hnext).bind fun _ => .pure _
    · exact refuses_advance.bind fun _ =>
        refuses_delimited hnext (fun level h => refuses_nameClassOf h.basicName) _ id
    · exact refuses_fail _

theorem refuses_startsParticle : Refuses startsParticle := by
  refine .bind .get fun s => ?_
  split <;> exact .pure _

theorem refuses_postfixOf (h : Refuses primary) : Refuses (postfixOf primary) := by
  refine h.bind fun p => refuses_remaining.bind fun n => ?_
  induction n generalizing p with
  | zero => exact .pure _
  | succ n ih =>
    refine refuses_current.bind fun token => ?_
    split
    · exact refuses_advance.bind fun _ => ih _
    · exact .pure _

theorem refuses_sequenceOf (h : Refuses primary) : Refuses (sequenceOf primary) := by
  refine (refuses_postfixOf h).bind fun left => refuses_remaining.bind fun n => ?_
  induction n generalizing left with
  | zero => exact .pure _
  | succ n ih =>
    refine (refuses_accept _).bind fun comma => refuses_startsParticle.bind fun particle => ?_
    split
    · exact (refuses_postfixOf h).bind fun _ => ih _
    · exact .pure _

theorem refuses_patternOf (h : Refuses primary) : Refuses (patternOf primary) :=
  refuses_chain _ (refuses_chain _ (refuses_sequenceOf h) _) _

theorem Level.Refuses.pattern {level : Level} (h : level.Refuses) : Parser.Refuses level.pattern :=
  refuses_patternOf h.primary

include hnext in
theorem refuses_bracedPattern : Refuses (bracedPattern setting next) :=
  (refuses_expectSymbol _).bind fun _ => refuses_delimited hnext (fun _ h => h.pattern) _ id

theorem refuses_params : Refuses params := by
  refine (refuses_expectSymbol _).bind fun _ => refuses_remaining.bind fun n => ?_
  induction n with
  | zero => exact (refuses_expectSymbol _).bind fun _ => .pure _
  | succ n ih =>
    refine (refuses_accept _).bind fun b => ?_
    split
    · exact .pure _
    · refine refuses_skipAnnotations.bind fun _ => (refuses_expectName _).bind fun name => ?_
      refine (refuses_expectSymbol _).bind fun _ => (refuses_literalOr _).bind fun value => ?_
      exact ih.bind fun _ => .pure _

include hnext in
theorem refuses_datatypePattern (type : Datatype) (span : Span) :
    Refuses (datatypePattern setting next type span) := by
  have hexception (ps : List (String × Text)) : Refuses (do
      let exception ←
        if ← accept (.symbol .minus) then
          some <$> nested setting next (·.primary)
        else pure none
      return Pattern.data type ps exception span) := by
    refine (refuses_accept _).bind fun b => ?_
    split
    · rw [map_eq_pure_bind]
      have hnested : Refuses (nested setting next (·.primary)) :=
        refuses_nested hnext fun _ h => h.primary
      exact .bind (hnested.bind fun _ => .pure _) fun _ => .pure _
    · exact .pure _
  refine (refuses_at _).bind fun b => ?_
  split
  · exact refuses_literal.bind fun _ => .pure _
  · refine (refuses_at _).bind fun b => ?_
    split
    · exact refuses_params.bind hexception
    · exact hexception []

include hnext in
theorem refuses_primaryWith (h : Refuses basicName) :
    Refuses (primaryWith setting basicName next) := by
  have hnamed (holder : Holder) (span : Span) : Refuses (do
      advance
      let name ← nameClassOf basicName
      return Pattern.named holder name (← bracedPattern setting next) span) :=
    refuses_advance.bind fun _ => (refuses_nameClassOf h).bind fun _ =>
      (refuses_bracedPattern hnext).bind fun _ => .pure _
  have hwrapped (modifier : Modifier) (span : Span) : Refuses (do
      advance
      return Pattern.unary modifier (← bracedPattern setting next) span) :=
    refuses_advance.bind fun _ => (refuses_bracedPattern hnext).bind fun _ => .pure _
  have hleaf (leaf : Leaf) (span : Span) : Refuses (do
      advance
      return Pattern.leaf leaf span) :=
    refuses_advance.bind fun _ => .pure _
  have hdatatype (type : Datatype) (span : Span) : Refuses (do
      advance
      datatypePattern setting next type span) :=
    refuses_advance.bind fun _ => refuses_datatypePattern hnext type span
  refine refuses_skipAnnotations.bind fun _ => refuses_current.bind fun token => ?_
  split
  · exact refuses_fail _
  · dsimp only
    split
    case h_1 => exact hnamed .element _
    case h_2 => exact hnamed .attr _
    case h_3 => exact hwrapped .list _
    case h_4 => exact hwrapped .mixed _
    case h_5 => exact hleaf .empty _
    case h_6 => exact hleaf .text _
    case h_7 => exact hleaf .notAllowed _
    case h_8 => exact refuses_advance.bind fun _ => .pure _
    case h_9 => exact refuses_advance.bind fun _ => (refuses_expect _ _).bind fun _ => .pure _
    case h_10 =>
      exact refuses_advance.bind fun _ => refuses_delimited hnext (fun _ h => h.pattern) _ id
    case h_11 =>
      exact refuses_advance.bind fun _ => (refuses_literalOr _).bind fun _ =>
        refuses_inheritance.bind fun _ => .pure _
    case h_12 =>
      refine refuses_advance.bind fun _ => (refuses_expectSymbol _).bind fun _ => ?_
      exact refuses_delimited hnext (fun _ h => h.components _ _) _ (Pattern.grammar · _)
    case h_13 => exact hdatatype ⟨none, "string"⟩ _
    case h_14 => exact hdatatype ⟨none, "token"⟩ _
    case h_15 => exact hdatatype ⟨some _, _⟩ _
    case h_16 => exact refuses_literal.bind fun _ => .pure _
    case h_17 => exact refuses_fail _

theorem refuses_skipAnnotationElements : Refuses skipAnnotationElements := by
  refine refuses_remaining.bind fun n => ?_
  induction n with
  | zero => exact .pure _
  | succ n ih =>
    refine (refuses_at _).bind fun b => refuses_following.bind fun token => ?_
    split
    · exact refuses_advance.bind fun _ => refuses_skipAnnotations.bind fun _ => ih
    · exact .pure _

theorem refuses_defineWith (h : Refuses primary) (head : Token) (name : DefineName) :
    Refuses (defineWith setting primary head name) := by
  refine refuses_advance.bind fun _ => refuses_current.bind fun token => ?_
  split
  · exact refuses_fail _
  · exact refuses_advance.bind fun _ => (refuses_patternOf h).bind fun _ => .pure _

theorem refuses_componentsOf {component : Parser Component} (h : Refuses component)
    (terminator : TokenType) : Refuses (componentsOf component terminator) := by
  refine refuses_remaining.bind fun n => ?_
  induction n with
  | zero =>
    refine (refuses_at _).bind fun b => ?_
    split
    · exact .pure _
    · exact refuses_fail _
  | succ n ih =>
    refine refuses_skipAnnotations.bind fun _ => refuses_skipAnnotationElements.bind fun _ => ?_
    refine (refuses_at _).bind fun b => ?_
    split
    · exact .pure _
    · exact h.bind fun _ => ih.bind fun _ => .pure _

include hnext in
theorem refuses_componentWith (h : Refuses primary) {overrides : Option (Parser (List Component))}
    (ho : ∀ parser, overrides = some parser → Refuses parser) :
    Refuses (componentWith setting primary next overrides) := by
  refine refuses_current.bind fun token => ?_
  split
  · exact refuses_fail _
  · split
    case h_1 => exact refuses_defineWith h _ _
    case h_2 => exact refuses_defineWith h _ _
    case h_3 =>
      refine refuses_advance.bind fun _ => (refuses_expectSymbol _).bind fun _ => ?_
      exact refuses_delimited hnext (fun _ h => h.components _ _) _ (Component.div · _)
    case h_4 =>
      split
      · exact refuses_fail _
      next parser =>
        refine refuses_advance.bind fun _ => (refuses_literalOr _).bind fun href => ?_
        refine refuses_inheritance.bind fun inherit => (refuses_accept _).bind fun b => ?_
        split
        · exact (ho parser rfl).bind fun _ => (refuses_expectSymbol _).bind fun _ => .pure _
        · exact .pure _
    all_goals exact refuses_fail _

end

theorem refuses_above {setting : Setting} {next : Option Level}
    (hnext : ∀ level, next = some level → level.Refuses) : (Level.above setting next).Refuses := by
  have hname : Refuses (basicNameWith setting next) := refuses_basicNameWith hnext
  have hprimary : Refuses (primaryWith setting (basicNameWith setting next) next) :=
    refuses_primaryWith hnext hname
  have hplain : Refuses (componentWith setting _ next none) :=
    refuses_componentWith hnext hprimary nofun
  refine ⟨hname, hprimary, fun allowInclude terminator => refuses_componentsOf ?_ _⟩
  cases allowInclude with
  | false => exact hplain
  | true =>
    refine refuses_componentWith hnext hprimary fun parser he => ?_
    cases he
    exact refuses_componentsOf hplain _

theorem refuses_level (setting : Setting) (n : Nat) : (level setting n).Refuses := by
  induction n with
  | zero => exact refuses_above nofun
  | succ n ih =>
    refine refuses_above fun level he => ?_
    cases he
    exact ih

/-! Files -/

theorem refuses_namespaceUri : Refuses namespaceUri := by
  refine (refuses_accept _).bind fun b => ?_
  split
  · exact .pure _
  · exact (refuses_literalOr _).bind fun _ => .pure _

theorem refuses_declaration? : Refuses declaration? := by
  refine refuses_current.bind fun token => ?_
  split
  · exact .pure _
  · split
    · refine refuses_advance.bind fun _ => (refuses_expectName _).bind fun qualifier => ?_
      exact (refuses_expectSymbol _).bind fun _ => refuses_namespaceUri.bind fun _ => .pure _
    · refine refuses_advance.bind fun _ => (refuses_expect _ _).bind fun _ => ?_
      have hrest (token : Token) (qualifier : Option String) : Refuses (do
          expectSymbol .assign
          return some (Declaration.binding qualifier (← namespaceUri) true token.span)) :=
        (refuses_expectSymbol _).bind fun _ => refuses_namespaceUri.bind fun _ => .pure _
      refine (refuses_at _).bind fun b => ?_
      split
      · exact hrest _ none
      · rw [map_eq_pure_bind]
        exact .bind (.bind (refuses_expectName _) fun _ => .pure _) fun _ => hrest _ _
    · refine refuses_advance.bind fun _ => (refuses_expectName _).bind fun qualifier => ?_
      exact (refuses_expectSymbol _).bind fun _ => (refuses_literalOr _).bind fun _ => .pure _
    · exact .pure _

theorem refuses_header : Refuses header := by
  refine refuses_remaining.bind fun n => ?_
  induction n with
  | zero => exact .pure _
  | succ n ih =>
    refine refuses_skipAnnotations.bind fun _ => refuses_declaration?.bind fun d => ?_
    split
    · exact ih.bind fun _ => .pure _
    · exact .pure _

/-- A parser of files refuses what it finds. -/
theorem refuses_file (path : Text) {level : Level} (h : level.Refuses) :
    Refuses (file path level) := by
  refine refuses_header.bind fun declarations => refuses_skipAnnotations.bind fun _ => ?_
  refine .bind .get fun s => ?_
  split
  · exact (h.components _ _).bind fun _ => (refuses_expect _ _).bind fun _ => .pure _
  · refine h.pattern.bind fun p => refuses_current.bind fun token => ?_
    have hend : Refuses (do
        let _ ← expect .eof .missingEnd
        return (⟨path, declarations, [.define .start .single p none p.span], true⟩ : File)) :=
      (refuses_expect _ _).bind fun _ => .pure _
    split
    · split
      · exact (refuses_fail _).bind fun _ => hend
      · exact hend
    · exact hend

end Parser

namespace Lexer

theorem tame_failure (path : Text) (p : Position) (fault : Fault) :
    (fault.failure path p).Tame := by
  cases fault <;> trivial

theorem tame_of_scanFrom {path : Text} {p : Position} {lastLine : Option Nat} {cs : List Char}
    {e : Failure} (h : scanFrom path p lastLine cs = .error e) : e.Tame := by
  fun_induction scanFrom path p lastLine cs with
  | case1 => cases h
  | case2 p lastLine c cs fault hpiece =>
    cases h
    exact tame_failure path p fault
  | case3 p lastLine c cs piece hpiece ih =>
    cases hrest : scanFrom path (p.advance piece.spelling) (piece.lastLine p lastLine)
      (cs.drop (piece.spelling.length - 1)) with
    | error e' =>
      rw [hrest] at h
      cases h
      exact ih hrest
    | ok rest =>
      rw [hrest] at h
      cases h

theorem tame_of_characters {path : Text} {source : Source} {e : Failure}
    (h : characters path source = .error e) : e.Tame := by
  unfold characters at h
  split at h
  · split at h <;> cases h
    trivial
  · dsimp only at h
    split at h <;> cases h
    trivial

end Lexer

/-- Reading a source fails only for what stands in it. -/
theorem Source.tame_of_parse {source : Source} {path : Text} {e : Failure}
    (h : source.parse path = .error e) : e.Tame := by
  unfold Source.parse Source.scan at h
  cases hcs : Lexer.characters path source with
  | error e' =>
    rw [hcs] at h
    cases h
    exact Lexer.tame_of_characters hcs
  | ok cs =>
    cases hscan : Lexer.scanChars path cs with
    | error e' =>
      simp only [hcs, hscan, bind, Except.bind] at h
      cases h
      exact Lexer.tame_of_scanFrom hscan
    | ok scanned =>
      simp only [hcs, hscan, bind, Except.bind] at h
      unfold Surface.File.ofTokens at h
      split at h
      · cases h
      next e' t hfile =>
        obtain ⟨fault, found, rfl⟩ :=
          Parser.refuses_file path (Parser.refuses_level _ _) _ _ _ hfile
        cases h
        trivial

end RelaxCompact
