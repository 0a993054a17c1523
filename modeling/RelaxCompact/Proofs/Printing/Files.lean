import RelaxCompact.Proofs.Printing.Components

/-! Whole files are read back: the header, and behind it components or a bare pattern. -/

namespace RelaxCompact.Parser

open Surface (Pattern Component Declaration File)

/-! Where the header ends -/

/-- The types of the lexemes that would go on with a header or with its last literal. -/
def headerTypes : List TokenType :=
  [.keyword .ns, .keyword .default, .keyword .datatypes, .symbol .leftBracket, .symbol .tilde]

/-- The body of a file starts here. -/
def EndsHeader (ls : List Lexeme) : Prop := ∀ type ∈ headerTypes, startsWith type ls = false

/-- What a pattern starts with. A name stands before neither an assignment nor a bracket. -/
inductive OpensPattern : List Lexeme → Prop
  | keyword {ls : List Lexeme} (k : Keyword)
    (h : k ∉ [.ns, .default, .datatypes, .start, .div, .incl]) : OpensPattern (.keyword k :: ls)
  | paren {ls : List Lexeme} : OpensPattern (.symbol .leftParen :: ls)
  | literal {ls : List Lexeme} (value : Text) : OpensPattern (.literal value :: ls)
  | ref {ls : List Lexeme} (name : String)
    (h : ∀ operator : Assignment, startsWith (.symbol operator.symbol) ls = false) :
    OpensPattern (.identifier name :: ls)
  | datatype {ls : List Lexeme} (qualifier localName : String)
    (h : startsWith (.symbol .leftBracket) ls = false) :
    OpensPattern (.prefixedName qualifier localName :: ls)

section

variable {ls : List Lexeme}

theorem OpensPattern.endsHeader (h : OpensPattern ls) : EndsHeader ls := by
  intro type ht
  revert ht type
  cases h with
  | keyword k h => cases k <;> simp_all [headerTypes, startsWith, Lexeme.type]
  | _ => simp [headerTypes, startsWith, Lexeme.type]

theorem OpensPattern.not_components (h : OpensPattern ls) {ts : List Token}
    (ht : ts.map Token.lexeme = ls) : startsComponents ts = false := by
  cases ts with
  | nil =>
    subst ht
    cases h
  | cons t ts =>
    rw [List.map_cons] at ht
    unfold startsComponents
    cases h with
    | keyword k h =>
      have hl := (List.cons.inj ht).1
      cases k <;> simp_all [isHeaderWord, Token.is, Token.type, Lexeme.type]
    | ref name h =>
      obtain ⟨hl, rfl⟩ := List.cons.inj ht
      simp only [hl]
      cases ts with
      | nil => rfl
      | cons t' ts =>
        have hne (operator : Assignment) : t'.lexeme ≠ .symbol operator.symbol := by
          intro heq
          exact absurd (h operator) (by simp [heq, startsWith, Lexeme.type])
        change (assignment? t').isSome = false
        unfold assignment?
        split
        case h_1 heq => exact absurd heq (hne .single)
        case h_2 heq => exact absurd heq (hne .choice)
        case h_3 heq => exact absurd heq (hne .interleave)
        case h_4 => rfl
    | datatype qualifier localName h =>
      obtain ⟨hl, rfl⟩ := List.cons.inj ht
      simp only [hl]
      cases ts with
      | nil => rfl
      | cons t' ts => exact h
    | _ =>
      have hl := (List.cons.inj ht).1
      simp [hl, isHeaderWord, Token.is, Token.type, Lexeme.type]

/-- Nothing that stands behind a pattern assigns a definition. -/
theorem Follows.not_assignment {k : Nat} (h : Follows k ls) (operator : Assignment) :
    startsWith (.symbol operator.symbol) ls = false := by
  cases h with
  | connective op h =>
    cases op <;> cases operator <;> rfl
  | modifier m hm h => cases m <;> cases operator <;> rfl
  | _ => cases operator <;> rfl

theorem opensPattern_datatype {type : Datatype} (ht : type.wellFormed = true)
    (h : startsWith (.symbol .leftBracket) ls = false) : OpensPattern (type.lexeme :: ls) := by
  obtain ⟨qualifier, localName⟩ := type
  cases qualifier with
  | some qualifier => exact .datatype qualifier localName h
  | none =>
    have hname : localName = "string" ∨ localName = "token" := by
      simpa [Datatype.wellFormed] using ht
    obtain rfl | rfl := hname
    · rw [show Datatype.lexeme ⟨none, "string"⟩ = .keyword .string by decide]
      exact .keyword _ (by decide)
    · rw [show Datatype.lexeme ⟨none, "token"⟩ = .keyword .token by decide]
      exact .keyword _ (by decide)

theorem opensPattern_paramBlock {type : Datatype} (ht : type.wellFormed = true)
    (ps : List (String × Text)) (h : startsWith (.symbol .leftBracket) ls = false) :
    OpensPattern (type.lexeme :: (Surface.paramBlock ps ++ ls)) := by
  apply opensPattern_datatype ht
  cases ps with
  | nil => exact h
  | cons param ps => rfl

theorem OpensPattern.within {k rank : Nat} {w : List Lexeme} (h : OpensPattern (w ++ ls)) :
    OpensPattern (within k rank w ++ ls) := by
  unfold RelaxCompact.within
  split
  case isTrue => exact .paren
  case isFalse => exact h

end

/-- A well-formed pattern opens a pattern, whatever may stand behind it. -/
theorem opensPattern : (p : Pattern) → p.wellFormed = true → ∀ {k ls}, Follows k ls →
    OpensPattern (p.lexemes ++ ls)
  | .binary op left right span, hw, k, ls, _ => by
    rw [Pattern.wellFormed, Bool.and_eq_true] at hw
    rw [Pattern.lexemes, List.append_assoc]
    exact .within (opensPattern left hw.1 (.connective op (Nat.lt_succ_self _)))
  | .unary m content span, hw, k, ls, _ => by
    rw [Pattern.wellFormed] at hw
    rw [Pattern.lexemes]
    cases hm : m.isPostfix with
    | true =>
      rw [if_pos rfl, List.append_assoc]
      exact .within (opensPattern content hw (.modifier m hm (Nat.lt_succ_self _)))
    | false =>
      rw [if_neg Bool.false_ne_true]
      cases m with
      | optional | zeroOrMore | oneOrMore => cases hm
      | mixed | list => exact .keyword _ (by decide)
  | .leaf leaf span, _, _, _, _ => by cases leaf <;> exact .keyword _ (by decide)
  | .named holder name content span, _, _, _, _ => by
    cases holder <;> exact .keyword _ (by decide)
  | .ref name span, _, _, _, hf => .ref name hf.not_assignment
  | .parentRef name span, _, _, _, _ => .keyword _ (by decide)
  | .data type params none span, hw, _, _, hf => by
    rw [Pattern.wellFormed, Bool.and_eq_true] at hw
    exact opensPattern_paramBlock hw.1 params (hf.not_absorbed (by decide))
  | .data type params (some e) span, hw, _, _, _ => by
    rw [Pattern.wellFormed, Bool.and_eq_true, Bool.and_eq_true] at hw
    rw [Pattern.lexemes, List.cons_append, List.append_assoc]
    exact opensPattern_paramBlock hw.1.1 params rfl
  | .value value type span, hw, _, _, _ => by
    rw [Pattern.lexemes]
    split
    case isTrue => exact .literal value
    case isFalse => exact opensPattern_datatype hw rfl
  | .external href inherit span, _, _, _, _ => .keyword _ (by decide)
  | .grammar components span, _, _, _, _ => .keyword _ (by decide)

/-! The header -/

section

variable {α : Type} {ls rest : List Lexeme} {Q : α → Prop}

theorem Takes.namespaceUri {f : Option Text → Parser α} {uri : Option Text}
    (ht : startsWith (.symbol .tilde) ls = false) (h : Takes (f uri) ls Q rest) :
    Takes (namespaceUri >>= f) (Surface.uriLexeme uri :: ls) Q rest := by
  refine Takes.bind (Q := fun u => u = uri) (m := ls) ?_ ?_
  · cases uri with
    | none => exact .accept rfl (.pure rfl)
    | some uri => exact .refuse rfl (.literal ht (.pure rfl))
  · rintro _ rfl
    exact h

theorem takes_declaration {d : Declaration} (hw : d.wellFormed = true)
    (ht : startsWith (.symbol .tilde) ls = false) :
    Takes declaration? (d.lexemes ++ ls) (fun r => ∃ d', r = some d' ∧ d.agrees d' = true) ls := by
  unfold declaration?
  cases d with
  | binding qualifier uri isDefault span =>
    cases isDefault with
    | true =>
      apply Takes.current_cons (l := .keyword .default)
      intro t htl
      simp only [htl]
      apply Takes.advance
      apply Takes.expect rfl
      intro _ _
      cases qualifier with
      | none =>
        apply Takes.at (b := true) rfl
        refine .symbol (.namespaceUri ht (.pure ⟨_, rfl, ?_⟩))
        simp only [Declaration.agrees, decide_true, Bool.and_self]
      | some qualifier =>
        apply Takes.at (b := false) rfl
        refine Takes.bind (Q := fun q => q = some qualifier)
          (takes_name.map fun _ hq => congrArg some hq) ?_
        rintro _ rfl
        refine .symbol (.namespaceUri ht (.pure ⟨_, rfl, ?_⟩))
        simp only [Declaration.agrees, decide_true, Bool.and_self]
    | false =>
      cases qualifier with
      | none => cases hw
      | some qualifier =>
        apply Takes.current_cons (l := .keyword .ns)
        intro t htl
        simp only [htl]
        refine .advance (.name (.symbol (.namespaceUri ht (.pure ⟨_, rfl, ?_⟩))))
        simp only [Declaration.agrees, decide_true, Bool.and_self]
  | library qualifier uri span =>
    apply Takes.current_cons (l := .keyword .datatypes)
    intro t htl
    simp only [htl]
    refine .advance (.name (.symbol (.literal ht (.pure ⟨_, rfl, ?_⟩))))
    simp only [Declaration.agrees, decide_true, Bool.and_self]

theorem takes_no_declaration {l : Lexeme} (he : EndsHeader (l :: ls)) :
    Takes declaration? (l :: ls) (· = none) (l :: ls) := by
  apply Takes.current_cons
  intro t ht
  have hne : ∀ k ∈ [Keyword.ns, .default, .datatypes], t.lexeme ≠ .keyword k := by
    intro k hk hl
    have hk' : TokenType.keyword k ∈ headerTypes := by
      revert hk
      cases k <;> decide
    exact absurd (he _ hk') (by simp [← ht, hl, startsWith, Lexeme.type])
  dsimp only
  split
  case h_1 hl => exact absurd hl (hne _ (by decide))
  case h_2 hl => exact absurd hl (hne _ (by decide))
  case h_3 hl => exact absurd hl (hne _ (by decide))
  case h_4 => exact .pure rfl

/-- A declaration starts with neither an annotation nor another segment of a literal. -/
theorem startsWith_declarations (ds : List Declaration) {l : Lexeme} (he : EndsHeader (l :: ls))
    {type : TokenType} (ht : type ∈ [.symbol .leftBracket, .symbol .tilde]) :
    startsWith type (ds.flatMap Declaration.lexemes ++ l :: ls) = false := by
  cases ds with
  | nil =>
    refine he type ?_
    revert ht type
    decide
  | cons d ds =>
    revert ht type
    cases d with
    | binding qualifier uri isDefault span =>
      cases isDefault <;> simp [Declaration.lexemes, startsWith, Lexeme.type]
    | library qualifier uri span => simp [Declaration.lexemes, startsWith, Lexeme.type]

theorem takes_header_go {ds : List Declaration} (hw : ds.all Declaration.wellFormed = true)
    {l : Lexeme} (he : EndsHeader (l :: ls)) {turns : Nat} (ht : ds.length ≤ turns) :
    Takes (header.go turns) (ds.flatMap Declaration.lexemes ++ l :: ls)
      (File.declarationsAgree ds · = true) (l :: ls) := by
  induction ds generalizing turns with
  | nil =>
    cases turns with
    | zero => exact .pure rfl
    | succ turns =>
      refine .skipAnnotations (he _ (by decide)) ((takes_no_declaration he).bind ?_)
      rintro _ rfl
      exact .pure rfl
  | cons d ds ih =>
    obtain ⟨m, rfl⟩ := Nat.exists_eq_add_of_lt ht
    rw [List.all_cons, Bool.and_eq_true] at hw
    apply Takes.skipAnnotations (startsWith_declarations (d :: ds) he (by decide))
    rw [List.flatMap_cons, List.append_assoc]
    refine (takes_declaration hw.1 (startsWith_declarations ds he (by decide))).bind ?_
    rintro _ ⟨d', rfl, hd⟩
    refine (ih hw.2 (Nat.le_add_right _ m)).bind fun ds' hds => .pure ?_
    simp only [File.declarationsAgree, hd, hds, Bool.and_self]

theorem length_le_declarations (ds : List Declaration) :
    ds.length ≤ (ds.flatMap Declaration.lexemes).length := by
  induction ds with
  | nil => exact Nat.le_refl _
  | cons d ds ih =>
    have hd : 0 < d.lexemes.length := by
      cases d with
      | binding qualifier uri isDefault span => cases isDefault <;> exact Nat.succ_pos _
      | library qualifier uri span => exact Nat.succ_pos _
    rw [List.flatMap_cons, List.length_append, List.length_cons]
    omega

theorem takes_header {ds : List Declaration} (hw : ds.all Declaration.wellFormed = true)
    (he : EndsHeader ls) (hne : ls ≠ []) :
    Takes header (ds.flatMap Declaration.lexemes ++ ls) (File.declarationsAgree ds · = true)
      ls := by
  obtain ⟨l, ls, rfl⟩ := List.exists_cons_of_ne_nil hne
  apply Takes.remaining
  apply takes_header_go hw he
  have hlength := length_le_declarations ds
  rw [List.length_append]
  omega

end

/-! Files -/

theorem endsHeader_components (cs : List Component) :
    EndsHeader (Component.allLexemes cs ++ [Lexeme.eof]) := by
  intro type ht
  cases cs with
  | nil =>
    revert ht type
    decide
  | cons c cs =>
    revert ht type
    cases c with
    | define name operator pattern documentation span =>
      cases name <;>
        simp [headerTypes, Component.allLexemes, Component.lexemes, DefineName.lexeme, startsWith,
          Lexeme.type]
    | div components span =>
      simp [headerTypes, Component.allLexemes, Component.lexemes, startsWith, Lexeme.type]
    | incl href inherit overrides span =>
      simp [headerTypes, Component.allLexemes, Component.lexemes, startsWith, Lexeme.type]

theorem startsComponents_components (cs : List Component) {ts : List Token}
    (ht : ts.map Token.lexeme = Component.allLexemes cs ++ [Lexeme.eof]) :
    startsComponents ts = true := by
  cases ts with
  | nil => rfl
  | cons t ts =>
    rw [List.map_cons] at ht
    unfold startsComponents
    cases cs with
    | nil => simp only [(List.cons.inj ht).1]
    | cons c cs =>
      cases c with
      | define name operator pattern documentation span =>
        cases name with
        | start =>
          have hl : t.lexeme = .keyword .start := (List.cons.inj ht).1
          simp only [hl]
        | named name =>
          obtain ⟨hl, hts⟩ := List.cons.inj ht
          simp only [hl]
          cases ts with
          | nil => cases hts
          | cons t' ts =>
            have hl' := (List.cons.inj hts).1
            change (assignment? t').isSome = true
            unfold assignment?
            rw [hl']
            cases operator <;> rfl
      | div components span => simp only [(List.cons.inj ht).1]
      | incl href inherit overrides span => simp only [(List.cons.inj ht).1]

theorem takes_components_file (ds : List Declaration) (cs : List Component) (path : Text)
    (docs : DocLines) (hd : ds.all Declaration.wellFormed = true)
    (hc : Component.allWellFormed true cs = true)
    (hn : Component.allNesting cs ≤ nestingLimit) :
    Takes (file path (top docs))
      (ds.flatMap Declaration.lexemes ++ (Component.allLexemes cs ++ [Lexeme.eof]))
      ((⟨path, ds, cs, false⟩ : File).agrees · = true) [] := by
  have he := endsHeader_components cs
  have hheader : Takes header
      (ds.flatMap Declaration.lexemes ++ (Component.allLexemes cs ++ [Lexeme.eof]))
      (File.declarationsAgree ds · = true) (Component.allLexemes cs ++ [Lexeme.eof]) :=
    takes_header hd he (by simp)
  have hcomponents : Takes ((top docs).components true .eof)
      (Component.allLexemes cs ++ [Lexeme.eof]) (Component.allAgree cs · = true) [.eof] := by
    rw [top, level_components]
    exact takes_componentsOf (.inr rfl)
      (components_read ⟨nestingLimit, docs⟩ cs true hc nestingLimit hn)
  unfold file
  refine hheader.bind fun ds' hds => ?_
  apply Takes.skipAnnotations (he (.symbol .leftBracket) (by decide))
  apply Takes.get
  intro s hs
  rw [startsComponents_components cs hs, if_pos rfl]
  refine hcomponents.bind fun cs' hcs => .expect rfl fun _ _ => .pure ?_
  simp only [File.agrees, decide_true, hds, hcs, Bool.and_self]

/-- A bare pattern is read as a start pattern. -/
theorem takes_pattern_file (ds : List Declaration) (p : Pattern) (path : Text) (docs : DocLines)
    (documentation : Option String) (span : Span) (hd : ds.all Declaration.wellFormed = true)
    (hp : p.wellFormed = true) (hn : p.nesting ≤ nestingLimit) :
    Takes (file path (top docs)) (ds.flatMap Declaration.lexemes ++ (p.lexemes ++ [Lexeme.eof]))
      ((⟨path, ds, [.define .start .single p documentation span], true⟩ : File).agrees · = true)
      [] := by
  have ho : OpensPattern (p.lexemes ++ [Lexeme.eof]) := opensPattern p hp (k := 0) .eof
  have he := ho.endsHeader
  have hheader : Takes header (ds.flatMap Declaration.lexemes ++ (p.lexemes ++ [Lexeme.eof]))
      (File.declarationsAgree ds · = true) (p.lexemes ++ [Lexeme.eof]) :=
    takes_header hd he (by simp)
  have hpattern : Takes (top docs).pattern (p.lexemes ++ [Lexeme.eof]) (p.agrees · = true)
      [.eof] := by
    rw [top, level_pattern]
    have hphrase := pattern_reads ⟨nestingLimit, docs⟩ p hp nestingLimit hn
    exact (hphrase.of_le (Nat.zero_le _) (rank_le_primaryRank p)).takes .eof
  unfold file
  refine hheader.bind fun ds' hds => ?_
  apply Takes.skipAnnotations (he (.symbol .leftBracket) (by decide))
  apply Takes.get
  intro s hs
  rw [ho.not_components hs, if_neg Bool.false_ne_true]
  apply hpattern.bind
  intro q hq
  apply Takes.current_cons
  intro t ht
  have hword : isHeaderWord t = false := by
    simp only [isHeaderWord, Token.is, Token.type, ht, Lexeme.type]
    decide
  simp only [hword]
  apply Takes.expect rfl
  intro _ _
  apply Takes.pure
  simp only [File.agrees, Component.allAgree, Component.agrees, decide_true, hds, hq, Bool.and_self]

/-- A well-formed file is read back from its lexemes. -/
theorem takes_file {f : File} (hf : f.wellFormed = true) (docs : DocLines) :
    Takes (file f.path (top docs)) (f.lexemes ++ [Lexeme.eof]) (f.agrees · = true) [] := by
  obtain ⟨path, ds, cs, isPattern⟩ := f
  simp only [File.wellFormed, Bool.and_eq_true, decide_eq_true_eq] at hf
  obtain ⟨⟨⟨hd, hc⟩, hp⟩, hn⟩ := hf
  cases isPattern with
  | false =>
    rw [File.lexemes, List.append_assoc]
    exact takes_components_file ds cs path docs hd hc hn
  | true =>
    rw [Bool.not_true, Bool.false_or] at hp
    unfold File.isStart at hp
    split at hp
    case h_1 pattern documentation span =>
      simp only [Component.allWellFormed, Component.wellFormed, Bool.and_eq_true] at hc
      have hn' : pattern.nesting ≤ nestingLimit := Nat.le_trans (Nat.le_max_left _ _) hn
      rw [File.lexemes, List.append_assoc]
      exact takes_pattern_file ds pattern path docs documentation span hd hc.1.2 hn'
    case h_2 => cases hp

end RelaxCompact.Parser
