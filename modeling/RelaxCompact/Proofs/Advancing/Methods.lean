import RelaxCompact.Proofs.Advancing.Turns

/-!
How far the methods that read the parts of a file get. All of them stay in front of the end of the
file, which only the method that reads whole files goes past. What a method reads inside a construct
it reads with fewer tokens ahead, and so it does in each turn of a loop.
-/

namespace RelaxCompact.Parser

open Surface Run

variable {α : Type}

/-! Literals and what is made of them -/

theorem repeats_segments (text : Text) :
    Repeats (foldTurn (.symbol .tilde) (expect .literal .missingSegment)
      fun text token => text ++ token.value) text
      (remaining >>= fun n => literal.segments n text) := by
  apply literal_folds.repeats (by nofun)
  exact (advancing_expect (by nofun) _).mono fun _ => Nat.zero_le _

theorem advancing_literal : Advancing (fun _ => 1) literal :=
  (advancing_expect (by nofun) _).bind fun token => (repeats_segments token.value).advancing

theorem advancing_literalOr (fault : SyntaxFault) : Advancing (fun _ => 1) (literalOr fault) := by
  apply (advancing_at .literal).bind
  rintro ⟨⟩
  · exact advancing_fail _
  · exact advancing_literal

theorem advancing_inheritance : Advancing (fun _ => 0) inheritance := by
  apply (advancing_accept (by nofun)).bind
  rintro ⟨⟩
  · exact advancing_pure rfl
  · exact (advancing_expectSymbol _).bind fun _ => (advancing_expectName _).bind fun _ =>
      advancing_pure rfl

/-! Headers -/

theorem advancing_namespaceUri : Advancing (fun _ => 1) namespaceUri := by
  apply (advancing_accept (by nofun)).bind
  rintro ⟨⟩
  · exact (advancing_literalOr _).bind fun _ => advancing_pure rfl
  · exact advancing_pure rfl

theorem advancing_declaration : Advancing itemCost declaration? := by
  have hnone : Advancing itemCost (pure none : Parser (Option Declaration)) := advancing_pure rfl
  have hqualifier : Advancing (fun _ => 0) (some <$> expectName .namespaceQualifier) :=
    (advancing_expectName _).bind fun _ => advancing_pure rfl
  apply advancing_current
  intro head
  dsimp only
  split
  next hhead =>
    apply advancingAt_advance (by rw [hhead]; nofun)
    exact (advancing_expectName _).bind fun _ => (advancing_expectSymbol _).bind fun _ =>
      advancing_namespaceUri.bind fun _ => advancing_pure rfl
  next hhead =>
    have hrest (qualifier : Option String) : Advancing (fun d => itemCost d - 1 - 1) (do
        Parser.expectSymbol .assign
        return some (Declaration.binding qualifier (← Parser.namespaceUri) true head.span)) :=
      (advancing_expectSymbol _).bind fun _ => advancing_namespaceUri.bind fun _ =>
        advancing_pure rfl
    apply advancingAt_advance (by rw [hhead]; nofun)
    apply (advancing_expect (by nofun) _).bind
    intro _
    apply (advancing_at _).bind
    rintro ⟨⟩
    · exact hqualifier.bind fun qualifier => hrest qualifier
    · exact hrest none
  next hhead =>
    apply advancingAt_advance (by rw [hhead]; nofun)
    exact (advancing_expectName _).bind fun _ => (advancing_expectSymbol _).bind fun _ =>
      (advancing_literalOr _).bind fun _ => advancing_pure rfl
  next => exact hnone.at head

/-- A declaration behind annotations. -/
def headerItem : Parser (Option Declaration) := skipAnnotations >>= fun _ => declaration?

theorem repeats_header : Repeats (listTurn headerItem) [] header := by
  apply repeats_list
  · exact advancing_skipAnnotations.bind fun _ => advancing_declaration
  · intro n
    rw [header_succ, headerStep, headerItem, bind_assoc]
    rfl

/-! Annotations -/

/-- An annotation is gone past, if one stands here. -/
def annotationTurn (_ : Unit) : Parser (Turn Unit Unit) := fun s =>
  match s.rest with
  | [] => .ok (.done ()) s
  | t :: ts =>
    if t.is (.symbol .leftBracket) = true then
      match afterBrackets 1 ts with
      | some rest => .ok (.again ()) { s with rest }
      | none => fail .unclosedBracket s
    else .ok (.done ()) s

theorem advancing_annotation (x : Unit) : Advancing Turn.cost (annotationTurn x) := by
  intro s hs
  obtain ⟨t, ts, hrest⟩ := hs.exists_cons
  by_cases hleft : t.is (.symbol .leftBracket) = true
  · have hbehind : Ended ts := (hrest ▸ hs).behind (lexeme_ne_eof hleft (by nofun))
    cases hafter : afterBrackets 1 ts with
    | some rest =>
      have hrun : annotationTurn x s = .ok (.again ()) { s with rest } := by
        simp only [annotationTurn, hrest, if_pos hleft, hafter]
      obtain ⟨hended, hsuffix⟩ := hbehind.after_brackets hafter
      apply Advances.of_ok hrun hended
      · rw [hrest]
        exact hsuffix.trans (List.suffix_cons t ts)
      · rw [hrest]
        exact Nat.succ_le_succ hsuffix.length_le
    | none =>
      have hrun : annotationTurn x s = fail .unclosedBracket s := by
        simp only [annotationTurn, hrest, if_pos hleft, hafter]
      exact (advancing_fail .unclosedBracket s hs).congr hrun
  · have hrun : annotationTurn x s = .ok (.done ()) s := by
      simp only [annotationTurn, hrest, if_neg hleft]
    exact .of_ok hrun hs List.suffix_rfl (Nat.le_refl _)

theorem skipAnnotations_unclosed {s : Progress} {rest : List Token}
    (h : afterAnnotations s.rest = .error rest) :
    skipAnnotations s = fail .unclosedBracket { s with rest } := by
  have hget : (get : Parser Progress) s = .ok s s := rfl
  rw [skipAnnotations, bind_of_ok hget, h]
  rfl

theorem skipAnnotations_turn :
    skipAnnotations = annotationTurn () >>= Turn.after fun _ => skipAnnotations := by
  funext s
  cases hrest : s.rest with
  | nil =>
    have hturn : annotationTurn () s = .ok (.done ()) s := by
      simp only [annotationTurn, hrest]
    rw [bind_of_ok hturn]
    exact skipAnnotations_eq (by rw [hrest, afterAnnotations])
  | cons t ts =>
    by_cases hleft : t.is (.symbol .leftBracket) = true
    · cases hafter : afterBrackets 1 ts with
      | some rest =>
        have hturn : annotationTurn () s = .ok (.again ()) { s with rest } := by
          simp only [annotationTurn, hrest, if_pos hleft, hafter]
        have hsame : afterAnnotations s.rest = afterAnnotations rest := by
          rw [hrest, afterAnnotations, if_pos hleft]
          split
          next hsome =>
            cases hafter.symm.trans hsome
            rfl
          next hnone => cases hafter.symm.trans hnone
        rw [bind_of_ok hturn, Turn.after]
        cases hall : afterAnnotations rest with
        | ok behind => rw [skipAnnotations_eq (hsame.trans hall), skipAnnotations_eq hall]
        | error behind =>
          rw [skipAnnotations_unclosed (hsame.trans hall), skipAnnotations_unclosed hall]
      | none =>
        have hturn : annotationTurn () s = fail .unclosedBracket s := by
          simp only [annotationTurn, hrest, if_pos hleft, hafter]
        have hunclosed : afterAnnotations s.rest = .error s.rest := by
          rw [hrest, afterAnnotations, if_pos hleft]
          split
          next hsome => cases hafter.symm.trans hsome
          next => rfl
        rw [bind_of_error (hturn.trans rfl), skipAnnotations_unclosed hunclosed]
        rfl
    · have hturn : annotationTurn () s = .ok (.done ()) s := by
        simp only [annotationTurn, hrest, if_neg hleft]
      rw [bind_of_ok hturn]
      exact skipAnnotations_eq (by rw [hrest, afterAnnotations, if_neg hleft])

theorem repeats_annotations : Repeats annotationTurn () skipAnnotations :=
  @repeats_of_bound _ _ _ advancing_annotation (fun _ _ => skipAnnotations)
    (fun _ _ => skipAnnotations_turn) ()

/-- An annotation element is gone past, if one stands here. -/
def elementTurn (_ : Unit) : Parser (Turn Unit Unit) := fun s =>
  if startsElement s.rest = true then
    (skipAnnotations >>= fun _ => pure (.again ())) { s with rest := s.rest.tail }
  else .ok (.done ()) s

theorem advancing_element (x : Unit) : Advancing Turn.cost (elementTurn x) := by
  intro s hs
  by_cases hstarts : startsElement s.rest = true
  · obtain ⟨t, ts, hrest⟩ := hs.exists_cons
    have hrun : elementTurn x s = (skipAnnotations >>= fun _ => pure (.again ()))
        { s with rest := ts } := by
      rw [elementTurn, if_pos hstarts, hrest, List.tail_cons]
    have hname : t.is .prefixedName = true := by
      rw [hrest, startsElement_cons, Bool.and_eq_true] at hstarts
      exact hstarts.1
    have hbehind : Ended ts := (hrest ▸ hs).behind (lexeme_ne_eof hname (by nofun))
    have hthen : Advancing (fun a => a.cost - 1)
        (skipAnnotations >>= fun _ => pure (.again ()) : Parser (Turn Unit Unit)) :=
      advancing_skipAnnotations.bind fun _ => advancing_pure rfl
    exact (hthen { s with rest := ts } hbehind).behind hrest hrun
  · have hrun : elementTurn x s = .ok (.done ()) s := if_neg hstarts
    exact .of_ok hrun hs List.suffix_rfl (Nat.le_refl _)

theorem repeats_annotationElements : Repeats elementTurn () skipAnnotationElements := by
  apply @repeats_of_bound _ _ _ advancing_element (fun n _ => skipAnnotationElements.go n)
  intro n x
  funext s
  rw [skipAnnotationElements_succ]
  by_cases hstarts : startsElement s.rest = true
  · have hrun : elementTurn x s = (skipAnnotations >>= fun _ => pure (.again ()))
        { s with rest := s.rest.tail } := if_pos hstarts
    rw [if_pos hstarts, bind_congr hrun, bind_assoc]
    rfl
  · have hrun : elementTurn x s = .ok (.done ()) s := if_neg hstarts
    rw [if_neg hstarts, bind_of_ok hrun]
    rfl

/-! Levels -/

/-- The parsers of a level stay in front of the end of a file and take a token at least, but that of
components, which may be none. -/
structure Level.Advancing (level : Level) : Prop where
  basicName : Parser.Advancing (fun _ => 1) level.basicName
  primary : Parser.Advancing (fun _ => 1) level.primary
  components (allowInclude : Bool) (terminator : TokenType) :
    Parser.Advancing (fun _ => 0) (level.components allowInclude terminator)

section

variable {setting : Setting} {next : Option Level} {primary : Parser Pattern}
  {basicName : Parser Surface.NameClass} {component : Parser Component}

/-! Name classes -/

theorem repeats_names (hbasicName : Advancing (fun _ => 1) basicName)
    (left : Surface.NameClass) :
    Repeats (foldTurn (.symbol .pipe) basicName fun left right => .choice left right left.span) left
      (remaining >>= fun n => chain.go .pipe basicName
        (fun left right => .choice left right left.span) n left) := by
  apply chain_folds.repeats (by nofun)
  exact hbasicName.mono fun _ => Nat.zero_le _

theorem advancing_nameClass (hbasicName : Advancing (fun _ => 1) basicName) :
    Advancing (fun _ => 1) (nameClassOf basicName) :=
  hbasicName.bind fun left => (repeats_names hbasicName left).advancing

/-! Patterns -/

/-- An occurrence operator is gone past, if one stands here. -/
def occurrenceTurn (p : Pattern) : Parser (Turn Pattern Pattern) :=
  current >>= fun o => (o.bind postfixModifier?).elim (pure (.done p)) fun m =>
    advance >>= fun _ => pure (.again (.unary m p p.span))

theorem repeats_occurrences (p : Pattern) :
    Repeats occurrenceTurn p (remaining >>= fun n => postfixOf.go n p) := by
  apply repeats_of_bound
  · intro p
    apply advancing_current
    intro head
    rw [Option.bind_some]
    cases hmodifier : postfixModifier? head with
    | none => exact (advancing_done p).at head
    | some m =>
      apply advancingAt_advance
      · intro heof
        rw [postfixModifier?, heof] at hmodifier
        cases hmodifier
      · exact advancing_pure rfl
  · intro n p
    rw [occurrences_succ, occurrencesStep, occurrenceTurn, bind_assoc]
    apply congrArg (current >>= ·)
    funext o
    cases o.bind postfixModifier? <;> rfl

theorem advancing_postfixOf (hprimary : Advancing (fun _ => 1) primary) :
    Advancing (fun _ => 1) (postfixOf primary) :=
  hprimary.bind fun p => (repeats_occurrences p).advancing

/-- A particle behind a comma or without one, if it stands here. -/
def sequenceTurn (primary : Parser Pattern) (left : Pattern) : Parser (Turn Pattern Pattern) :=
  accept (.symbol .comma) >>= fun b => startsParticle >>= fun b' =>
    if (b || b') = true then
      postfixOf primary >>= fun right => pure (.again (.binary .group left right left.span))
    else pure (.done left)

theorem repeats_sequence (hprimary : Advancing (fun _ => 1) primary) (left : Pattern) :
    Repeats (sequenceTurn primary) left
      (remaining >>= fun n => sequenceOf.go primary n left) := by
  have hcomma : Advancing (fun _ => 0) (accept (.symbol .comma)) :=
    (advancing_accept (by nofun)).mono fun _ => Nat.zero_le _
  apply repeats_of_bound
  · intro left
    apply hcomma.bind
    intro b
    apply advancing_startsParticle.bind
    intro b'
    cases b || b' with
    | false => exact advancing_done left
    | true => exact (advancing_postfixOf hprimary).bind fun right => advancing_pure rfl
  · intro n left
    change (accept (.symbol .comma) >>= fun b => startsParticle >>= fun b' =>
      if (b || b') = true then postfixOf primary >>= fun right =>
        sequenceOf.go primary n (.binary .group left right left.span)
      else pure left) = _
    simp only [sequenceTurn, bind_assoc]
    apply congrArg (accept (.symbol .comma) >>= ·)
    funext b
    apply congrArg (startsParticle >>= ·)
    funext b'
    cases b || b' with
    | false => rfl
    | true => simp only [if_true, bind_assoc, pure_bind, Turn.after]

theorem advancing_sequenceOf (hprimary : Advancing (fun _ => 1) primary) :
    Advancing (fun _ => 1) (sequenceOf primary) :=
  (advancing_postfixOf hprimary).bind fun left => (repeats_sequence hprimary left).advancing

theorem repeats_interleaves (hprimary : Advancing (fun _ => 1) primary) (left : Pattern) :
    Repeats (foldTurn (.symbol .ampersand) (sequenceOf primary)
        fun left right => .binary .interleave left right left.span) left
      (remaining >>= fun n => chain.go .ampersand (sequenceOf primary)
        (fun left right => .binary .interleave left right left.span) n left) := by
  apply chain_folds.repeats (by nofun)
  exact (advancing_sequenceOf hprimary).mono fun _ => Nat.zero_le _

theorem advancing_interleaveOf (hprimary : Advancing (fun _ => 1) primary) :
    Advancing (fun _ => 1) (interleaveOf primary) :=
  (advancing_sequenceOf hprimary).bind fun left => (repeats_interleaves hprimary left).advancing

theorem repeats_choices (hprimary : Advancing (fun _ => 1) primary) (left : Pattern) :
    Repeats (foldTurn (.symbol .pipe) (interleaveOf primary)
        fun left right => .binary .choice left right left.span) left
      (remaining >>= fun n => chain.go .pipe (interleaveOf primary)
        (fun left right => .binary .choice left right left.span) n left) := by
  apply chain_folds.repeats (by nofun)
  exact (advancing_interleaveOf hprimary).mono fun _ => Nat.zero_le _

theorem advancing_patternOf (hprimary : Advancing (fun _ => 1) primary) :
    Advancing (fun _ => 1) (patternOf primary) :=
  (advancing_interleaveOf hprimary).bind fun left => (repeats_choices hprimary left).advancing

/-! Parameters -/

/-- A parameter, or the end of the parameters. -/
def paramItem : Parser (Option (String × Text)) :=
  accept (.symbol .rightBrace) >>= fun b =>
    if b = true then pure none
    else skipAnnotations >>= fun _ => expectName .parameter >>= fun name =>
      expectSymbol .assign >>= fun _ => literalOr .missingParameterValue >>= fun value =>
        pure (some (name, value))

theorem repeats_params : Repeats (listTurn paramItem) [] (remaining >>= params.go) := by
  apply repeats_list
  · apply (advancing_accept (by nofun)).bind
    rintro ⟨⟩
    · exact advancing_skipAnnotations.bind fun _ => (advancing_expectName _).bind fun _ =>
        (advancing_expectSymbol _).bind fun _ => (advancing_literalOr _).bind fun _ =>
          advancing_pure rfl
    · exact advancing_pure rfl
  · intro n
    rw [params_succ, paramsStep, paramItem, bind_assoc]
    apply congrArg (accept (.symbol .rightBrace) >>= ·)
    funext b
    cases b with
    | false => simp only [Bool.false_eq_true, if_false, bind_assoc, pure_bind, Option.elim_some]
    | true => rfl

theorem advancing_params : Advancing (fun _ => 1) params :=
  (advancing_expectSymbol _).bind fun _ => repeats_params.advancing

/-! Components -/

theorem advancingAt_defineWith (hprimary : Advancing (fun _ => 1) primary) {head : Token}
    (hhead : head.lexeme ≠ .eof) (name : DefineName) :
    AdvancingAt head (fun _ => 1) (defineWith setting primary head name) := by
  apply advancingAt_advance hhead
  apply advancing_current
  intro op
  rw [Option.bind_some]
  cases hassignment : assignment? op with
  | none => exact (advancing_fail _).at op
  | some operator =>
    apply advancingAt_advance
    · intro heof
      rw [assignment?, heof] at hassignment
      cases hassignment
    · exact (advancing_patternOf hprimary).bind fun _ => advancing_pure rfl

/-- A component behind what is passed over, or the terminator. -/
def componentItem (terminator : TokenType) (component : Parser Component) :
    Parser (Option Component) :=
  skipAnnotations >>= fun _ => skipAnnotationElements >>= fun _ => at? terminator >>= fun b =>
    if b = true then pure none else component >>= fun c => pure (some c)

theorem repeats_componentsOf (hcomponent : Advancing (fun _ => 1) component)
    (terminator : TokenType) : Repeats (listTurn (componentItem terminator component)) []
      (componentsOf component terminator) := by
  apply repeats_list
  · apply advancing_skipAnnotations.bind
    intro _
    apply repeats_annotationElements.advancing.bind
    intro _
    apply (advancing_at terminator).bind
    rintro ⟨⟩
    · exact hcomponent.bind fun _ => advancing_pure rfl
    · exact advancing_pure rfl
  · intro n
    change componentsStep terminator component (componentsOf.go component terminator n) = _
    simp only [componentsStep, turn, componentItem, bind_assoc]
    apply congrArg (skipAnnotations >>= ·)
    funext _
    apply congrArg (skipAnnotationElements >>= ·)
    funext _
    apply congrArg (at? terminator >>= ·)
    funext b
    cases b with
    | false => simp only [Bool.false_eq_true, if_false, bind_assoc, pure_bind, Option.elim_some]
    | true => rfl

/-! What opens a level -/

variable (hnext : ∀ level, next = some level → level.Advancing)

include hnext

theorem advancing_nameException : Advancing (fun _ => 0) (nameException setting next) := by
  apply (advancing_accept (by nofun)).bind
  rintro ⟨⟩
  · exact advancing_pure rfl
  · exact (advancing_nested fun level h => (hnext level h).basicName).bind fun _ =>
      advancing_pure rfl

theorem advancing_basicNameWith : Advancing (fun _ => 1) (basicNameWith setting next) := by
  have hname (c : Surface.NameClass) {head : Token} (hhead : head.lexeme ≠ .eof) :
      AdvancingAt head (fun _ => 1) (advance >>= fun _ => pure c) :=
    advancingAt_advance hhead (advancing_pure rfl)
  apply advancing_skipAnnotations.bind
  intro _
  apply advancing_current
  intro head
  dsimp only
  split
  next hhead => exact hname _ (by rw [hhead]; nofun)
  next hhead => exact hname _ (by rw [hhead]; nofun)
  next hhead => exact hname _ (by rw [hhead]; nofun)
  next hhead =>
    apply advancingAt_advance (by rw [hhead]; nofun)
    exact (advancing_nameException hnext).bind fun _ => advancing_pure rfl
  next hhead =>
    apply advancingAt_advance (by rw [hhead]; nofun)
    exact (advancing_nameException hnext).bind fun _ => advancing_pure rfl
  next hhead =>
    apply advancingAt_advance (by rw [hhead]; nofun)
    exact (advancing_nested fun level h => advancing_nameClass (hnext level h).basicName).bind
      fun _ => (advancing_expectSymbol _).bind fun _ => advancing_pure rfl
  next => exact (advancing_fail _).at head

theorem advancing_bracedPattern : Advancing (fun _ => 1) (bracedPattern setting next) :=
  (advancing_expectSymbol _).bind fun _ =>
    (advancing_nested fun level h => advancing_patternOf (hnext level h).primary).bind fun _ =>
      (advancing_expectSymbol _).bind fun _ => advancing_pure rfl

theorem advancing_datatypePattern (type : Datatype) (span : Span) :
    Advancing (fun _ => 0) (datatypePattern setting next type span) := by
  have hrest (params : List (String × Text)) : Advancing (fun _ => 0) (do
      let exception ←
        if ← accept (.symbol .minus) then
          some <$> nested setting next (·.primary)
        else pure none
      return Pattern.data type params exception span) := by
    apply (advancing_accept (by nofun)).bind
    rintro ⟨⟩
    · exact advancing_pure rfl
    · simp only [bind_map_left]
      exact (advancing_nested fun level h => (hnext level h).primary).bind fun _ =>
        advancing_pure rfl
  apply (advancing_at .literal).bind
  rintro ⟨⟩
  · apply (advancing_at (.symbol .leftBrace)).bind
    rintro ⟨⟩
    · exact hrest []
    · exact advancing_params.bind fun params => hrest params
  · exact advancing_literal.bind fun _ => advancing_pure rfl

theorem advancing_primaryWith (hbasicName : Advancing (fun _ => 1) basicName) :
    Advancing (fun _ => 1) (primaryWith setting basicName next) := by
  have hnamed (holder : Holder) {head : Token} (hhead : head.lexeme ≠ .eof) :
      AdvancingAt head (fun _ => 1) (do
        advance
        let name ← nameClassOf basicName
        return Pattern.named holder name (← bracedPattern setting next) head.span) :=
    advancingAt_advance hhead <| (advancing_nameClass hbasicName).bind fun _ =>
      (advancing_bracedPattern hnext).bind fun _ => advancing_pure rfl
  have hwrapped (m : Modifier) {head : Token} (hhead : head.lexeme ≠ .eof) :
      AdvancingAt head (fun _ => 1) (do
        advance
        return Pattern.unary m (← bracedPattern setting next) head.span) :=
    advancingAt_advance hhead <| (advancing_bracedPattern hnext).bind fun _ => advancing_pure rfl
  have hleaf (p : Pattern) {head : Token} (hhead : head.lexeme ≠ .eof) :
      AdvancingAt head (fun _ => 1) (advance >>= fun _ => pure p) :=
    advancingAt_advance hhead (advancing_pure rfl)
  have hdatatype (type : Datatype) {head : Token} (hhead : head.lexeme ≠ .eof) :
      AdvancingAt head (fun _ => 1) (do
        advance
        datatypePattern setting next type head.span) :=
    advancingAt_advance hhead (advancing_datatypePattern hnext type head.span)
  apply advancing_skipAnnotations.bind
  intro _
  apply advancing_current
  intro head
  dsimp only
  cases hlexeme : head.lexeme with
  | identifier => exact hleaf _ (by rw [hlexeme]; nofun)
  | prefixedName => exact hdatatype _ (by rw [hlexeme]; nofun)
  | literal => exact (advancing_literal.bind fun _ => advancing_pure rfl).at head
  | keyword k =>
    have hhead : head.lexeme ≠ .eof := by
      rw [hlexeme]
      nofun
    cases k with
    | element => exact hnamed .element hhead
    | attr => exact hnamed .attr hhead
    | list => exact hwrapped .list hhead
    | mixed => exact hwrapped .mixed hhead
    | empty | text | notAllowed => exact hleaf _ hhead
    | parent =>
      exact advancingAt_advance hhead <| (advancing_expect (by nofun) _).bind fun _ =>
        advancing_pure rfl
    | external =>
      exact advancingAt_advance hhead <| (advancing_literalOr _).bind fun _ =>
        advancing_inheritance.bind fun _ => advancing_pure rfl
    | grammar =>
      exact advancingAt_advance hhead <| (advancing_expectSymbol _).bind fun _ =>
        (advancing_nested fun level h =>
          (hnext level h).components true (.symbol .rightBrace)).bind fun _ =>
            (advancing_expectSymbol _).bind fun _ => advancing_pure rfl
    | string | token => exact hdatatype _ hhead
    | _ => exact (advancing_fail _).at head
  | symbol sym =>
    cases sym with
    | leftParen =>
      exact advancingAt_advance (by rw [hlexeme]; nofun) <|
        (advancing_nested fun level h => advancing_patternOf (hnext level h).primary).bind fun _ =>
          (advancing_expectSymbol _).bind fun _ => advancing_pure rfl
    | _ => exact (advancing_fail _).at head
  | nsName | eof => exact (advancing_fail _).at head

theorem advancing_componentWith (hprimary : Advancing (fun _ => 1) primary)
    {overrides : Option (Parser (List Component))}
    (hoverrides : ∀ block, overrides = some block → Advancing (fun _ => 0) block) :
    Advancing (fun _ => 1) (componentWith setting primary next overrides) := by
  apply advancing_current
  intro head
  dsimp only
  split
  next hhead => exact advancingAt_defineWith hprimary (by rw [hhead]; nofun) .start
  next hhead => exact advancingAt_defineWith hprimary (by rw [hhead]; nofun) _
  next hhead =>
    exact advancingAt_advance (by rw [hhead]; nofun) <| (advancing_expectSymbol _).bind fun _ =>
      (advancing_nested fun level h => (hnext level h).components _ _).bind fun _ =>
        (advancing_expectSymbol _).bind fun _ => advancing_pure rfl
  next hhead =>
    cases overrides with
    | none => exact (advancing_fail _).at head
    | some block =>
      apply advancingAt_advance (by rw [hhead]; nofun)
      apply (advancing_literalOr _).bind
      intro _
      apply advancing_inheritance.bind
      intro _
      apply (advancing_accept (by nofun)).bind
      rintro ⟨⟩
      · exact advancing_pure rfl
      · exact (hoverrides block rfl).bind fun _ => (advancing_expectSymbol _).bind fun _ =>
          advancing_pure rfl
  all_goals exact (advancing_fail _).at head

/-! Levels above others -/

omit hnext in
/-- A component of a level, with a block of overrides behind an include where one is allowed. -/
def componentAbove (setting : Setting) (next : Option Level) (allowInclude : Bool) :
    Parser Component :=
  componentWith setting (Level.above setting next).primary next
    (if allowInclude = true then
      some ((Level.above setting next).components false (.symbol .rightBrace))
    else none)

omit hnext in
theorem components_above (allowInclude : Bool) (terminator : TokenType) :
    (Level.above setting next).components allowInclude terminator =
      componentsOf (componentAbove setting next allowInclude) terminator := by
  cases allowInclude <;> rfl

theorem advancing_primaryAbove :
    Advancing (fun _ => 1) (Level.above setting next).primary :=
  advancing_primaryWith hnext (advancing_basicNameWith hnext)

theorem advancing_componentAbove (allowInclude : Bool) :
    Advancing (fun _ => 1) (componentAbove setting next allowInclude) := by
  have hprimary : Advancing (fun _ => 1) (Level.above setting next).primary :=
    advancing_primaryAbove hnext
  have hplain : Advancing (fun _ => 1) (componentAbove setting next false) :=
    advancing_componentWith hnext hprimary nofun
  cases allowInclude with
  | false => exact hplain
  | true =>
    apply advancing_componentWith hnext hprimary
    intro block hblock
    cases hblock
    rw [components_above]
    exact (repeats_componentsOf hplain _).advancing

theorem repeats_components (allowInclude : Bool) (terminator : TokenType) :
    Repeats (listTurn (componentItem terminator (componentAbove setting next allowInclude))) []
      ((Level.above setting next).components allowInclude terminator) := by
  rw [components_above]
  exact repeats_componentsOf (advancing_componentAbove hnext allowInclude) terminator

theorem advancing_above : (Level.above setting next).Advancing where
  basicName := advancing_basicNameWith hnext
  primary := advancing_primaryAbove hnext
  components allowInclude terminator := (repeats_components hnext allowInclude terminator).advancing

end

theorem advancing_level (setting : Setting) (n : Nat) : (level setting n).Advancing := by
  induction n with
  | zero => exact advancing_above nofun
  | succ n ih =>
    apply advancing_above
    intro level h
    cases h
    exact ih

theorem advancing_unlimited (docs : DocLines) : (unlimited docs).Advancing where
  basicName s hs := ((advancing_level ⟨s.rest.length, docs⟩ _).basicName s hs).congr rfl
  primary s hs := ((advancing_level ⟨s.rest.length, docs⟩ _).primary s hs).congr rfl
  components allowInclude terminator s hs :=
    ((advancing_level ⟨s.rest.length, docs⟩ _).components allowInclude terminator s hs).congr rfl

theorem Below.advancing {setting : Setting} {next : Option Level} (h : Below setting next) :
    ∀ level, next = some level → level.Advancing := by
  intro level he
  cases h with
  | nothing => cases he
  | level n =>
    cases he
    exact advancing_level setting n
  | unlimited =>
    cases he
    exact advancing_unlimited setting.docs

/-! Whole files -/

/-- A run at the end of a file: it goes past it, or it fails in front of it. -/
def Finishes (p : Parser α) (s : Progress) : Prop :=
  (∀ a t, p s = .ok a t → t.rest = []) ∧
    ∀ e t, p s = .error e t → Ended t.rest ∧ t.rest <:+ s.rest

theorem Advances.finishes {β : Type} {k : α → Nat} {p : Parser α} {f : α → Parser β} {s : Progress}
    (hp : Advances k p s) (hf : ∀ a t, Ended t.rest → Finishes (f a) t) :
    Finishes (p >>= f) s := by
  have hrest := hp.rest
  cases hrun : p s with
  | ok a t =>
    rw [hrun] at hrest
    obtain ⟨hok, herror⟩ := hf a t (hp.ended_ok hrun)
    rw [Finishes, bind_of_ok hrun]
    exact ⟨hok, fun e u h => (herror e u h).imp_right fun hsuffix => hsuffix.trans hrest⟩
  | error e t =>
    have ht := hp.ended
    rw [hrun] at ht hrest
    rw [Finishes, bind_of_error hrun]
    refine ⟨nofun, fun e' u h => ?_⟩
    cases h
    exact ⟨ht, hrest⟩

theorem finishes_fail (fault : SyntaxFault) {s : Progress} (hs : Ended s.rest) :
    Finishes (fail fault : Parser α) s := by
  refine ⟨nofun, fun e t h => ?_⟩
  cases h
  exact ⟨hs, List.suffix_rfl⟩

/-- Nothing but the end of the file is taken, and nothing is behind it. -/
theorem finishes_expect (fault : SyntaxFault) (a : α) {s : Progress} (hs : Ended s.rest) :
    Finishes (expect .eof fault >>= fun _ => pure a) s := by
  obtain hno | ⟨t, rest, hrest, ht⟩ := notAt_or .eof s.rest
  · rw [Finishes, bind_of_error (expect_of_not_at fault hno)]
    refine ⟨nofun, fun e t h => ?_⟩
    cases h
    exact ⟨hs, List.suffix_rfl⟩
  · rw [Finishes, bind_of_ok (expect_of_at fault hrest ht)]
    constructor
    · intro b u h
      obtain ⟨-, rfl⟩ := pure_ok h
      rw [hrest] at hs
      exact hs.eq_nil (Token.lexeme_of_eof ht)
    · intro e u h
      cases h

theorem finishes_file {level : Level} (h : level.Advancing) (path : Text) {s : Progress}
    (hs : Ended s.rest) : Finishes (file path level) s := by
  rw [file_eq]
  apply (repeats_header.advancing s hs).finishes
  intro declarations t ht
  apply (advancing_skipAnnotations t ht).finishes
  intro _ u hu
  by_cases hcomponents : startsComponents u.rest = true
  · rw [Finishes, fileBody_components path declarations hcomponents]
    apply (h.components true .eof u hu).finishes
    intro components v hv
    exact finishes_expect .missingDefinition _ hv
  · rw [Finishes, fileBody_pattern path declarations (Bool.eq_false_iff.mpr hcomponents)]
    apply (advancing_patternOf h.primary u hu).finishes
    intro p v hv
    rw [Finishes, patternEnd, current_eq]
    split
    · exact finishes_fail _ hv
    · exact finishes_expect .missingEnd _ hv

/-! All methods -/

/-- The methods that read the parts of a file above a level, each with the tokens that it takes at
least for the value it ends with. The end of the file is no part of it. -/
inductive Part (setting : Setting) (next : Option Level) :
    {α : Type} → Parser α → (α → Nat) → Prop
  | header : Part setting next header fun _ => 0
  | declaration : Part setting next declaration? itemCost
  | namespaceUri : Part setting next namespaceUri fun _ => 1
  | components (allowInclude : Bool) (terminator : TokenType) : Part setting next
    ((Level.above setting next).components allowInclude terminator) fun _ => 0
  | component (allowInclude : Bool) :
    Part setting next (componentAbove setting next allowInclude) fun _ => 1
  | pattern : Part setting next (Level.above setting next).pattern fun _ => 1
  | interleave : Part setting next (interleaveOf (Level.above setting next).primary) fun _ => 1
  | sequence : Part setting next (sequenceOf (Level.above setting next).primary) fun _ => 1
  | occurrence : Part setting next (postfixOf (Level.above setting next).primary) fun _ => 1
  | primary : Part setting next (Level.above setting next).primary fun _ => 1
  | bracedPattern : Part setting next (bracedPattern setting next) fun _ => 1
  | datatype (type : Datatype) (span : Span) :
    Part setting next (datatypePattern setting next type span) fun _ => 0
  | params : Part setting next params fun _ => 1
  | nameClass : Part setting next (Level.above setting next).nameClass fun _ => 1
  | basicName : Part setting next (Level.above setting next).basicName fun _ => 1
  | nameException : Part setting next (nameException setting next) fun _ => 0
  | inheritance : Part setting next inheritance fun _ => 0
  | literal : Part setting next literal fun _ => 1
  | startsParticle : Part setting next startsParticle fun _ => 0
  | skipAnnotations : Part setting next skipAnnotations fun _ => 0
  | skipAnnotationElements : Part setting next skipAnnotationElements fun _ => 0
  | expect {type : TokenType} (h : type ≠ .eof) (fault : SyntaxFault) :
    Part setting next (expect type fault) fun _ => 1
  | expectName (role : NameRole) : Part setting next (expectName role) fun _ => 1
  | accept {type : TokenType} (h : type ≠ .eof) :
    Part setting next (accept type) fun b => if b = true then 1 else 0

/-- The loops of the methods above a level: a turn of each, with what the first turn begins with. -/
inductive Looping (setting : Setting) (next : Option Level) :
    {σ β : Type} → (σ → Parser (Turn σ β)) → σ → Parser β → Prop
  | header : Looping setting next (listTurn headerItem) [] header
  | components (allowInclude : Bool) (terminator : TokenType) : Looping setting next
    (listTurn (componentItem terminator (componentAbove setting next allowInclude))) []
    ((Level.above setting next).components allowInclude terminator)
  | choices (left : Pattern) : Looping setting next
    (foldTurn (.symbol .pipe) (interleaveOf (Level.above setting next).primary)
      fun left right => .binary .choice left right left.span) left
    (remaining >>= fun n => chain.go .pipe (interleaveOf (Level.above setting next).primary)
      (fun left right => .binary .choice left right left.span) n left)
  | interleaves (left : Pattern) : Looping setting next
    (foldTurn (.symbol .ampersand) (sequenceOf (Level.above setting next).primary)
      fun left right => .binary .interleave left right left.span) left
    (remaining >>= fun n => chain.go .ampersand (sequenceOf (Level.above setting next).primary)
      (fun left right => .binary .interleave left right left.span) n left)
  | sequence (left : Pattern) : Looping setting next
    (sequenceTurn (Level.above setting next).primary) left
    (remaining >>= fun n => sequenceOf.go (Level.above setting next).primary n left)
  | occurrences (p : Pattern) : Looping setting next occurrenceTurn p
    (remaining >>= fun n => postfixOf.go n p)
  | names (left : Surface.NameClass) : Looping setting next
    (foldTurn (.symbol .pipe) (Level.above setting next).basicName
      fun left right => .choice left right left.span) left
    (remaining >>= fun n => chain.go .pipe (Level.above setting next).basicName
      (fun left right => .choice left right left.span) n left)
  | params : Looping setting next (listTurn paramItem) [] (remaining >>= params.go)
  | segments (text : Text) : Looping setting next
    (foldTurn (.symbol .tilde) (Parser.expect .literal .missingSegment)
      fun text token => text ++ token.value) text (remaining >>= fun n => literal.segments n text)
  | annotations : Looping setting next annotationTurn () skipAnnotations
  | annotationElements : Looping setting next elementTurn () skipAnnotationElements

section

variable {setting : Setting} {next : Option Level} (hnext : Below setting next)

include hnext

theorem Part.advancing {p : Parser α} {k : α → Nat} (h : Part setting next p k) :
    Advancing k p := by
  have habove : (Level.above setting next).Advancing := advancing_above hnext.advancing
  cases h with
  | header => exact repeats_header.advancing
  | declaration => exact advancing_declaration
  | namespaceUri => exact advancing_namespaceUri
  | components allowInclude terminator => exact habove.components allowInclude terminator
  | component allowInclude => exact advancing_componentAbove hnext.advancing allowInclude
  | pattern => exact advancing_patternOf habove.primary
  | interleave => exact advancing_interleaveOf habove.primary
  | sequence => exact advancing_sequenceOf habove.primary
  | occurrence => exact advancing_postfixOf habove.primary
  | primary => exact habove.primary
  | bracedPattern => exact advancing_bracedPattern hnext.advancing
  | datatype type span => exact advancing_datatypePattern hnext.advancing type span
  | params => exact advancing_params
  | nameClass => exact advancing_nameClass habove.basicName
  | basicName => exact habove.basicName
  | nameException => exact advancing_nameException hnext.advancing
  | inheritance => exact advancing_inheritance
  | literal => exact advancing_literal
  | startsParticle => exact advancing_startsParticle
  | skipAnnotations => exact advancing_skipAnnotations
  | skipAnnotationElements => exact repeats_annotationElements.advancing
  | expect h fault => exact advancing_expect h fault
  | expectName role => exact advancing_expectName role
  | accept h => exact advancing_accept h

theorem Looping.repeats {σ β : Type} {turn : σ → Parser (Turn σ β)} {x : σ} {p : Parser β}
    (h : Looping setting next turn x p) : Repeats turn x p := by
  have habove : (Level.above setting next).Advancing := advancing_above hnext.advancing
  cases h with
  | header => exact repeats_header
  | components allowInclude terminator =>
    exact repeats_components hnext.advancing allowInclude terminator
  | choices left => exact repeats_choices habove.primary left
  | interleaves left => exact repeats_interleaves habove.primary left
  | sequence left => exact repeats_sequence habove.primary left
  | occurrences p => exact repeats_occurrences p
  | names left => exact repeats_names habove.basicName left
  | params => exact repeats_params
  | segments text => exact repeats_segments text
  | annotations => exact repeats_annotations
  | annotationElements => exact repeats_annotationElements

/-- From every place up to the end of a file every method ends in front of the end of the file, but
the one that reads whole files, which goes past it where it succeeds and only there. A loop ends
because each turn takes a token, and what is read in a construct is read with fewer tokens ahead.
Where a closing bracket or a particle is looked for, nothing behind the end of the file is seen. -/
theorem methods_advance :
    (∀ {α : Type} {p : Parser α} {k : α → Nat}, Part setting next p k → Advancing k p) ∧
    (∀ (head : Token) (name : DefineName), head.lexeme ≠ .eof → AdvancingAt head (fun _ => 1)
      (defineWith setting (Level.above setting next).primary head name)) ∧
    (∀ (path : Text) (s : Progress), Ended s.rest →
      Finishes (file path (.above setting next)) s) ∧
    (∀ {σ β : Type} {turn : σ → Parser (Turn σ β)} {x : σ} {p : Parser β},
      Looping setting next turn x p → Repeats turn x p) ∧
    (∀ (k : Nat) (L L' : Level), Lifts (Agreeing k) (fun i => cond i L L') →
      Lifts (Agreeing (k + 1)) fun i => Level.above setting (some (cond i L L'))) ∧
    ∀ ts : List Token, Ended ts →
      (∀ (depth : Nat) (more : List Token),
        afterBrackets depth (ts ++ more) = (afterBrackets depth ts).map (· ++ more)) ∧
      (∀ (depth : Nat) (rest : List Token), afterBrackets depth ts = some rest →
        Ended rest ∧ rest <:+ ts ∧ rest.length < ts.length) ∧
      ∃ b : Bool, ∀ (more : List Token) (s : Progress), s.rest = ts ++ more →
        startsParticle s = .ok b s := by
  have habove : (Level.above setting next).Advancing := advancing_above hnext.advancing
  refine ⟨fun h => h.advancing hnext, fun head name hhead => ?_, fun path s hs => ?_,
    fun h => h.repeats hnext, fun k L L' h => ?_, fun ts hts => ⟨?_, ?_, ?_⟩⟩
  · exact advancingAt_defineWith habove.primary hhead name
  · exact finishes_file habove path hs
  · exact Lifts.above (lifting_agreeing _) (nests_agreeing_succ h fun _ => setting) fun _ => rfl
  · exact hts.afterBrackets_append
  · intro depth rest hafter
    obtain ⟨hended, hsuffix⟩ := hts.after_brackets hafter
    exact ⟨hended, hsuffix, length_of_afterBrackets hafter⟩
  · refine ⟨joins ts, fun more s hs => ?_⟩
    rw [startsParticle_eq, hs, hts.joins_append]

end

end RelaxCompact.Parser

namespace RelaxCompact.Bracketed

open RelaxCompact.Parser

/-- An annotation with a pattern behind it: `[ a ] text`. -/
def tokens : List Token :=
  [added (.symbol .leftBracket), added (.identifier "a"), added (.symbol .rightBracket),
    added (.keyword .text), added .eof]

theorem ended_tokens : Ended tokens :=
  .cons nofun (.cons nofun (.cons nofun (.cons nofun (.last rfl))))

theorem methods_advance_bracketed : Below ⟨1, []⟩ none ∧ Ended tokens ∧
    Advances (fun _ => 1) (Level.above ⟨1, []⟩ none).pattern { rest := tokens } :=
  ⟨.nothing, ended_tokens, (methods_advance .nothing).1 .pattern _ ended_tokens⟩

end RelaxCompact.Bracketed
