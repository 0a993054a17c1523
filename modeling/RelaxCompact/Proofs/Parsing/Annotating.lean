import RelaxCompact.Proofs.Parsing.Juxtaposing

/-!
Components that read the same when annotations are added. At grammar level annotation elements are
passed over with the annotations; what is added behind such an element becomes part of it.
-/

namespace RelaxCompact

open Surface

/-! What is passed over at grammar level -/

theorem AnnotationElements.append {elements more : List Token} (h : AnnotationElements elements)
    (hne : elements ≠ []) (hmore : Annotations more) : AnnotationElements (elements ++ more) := by
  induction h with
  | nil => exact absurd rfl hne
  | @cons t qualifier localName annotations ts ht hannotations hsome hts ih =>
    rw [List.append_assoc]
    cases ts with
    | nil =>
      have hboth : annotations ++ more ≠ [] := fun h => hsome (List.append_eq_nil_iff.mp h).1
      have helement := AnnotationElements.cons ht (hannotations.append hmore) hboth .nil
      rwa [List.append_nil] at helement
    | cons t' ts => exact .cons ht hannotations hsome (ih (List.cons_ne_nil _ _))

theorem AnnotationElements.head {elements : List Token} (h : AnnotationElements elements) :
    elements = [] ∨ ∃ t bracket ts, elements = t :: bracket :: ts ∧ t.is .prefixedName = true ∧
      bracket.is (.symbol .leftBracket) = true := by
  cases h with
  | nil => exact .inl rfl
  | cons ht hannotations hsome _ =>
    obtain rfl | ⟨bracket, ts, rfl, hbracket⟩ := hannotations.head
    · exact absurd rfl hsome
    · exact .inr ⟨_, bracket, _, rfl, Parser.is_of_lexeme ht, Parser.is_of_lexeme hbracket⟩

theorem GrammarAnnotations.append {passed more : List Token} (h : GrammarAnnotations passed)
    (hmore : Annotations more) : GrammarAnnotations (passed ++ more) := by
  obtain ⟨annotations, elements, rfl, hannotations, helements⟩ := h
  cases elements with
  | nil =>
    refine ⟨annotations ++ more, [], ?_, hannotations.append hmore, .nil⟩
    rw [List.append_nil, List.append_nil]
  | cons t ts =>
    exact ⟨annotations, t :: ts ++ more, List.append_assoc .., hannotations,
      helements.append (List.cons_ne_nil _ _) hmore⟩

namespace Parser

open Run

variable {α : Type} {s : Progress}

/-- What stands behind annotations at grammar level: a component, or what closes components. -/
structure Bounds (t : Token) (rest : List Token) : Prop where
  bracket : t.is (.symbol .leftBracket) = false
  name : t.is .prefixedName = false
  continues : continuesSequence (t :: rest) = false

section

variable {passed elements rest : List Token} {t : Token}

/-- Annotation elements begin with a name, and what is behind them is no bracket. -/
theorem afterAnnotations_elements (h : AnnotationElements elements)
    (ht : t.is (.symbol .leftBracket) = false) :
    afterAnnotations (elements ++ t :: rest) = .ok (elements ++ t :: rest) := by
  obtain rfl | ⟨name, bracket, ts, rfl, hname, -⟩ := h.head
  · exact afterAnnotations_token ht rest
  · exact afterAnnotations_token (not_is hname (by decide)) _

/-- An annotation element stands here. -/
def startsElement (ts : List Token) : Bool :=
  ts.head?.any (·.is .prefixedName) && ts[1]?.any (·.is (.symbol .leftBracket))

theorem skipAnnotationElements_succ (n : Nat) :
    skipAnnotationElements.go (n + 1) s =
      if startsElement s.rest = true then
        (skipAnnotations >>= fun _ => skipAnnotationElements.go n)
          { s with rest := s.rest.tail }
      else .ok () s := by
  change (if startsElement s.rest = true then
    advance >>= fun _ => skipAnnotations >>= fun _ => skipAnnotationElements.go n
    else pure ()) s = _
  split <;> rfl

theorem skipAnnotationElements_go (h : AnnotationElements elements)
    (ht : t.is (.symbol .leftBracket) = false) (hname : t.is .prefixedName = false) (n : Nat)
    (hlength : s.rest.length ≤ n) (hs : s.rest = elements ++ t :: rest) :
    skipAnnotationElements.go n s = .ok () { s with rest := t :: rest } := by
  induction h generalizing n s with
  | nil =>
    obtain ⟨rest', depth, deepest⟩ := s
    cases hs
    cases n with
    | zero => rfl
    | succ n =>
      rw [skipAnnotationElements_succ, if_neg]
      intro h
      exact Bool.eq_false_iff.mp hname (Bool.and_eq_true_iff.mp h).1
  | @cons name qualifier localName annotations ts hlexeme hannotations hsome hts ih =>
    cases n with
    | zero =>
      rw [hs] at hlength
      cases hlength
    | succ n =>
      obtain rfl | ⟨bracket, inner, rfl, hbracket⟩ := hannotations.head
      · exact absurd rfl hsome
      rw [hs] at hlength
      have hstarts : startsElement s.rest = true := by
        rw [hs]
        exact Bool.and_eq_true_iff.mpr ⟨is_of_lexeme hlexeme, is_of_lexeme hbracket⟩
      have hafter : afterAnnotations s.rest.tail = .ok (ts ++ t :: rest) := by
        rw [hs, List.cons_append, List.cons_append, List.tail_cons, List.append_assoc,
          afterAnnotations_append hannotations, afterAnnotations_elements hts ht]
      have hskip : skipAnnotations { s with rest := s.rest.tail } =
          .ok () { s with rest := ts ++ t :: rest } := skipAnnotations_eq hafter
      rw [skipAnnotationElements_succ, if_pos hstarts, bind_of_ok hskip]
      refine ih n ?_ rfl
      simp only [List.length_append, List.length_cons] at hlength ⊢
      omega

/-- Grammar annotations are passed over up to what stands behind them. -/
theorem skipGrammarAnnotations_eq (p : Parser α) (h : GrammarAnnotations passed)
    (ht : t.is (.symbol .leftBracket) = false) (hname : t.is .prefixedName = false)
    (hs : s.rest = passed ++ t :: rest) :
    (skipAnnotations >>= fun _ => skipAnnotationElements >>= fun _ => p) s =
      p { s with rest := t :: rest } := by
  obtain ⟨annotations, elements, rfl, hannotations, helements⟩ := h
  have hskip : skipAnnotations s = .ok () { s with rest := elements ++ t :: rest } :=
    skipAnnotations_eq (by
      rw [hs, List.append_assoc, afterAnnotations_append hannotations,
        afterAnnotations_elements helements ht])
  exact (bind_of_ok hskip).trans
    (bind_of_ok (skipAnnotationElements_go helements ht hname _ (Nat.le_refl _) rfl))

/-- No pattern is joined to what stands behind annotations at grammar level. -/
theorem apart_of_bounds (h : GrammarAnnotations passed) (ht : Bounds t rest) :
    Apart (passed ++ t :: rest) := by
  obtain ⟨annotations, elements, rfl, hannotations, helements⟩ := h
  rw [Apart, List.append_assoc, joins_append hannotations]
  obtain rfl | ⟨name, bracket, ts, rfl, hname, hbracket⟩ := helements.head
  · exact (joins_token ht.bracket rest).trans ht.continues
  · obtain ⟨qualifier, localName, hlexeme⟩ := Token.lexeme_of_prefixedName hname
    rw [List.cons_append, joins_token (not_is hname (by decide)), continuesSequence, hlexeme]
    change (!bracket.is (.symbol .leftBracket)) = false
    rw [hbracket]
    rfl

end

/-! What components begin with -/

/-- A component begins with a word of its own, or with a name and an operator that assigns. -/
inductive Begins : List Mark → Prop
  | word {k : Keyword} {t : Token} {w : List Mark} :
    k = .start ∨ k = .div ∨ k = .incl → t.lexeme = .keyword k → Begins (t.mark :: w)
  | named {name : String} {t op : Token} {w : List Mark} :
    t.lexeme = .identifier name → (assignment? op).isSome = true →
    Begins (t.mark :: op.mark :: w)

theorem begins_definition {w : List Mark} (h : Form.definition.Spells w) : Begins w := by
  cases h with
  | seq hname hrest =>
    cases hname with
    | left hstart =>
      cases hstart with
      | one hstart => exact .word (.inl rfl) (Token.lexeme_of_keyword hstart)
    | right hname =>
      cases hname with
      | one hname =>
        obtain ⟨name, hname⟩ := Token.lexeme_of_identifier hname
        cases hrest with
        | seq hop _ =>
          cases hop with
          | one hop => exact .named hname hop

theorem begins_component {includes : Bool} {w : List Mark}
    (h : (Form.bareComponent includes).Spells w) : Begins w := by
  have hword {k : Keyword} {e : Form} {w : List Mark} (hk : k = .start ∨ k = .div ∨ k = .incl)
      (h : (Form.keyword k * e).Spells w) : Begins w := by
    cases h with
    | seq hu _ =>
      cases hu with
      | one ht => exact .word hk (Token.lexeme_of_keyword ht)
  cases includes with
  | false =>
    cases h with
    | left h => exact begins_definition h
    | right h => exact hword (.inr (.inl rfl)) h
  | true =>
    cases h with
    | left h =>
      cases h with
      | left h => exact begins_definition h
      | right h => exact hword (.inr (.inl rfl)) h
    | right h => exact hword (.inr (.inr rfl)) h

theorem Begins.append {w : List Mark} (h : Begins w) (v : List Mark) : Begins (w ++ v) := by
  cases h with
  | word hk ht => exact .word hk ht
  | named ht hop => exact .named ht hop

theorem opens_component {includes : Bool} : (Form.bareComponent includes).Opens fun _ => True := by
  intro w hw
  cases begins_component hw with
  | word | named => exact ⟨_, _, rfl, trivial⟩

/-- A component still begins here with annotations more behind. -/
theorem Begins.bounds {w w' : List Mark} {closed' : Bool} {next : List Token} (h : Begins w)
    (hw' : Annotates false w w' closed') :
    ∃ t v, w' = t.mark :: v ∧ Bounds t (Mark.tokens v ++ next) ∧
      startsComponents (t :: (Mark.tokens v ++ next)) = true := by
  cases h with
  | @word k t w hk ht =>
    obtain ⟨v, rfl, -⟩ := hw'.mark
    refine ⟨t, v, rfl, ⟨?_, ?_, ?_⟩, ?_⟩
    · exact not_is (is_of_lexeme ht) (by simp [Lexeme.type])
    · exact not_is (is_of_lexeme ht) (by simp [Lexeme.type])
    · rw [continuesSequence, ht]
      rcases hk with rfl | rfl | rfl <;> rfl
    · rw [startsComponents, ht]
      rcases hk with rfl | rfl | rfl <;> rfl
  | @named name t op w ht hop =>
    obtain ⟨v, rfl, hv⟩ := hw'.mark
    obtain ⟨v, rfl, -⟩ := hv.mark
    refine ⟨t, _, rfl, ⟨?_, ?_, ?_⟩, ?_⟩
    · exact not_is (is_of_lexeme ht) (by simp [Lexeme.type])
    · exact not_is (is_of_lexeme ht) (by simp [Lexeme.type])
    · rw [continuesSequence, ht]
      change (assignment? op).isNone = false
      rw [Option.isNone_eq_false_iff]
      exact hop
    · rw [startsComponents, ht]
      exact hop

/-! Components -/

section

variable {setting : Setting} {next : Option Level} {primary : Parser Pattern}

theorem rereadsFrom_defineWith {head : Token} {name : DefineName}
    (h : Rereads Anything primary (.rule .primary))
    (hhead : (Form.keyword .start + Form.type .identifier).Spells [head.mark]) :
    RereadsFrom Apart head (defineWith setting primary head name) .definition := by
  refine rereadsFrom_advance hhead (rereads_current rfl fun op => ?_)
  rw [Option.bind_some]
  cases hop : assignment? op with
  | none => exact rereadsFrom_fail _ _
  | some operator =>
    have hsome : (assignment? op).isSome = true := by
      rw [hop]
      rfl
    exact rereadsFrom_advance (.one hsome) (rereads_patternOf h).andThen

theorem rereads_componentWith (hnext : ∀ level, next = some level → level.Rereads)
    (h : Rereads Anything primary (.rule .primary)) {overrides : Option (Parser (List Component))}
    (ho : ∀ parser, overrides = some parser →
      RereadsUpTo (.symbol .rightBrace) parser (.many (.rule (.component false)))) :
    Rereads Apart (componentWith setting primary next overrides)
      (.bareComponent overrides.isSome) := by
  have hdefinition {w : List Mark} (hw : Form.definition.Spells w) :
      (Form.bareComponent overrides.isSome).Spells w := by
    cases overrides with
    | none => exact .left hw
    | some parser => exact .left (.left hw)
  refine rereads_current rfl fun head => ?_
  dsimp only
  split
  next hhead =>
    exact (rereadsFrom_defineWith h (.left (.one (is_of_lexeme hhead)))).mono fun w => hdefinition
  next hhead =>
    exact (rereadsFrom_defineWith h (.right (.one (is_of_lexeme hhead)))).mono fun w => hdefinition
  next hhead =>
    have hdiv : (Form.keyword .div).Spells [head.mark] := .one (is_of_lexeme hhead)
    refine (rereadsFrom_advance hdiv (rereads_block hnext overrides.isSome _)).mono fun w hw => ?_
    cases overrides with
    | none => exact .right hw
    | some parser => exact .left (.right hw)
  next hhead =>
    split
    next => exact rereadsFrom_fail _ _
    next parser =>
      refine (rereadsFrom_advance (.one (is_of_lexeme hhead)) ?_).mono fun w hw => .right hw
      refine (rereads_literalOr _).seq fun href => rereads_inheritance.seq fun inherit => ?_
      refine rereads_accept (by decide) ?_ (rereads_pure _)
      exact (ho parser rfl).closed fun cs => (rereads_expectSymbol .rightBrace).andThen
  all_goals exact rereadsFrom_fail _ _

/-- What closes components. -/
def Closes (type : TokenType) : Prop := type = .symbol .rightBrace ∨ type = .eof

theorem bounds_of_closes {type : TokenType} (htype : Closes type) {t : Token} {rest : List Token}
    (ht : t.is type = true) : Bounds t rest := by
  have hlexeme : t.lexeme = .symbol .rightBrace ∨ t.lexeme = .eof := by
    rcases htype with rfl | rfl
    · exact .inl (Token.lexeme_of_symbol ht)
    · exact .inr (Token.lexeme_of_eof ht)
  rcases hlexeme with h | h <;>
    exact ⟨not_is (is_of_lexeme h) (by decide), not_is (is_of_lexeme h) (by decide),
      by rw [continuesSequence, h]⟩

/-- Behind what is passed over a component begins or the components are closed, with annotations
more as well. -/
theorem components_ahead {includes closed closed' : Bool} {type : TokenType} {w w' : List Mark}
    {passed rest : List Token} (hw : (Form.many (.rule (.component includes))).Spells w)
    (hw' : Annotates closed w w' closed') (hpassed : GrammarAnnotations passed)
    (htype : Closes type) (hrest : rest.head?.any (·.is type) = true) :
    ∃ before t after, Mark.tokens w' ++ (passed ++ rest) = before ++ t :: after ∧
      GrammarAnnotations before ∧ Bounds t after ∧
      (type = .eof → startsComponents (t :: after) = true) := by
  cases hw with
  | stop =>
    cases hw'
    cases rest with
    | nil => cases hrest
    | cons t after =>
      refine ⟨passed, t, after, rfl, hpassed, bounds_of_closes htype hrest, ?_⟩
      rintro rfl
      rw [startsComponents, Token.lexeme_of_eof hrest]
  | @more _ _ v hu _ =>
    cases hu with
    | rule hu =>
      obtain ⟨front, t, u, rfl, hfront, -, hu⟩ := Form.spells_led hu opens_component
      obtain ⟨more, x, rfl, hmore, hx⟩ := hw'.first
      have hword : Annotates false (t.mark :: u ++ v) (t.mark :: x) closed' := .cons (.inl rfl) hx
      obtain ⟨_, _, he, hbounds, hstarts⟩ := ((begins_component hu).append v).bounds hword
      cases he
      refine ⟨front ++ more, t, _, ?_, hfront.append hmore, hbounds, fun _ => hstarts⟩
      rw [Mark.tokens_cons, List.append_assoc]
      rfl

/-- A turn of the loop over components, from behind what is passed over. -/
theorem components_turn (component : Parser Component) (type : TokenType) (n : Nat)
    {s : Progress} {passed rest : List Token} {t : Token} (hpassed : GrammarAnnotations passed)
    (ht : Bounds t rest) (hs : s.rest = passed ++ t :: rest) :
    componentsOf.go component type (n + 1) s =
      (if t.is type = true then pure [] else do
        let c ← component
        return c :: (← componentsOf.go component type n) : Parser (List Component))
        { s with rest := t :: rest } :=
  skipGrammarAnnotations_eq _ hpassed ht.bracket ht.name hs

theorem components_stop {component : Parser Component} {type : TokenType} (htype : Closes type)
    {n : Nat} {s : Progress} {passed rest : List Token} (hpassed : GrammarAnnotations passed)
    (hlength : s.rest.length ≤ n) (hs : s.rest = passed ++ rest)
    (hrest : rest.head?.any (·.is type) = true) :
    componentsOf.go component type n s = .ok [] { s with rest } := by
  cases rest with
  | nil => cases hrest
  | cons t rest =>
    cases n with
    | zero =>
      rw [hs, List.length_append, List.length_cons] at hlength
      omega
    | succ n =>
      rw [components_turn component type n hpassed (bounds_of_closes htype hrest) hs]
      exact congrFun (if_pos hrest) _

/-- The loop over components, up to what closes them. -/
theorem componentsOf_rereads {component : Parser Component} {includes : Bool} {type : TokenType}
    (h : Rereads Apart component (.bareComponent includes)) (htype : Closes type) (n : Nat)
    {s t : Progress} {cs : List Component}
    (hrun : componentsOf.go component type n s = .ok cs t) :
    ∃ w passed, s.rest = Mark.tokens w ++ (passed ++ t.rest) ∧
      (Form.many (.rule (.component includes))).Spells w ∧ GrammarAnnotations passed ∧
      t.rest.head?.any (·.is type) = true ∧
      ∀ m s' closed w' closed' rest', s'.rest.length ≤ m →
        s'.rest = Mark.tokens w' ++ (passed ++ rest') → Annotates closed w w' closed' →
        rest'.head? = t.rest.head? →
        ∃ t', componentsOf.go component type m s' = .ok cs t' ∧ t'.rest = rest' := by
  have hstop {passed : List Token} (hpassed : GrammarAnnotations passed)
      (hclose : t.rest.head?.any (·.is type) = true) : ∀ m s' closed w' closed' rest',
      s'.rest.length ≤ m → s'.rest = Mark.tokens w' ++ (passed ++ rest') →
      Annotates closed [] w' closed' → rest'.head? = t.rest.head? →
      ∃ t', componentsOf.go component type m s' = .ok [] t' ∧ t'.rest = rest' := by
    intro m s' closed w' closed' rest' hlength hs' hw' hrest
    cases hw'
    exact ⟨_, components_stop htype hpassed hlength hs' (hrest ▸ hclose), rfl⟩
  induction n generalizing s cs with
  | zero =>
    obtain ⟨found, u, hat, hthen⟩ := bind_ok hrun
    obtain ⟨rfl, hfound⟩ := at_ok hat
    cases found with
    | false => exact (not_fail_ok hthen).elim
    | true =>
      obtain ⟨rfl, rfl⟩ := pure_ok hthen
      obtain ⟨token, rest, hrest, htoken⟩ := hfound rfl
      have hclose : t.rest.head?.any (·.is type) = true := by
        rw [hrest]
        exact htoken
      have hnone : GrammarAnnotations [] := ⟨[], [], rfl, .nil, .nil⟩
      exact ⟨[], [], rfl, .stop, hnone, hclose, hstop hnone hclose⟩
  | succ n ih =>
    obtain ⟨_, u, hskip, hthen⟩ := bind_ok hrun
    obtain ⟨annotations, hs, hannotations⟩ :=
      annotations_of_afterAnnotations (skipAnnotations_ok hskip)
    obtain ⟨_, v, hskipElements, hrest⟩ := bind_ok hthen
    obtain ⟨elements, hu, helements⟩ := skipAnnotationElements_ok hskipElements
    have hpassed : GrammarAnnotations (annotations ++ elements) :=
      ⟨annotations, elements, rfl, hannotations, helements⟩
    rw [hu, ← List.append_assoc] at hs
    change (if v.rest.head?.any (·.is type) = true then pure [] else do
      let c ← component
      return c :: (← componentsOf.go component type n) : Parser (List Component)) v = _ at hrest
    split at hrest
    next hclose =>
      obtain ⟨rfl, rfl⟩ := pure_ok hrest
      exact ⟨[], annotations ++ elements, hs, .stop, hpassed, hclose, hstop hpassed hclose⟩
    next hopen =>
      obtain ⟨c, x, hcomponent, hmore⟩ := bind_ok hrest
      obtain ⟨ds, y, hloop, hpure⟩ := bind_ok hmore
      obtain ⟨rfl, rfl⟩ := pure_ok hpure
      obtain ⟨w, hv, hw, hagain⟩ := h v c x hcomponent
      obtain ⟨ws, passed, hx, hws, hbehind, hclose, hloop⟩ := ih hloop
      obtain ⟨head, w, rfl, -⟩ := opens_component w hw
      refine ⟨⟨⟨annotations ++ elements, head⟩, .head⟩ :: w ++ ws, passed, ?_,
        .more (.rule (Form.spells_construct hpassed hw)) hws, hbehind, hclose, ?_⟩
      · rw [hs, hv, hx, Mark.tokens_append, Mark.tokens_mark, Mark.tokens_cons]
        simp only [List.append_assoc, List.cons_append]
      · intro m s' closed w' closed' rest' hlength hs' hw' hrest
        obtain ⟨more, x', rfl, hmore, hx'⟩ := hw'.first
        have hword : Annotates false (head.mark :: w ++ ws) (head.mark :: x') closed' :=
          .cons (.inl rfl) hx'
        obtain ⟨_, _, he, hbounds, -⟩ := ((begins_component hw).append ws).bounds hword
        cases he
        have hs' : s'.rest = (annotations ++ elements ++ more) ++
            head :: (Mark.tokens x' ++ (passed ++ rest')) := by
          rw [hs', Mark.tokens_cons, List.append_assoc]
          rfl
        cases m with
        | zero =>
          rw [hs', List.length_append, List.length_cons] at hlength
          omega
        | succ m =>
          rw [components_turn component type m (hpassed.append hmore) hbounds hs']
          have hhead : ¬ head.is type = true := by
            rwa [hv] at hopen
          obtain ⟨w', ws', between, rfl, hw', hws'⟩ := hx'.append
          have hnext : Ahead closed' (passed ++ t.rest) (passed ++ rest') := by
            cases passed with
            | nil => exact .inl hrest
            | cons => exact .inl rfl
          have happart : Apart (Mark.tokens ws' ++ (passed ++ rest')) := by
            obtain ⟨before, token, after, he, hbefore, htoken, -⟩ :=
              components_ahead hws hws' hbehind htype (hrest ▸ hclose)
            rw [he]
            exact apart_of_bounds hbefore htoken
          have hbehind' : Mark.tokens (w' ++ ws') ++ (passed ++ rest') =
              Mark.tokens w' ++ (Mark.tokens ws' ++ (passed ++ rest')) := by
            rw [Mark.tokens_append, List.append_assoc]
          rw [hbehind'] at hs' ⊢
          rw [hx] at hagain
          obtain ⟨u', hfirst, hu'⟩ := hagain _ { s' with rest := head :: (Mark.tokens w' ++ _) }
            false between (head.mark :: w') _ (Nat.le_refl _) rfl (.cons (.inl rfl) hw')
            (hws'.ahead hnext) happart
          have hlength' : u'.rest.length ≤ m := by
            rw [hs'] at hlength
            rw [hu']
            simp only [List.length_append, List.length_cons] at hlength ⊢
            omega
          obtain ⟨t', hsecond, ht'⟩ := hloop m u' between ws' closed' rest' hlength' hu' hws' hrest
          refine ⟨t', ?_, ht'⟩
          rw [if_neg hhead]
          exact (bind_of_ok hfirst).trans ((bind_of_ok hsecond).trans rfl)

theorem rereadsUpTo_componentsOf {component : Parser Component} {includes : Bool}
    {type : TokenType} (h : Rereads Apart component (.bareComponent includes))
    (htype : Closes type) :
    RereadsUpTo type (componentsOf component type) (.many (.rule (.component includes))) := by
  intro s cs t hrun
  obtain ⟨w, passed, hs, hw, hpassed, hclose, hagain⟩ := componentsOf_rereads h htype _ hrun
  exact ⟨w, passed, hs, hw, hpassed, hclose, fun s' closed w' closed' rest' =>
    hagain s'.rest.length s' closed w' closed' rest' (Nat.le_refl _)⟩

/-! Levels -/

theorem rereads_above {setting : Setting} {next : Option Level}
    (hnext : ∀ level, next = some level → level.Rereads) : (Level.above setting next).Rereads := by
  have hname : Rereads Anything (basicNameWith setting next) (.rule .basicName) :=
    rereads_basicNameWith fun level he => (hnext level he).basicName
  have hprimary : Rereads Anything (primaryWith setting (basicNameWith setting next) next)
      (.rule .primary) := rereads_primaryWith hnext hname
  have hplain : Rereads Apart (componentWith setting _ next none) (.bareComponent false) :=
    rereads_componentWith hnext hprimary (by simp)
  refine ⟨hname, hprimary, fun includes type htype => ?_⟩
  cases includes with
  | false => exact rereadsUpTo_componentsOf hplain htype
  | true =>
    refine rereadsUpTo_componentsOf (rereads_componentWith hnext hprimary fun parser he => ?_) htype
    cases he
    exact rereadsUpTo_componentsOf hplain (.inl rfl)

theorem rereads_level (setting : Setting) (n : Nat) : (level setting n).Rereads := by
  induction n with
  | zero => exact rereads_above (by simp)
  | succ n ih =>
    refine rereads_above fun level he => ?_
    cases he
    exact ih

end

end Parser

end RelaxCompact
