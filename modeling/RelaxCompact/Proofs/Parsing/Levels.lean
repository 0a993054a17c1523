import RelaxCompact.Proofs.Parsing.Deriving

/-!
Primaries, components and the levels of a file: what each parser takes derives what it gives, by
induction on the levels below.
-/

namespace RelaxCompact

open Surface

namespace Parser

open Run

variable {docs : DocLines} {s t : Progress}

/-! Grammar level -/

/-- Annotation elements are passed over as far as they go. -/
theorem skipAnnotationElements_ok (h : skipAnnotationElements s = .ok () t) :
    ∃ elements, s.rest = elements ++ t.rest ∧ AnnotationElements elements := by
  have hgo (n : Nat) (s t : Progress) (hrun : skipAnnotationElements.go n s = .ok () t) :
      ∃ elements, s.rest = elements ++ t.rest ∧ AnnotationElements elements := by
    induction n generalizing s with
    | zero =>
      obtain ⟨-, rfl⟩ := pure_ok hrun
      exact ⟨[], rfl, .nil⟩
    | succ n ih =>
      obtain ⟨found, u, hat, hthen⟩ := bind_ok hrun
      obtain ⟨rfl, hfound⟩ := at_ok hat
      obtain ⟨second, v, hfollowing, hbranch⟩ := bind_ok hthen
      obtain ⟨hsecond, hv⟩ := pure_ok (a := u.rest[1]?) hfollowing
      subst hv
      split at hbranch
      next htrue =>
        obtain ⟨hname, hbracket⟩ := Bool.and_eq_true_iff.mp htrue
        obtain ⟨token, rest, hrest, htype⟩ := hfound hname
        obtain ⟨qualifier, localName, hlexeme⟩ := Token.lexeme_of_prefixedName htype
        obtain ⟨_, w, hadvance, hmore⟩ := bind_ok hbranch
        have hw := advance_ok hadvance
        rw [hrest, List.tail_cons] at hw
        obtain ⟨_, x, hskip, hloop⟩ := bind_ok hmore
        have hafter := skipAnnotations_ok hskip
        obtain ⟨annotations, hwx, hannotations⟩ := annotations_of_afterAnnotations hafter
        obtain ⟨elements, hx, helements⟩ := ih x hloop
        refine ⟨token :: annotations ++ elements, ?_, .cons hlexeme hannotations ?_ helements⟩
        · rw [hrest, ← hw, hwx, hx, List.cons_append, List.cons_append, List.append_assoc]
        · -- The bracket seen behind the name opens an annotation.
          rintro rfl
          rw [hsecond, hrest, ← hw, hwx, List.nil_append] at hbracket
          cases hxrest : x.rest with
          | nil =>
            rw [hxrest] at hbracket
            cases hbracket
          | cons bracket behind =>
            rw [hxrest] at hbracket hafter
            exact Bool.eq_false_iff.mp (not_leftBracket_of_afterAnnotations hafter) hbracket
      next =>
        obtain ⟨-, rfl⟩ := pure_ok hbranch
        exact ⟨[], rfl, .nil⟩
  obtain ⟨n, u, hremaining, hloop⟩ := bind_ok h
  obtain ⟨-, rfl⟩ := pure_ok hremaining
  exact hgo n u t hloop

/-- Components take a derivation of what they give, up to what is passed over in front of the
terminator. -/
def UpTo (docs : DocLines) (includes : Bool) (before : List Token) (cs : List Component)
    (after : List Token) : Prop :=
  ∃ us passed, before = written us ++ (passed ++ after) ∧ GrammarAnnotations passed ∧
    DerivesComponents docs includes us (passed ++ after) cs

/-- Components, and the brace that closes their block. -/
theorem derives_closed {α : Type} {includes : Bool} {p : Parser (List Component)}
    (h : Consumes p (UpTo docs includes)) (f : List Component → α) :
    Derives (do
      let components ← p
      expectSymbol .rightBrace
      return f components) fun ws next a =>
        ∃ us close cs, ws = us ++ [close] ∧ a = f cs ∧
          DerivesComponents docs includes us (written [close] ++ next) cs ∧
          GrammarAnnotations close.passed ∧ close.token.lexeme = .symbol .rightBrace := by
  intro s a t hrun
  obtain ⟨cs, u, hcomponents, hthen⟩ := bind_ok hrun
  obtain ⟨us, passed, hs, hpassed, hcs⟩ := h s cs u hcomponents
  obtain ⟨_, v, hexpect, hpure⟩ := bind_ok hthen
  obtain ⟨close, hu, hclose⟩ := expectSymbol_ok hexpect
  obtain ⟨rfl, rfl⟩ := pure_ok hpure
  have hwritten : passed ++ u.rest = written [⟨passed, close⟩] ++ t.rest := by
    rw [hu, written, written, List.append_assoc, List.cons_append, List.nil_append]
  rw [hwritten] at hs hcs
  refine ⟨us ++ [⟨passed, close⟩], ?_, us, ⟨passed, close⟩, cs, rfl, rfl, hcs, hpassed, hclose⟩
  rw [hs, written_append, List.append_assoc]

/-- The parsers of a level take derivations. -/
structure Level.Derives (docs : DocLines) (level : Level) : Prop where
  basicName : Parser.Derives level.basicName fun us _ c => DerivesBasicName us c
  primary : Parser.Derives level.primary (DerivesPrimary docs)
  components : ∀ includes terminator,
    Consumes (level.components includes terminator) (UpTo docs includes)

section

variable {setting : Setting} {next : Option Level}
  (hnext : ∀ level, next = some level → level.Derives docs)

include hnext in
theorem derives_nested_pattern :
    Derives (nested setting next (·.pattern)) (DerivesPattern docs) :=
  consumes_nested fun level he => derives_patternOf (hnext level he).primary

include hnext in
theorem derives_bracedPattern : Derives (bracedPattern setting next) (DerivesBraced docs) := by
  have hnested : Derives (nested setting next (·.pattern)) (DerivesPattern docs) :=
    derives_nested_pattern hnext
  have hpattern := derives_delimited hnested .rightBrace id
  refine ((derives_expectSymbol _).bind fun _ => hpattern).mono fun us after p hus => ?_
  obtain ⟨_, _, _, rfl, ⟨brace, rfl, hbrace⟩, vs, close, p, rfl, rfl, hvs, hclose⟩ := hus
  exact .braced hbrace hvs hclose

include hnext in
/-- A block of components. -/
theorem derives_block {α : Type} (includes : Bool) (f : List Component → α) :
    Derives (do
      expectSymbol .leftBrace
      let components ← nested setting next (·.components includes (.symbol .rightBrace))
      expectSymbol .rightBrace
      return f components) fun us after a =>
        ∃ cs, a = f cs ∧ DerivesBlock docs includes us after cs := by
  have hcomponents : Consumes (nested setting next (·.components includes (.symbol .rightBrace)))
      (UpTo docs includes) :=
    consumes_nested fun level he => (hnext level he).components _ _
  have hclosed := derives_closed hcomponents f
  refine ((derives_expectSymbol _).bind fun _ => hclosed).mono fun us after a hus => ?_
  obtain ⟨_, _, _, rfl, ⟨brace, rfl, hbrace⟩, vs, close, cs, rfl, rfl, hcs, hpassed, hclose⟩ := hus
  exact ⟨cs, rfl, .braced hbrace hcs hpassed hclose⟩

/-! Primaries -/

theorem derives_params : Derives params fun us _ ps => DerivesParamBlock us ps := by
  have hgo (n : Nat) : Derives (params.go n) fun us _ ps => DerivesParams us ps := by
    induction n with
    | zero =>
      refine (derives_expectSymbol _).andThen.mono fun us _ ps ⟨_, ⟨close, hus, hclose⟩, hps⟩ => ?_
      subst hus hps
      exact .nil hclose
    | succ n ih =>
      have hparam := (derives_expectName .parameter).bind fun name =>
        (derives_expectSymbol .assign).bind fun _ =>
          (derives_literalOr .missingParameterValue).bind fun value =>
            ih.andThen (f := fun ps => (name, value) :: ps)
      have hmore := (Derives.headed (A := Annotations) (R := fun us _ ps => DerivesParams us ps)
        (hparam.mono fun us _ ps hus => by
          obtain ⟨_, _, _, rfl, ⟨head, rfl, hname⟩, hrest⟩ := hus
          obtain ⟨_, _, _, rfl, ⟨assign, rfl, hassign⟩, us, vs, value, rfl, hus, hrest⟩ := hrest
          obtain ⟨ps, hvs, rfl⟩ := hrest
          exact ⟨head, assign.used :: (us ++ vs), rfl,
            fun passed hpassed => .cons hpassed hname hassign hus hvs⟩)).annotated
      intro s ps t hrun
      obtain ⟨found, u, haccept, hthen⟩ := bind_ok hrun
      rcases accept_ok haccept with ⟨rfl, close, hs, hclose⟩ | ⟨rfl, rfl⟩
      · obtain ⟨rfl, rfl⟩ := pure_ok hthen
        exact ⟨[close.used], hs, .nil (Token.lexeme_of_symbol hclose)⟩
      · exact hmore u ps t hthen
  refine ((derives_expectSymbol _).bind fun _ => .loop hgo).mono fun us _ ps hus => ?_
  obtain ⟨_, vs, _, rfl, ⟨brace, rfl, hbrace⟩, hvs⟩ := hus
  exact .present hbrace hvs

include hnext in
theorem derives_datatypePattern {head : Token} {type : Datatype} (htype : NamesDatatype head type) :
    Derives (datatypePattern setting next type head.span) fun us next p =>
      ∀ passed, Annotations passed → DerivesPrimary docs (⟨passed, head⟩ :: us) next p := by
  have hvalue : Derives (do return .value (← literal) type head.span) fun us next p =>
      ∀ passed, Annotations passed → DerivesPrimary docs (⟨passed, head⟩ :: us) next p :=
    derives_literal.andThen.mono fun us next p ⟨text, hus, hp⟩ passed hpassed => by
      subst hp
      exact .value hpassed htype hus
  have hexception (ps : List (String × Text)) : Derives (do
      let exception ←
        if ← accept (.symbol .minus) then
          some <$> nested setting next (·.primary)
        else pure none
      return Pattern.data type ps exception head.span) fun vs next p =>
        ∃ except, p = .data type ps except head.span ∧ DerivesException docs vs next except := by
    have hnested : Derives (some <$> nested setting next (·.primary)) fun us next except =>
        ∃ p, DerivesPrimary docs us next p ∧ except = some p := by
      rw [map_eq_pure_bind]
      exact Derives.andThen (consumes_nested fun level he => (hnext level he).primary)
    refine (derives_accept (hnested.andThen (f := (Pattern.data type ps · head.span)))
      (derives_pure _)).mono fun vs next p hvs => ?_
    rcases hvs with ⟨minus, us, rfl, hminus, _, ⟨p, hp, rfl⟩, rfl⟩ | ⟨rfl, rfl⟩
    · exact ⟨some p, rfl, .present (Token.lexeme_of_symbol hminus) hp⟩
    · exact ⟨none, rfl, .absent⟩
  have hdata (ps : List (String × Text)) (us vs : List Used) (after : List Token) (p : Pattern)
      (hus : DerivesParamBlock us ps) :
      (∃ except, p = .data type ps except head.span ∧ DerivesException docs vs after except) →
        ∀ passed, Annotations passed →
          DerivesPrimary docs (⟨passed, head⟩ :: (us ++ vs)) after p := by
    rintro ⟨except, rfl, hvs⟩ passed hpassed
    exact .data hpassed htype hus hvs
  refine derives_at hvalue (derives_at ?_ ?_)
  · refine (derives_params.bind hexception).mono fun _ after p hws => ?_
    obtain ⟨us, vs, ps, rfl, hus, hvs⟩ := hws
    exact hdata ps us vs after p hus hvs
  · exact (hexception []).mono fun vs after p hvs => hdata [] [] vs after p .absent hvs

include hnext in
theorem derives_primaryWith {basicName : Parser Surface.NameClass}
    (h : Derives basicName fun us _ c => DerivesBasicName us c) :
    Derives (primaryWith setting basicName next) (DerivesPrimary docs) := by
  have hbraced : Derives (bracedPattern setting next) (DerivesBraced docs) :=
    derives_bracedPattern hnext
  have hnamed (head : Token) (holder : Holder) {R : List Used → List Token → Pattern → Prop}
      (hR : ∀ passed us vs after name content, Annotations passed → DerivesNameClass us name →
        DerivesBraced docs vs after content →
        R (⟨passed, head⟩ :: (us ++ vs)) after (.named holder name content head.span)) :
      Heads Annotations head (do
        advance
        let name ← nameClassOf basicName
        return Pattern.named holder name (← bracedPattern setting next) head.span) R := by
    refine heads_advance (((derives_nameClassOf h).bind fun name => hbraced.andThen).mono ?_)
    rintro _ after _ ⟨us, vs, name, rfl, hus, content, hvs, rfl⟩ passed hpassed
    exact hR passed us vs after name content hpassed hus hvs
  refine Headed.annotated (headed_current rfl fun head => ?_)
  dsimp only
  split
  next hhead => exact hnamed head .element fun _ _ _ _ _ _ hp hus hvs => .element hp hhead hus hvs
  next hhead => exact hnamed head .attr fun _ _ _ _ _ _ hp hus hvs => .attr hp hhead hus hvs
  next hhead => exact heads_andThen hbraced fun _ _ _ _ hp hus => .list hp hhead hus
  next hhead => exact heads_andThen hbraced fun _ _ _ _ hp hus => .mixed hp hhead hus
  next hhead => exact heads_pure fun _ _ hp => .empty hp hhead
  next hhead => exact heads_pure fun _ _ hp => .text hp hhead
  next hhead => exact heads_pure fun _ _ hp => .notAllowed hp hhead
  next hhead => exact heads_pure fun _ _ hp => .ref hp hhead
  next hhead =>
    refine heads_andThen (derives_expect _ _) fun passed us after t hp hus => ?_
    obtain ⟨rfl, ht⟩ := hus
    obtain ⟨name, hname⟩ := Token.lexeme_of_identifier ht
    have hspelled : (nameOf? t).getD "" = name := by rw [nameOf?, hname, Option.getD_some]
    rw [hspelled]
    exact .parentRef hp hhead hname
  next hhead =>
    have hnested : Derives (nested setting next (·.pattern)) (DerivesPattern docs) :=
      derives_nested_pattern hnext
    have hpattern := derives_delimited hnested .rightParen id
    refine heads_advance (hpattern.mono fun us after p hus passed hp => ?_)
    obtain ⟨vs, close, p, rfl, rfl, hvs, hclose⟩ := hus
    exact .parenthesized hp hhead hvs hclose
  next hhead =>
    refine heads_advance (((derives_literalOr _).bind fun href =>
      derives_inheritance.andThen).mono ?_)
    rintro _ after _ ⟨us, vs, href, rfl, hus, inherit, hvs, rfl⟩ passed hp
    exact .external hp hhead hus hvs
  next hhead =>
    refine heads_advance ((derives_block hnext true
      (Pattern.grammar · head.span)).mono fun us after p hus passed hp => ?_)
    obtain ⟨cs, rfl, hcs⟩ := hus
    exact .grammar hp hhead hcs
  next hhead => exact heads_advance (derives_datatypePattern hnext (.string hhead))
  next hhead => exact heads_advance (derives_datatypePattern hnext (.token hhead))
  next hhead => exact heads_advance (derives_datatypePattern hnext (.qualified hhead))
  next hhead =>
    have hliteral := derives_literal_from.andThen (f := (Pattern.value · ⟨none, "token"⟩ head.span))
    intro s p t rest hs hrun
    obtain ⟨_, hrest, literal, ⟨first, us, rfl, hus⟩, rfl⟩ := hliteral s p t hrun
    obtain ⟨rfl, hbehind⟩ := List.cons_eq_cons.mp (hs.symm.trans hrest)
    exact ⟨us, hbehind, fun passed hp => .literal hp hus⟩
  next => exact heads_fail _

/-! Components -/

theorem heads_defineWith {includes : Bool} {primary : Parser Pattern} {head : Token}
    {name : DefineName} (h : Derives primary (DerivesPrimary setting.docs))
    (hname : NamesDefinition head name) :
    Heads GrammarAnnotations head (defineWith setting primary head name)
      (DerivesComponent setting.docs includes) := by
  refine heads_advance fun s c t hrun => ?_
  replace hrun := current_bind hrun
  cases hassignment : s.rest.head?.bind assignment? with
  | none =>
    rw [hassignment] at hrun
    exact (not_fail_ok hrun).elim
  | some operator =>
    rw [hassignment] at hrun
    obtain ⟨op, hop, hassignment⟩ := Option.bind_eq_some_iff.mp hassignment
    obtain ⟨rest, hrest⟩ := List.head?_eq_some_iff.mp hop
    obtain ⟨_, u, hadvance, hthen⟩ := bind_ok hrun
    have hu := advance_ok hadvance
    rw [hrest, List.tail_cons] at hu
    obtain ⟨us, hus, p, hp, rfl⟩ := (derives_patternOf h).andThen u c t hthen
    refine ⟨op.used :: us, ?_, fun passed hpassed => .define hpassed hname hassignment hp⟩
    rw [hrest, ← hu, hus]
    rfl

theorem upTo_componentsOf {component : Parser Component} {includes : Bool}
    (h : Headed GrammarAnnotations component (DerivesComponent docs includes))
    (terminator : TokenType) :
    Consumes (componentsOf component terminator) (UpTo docs includes) := by
  have hgo (n : Nat) : Consumes (componentsOf.go component terminator n) (UpTo docs includes) := by
    induction n with
    | zero =>
      intro s cs t hrun
      obtain ⟨found, u, hat, hthen⟩ := bind_ok hrun
      obtain ⟨rfl, -⟩ := at_ok hat
      split at hthen
      · obtain ⟨rfl, rfl⟩ := pure_ok hthen
        exact ⟨[], [], rfl, ⟨[], [], rfl, .nil, .nil⟩, .nil⟩
      · exact (not_fail_ok hthen).elim
    | succ n ih =>
      intro s cs t hrun
      obtain ⟨_, u, hskip, hthen⟩ := bind_ok hrun
      obtain ⟨annotations, hs, hannotations⟩ :=
        annotations_of_afterAnnotations (skipAnnotations_ok hskip)
      obtain ⟨_, v, hskipElements, hrest⟩ := bind_ok hthen
      obtain ⟨elements, hu, helements⟩ := skipAnnotationElements_ok hskipElements
      have hpassed : GrammarAnnotations (annotations ++ elements) :=
        ⟨annotations, elements, rfl, hannotations, helements⟩
      rw [hu, ← List.append_assoc] at hs
      obtain ⟨found, w, hat, hbranch⟩ := bind_ok hrest
      obtain ⟨rfl, -⟩ := at_ok hat
      split at hbranch
      · obtain ⟨rfl, rfl⟩ := pure_ok hbranch
        exact ⟨[], annotations ++ elements, hs, hpassed, .nil⟩
      · obtain ⟨c, x, hcomponent, hmore⟩ := bind_ok hbranch
        obtain ⟨head, us, hw, hc⟩ := h w c x hcomponent
        obtain ⟨ds, y, hloop, hpure⟩ := bind_ok hmore
        obtain ⟨vs, passed, hx, hbehind, hds⟩ := ih x ds y hloop
        obtain ⟨rfl, rfl⟩ := pure_ok hpure
        refine ⟨⟨annotations ++ elements, head⟩ :: us ++ vs, passed, ?_, hbehind, .cons ?_ hds⟩
        · rw [hs, hw, hx]
          simp only [written_append, written, List.append_assoc, List.cons_append]
        · have hhead := hc _ hpassed
          rwa [hx] at hhead
  intro s cs t hrun
  obtain ⟨n, u, hremaining, hloop⟩ := bind_ok hrun
  obtain ⟨-, rfl⟩ := pure_ok hremaining
  exact hgo n u cs t hloop

end

section

variable {setting : Setting} {next : Option Level}
  (hnext : ∀ level, next = some level → level.Derives setting.docs)

include hnext in
theorem headed_componentWith {primary : Parser Pattern}
    (h : Derives primary (DerivesPrimary setting.docs))
    {overrides : Option (Parser (List Component))}
    (ho : ∀ parser, overrides = some parser → Consumes parser (UpTo setting.docs false)) :
    Headed GrammarAnnotations (componentWith setting primary next overrides)
      (DerivesComponent setting.docs overrides.isSome) := by
  refine headed_current rfl fun head => ?_
  dsimp only
  split
  next hhead => exact heads_defineWith h (.start hhead)
  next hhead => exact heads_defineWith h (.named hhead)
  next hhead =>
    refine heads_advance ((derives_block hnext overrides.isSome
      (Component.div · head.span)).mono fun us after c hus passed hp => ?_)
    obtain ⟨cs, rfl, hcs⟩ := hus
    exact .div hp hhead hcs
  next hhead =>
    split
    next => exact heads_fail _
    next parser =>
      have hblock (href : Text) (inherit : Option String) :=
        @derives_accept _ _ _ _ _ (.symbol .leftBrace)
        (derives_closed (ho parser rfl) (Component.incl href inherit · head.span))
        (derives_pure (.incl href inherit [] head.span))
      refine heads_advance (((derives_literalOr _).bind fun href =>
        derives_inheritance.bind fun inherit => hblock href inherit).mono ?_)
      rintro _ after _ ⟨us, _, href, rfl, hus, vs, ws, inherit, rfl, hvs, hws⟩ passed hp
      rw [← List.append_assoc]
      rcases hws with ⟨brace, _, rfl, hbrace, xs, close, cs, rfl, rfl, hcs, hbehind, hclose⟩ |
        ⟨rfl, rfl⟩
      · exact .overriding hp hhead hus hvs
          (.braced (Token.lexeme_of_symbol hbrace) hcs hbehind hclose)
      · rw [List.append_nil]
        exact .incl hp hhead hus hvs
  all_goals exact heads_fail _

/-! Levels -/

include hnext in
theorem derives_above : (Level.above setting next).Derives setting.docs := by
  have hname : Derives (basicNameWith setting next) fun us _ c => DerivesBasicName us c :=
    derives_basicNameWith fun level he => (hnext level he).basicName
  have hprimary : Derives (primaryWith setting (basicNameWith setting next) next)
      (DerivesPrimary setting.docs) := derives_primaryWith hnext hname
  have hplain : Headed GrammarAnnotations (componentWith setting _ next none)
      (DerivesComponent setting.docs false) := headed_componentWith hnext hprimary nofun
  refine ⟨hname, hprimary, fun includes terminator => ?_⟩
  cases includes with
  | false => exact upTo_componentsOf hplain terminator
  | true =>
    refine upTo_componentsOf (headed_componentWith hnext hprimary fun parser he => ?_) terminator
    cases he
    exact upTo_componentsOf hplain _

theorem derives_level (setting : Setting) (n : Nat) : (level setting n).Derives setting.docs := by
  induction n with
  | zero => exact derives_above nofun
  | succ n ih =>
    refine derives_above fun level he => ?_
    cases he
    exact ih

end

end Parser

end RelaxCompact
