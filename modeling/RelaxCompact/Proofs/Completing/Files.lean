import RelaxCompact.Proofs.Completing.Components
import RelaxCompact.Proofs.Parsing.Accepting
import RelaxCompact.Proofs.Parsing.Concurring
import RelaxCompact.Proofs.Parsing.Heading
import RelaxCompact.Proofs.Scanning.Respacing

/-!
Files that are refused no earlier than they have to be. Without a limit on nesting, what was gone
past when a file is refused is the start of a file.
-/

namespace RelaxCompact

open Surface

theorem DerivesPrimary.ne_nil {docs : DocLines} {us : List Used} {next : List Token} {p : Pattern}
    (h : DerivesPrimary docs us next p) : us ≠ [] := by
  cases h <;> exact List.cons_ne_nil _ _

namespace Parser

open Run

variable {docs : DocLines} {k : Nat}

/-! The level without a limit -/

theorem unlimited_eq (docs : DocLines) :
    unlimited docs = .above ⟨0, docs⟩ (some (unlimited docs)) :=
  (eq_above_iff _ 0).mpr rfl

theorem unlimited_name (docs : DocLines) :
    (unlimited docs).basicName = basicNameWith ⟨0, docs⟩ (some (unlimited docs)) :=
  congrArg Level.basicName (unlimited_eq docs)

theorem unlimited_primary (docs : DocLines) : (unlimited docs).primary =
    primaryWith ⟨0, docs⟩ (basicNameWith ⟨0, docs⟩ (some (unlimited docs)))
      (some (unlimited docs)) :=
  congrArg Level.primary (unlimited_eq docs)

/-- A component at the level without a limit. -/
def unlimitedComponent (docs : DocLines) (overrides : Option (Parser (List Component))) :
    Parser Component :=
  componentWith ⟨0, docs⟩ (unlimited docs).primary (some (unlimited docs)) overrides

theorem unlimited_components_false (docs : DocLines) :
    (unlimited docs).components false = componentsOf (unlimitedComponent docs none) := by
  rw [unlimitedComponent, unlimited_primary]
  exact congrFun (congrArg Level.components (unlimited_eq docs)) false

theorem unlimited_components_true (docs : DocLines) :
    (unlimited docs).components true = componentsOf (unlimitedComponent docs
      (some ((unlimited docs).components false (.symbol .rightBrace)))) := by
  rw [unlimited_components_false, unlimitedComponent, unlimitedComponent, unlimited_primary]
  exact congrFun (congrArg Level.components (unlimited_eq docs)) true

theorem unlimited_derives (docs : DocLines) : (unlimited docs).Derives docs where
  basicName s := (derives_level ⟨_, docs⟩ _).basicName s
  primary s := (derives_level ⟨_, docs⟩ _).primary s
  components includes type s := (derives_level ⟨_, docs⟩ _).components includes type s

theorem unlimited_ready (docs : DocLines) : (unlimited docs).Ready where
  primary r _ := by
    rw [unlimited_primary]
    exact accepts_primary r
  components allowInclude type htype r hr := by
    cases allowInclude with
    | false =>
      rw [unlimited_components_false]
      exact accepts_components htype hr
    | true =>
      rw [unlimited_components_true]
      exact accepts_components htype hr
  returning := unlimited_returning docs
  progress s p t h := by
    obtain ⟨us, hs, hus⟩ := (unlimited_derives docs).primary s p t h
    cases us with
    | nil => exact absurd rfl hus.ne_nil
    | cons u us =>
      rw [hs, written]
      simp only [List.length_append, List.length_cons]
      omega

theorem Headed.progress {α : Type} {A : List Token → Prop} {p : Parser α}
    {R : List Used → List Token → α → Prop} (h : Headed A p R) {s t : Progress} {a : α}
    (hrun : p s = .ok a t) : t.rest.length < s.rest.length := by
  obtain ⟨head, us, hs, -⟩ := h s a t hrun
  rw [hs, List.length_cons, List.length_append]
  omega

section

variable {overrides : Option (Parser (List Component))} {type : TokenType}

theorem unlimitedComponent_progress
    (h : ∀ p, overrides = some p → Consumes p (UpTo docs false)) {s t : Progress} {c : Component}
    (hrun : unlimitedComponent docs overrides s = .ok c t) : t.rest.length < s.rest.length := by
  have hnext (level : Level) (he : some (unlimited docs) = some level) : level.Derives docs := by
    cases he
    exact unlimited_derives docs
  have hheaded : Headed GrammarAnnotations (unlimitedComponent docs overrides)
      (DerivesComponent docs overrides.isSome) :=
    headed_componentWith hnext (unlimited_derives docs).primary h
  exact hheaded.progress hrun

theorem completable_unlimitedComponents
    (hprimary : Parser.Completable k (unlimited docs).primary PatternEnds (Look PatternEnds) Onset)
    (hnext : (unlimited docs).CompletableBelow k) (htype : Closes type)
    (hoverrides : ∀ p, overrides = some p → Consumes p (UpTo docs false) ∧
      Parser.Completable k p (At (.symbol .rightBrace)) (Look (At (.symbol .rightBrace)))
        (Resumes (At (.symbol .rightBrace)))) :
    Parser.Completable k (componentsOf (unlimitedComponent docs overrides) type) (At type)
      (Look (At type)) (Resumes (At type)) := by
  have hprogress (s : Progress) (c : Component) (t : Progress) :
      unlimitedComponent docs overrides s = .ok c t → t.rest.length < s.rest.length :=
    unlimitedComponent_progress fun p hp => (hoverrides p hp).1
  have hnone (s : Progress) (hs : s.rest = []) :
      unlimitedComponent docs overrides s = fail .missingDefinition s := by
    rw [unlimitedComponent, componentWith, current_eq, hs]
    rfl
  have hcurrent : ∃ f, unlimitedComponent docs overrides = current >>= f ∧
      ∀ j, j ≤ k → ∀ o, Opening j o (f o) :=
    opening_component (unlimited_ready docs) hprimary hnext fun p hp => (hoverrides p hp).2
  obtain ⟨f, hf, hopening⟩ := hcurrent
  rw [hf] at hprogress hnone ⊢
  exact completable_components htype hnone hprogress hopening

end

/-- Without a limit on nesting, every run at a level can be continued. -/
theorem unlimited_completable (docs : DocLines) (k : Nat) : (unlimited docs).Completable k := by
  induction k using Nat.strongRecOn with
  | ind k ih =>
    have hready := unlimited_ready docs
    have hprimary : Parser.Completable k (unlimited docs).primary PatternEnds (Look PatternEnds)
        Onset := by
      rw [unlimited_primary]
      exact completable_primary hready ih
    have hplain (type : TokenType) (htype : Closes type) : Parser.Completable k
        ((unlimited docs).components false type) (At type) (Look (At type))
        (Resumes (At type)) := by
      rw [unlimited_components_false]
      exact completable_unlimitedComponents hprimary ih htype nofun
    refine ⟨?_, hprimary, fun allowInclude type htype => ?_⟩
    · rw [unlimited_name]
      exact completable_basicName hready ih
    · cases allowInclude with
      | false => exact hplain type htype
      | true =>
        rw [unlimited_components_true]
        refine completable_unlimitedComponents hprimary ih htype fun p hp => ?_
        cases hp
        exact ⟨(unlimited_derives docs).components false _, hplain _ (.inl rfl)⟩

/-! Headers -/

/-- The file ends here. -/
abbrev FileEnds : List Token → Prop := Led [.eof]

theorem patternEnds_of_fileEnds {r : List Token} (h : FileEnds r) : PatternEnds r :=
  h.mono (by simp)

theorem fileEnds_of_at {r : List Token} (h : At .eof r) : FileEnds r := by
  obtain ⟨t, ht, hend⟩ := h
  exact ⟨t, ht, List.mem_singleton.mpr (Token.lexeme_of_eof hend)⟩

theorem fileEnds_added (r : List Token) : FileEnds (added .eof :: r) :=
  led_added (List.mem_singleton_self _) r

theorem accepts_namespaceUri {r : List Token} (hr : PatternEnds r) :
    Accepts namespaceUri (added (.literal []) :: r) r :=
  .refuse rfl (accepts_literalOr _ hr).andThen

theorem completable_namespaceUri (k : Nat) :
    Parser.Completable k namespaceUri PatternEnds (Look PatternEnds) Unseen :=
  .accept (M := Look PatternEnds) (fun _ => completable_pure none) (fun _ _ _ _ _ => trivial)
    (completable_literalOr k _).andThen fun r r' hr hrr' =>
      ⟨trivial, hrr'.notAt (fun r h => h.notAt (by decide)) hr⟩

section

variable (f : Option Text → Declaration)

theorem accepts_binding {r : List Token} (hr : PatternEnds r) :
    Accepts (expectSymbol .assign >>= fun _ => namespaceUri >>= fun uri => pure (some (f uri)))
      (added (.symbol .assign) :: added (.literal []) :: r) r :=
  (accepts_symbol .assign _).bind fun _ => (accepts_namespaceUri hr).andThen

theorem completable_binding (k : Nat) :
    Parser.Completable k (expectSymbol .assign >>= fun _ => namespaceUri >>= fun uri =>
      pure (some (f uri))) PatternEnds (Look PatternEnds) Unseen :=
  .symbol (M := Unseen) (x := [added (.literal [])])
    (fun _ => (completable_namespaceUri _).andThen) (fun _ _ _ _ _ => trivial)
    (fun _ hr => (accepts_namespaceUri hr).andThen) fun _ _ _ => trivial

/-- A name and what it is bound to. -/
theorem completable_named (role : NameRole) (k : Nat) (f : String → Option Text → Declaration) :
    Parser.Completable k (expectName role >>= fun name => expectSymbol .assign >>= fun _ =>
      namespaceUri >>= fun uri => pure (some (f name uri))) PatternEnds (Look PatternEnds)
      (Look (Led [addedName.lexeme])) :=
  (completable_name (P := Anything) role).bind (x := [added (.symbol .assign), added (.literal [])])
    (fun name => completable_binding (f name) k) fun _ hr =>
      ⟨trivial, fun name => accepts_binding (f name) hr⟩

end

/-- The name that the default namespace may have as well. -/
theorem completable_default (span : Span) (k : Nat) :
    Parser.Completable k (at? (.symbol .assign) >>= fun b =>
      if b = true then expectSymbol .assign >>= fun _ => namespaceUri >>= fun uri =>
        pure (some (Declaration.binding none uri true span))
      else expectName .namespaceQualifier >>= fun name => expectSymbol .assign >>= fun _ =>
        namespaceUri >>= fun uri => pure (some (Declaration.binding (some name) uri true span)))
      PatternEnds (Look PatternEnds) Unseen := by
  refine .at (M := Unseen) (B := fun _ => namespaceUri >>= fun uri =>
      pure (some (Declaration.binding none uri true span)))
    (fun t _ _ => (completable_namespaceUri _).andThen) (fun s t rest hs ht => ?_)
    (fun _ _ _ _ _ => trivial)
    (completable_named _ k fun name uri => .binding (some name) uri true span) fun r r' hr hrr' =>
      ⟨trivial, hrr'.notAt (fun r h => h.notAt (by decide)) hr⟩
  have hassign : expectSymbol .assign s = .ok () { s with rest } :=
    bind_of_ok (expect_of_at _ hs ht)
  exact bind_of_ok hassign

/-- A word of the header and what is read behind it. -/
theorem declaration_of_word {head : Token} (hhead : isHeaderWord head = true) :
    ∃ body : Parser (Option Declaration),
      (∀ s rest, s.rest = head :: rest → declaration? s = body { s with rest }) ∧
      ∀ k, Parser.Completable k body PatternEnds (Look PatternEnds) Unseen := by
  rw [isHeaderWord, Bool.or_eq_true, Bool.or_eq_true] at hhead
  obtain (hl | hl) | hl := hhead <;> replace hl := Token.lexeme_of_keyword hl
  · refine ⟨_, fun s rest hs => current_of_cons hs (by simp only [hl]; rfl), fun k => ?_⟩
    exact (completable_named _ k fun name uri => .binding (some name) uri false head.span).unseen
  · refine ⟨_, fun s rest hs => current_of_cons hs (by simp only [hl]; rfl), fun k => ?_⟩
    simp only [bind_map_left]
    refine (completable_expect (P := Anything) (.keyword .ns) _ (is_added (.keyword .ns))
      (fun _ _ _ _ _ => trivial) fun _ _ _ => trivial).bind
      (x := [added (.symbol .assign), added (.literal [])])
      (fun _ => completable_default head.span k) fun r hr => ⟨trivial, fun _ => ?_⟩
    exact .at (is_added _) (accepts_binding _ hr)
  · refine ⟨_, fun s rest hs => current_of_cons hs (by simp only [hl]; rfl), fun k => ?_⟩
    have hlibrary (name : String) (r : List Token) (hr : PatternEnds r) :
        Accepts (literalOr .missingLibraryUri >>= fun uri =>
          pure (some (Declaration.library name uri head.span))) (added (.literal []) :: r) r :=
      (accepts_literalOr _ hr).andThen
    refine Completable.unseen ((completable_name (P := Anything) .datatypesQualifier).bind
      (M := Unseen) (x := [added (.symbol .assign), added (.literal [])]) (fun name =>
        .symbol (M := Unseen) (x := [added (.literal [])])
          (fun _ => (completable_literalOr _ _).andThen.unseen) (fun _ _ _ _ _ => trivial)
          (fun r hr => hlibrary name r hr) fun _ _ _ => trivial)
      fun r hr => ⟨trivial, fun name => (accepts_symbol .assign _).bind fun _ =>
        hlibrary name r hr⟩)

/-- Behind annotations: a declaration, or the end of the header. -/
def declarationStep (next : Parser (List Declaration)) : Parser (List Declaration) :=
  declaration? >>= fun d => d.elim (pure []) fun d => next >>= fun ds => pure (d :: ds)

theorem declarationStep_stop (next : Parser (List Declaration)) {s : Progress}
    (h : s.rest.head?.any isHeaderWord = false) : declarationStep next s = .ok [] s :=
  bind_of_ok (declaration_of_not h)

/-- A turn of the header. -/
def headerStep (next : Parser (List Declaration)) : Parser (List Declaration) :=
  skipAnnotations >>= fun _ => declarationStep next

theorem header_succ (n : Nat) : header.go (n + 1) = headerStep (header.go n) := by
  refine congrArg (skipAnnotations >>= ·) (funext fun _ =>
    congrArg (declaration? >>= ·) (funext fun d => ?_))
  cases d <;> rfl

theorem headerStep_later (next next' : Parser (List Declaration)) (s : Progress)
    (h : ∀ t, t.rest.length < s.rest.length → next t = next' t) :
    headerStep next s = headerStep next' s := by
  refine bind_later fun _ t ht => bind_later fun d u hu => ?_
  cases d with
  | none => rfl
  | some d =>
    refine bind_of_eq (h u ?_) _
    obtain ⟨hd, -⟩ | ⟨head, us, _, -, ht', -⟩ := consumes_declaration? t (some d) u hu
    · cases hd
    · have hlt : u.rest.length < t.rest.length := by
        rw [ht', List.length_cons, List.length_append]
        omega
      exact Nat.lt_of_lt_of_le hlt (Plain.skipAnnotations.forward.length_le ht)

theorem header_eq : header = headerStep header := by
  refine turns_unit_eq header_succ headerStep_later fun next s hs => ?_
  have hskip : skipAnnotations s = .ok () s := skipAnnotations_eq (by rw [hs, afterAnnotations])
  have hstop : declarationStep next s = .ok [] s := declarationStep_stop next (by rw [hs]; rfl)
  rw [headerStep, bind_of_ok hskip, hstop]
  rfl

theorem isHeaderWord_eq_false {t : Token} {type : TokenType} (ht : t.is type = true)
    (hne : type ≠ .keyword .ns ∧ type ≠ .keyword .default ∧ type ≠ .keyword .datatypes) :
    isHeaderWord t = false := by
  rw [isHeaderWord, not_is ht hne.1, not_is ht hne.2.1, not_is ht hne.2.2]
  rfl

theorem no_word_of_look {r r' : List Token} (h : Look FileEnds r r')
    (hr : r.head?.any isHeaderWord = false) : r'.head?.any isHeaderWord = false := by
  obtain hsame | ⟨t, ht, hl⟩ := h
  · rwa [hsame]
  · have hend : t.is .eof = true := is_of_lexeme (List.mem_singleton.mp hl)
    rw [ht, Option.any_some, isHeaderWord_eq_false hend (by decide)]

theorem no_word_of_fileEnds {r : List Token} (h : FileEnds r) :
    r.head?.any isHeaderWord = false :=
  no_word_of_look (r := []) (.inr h) rfl

theorem accepts_declarationStep (next : Parser (List Declaration)) {r : List Token}
    (hr : FileEnds r) : Accepts (declarationStep next) r r := by
  intro s hs
  rw [← hs] at hr
  exact ⟨[], s, declarationStep_stop next (no_word_of_fileEnds hr), hs⟩

theorem accepts_header {r : List Token} (hr : FileEnds r) : Accepts header r r := by
  rw [header_eq, headerStep]
  exact .bare (hr.notAt (by decide)) (accepts_declarationStep header hr)

theorem completable_header (k : Nat) :
    Parser.Completable k header FileEnds (Look FileEnds) (Look FileEnds) := by
  induction k using Nat.strongRecOn with
  | ind k ih =>
    rw [header_eq, headerStep]
    refine .annotatedLook (x := []) (fun s hs _ => ?_) (fun r hr => hr.notAt (by decide))
      fun r hr => ⟨hr, accepts_declarationStep header hr⟩
    cases hword : s.rest.head?.any isHeaderWord with
    | false =>
      refine (continues_pure [] s).congr (declarationStep_stop header hword) fun r hr =>
        ⟨hr, fun u hu => declarationStep_stop header ?_⟩
      rw [hu]
      exact no_word_of_look hr hword
    | true =>
      obtain ⟨head, hhead, hword⟩ := (Option.any_eq_true _ _).mp hword
      obtain ⟨rest, hrest⟩ := List.head?_eq_some_iff.mp hhead
      obtain ⟨hpos, hlength⟩ := length_of_cons hrest hs
      obtain ⟨body, hrun, hbody⟩ := declaration_of_word hword
      have hmore (d : Option Declaration) : Parser.Completable (k - 1)
          (d.elim (pure []) fun d => header >>= fun ds => pure (d :: ds)) FileEnds
          (Look FileEnds) (Look PatternEnds) := by
        refine Completable.mono (G := Look FileEnds) ?_ (fun _ => id) (fun _ _ => id)
          fun r r' h => h.imp_right patternEnds_of_fileEnds
        cases d with
        | none => exact completable_pure []
        | some d => exact (ih (k - 1) (Nat.sub_one_lt_of_lt hpos)).andThen
      have hthen := (hbody (k - 1)).bind (x := []) hmore fun r hr =>
        ⟨patternEnds_of_fileEnds hr, fun d => by
          cases d with
          | none => exact accepts_pure [] r
          | some d => exact (accepts_header hr).andThen⟩
      exact (hthen { s with rest } hlength).behind hrest
        (fun u rest hu => bind_of_eq (hrun u rest hu) _) fun r _ => look_cons _ head rest r

/-! What is behind the header -/

/-- What stands behind the pattern of a file. -/
def patternEnd (path : Text) (declarations : List Declaration) (p : Pattern) : Parser File :=
  current >>= fun o =>
    if o.any isHeaderWord = true then fail (.lateHeader (o.elim [] Token.value))
    else expect .eof .missingEnd >>= fun _ =>
      pure ⟨path, declarations, [.define .start .single p none p.span], true⟩

/-- What stands behind the components of a file. -/
def componentsEnd (path : Text) (declarations : List Declaration) (components : List Component) :
    Parser File :=
  expect .eof .missingDefinition >>= fun _ => pure ⟨path, declarations, components, false⟩

def fileBody (path : Text) (declarations : List Declaration) (level : Level) : Parser File :=
  get >>= fun s =>
    if startsComponents s.rest = true then
      level.components true .eof >>= componentsEnd path declarations
    else level.pattern >>= patternEnd path declarations

theorem file_eq (path : Text) (level : Level) : file path level =
    header >>= fun declarations => skipAnnotations >>= fun _ =>
      fileBody path declarations level := by
  refine congrArg (header >>= ·) (funext fun declarations => congrArg (skipAnnotations >>= ·)
    (funext fun _ => congrArg (get >>= ·) (funext fun s => ?_)))
  by_cases hcomponents : startsComponents s.rest = true
  · rw [if_pos hcomponents, if_pos hcomponents]
    rfl
  · rw [if_neg hcomponents, if_neg hcomponents]
    refine congrArg (level.pattern >>= ·) (funext fun p => congrArg (current >>= ·)
      (funext fun o => ?_))
    cases o with
    | none => rfl
    | some token =>
      dsimp only [Option.any_some]
      split <;> rfl

section

variable {path : Text} {declarations : List Declaration} {s : Progress}

theorem patternEnd_of_eof {t : Token} {rest : List Token} (p : Pattern) (hs : s.rest = t :: rest)
    (ht : t.is .eof = true) : patternEnd path declarations p s =
      .ok ⟨path, declarations, [.define .start .single p none p.span], true⟩ { s with rest } := by
  have hword : s.rest.head?.any isHeaderWord = false := by
    rw [hs]
    exact no_word_of_fileEnds (fileEnds_of_at ⟨t, rfl, ht⟩)
  rw [patternEnd, current_eq, hword, if_neg Bool.false_ne_true, bind_of_ok (expect_of_at _ hs ht)]
  rfl

variable (path declarations) in
theorem patternEnd_of_not (p : Pattern) (hs : NotAt .eof s.rest) :
    ∃ e, patternEnd path declarations p s = .error e s := by
  rw [patternEnd, current_eq]
  split
  · exact ⟨_, rfl⟩
  · exact ⟨_, bind_of_error (expect_of_not_at _ hs)⟩

theorem accepts_patternEnd (p : Pattern) (r : List Token) :
    Accepts (patternEnd path declarations p) (added .eof :: r) r :=
  fun _ hs => ⟨_, _, patternEnd_of_eof p hs (is_added _), rfl⟩

theorem completable_patternEnd {L : List Token → List Token → Prop} (p : Pattern) :
    Parser.Completable k (patternEnd path declarations p) Anything L (Resumes PatternEnds) := by
  intro s hs
  obtain hno | ⟨t, rest, hrest, ht⟩ := notAt_or .eof s.rest
  · obtain ⟨e, he⟩ := patternEnd_of_not path declarations p hno
    exact .of_fail (x := [added .eof]) he fun r _ =>
      ⟨.inl (patternEnds_of_fileEnds (fileEnds_added r)), accepts_patternEnd p r⟩
  · exact (continues_pure _ { s with rest }).behind (L := L) hrest
      (fun u rest hu => patternEnd_of_eof p hu ht)
      fun r _ => .inr ⟨rfl, fun _ => apart_of_eof ht r⟩

theorem accepts_componentsEnd (components : List Component) (r : List Token) :
    Accepts (componentsEnd path declarations components) (added .eof :: r) r :=
  (accepts_expect (is_added .eof) _ r).andThen

theorem completable_componentsEnd {L : List Token → List Token → Prop}
    (components : List Component) :
    Parser.Completable k (componentsEnd path declarations components) Anything L
      (Look (At .eof)) :=
  (completable_expect .eof _ (is_added .eof) (fun t r r' _ _ => look_cons _ t r r')
    fun _ _ _ => .inr ⟨_, rfl, is_added _⟩).andThen

/-! What a file consists of -/

/-- A file that consists of components still does, if no pattern is joined that was not before. -/
theorem startsComponents_cons {t : Token} {r r' : List Token} (h : startsComponents (t :: r) = true)
    (hapart : continuesSequence (t :: r) = false → continuesSequence (t :: r') = false) :
    startsComponents (t :: r') = true := by
  rw [startsComponents] at h ⊢
  rw [continuesSequence, continuesSequence] at hapart
  cases hl : t.lexeme with
  | identifier name =>
    rw [hl] at h hapart
    dsimp only at h hapart ⊢
    rw [← Option.not_isNone, Bool.not_eq_true'] at h ⊢
    exact hapart h
  | prefixedName qualifier localName =>
    rw [hl] at h hapart
    dsimp only at h hapart ⊢
    rw [h] at hapart
    exact (Bool.not_eq_false' _).mp (hapart rfl)
  | keyword word =>
    rw [hl] at h
    cases word <;> exact h
  | eof => rfl
  | nsName | literal | symbol =>
    rw [hl] at h
    exact h

theorem bare_of_startsComponents {r : List Token} (h : startsComponents r = true) :
    NotAt (.symbol .leftBracket) r := by
  cases r with
  | nil => rfl
  | cons t r =>
    rw [NotAt, List.head?_cons, Option.any_some, Bool.eq_false_iff]
    intro ht
    rw [startsComponents, Token.lexeme_of_symbol ht] at h
    dsimp only at h
    rw [isHeaderWord_eq_false ht (by decide)] at h
    cases h

theorem startsComponents_resumes {r r' : List Token} (h : startsComponents r = true)
    (hresumes : Resumes (At .eof) r r') : startsComponents r' = true := by
  obtain ⟨t, ht, hend⟩ | ⟨hsame, hapart⟩ := hresumes
  · obtain ⟨rest, rfl⟩ := List.head?_eq_some_iff.mp ht
    rw [startsComponents, Token.lexeme_of_eof hend]
  · have hbare := bare_of_startsComponents h
    cases r with
    | nil =>
      rw [List.head?_eq_none_iff.mp hsame]
      rfl
    | cons t r =>
      obtain ⟨r', rfl⟩ := List.head?_eq_some_iff.mp hsame
      rw [Apart, Apart, joins_token hbare, joins_token hbare] at hapart
      exact startsComponents_cons h hapart

theorem not_startsComponents_of_joins {r : List Token} (hr : NotAt (.symbol .leftBracket) r)
    (h : joins r = true) : startsComponents r = false := by
  cases r with
  | nil =>
    rw [joins, afterAnnotations] at h
    cases h
  | cons t r =>
    rw [joins_token hr, continuesSequence] at h
    rw [startsComponents]
    cases hl : t.lexeme with
    | identifier name =>
      rw [hl] at h
      rwa [← Option.not_isSome, Bool.not_eq_true'] at h
    | prefixedName qualifier localName =>
      rw [hl] at h
      exact (Bool.not_eq_true' _).mp h
    | keyword word =>
      rw [hl] at h
      cases word <;> first | exact isHeaderWord_eq_false (is_of_lexeme hl) (by decide) | cases h
    | literal | symbol =>
      exact isHeaderWord_eq_false (is_of_lexeme hl) (by simp [Lexeme.type])
    | nsName | eof =>
      rw [hl] at h
      cases h

/-- Where neither components nor a pattern begin, a pattern is refused at once. -/
theorem primary_of_apart (hr : NotAt (.symbol .leftBracket) s.rest) (hapart : Apart s.rest)
    (hstarts : startsComponents s.rest = false) :
    ∃ e, (unlimited docs).primary s = .error e s := by
  have hskip : skipAnnotations s = .ok () s := skipAnnotations_eq (afterAnnotations_bare hr)
  rw [unlimited_primary, primaryWith, bind_of_ok hskip, current_eq]
  cases hrest : s.rest with
  | nil =>
    rw [hrest] at hstarts
    cases hstarts
  | cons t rest =>
    rw [hrest] at hr hapart hstarts
    rw [Apart, joins_token hr, continuesSequence] at hapart
    rw [startsComponents] at hstarts
    rw [List.head?_cons]
    dsimp only
    cases hl : t.lexeme with
    | identifier name =>
      rw [hl] at hapart hstarts
      dsimp only at hapart hstarts
      rw [← Option.not_isSome, hstarts] at hapart
      cases hapart
    | prefixedName qualifier localName =>
      rw [hl] at hapart hstarts
      dsimp only at hapart hstarts
      rw [hstarts] at hapart
      cases hapart
    | literal =>
      rw [hl] at hapart
      cases hapart
    | symbol sym =>
      rw [hl] at hapart
      cases sym <;> first | exact ⟨_, rfl⟩ | cases hapart
    | keyword word =>
      rw [hl] at hapart
      cases word <;> first | exact ⟨_, rfl⟩ | cases hapart
    | nsName | eof => exact ⟨_, rfl⟩

theorem pattern_of_apart (hr : NotAt (.symbol .leftBracket) s.rest) (hapart : Apart s.rest)
    (hstarts : startsComponents s.rest = false) :
    ∃ e, (unlimited docs).pattern s = .error e s := by
  obtain ⟨e, hprimary⟩ : ∃ e, (unlimited docs).primary s = .error e s :=
    primary_of_apart hr hapart hstarts
  have hpostfix : postfixOf (unlimited docs).primary s = .error e s := bind_of_error hprimary
  have hsequence : sequenceOf (unlimited docs).primary s = .error e s := bind_of_error hpostfix
  have hinterleave : interleaveOf (unlimited docs).primary s = .error e s :=
    bind_of_error hsequence
  exact ⟨e, bind_of_error hinterleave⟩

/-! Whole files -/

variable (path declarations)

theorem fileBody_components {level : Level} (h : startsComponents s.rest = true) :
    fileBody path declarations level s =
      (level.components true .eof >>= componentsEnd path declarations) s := by
  have hget : (get : Parser Progress) s = .ok s s := rfl
  rw [fileBody, bind_of_ok hget, if_pos h]

theorem fileBody_pattern {level : Level} (h : startsComponents s.rest = false) :
    fileBody path declarations level s =
      (level.pattern >>= patternEnd path declarations) s := by
  have hget : (get : Parser Progress) s = .ok s s := rfl
  rw [fileBody, bind_of_ok hget, if_neg (Bool.eq_false_iff.mp h)]

theorem accepts_fileBody (docs : DocLines) (r : List Token) :
    Accepts (fileBody path declarations (unlimited docs)) (added .eof :: r) r := by
  intro s hs
  have hstarts : startsComponents s.rest = true := by
    rw [hs]
    rfl
  rw [fileBody_components path declarations hstarts]
  have hcomponents := (unlimited_ready docs).components true .eof (.inr rfl) (added .eof :: r)
    ⟨_, rfl, is_added _⟩
  exact hcomponents.bind (fun cs => accepts_componentsEnd cs r) s hs

/-- Where no annotation stands, what is behind the header can be continued, by its end alone where
nothing was gone past. -/
theorem continues_fileBody (docs : DocLines) (hbare : NotAt (.symbol .leftBracket) s.rest) :
    Continues (fileBody path declarations (unlimited docs)) Anything (Look FileEnds)
      (Look FileEnds) s := by
  have hlevel := unlimited_completable docs s.rest.length
  cases hstarts : startsComponents s.rest with
  | true =>
    have hcomponents : Parser.Completable s.rest.length
        ((unlimited docs).components true .eof >>= componentsEnd path declarations) Anything
        (Look FileEnds) (Resumes (At .eof)) :=
      (hlevel.components true .eof (.inr rfl)).bind (x := [added .eof])
        completable_componentsEnd fun r _ =>
          ⟨⟨_, rfl, is_added _⟩, fun cs => accepts_componentsEnd cs r⟩
    refine (hcomponents s (Nat.le_refl _)).congr (fileBody_components path declarations hstarts)
      fun r hr => ⟨hr.look.imp_right fileEnds_of_at, fun u hu => ?_⟩
    rw [← hu] at hr
    exact fileBody_components path declarations (startsComponents_resumes hstarts hr)
  | false =>
    cases hjoins : joins s.rest with
    | true =>
      have hpattern : Parser.Completable s.rest.length
          ((unlimited docs).pattern >>= patternEnd path declarations) Anything (Look FileEnds)
          Onset :=
        (completable_pattern (unlimited_ready docs) hlevel.primary).bind (x := [added .eof])
          completable_patternEnd fun r _ => ⟨patternEnds_of_fileEnds (fileEnds_added r),
            fun p => accepts_patternEnd p r⟩
      refine (hpattern s (Nat.le_refl _)).congr (fileBody_pattern path declarations hstarts)
        fun r hr => ?_
      obtain ⟨hjoins', hsame⟩ := hr hjoins
      have hstarts' : startsComponents r = false :=
        not_startsComponents_of_joins (by rwa [NotAt, hsame]) hjoins'
      exact ⟨.inl hsame, fun u hu => fileBody_pattern path declarations (hu ▸ hstarts')⟩
    | false =>
      obtain ⟨e, he⟩ : ∃ e, (unlimited docs).pattern s = .error e s :=
        pattern_of_apart hbare hjoins hstarts
      exact .of_fail (x := [added .eof])
        ((fileBody_pattern path declarations hstarts).trans (bind_of_error he))
        fun r _ => ⟨.inr (fileEnds_added r), accepts_fileBody path declarations docs r⟩

/-- Without a limit on nesting, every run over a file can be continued. -/
theorem completable_file (docs : DocLines) (k : Nat) :
    Parser.Completable k (file path (unlimited docs)) Anything (Look FileEnds)
      (Look FileEnds) := by
  have haccepts (declarations : List Declaration) (r : List Token) :=
    accepts_fileBody path declarations docs r
  have hbody (declarations : List Declaration) : Parser.Completable k (skipAnnotations >>= fun _ =>
      fileBody path declarations (unlimited docs)) Anything (Look FileEnds) (Look FileEnds) :=
    .annotatedLook (x := [added .eof])
      (fun s _ hbare => continues_fileBody path declarations docs hbare)
      (fun r hr => hr.notAt (by decide)) fun r _ => ⟨fileEnds_added r, haccepts declarations r⟩
  rw [file_eq]
  exact (completable_header k).bind (x := [added .eof]) hbody fun r _ =>
    ⟨fileEnds_added r, fun declarations => .bare rfl (haccepts declarations r)⟩

end

end Parser

open Lexer

theorem Parser.EndsAlike.of_error {α α' : Type} {ps : List (Token × Token)}
    {S : Progress → Progress → Prop} {R : α → α' → Prop}
    {r : EStateM.Result SchemaError Progress α} {r' : EStateM.Result SchemaError Progress α'}
    {e : SchemaError} {s : Progress} (h : EndsAlike ps S R r r') (hr : r = .error e s) :
    ∃ fault u, e = .unacceptable fault s.rest.head? ∧ Abreast ps s u := by
  cases h with
  | ok => cases hr
  | error hat =>
    cases hr
    exact ⟨_, _, rfl, hat⟩

/-- A file that is refused is refused at one of its tokens. -/
theorem Parser.exists_refused {scanned : Scanned} {ls : List Lexeme} {path : Text} {e : SchemaError}
    {t : Progress} (hlexemes : scanned.tokens.map Token.lexeme = ls ++ [Lexeme.eof])
    (hrun : Parser.file path (top scanned.docs) { rest := scanned.tokens } = .error e t) :
    ∃ fault before token after, e = .unacceptable fault (some token) ∧ t.rest = token :: after ∧
      scanned.tokens = before ++ token :: after := by
  obtain ⟨ps, hps, hne, hfst, hsnd⟩ := exists_paired hlexemes hlexemes
  obtain ⟨p, rest, rfl⟩ := List.exists_cons_of_ne_nil hne
  have habreast : Abreast (p :: rest) { rest := scanned.tokens } { rest := scanned.tokens } :=
    ⟨p, rest, List.suffix_rfl, hfst.symm, hsnd.symm⟩
  have hfile := concur_file hps path (concurs_top hps scanned.docs scanned.docs nestingLimit) _ _
    habreast
  obtain ⟨fault, _, rfl, q, after, ⟨before, hbefore⟩, hrest, -⟩ := hfile.of_error hrun
  refine ⟨fault, before.map Prod.fst, q.1, after.map Prod.fst, by rw [hrest]; rfl, hrest, ?_⟩
  rw [← hfst, ← hbefore, List.map_append]
  rfl

/-- What was gone past when a file is refused is the start of a file, without a limit on nesting. -/
theorem Parser.exists_more {docs : DocLines} {path : Text} {before rest : List Token}
    {e : SchemaError} {t : Progress} (ht : t.rest = rest)
    (hrun : Parser.file path (unlimited docs) { rest := before ++ rest } = .error e t) :
    ∃ more file u, Parser.file path (unlimited docs) { rest := before ++ more } = .ok file u ∧
      u.rest = [] := by
  obtain ⟨read, more, hread, hmore⟩ := (completable_file path docs (before ++ rest).length
    { rest := before ++ rest } (Nat.le_refl _)).complete hrun
  rw [ht] at hread
  obtain rfl : before = read := List.append_cancel_right hread
  obtain ⟨-, haccepts⟩ := hmore [] trivial
  exact ⟨more ++ [], haccepts { rest := before ++ (more ++ []) } rfl⟩

/-- Faults are found no earlier than at the first token that is wrong. A source that is scanned and
not parsed is refused at one of its tokens. Unless that is where the limit on nesting was exceeded,
the tokens in front of it are the start of tokens that a parser without the limit accepts. -/
theorem Source.refused_at_first_wrong {source : Source} {path : Text} {scanned : Scanned}
    {e : Failure} (hscan : source.scan path = .ok scanned) (hparse : source.parse path = .error e) :
    ∃ fault before token after, e = .schema (.unacceptable fault (some token)) ∧
      scanned.tokens = before ++ token :: after ∧ (∀ t ∈ before, Precedes t token) ∧
      (∀ t ∈ after, Precedes token t) ∧
      (fault = .tooDeep Parser.nestingLimit ∨ ∃ more file t,
        Parser.file path (Parser.unlimited scanned.docs) { rest := before ++ more } = .ok file t ∧
          t.rest = []) := by
  obtain ⟨text, cells, last, -, hlexes, htiled⟩ := Source.exists_lexes hscan
  have hlexemes : scanned.tokens.map Token.lexeme = cells.map Cell.lexeme ++ [Lexeme.eof] := by
    rw [htiled.tokens_eq, map_lexeme_tokensFrom]
  have hpairwise : scanned.tokens.Pairwise Precedes := by
    rw [htiled.tokens_eq]
    exact pairwise_tokensFrom hlexes
  rw [Source.parse, hscan] at hparse
  change (File.ofTokens path scanned).mapError Failure.schema = _ at hparse
  unfold File.ofTokens at hparse
  cases hrun : Parser.file path (Parser.top scanned.docs) { rest := scanned.tokens } with
  | ok file t =>
    rw [hrun] at hparse
    cases hparse
  | error e' t =>
    rw [hrun] at hparse
    cases hparse
    obtain ⟨fault, before, token, after, rfl, ht, htokens⟩ := Parser.exists_refused hlexemes hrun
    rw [htokens, List.pairwise_append, List.pairwise_cons] at hpairwise
    obtain ⟨-, ⟨hafter, -⟩, hbefore⟩ := hpairwise
    refine ⟨fault, before, token, after, rfl, htokens,
      fun t ht => hbefore t ht token List.mem_cons_self, hafter, ?_⟩
    obtain ⟨hsame, -⟩ | ⟨-, _, _, rest, -, -, -, u, hstops, -⟩ :=
      Parser.file_of_limit scanned.docs path Parser.nestingLimit scanned.tokens
    · rw [hsame, htokens] at hrun
      exact .inr (Parser.exists_more ht hrun)
    · obtain ⟨he, -⟩ := EStateM.Result.error.inj (hstops.symm.trans hrun)
      exact .inl (SchemaError.unacceptable.inj he).1.symm

namespace Refused

/-! A choice that goes on with a brace. -/

def source : Source := .text "start = a | \x7d b = c"

def brace : Token := ⟨.symbol .rightBrace, [], ⟨1, 13, 12⟩, 1⟩

def tokens : List Token :=
  [⟨.keyword .start, [], ⟨1, 1, 0⟩, 5⟩, ⟨.symbol .assign, [], ⟨1, 7, 6⟩, 1⟩,
    ⟨.identifier "a", [], ⟨1, 9, 8⟩, 1⟩, ⟨.symbol .pipe, [], ⟨1, 11, 10⟩, 1⟩, brace,
    ⟨.identifier "b", [], ⟨1, 15, 14⟩, 1⟩, ⟨.symbol .assign, [], ⟨1, 17, 16⟩, 1⟩,
    ⟨.identifier "c", [], ⟨1, 19, 18⟩, 1⟩, ⟨.eof, [], ⟨1, 20, 19⟩, 0⟩]

theorem refused_at_brace :
    source.scan [] = .ok ⟨tokens, []⟩ ∧
      source.parse [] = .error (.schema (.unacceptable .missingPattern (some brace))) ∧
      ∃ before after, tokens = before ++ brace :: after ∧ ∃ more file t,
        Parser.file [] (Parser.unlimited []) { rest := before ++ more } = .ok file t ∧
          t.rest = [] := by
  have hscan : source.scan [] = .ok ⟨tokens, []⟩ := by decide +kernel
  have hrefused : (source.parse []).map (fun _ => ()) =
      .error (.schema (.unacceptable .missingPattern (some brace))) := by decide +kernel
  obtain ⟨e, hparse⟩ : ∃ e, source.parse [] = .error e := by
    cases h : source.parse [] with
    | ok file =>
      rw [h] at hrefused
      cases hrefused
    | error e => exact ⟨e, rfl⟩
  rw [hparse] at hrefused ⊢
  cases hrefused
  obtain ⟨_, before, _, after, he, htokens, -, -, hmore⟩ :=
    Source.refused_at_first_wrong hscan hparse
  cases he
  exact ⟨hscan, rfl, before, after, htokens, hmore.resolve_left nofun⟩

end Refused

end RelaxCompact
