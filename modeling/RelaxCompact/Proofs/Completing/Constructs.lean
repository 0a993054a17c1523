import RelaxCompact.Proofs.Completing.Loops
import RelaxCompact.Proofs.Parsing.Annotating

/-!
What patterns are made of: literals, name classes, parameters, datatypes, and what stands in
brackets. None of these fails earlier than it has to, where what is open around it is closed behind
it. A level of the grammar is taken to be as it is one level deeper, where fewer tokens are ahead.
-/

namespace RelaxCompact.Parser

open Surface Run

variable {α β : Type} {k : Nat}

/-- What may follow a name class. -/
abbrev NameEnds : List Token → Prop :=
  Led [.symbol .leftBrace, .symbol .rightParen, .symbol .rightBrace, .eof]

theorem nameEnds_of_patternEnds {r : List Token} (h : PatternEnds r) : NameEnds r :=
  h.mono (List.subset_cons_self _ _)

/-! Literals -/

theorem literal_folds : Folds (.symbol .tilde) (expect .literal .missingSegment)
    (fun text token => text ++ token.value) literal.segments :=
  ⟨fun _ => rfl, fun _ _ => rfl⟩

theorem literal_eq :
    literal = expect .literal >>= fun token => loop literal.segments token.value :=
  congrArg (expect .literal >>= ·)
    (funext fun token => literal_folds.turns_eq (Plain.expect _ _).forward token.value)

theorem accepts_literal_loop (text : Text) {r : List Token} (hr : NotAt (.symbol .tilde) r) :
    Accepts (loop literal.segments text) r r :=
  literal_folds.accepts (Plain.expect _ _).forward text hr

theorem completable_literal_loop (k : Nat) (text : Text) :
    Completable k (loop literal.segments text) PatternEnds (Look PatternEnds)
      (Look PatternEnds) := by
  have hends (r : List Token) (hr : PatternEnds r) : NotAt (.symbol .tilde) r :=
    hr.notAt (by decide)
  have hsegment : Completable k (expect .literal .missingSegment) PatternEnds (Look PatternEnds)
      Unseen :=
    completable_expect .literal _ (is_added (.literal [])) (fun _ _ _ _ _ => trivial)
      fun _ _ _ => trivial
  exact literal_folds.completable (Plain.expect _ _).forward hsegment hends
    (fun r r' hr hrr' => hrr'.notAt hends hr) (fun t r r' _ => look_cons _ t r r') text

theorem literal_of_cons {s : Progress} {t : Token} {rest : List Token} (hs : s.rest = t :: rest)
    (ht : t.is .literal = true) : literal s = loop literal.segments t.value { s with rest } := by
  rw [literal_eq, bind_of_ok (expect_of_at _ hs ht)]

theorem accepts_literalOr (fault : SyntaxFault) {r : List Token} (hr : PatternEnds r) :
    Accepts (literalOr fault) (added (.literal []) :: r) r := by
  refine .at (is_added (.literal [])) fun s hs => ?_
  change ∃ a t, literal s = .ok a t ∧ _
  rw [literal_of_cons hs (is_added (.literal []))]
  exact accepts_literal_loop _ (hr.notAt (by decide)) _ rfl

/-- Runs that end alike go on alike. -/
theorem bind_of_eq {p q : Parser α} {s t : Progress} (h : p s = q t) (f : α → Parser β) :
    (p >>= f) s = (q >>= f) t := by
  cases hq : q t with
  | ok a u => rw [bind_of_ok (h.trans hq), bind_of_ok hq]
  | error e u => rw [bind_of_error (h.trans hq), bind_of_error hq]

theorem completable_literalOr (k : Nat) (fault : SyntaxFault) :
    Completable k (literalOr fault) PatternEnds (Look PatternEnds) (Look (Led [.literal []])) := by
  intro s hs
  obtain hno | ⟨t, rest, hrest, ht⟩ := notAt_or .literal s.rest
  · have hfail : literalOr fault s = .error (.unacceptable fault s.rest.head?) s := by
      rw [literalOr, bind_of_ok (at_eq .literal s), hno]
      rfl
    exact .of_fail (x := [added (.literal [])]) hfail fun r hr =>
      ⟨.inr (led_added (List.mem_singleton_self _) _), accepts_literalOr fault hr⟩
  · obtain ⟨-, hlength⟩ := length_of_cons hrest hs
    refine (completable_literal_loop (k - 1) t.value { s with rest } hlength).behind hrest
      (fun u rest hu => ?_) fun r _ => look_cons _ t _ r
    have hat : at? .literal u = .ok true u := by
      rw [at_eq, hu, List.head?_cons, Option.any_some, ht]
    rw [literalOr, bind_of_ok hat]
    exact literal_of_cons hu ht

theorem accepts_inheritance {r : List Token} (hr : PatternEnds r) : Accepts inheritance r r :=
  .refuse (hr.notAt (by decide)) (accepts_pure none r)

theorem completable_inheritance (k : Nat) :
    Completable k inheritance PatternEnds (Look PatternEnds) (Look PatternEnds) := by
  refine .accept (M := Unseen) (fun _ => ?_) (fun t r r' _ _ => look_cons _ t r r')
    (completable_pure none) fun r r' hr hrr' => ⟨hrr', hrr'.notAt (fun r h => h.notAt ?_) hr⟩
  · refine .symbol (M := Unseen) (x := [addedName])
      (fun _ => (completable_name .namespaceQualifier).andThen.unseen) (fun _ _ _ _ _ => trivial)
      (fun r _ => (accepts_name _ r).andThen) fun _ _ _ => trivial
  · decide

/-! What follows a pattern -/

/-- The tokens are as `F` says, or the first of them is the same and they are still not joined to a
pattern in front of them. -/
def Resumes (F : List Token → Prop) (r r' : List Token) : Prop :=
  F r' ∨ r'.head? = r.head? ∧ (Apart r → Apart r')

theorem Resumes.look {F : List Token → Prop} {r r' : List Token} (h : Resumes F r r') :
    Look F r r' :=
  h.symm.imp And.left id

theorem PatternEnds.cases {r : List Token} (h : PatternEnds r) :
    ∃ t rest, r = t :: rest ∧
      (t.is (.symbol .rightParen) = true ∨ t.is (.symbol .rightBrace) = true ∨
        t.is .eof = true) := by
  obtain ⟨t, ht, hl⟩ := h
  obtain ⟨rest, rfl⟩ := List.head?_eq_some_iff.mp ht
  refine ⟨t, rest, rfl, ?_⟩
  simp only [List.mem_cons, List.not_mem_nil, or_false] at hl
  exact hl.imp is_of_lexeme (.imp is_of_lexeme is_of_lexeme)

theorem PatternEnds.apart {r : List Token} (h : PatternEnds r) : Apart r := by
  obtain ⟨t, rest, rfl, ht⟩ := PatternEnds.cases h
  obtain ht | ht | ht := ht
  · exact apart_of_symbol ht (by decide) rest
  · exact apart_of_symbol ht (by decide) rest
  · exact apart_of_eof ht rest

/-- Behind a symbol that joins nothing. -/
theorem resumes_symbol (F : List Token → Prop) {sym : Symbol}
    (hsym : sym ≠ .leftBracket ∧ sym ≠ .leftParen) {t : Token} (ht : t.is (.symbol sym) = true)
    (r r' : List Token) : Resumes F (t :: r) (t :: r') :=
  .inr ⟨rfl, fun _ => apart_of_symbol ht hsym r'⟩

/-! Levels -/

/-- A level that goes forward, and reads the least where nothing of its own stands. -/
structure Level.Ready (level : Level) : Prop where
  primary (r : List Token) (hr : PatternEnds r) :
    Accepts level.primary (added (.keyword .empty) :: r) r
  components (allowInclude : Bool) (type : TokenType) (htype : Closes type) (r : List Token)
    (hr : At type r) : Accepts (level.components allowInclude type) r r
  returning : Lifts Returning fun _ => level
  progress (s : Progress) (p : Pattern) (t : Progress) (h : level.primary s = .ok p t) :
    t.rest.length < s.rest.length

theorem forward_of_returning {p : Parser α} (h : ∀ s, Returning s fun _ => p s) : Forward p :=
  fun s => (h s).rest.length_le

theorem Level.Ready.forwardName {level : Level} (h : level.Ready) : Forward level.basicName :=
  forward_of_returning h.returning.basicName

/-- A pattern that is joined to one in front of it is still joined, and what it begins with is the
same. -/
def Onset (r r' : List Token) : Prop := joins r = true → joins r' = true ∧ r'.head? = r.head?

structure Level.Completable (k : Nat) (level : Level) : Prop where
  name : Parser.Completable k level.basicName NameEnds (Look NameEnds) Unseen
  primary : Parser.Completable k level.primary PatternEnds (Look PatternEnds) Onset
  components (allowInclude : Bool) (type : TokenType) (htype : Closes type) :
    Parser.Completable k (level.components allowInclude type) (At type) (Look (At type))
      (Resumes (At type))

/-- Behind a token that opens a construct, the level can be continued. -/
def Level.CompletableBelow (k : Nat) (level : Level) : Prop := ∀ j, j < k → level.Completable j

theorem Level.CompletableBelow.pred {level : Level} (h : level.CompletableBelow k) :
    level.CompletableBelow (k - 1) :=
  fun j hj => h j (Nat.lt_of_lt_of_le hj (Nat.sub_le k 1))

theorem Level.CompletableBelow.at {level : Level} (h : level.CompletableBelow k) (hk : 0 < k) :
    level.Completable (k - 1) :=
  h (k - 1) (Nat.sub_one_lt_of_lt hk)

/-! Constructs that are closed -/

section

variable {content : Parser α} {f : α → β} {sym : Symbol} {P Q : List Token → Prop}
  {L M G : List Token → List Token → Prop} {x r : List Token}

theorem accepts_delimited (h : Accepts content (x ++ added (.symbol sym) :: r)
    (added (.symbol sym) :: r)) :
    Accepts (enclosed content >>= fun a => expectSymbol sym >>= fun _ => pure (f a))
      (x ++ added (.symbol sym) :: r) r :=
  h.enclosed.bind fun _ => (accepts_symbol sym r).andThen

/-- What is read one level deeper, up to the symbol that closes it. -/
theorem completable_delimited (h : Completable k content Q M G)
    (hQ : ∀ r, Q (added (.symbol sym) :: r))
    (hM : ∀ t r r', t.is (.symbol sym) = true → M (t :: r) (t :: r'))
    (hM' : ∀ old r, M old (added (.symbol sym) :: r)) :
    Completable k (enclosed content >>= fun a => expectSymbol sym >>= fun _ => pure (f a)) P L G :=
  h.enclosed.bind (x := [added (.symbol sym)])
    (fun _ => (completable_symbol sym (fun t r r' ht _ => hM t r r' ht)
      fun old r _ => hM' old r).andThen)
    fun r _ => ⟨hQ r, fun _ => (accepts_symbol sym r).andThen⟩

theorem accepts_braced (h : Accepts content (x ++ added (.symbol .rightBrace) :: r)
    (added (.symbol .rightBrace) :: r)) :
    Accepts (expectSymbol .leftBrace >>= fun _ => enclosed content >>= fun a =>
      expectSymbol .rightBrace >>= fun _ => pure (f a))
      (added (.symbol .leftBrace) :: (x ++ added (.symbol .rightBrace) :: r)) r :=
  (accepts_symbol .leftBrace _).bind fun _ => accepts_delimited h

/-- What is read one level deeper in braces. -/
theorem completable_braced (h : 0 < k → Completable (k - 1) content Q M G)
    (hQ : ∀ r, Q (added (.symbol .rightBrace) :: r))
    (hM : ∀ t r r', t.is (.symbol .rightBrace) = true → M (t :: r) (t :: r'))
    (hM' : ∀ old r, M old (added (.symbol .rightBrace) :: r))
    (hx : ∀ r, Accepts content (x ++ added (.symbol .rightBrace) :: r)
      (added (.symbol .rightBrace) :: r)) :
    Completable k (expectSymbol .leftBrace >>= fun _ => enclosed content >>= fun a =>
      expectSymbol .rightBrace >>= fun _ => pure (f a)) P L (Look NameEnds) := by
  refine .symbol (x := x ++ [added (.symbol .rightBrace)])
    (fun hpos => completable_delimited (h hpos) hQ hM hM') (fun t r r' _ _ => look_cons _ t r r')
    (fun r _ => ?_) fun old r _ => .inr (led_added (List.mem_cons_self ..) _)
  rw [List.append_assoc]
  exact accepts_delimited (hx r)

end

/-! Name classes -/

theorem completable_nameClass {basic : Parser Surface.NameClass} (hforward : Forward basic)
    (h : Completable k basic NameEnds (Look NameEnds) Unseen) :
    Completable k (nameClassOf basic) NameEnds (Look NameEnds) Unseen := by
  have hends (r : List Token) (hr : NameEnds r) : NotAt (.symbol .pipe) r := hr.notAt (by decide)
  exact completable_chain hforward h hends (fun r r' hr hrr' => hrr'.notAt hends hr)
    fun t r r' _ => look_cons _ t r r'

theorem accepts_basicName (setting : Setting) (next : Option Level) (r : List Token) :
    Accepts (basicNameWith setting next) (addedName :: r) r :=
  .bare rfl (.current rfl (accepts_pure _ r))

section

variable {setting : Setting} {level : Level} (hready : level.Ready)
  (hnext : level.CompletableBelow k)

include hnext in
theorem completable_nameException :
    Completable k (nameException setting (some level)) NameEnds (Look NameEnds) Unseen := by
  have hends (r : List Token) (hr : NameEnds r) : NotAt (.symbol .minus) r := hr.notAt (by decide)
  refine .accept (M := Unseen) (fun hpos => ?_) (fun _ _ _ _ _ => trivial) (completable_pure none)
    fun r r' hr hrr' => ⟨trivial, hrr'.notAt hends hr⟩
  exact (hnext.at hpos).name.enclosed.andThen

/-- A symbol that closes what stands in front of it. -/
theorem patternEnds_symbol {sym : Symbol} (hsym : sym ∈ [.rightParen, .rightBrace])
    (r : List Token) : PatternEnds (added (.symbol sym) :: r) := by
  refine led_added ?_ r
  revert hsym
  cases sym <;> decide

include hready hnext in
theorem completable_basicName :
    Completable k (basicNameWith setting (some level)) NameEnds (Look NameEnds) Unseen := by
  have hhead (r : List Token) : Accepts _ ([addedName] ++ r) r :=
    (accepts_basicName setting (some level) r).of_bare rfl
  suffices hbare : Completable k _ NameEnds (Look NameEnds) fun r r' =>
      NotAt (.symbol .leftBracket) r → NotAt (.symbol .leftBracket) r' from
    .annotated (x := [addedName]) (fun s hs _ => hbare s hs) (fun _ _ hr h => h hr)
      (fun _ _ _ _ _ _ => trivial)
      fun passed old r hpassed _ _ => ⟨trivial, (hhead r).annotated hpassed rfl⟩
  refine .current (x := [addedName]) (fun r _ => hhead r) fun o => ?_
  have hexception (f : Option Surface.NameClass → Surface.NameClass) : Completable (k - 1)
      (nameException setting (some level) >>= fun except => pure (f except)) NameEnds
      (Look NameEnds) Unseen := (completable_nameException hnext.pred).andThen
  cases o with
  | none => exact .fails _ fun _ _ _ _ _ => rfl
  | some head =>
    dsimp only
    cases head.lexeme with
    | identifier | keyword | prefixedName =>
      exact .goes rfl (fun _ => completable_pure _) fun _ _ _ => id
    | nsName => exact .goes rfl (fun _ => hexception _) fun _ _ _ => id
    | symbol sym =>
      cases sym with
      | star => exact .goes rfl (fun _ => hexception _) fun _ _ _ => id
      | leftParen =>
        refine .goes (M := Unseen) rfl (fun hpos => ?_) fun _ _ _ => id
        exact completable_delimited (completable_nameClass hready.forwardName (hnext.at hpos).name)
          (fun r => nameEnds_of_patternEnds (patternEnds_symbol (by decide) r))
          (fun t r r' _ => look_cons _ t r r')
          fun _ r => .inr (nameEnds_of_patternEnds (patternEnds_symbol (by decide) r))
      | _ => exact .fails _ fun _ _ _ _ _ => rfl
    | literal | eof => exact .fails _ fun _ _ _ _ _ => rfl

end

/-! Parameters -/

/-- Two runs end with one value, or fail at one place. -/
inductive EndsAs : EStateM.Result SchemaError Progress α →
    EStateM.Result SchemaError Progress α → Prop
  | ok (a : α) (t : Progress) : EndsAs (.ok a t) (.ok a t)
  | error (e e' : SchemaError) (t : Progress) : EndsAs (.error e t) (.error e' t)

theorem EndsAs.refl (r : EStateM.Result SchemaError Progress α) : EndsAs r r := by
  cases r with
  | ok a t => exact .ok a t
  | error e t => exact .error e e t

theorem EndsAs.trans {r r' r'' : EStateM.Result SchemaError Progress α} (h : EndsAs r r')
    (h' : EndsAs r' r'') : EndsAs r r'' := by
  cases h with
  | ok a t => exact h'
  | error e e' t =>
    cases h' with
    | error _ e'' => exact .error e e'' t

theorem EndsAs.bind {p : Parser α} {f g : α → Parser β} {s : Progress}
    (h : ∀ a t, p s = .ok a t → EndsAs (f a t) (g a t)) : EndsAs ((p >>= f) s) ((p >>= g) s) := by
  cases hrun : p s with
  | ok a t =>
    rw [bind_of_ok hrun, bind_of_ok hrun]
    exact h a t hrun
  | error e t =>
    rw [bind_of_error hrun, bind_of_error hrun]
    exact .refl _

theorem EndsAs.andThen {p q : Parser α} {f : α → Parser β} {s : Progress}
    (h : EndsAs (p s) (q s)) : EndsAs ((p >>= f) s) ((q >>= f) s) := by
  generalize hp : p s = r at h
  generalize hq : q s = r' at h
  cases h with
  | ok a t =>
    rw [bind_of_ok hp, bind_of_ok hq]
    exact .refl _
  | error e e' t =>
    rw [bind_of_error hp, bind_of_error hq]
    exact .error e e' t

theorem Completable.of_endsAs {p q : Parser α} {P : List Token → Prop}
    {L G : List Token → List Token → Prop} (h : Completable k q P L G)
    (hpq : ∀ s, EndsAs (p s) (q s)) : Completable k p P L G := by
  have hok {s t : Progress} {a : α} (hrun : p s = .ok a t) : q s = .ok a t := by
    have hs := hpq s
    generalize hq : q s = r at hs
    rw [hrun] at hs
    cases hs
    rfl
  have hback {s t : Progress} {a : α} (hrun : q s = .ok a t) : p s = .ok a t := by
    have hs := hpq s
    generalize hq : p s = r at hs
    rw [hrun] at hs
    cases hs
    rfl
  have herror {s t : Progress} {e : SchemaError} (hrun : p s = .error e t) :
      ∃ e', q s = .error e' t := by
    have hs := hpq s
    generalize hq : q s = r at hs
    rw [hrun] at hs
    cases hs
    exact ⟨_, rfl⟩
  intro s hs
  constructor
  · intro a t hrun
    obtain ⟨read, hread, hagain⟩ := (h s hs).again (hok hrun)
    refine ⟨read, hread, fun r hr => (hagain r hr).imp_right fun hruns u hu => ?_⟩
    obtain ⟨v, hv, hrest⟩ := hruns u hu
    exact ⟨v, hback hv, hrest⟩
  · intro e t hrun
    obtain ⟨e', hrun'⟩ := herror hrun
    obtain ⟨read, more, hread, hmore⟩ := (h s hs).complete hrun'
    refine ⟨read, more, hread, fun r hr => (hmore r hr).imp_right fun hruns u hu => ?_⟩
    obtain ⟨a, v, hv, hrest⟩ := hruns u hu
    exact ⟨a, v, hback hv, hrest⟩

/-- A parameter, or the end of the parameters. -/
def paramsStep (next : Parser (List (String × Text))) : Parser (List (String × Text)) :=
  accept (.symbol .rightBrace) >>= fun b =>
    if b = true then pure []
    else skipAnnotations >>= fun _ => expectName .parameter >>= fun name =>
      expectSymbol .assign >>= fun _ => literalOr .missingParameterValue >>= fun value =>
        next >>= fun ps => pure ((name, value) :: ps)

theorem params_succ (n : Nat) : params.go (n + 1) = paramsStep (params.go n) := rfl

theorem paramsStep_later {next next' : Parser (List (String × Text))} {s : Progress}
    (h : ∀ t, t.rest.length < s.rest.length → EndsAs (next t) (next' t)) :
    EndsAs (paramsStep next s) (paramsStep next' s) := by
  refine .bind fun b s' hs' => ?_
  obtain ⟨rfl, -⟩ | ⟨rfl, rfl⟩ := accept_ok hs'
  · exact .refl _
  · refine .bind fun _ t ht => .bind fun name u hu => .bind fun _ v hv => .bind fun value w hw =>
      .andThen (h w ?_)
    obtain ⟨token, hrest, -⟩ := expectName_ok hu
    have hname : u.rest.length < t.rest.length := by
      rw [hrest]
      exact Nat.lt_succ_self _
    calc w.rest.length ≤ v.rest.length := (Plain.literalOr _).forward.length_le hw
      _ ≤ u.rest.length := (Plain.expectSymbol _).forward.length_le hv
      _ < t.rest.length := hname
      _ ≤ s'.rest.length := Plain.skipAnnotations.forward.length_le ht

theorem params_of_nil (n : Nat) {s : Progress} (hs : s.rest = []) :
    ∃ e, params.go n s = .error e s := by
  obtain ⟨rest, depth, deepest⟩ := s
  cases hs
  cases n with
  | zero => exact ⟨_, rfl⟩
  | succ n =>
    have hskip : skipAnnotations ⟨[], depth, deepest⟩ = .ok () ⟨[], depth, deepest⟩ :=
      skipAnnotations_eq (afterAnnotations_bare rfl)
    have hturn : params.go (n + 1) ⟨[], depth, deepest⟩ = _ :=
      (bind_of_ok (accept_of_not_at rfl)).trans (bind_of_ok hskip)
    exact ⟨_, hturn.trans (bind_of_error rfl)⟩

theorem params_go {n m : Nat} {s : Progress} (hn : s.rest.length ≤ n) (hm : s.rest.length ≤ m) :
    EndsAs (params.go n s) (params.go m s) := by
  induction n generalizing m s with
  | zero =>
    have hs := List.eq_nil_of_length_eq_zero (Nat.le_zero.mp hn)
    obtain ⟨e, he⟩ := params_of_nil 0 hs
    obtain ⟨e', he'⟩ := params_of_nil m hs
    rw [he, he']
    exact .error e e' s
  | succ n ih =>
    cases m with
    | zero =>
      have hs := List.eq_nil_of_length_eq_zero (Nat.le_zero.mp hm)
      obtain ⟨e, he⟩ := params_of_nil (n + 1) hs
      obtain ⟨e', he'⟩ := params_of_nil 0 hs
      rw [he, he']
      exact .error e e' s
    | succ m =>
      rw [params_succ, params_succ]
      exact paramsStep_later fun t ht => ih (by omega) (by omega)

/-- The parameters up to the brace that closes them, but for which fault is found at their end. -/
theorem params_loop (s : Progress) : EndsAs ((remaining >>= params.go) s)
    (paramsStep (remaining >>= params.go) s) := by
  have hlast : EndsAs (params.go s.rest.length s) (params.go (s.rest.length + 1) s) :=
    params_go (Nat.le_refl _) (Nat.le_succ _)
  refine hlast.trans (paramsStep_later fun t ht => ?_)
  exact params_go (Nat.le_of_lt ht) (Nat.le_refl _)

theorem accepts_params_loop (r : List Token) :
    Accepts (remaining >>= params.go) (added (.symbol .rightBrace) :: r) r := by
  intro s hs
  change ∃ a t, params.go s.rest.length s = _ ∧ _
  rw [hs, List.length_cons, params_succ]
  exact Accepts.accept (is_added _) (accepts_pure [] r) s hs

theorem accepts_params_value (name : String) {r : List Token} :
    Accepts (literalOr .missingParameterValue >>= fun value => (remaining >>= params.go) >>=
      fun ps => pure ((name, value) :: ps))
      (added (.literal []) :: added (.symbol .rightBrace) :: r) r :=
  (accepts_literalOr _ (patternEnds_symbol (by decide) r)).bind fun _ =>
    (accepts_params_loop r).andThen

theorem completable_params_loop (k : Nat) : Completable k (remaining >>= params.go) Anything
    (Look PatternEnds) (Look PatternEnds) := by
  have hends (r : List Token) : PatternEnds (added (.symbol .rightBrace) :: r) :=
    patternEnds_symbol (by decide) r
  induction k using Nat.strongRecOn with
  | ind k ih =>
    refine .look (x := [added (.symbol .rightBrace)]) (G := Unseen) ?_
      (fun r _ => ⟨hends r, accepts_params_loop r⟩) fun _ _ => id
    refine .of_endsAs (.accept (M := Look PatternEnds) (fun _ => completable_pure [])
      (fun _ _ _ _ _ => trivial) (N := Look (Led [addedName.lexeme])) ?_ fun r r' hr hrr' =>
        ⟨trivial, hrr'.notAt (fun r h => h.notAt (by decide)) hr⟩) params_loop
    have hvalue (hpos : 0 < k) (name : String) : Completable (k - 1)
        (literalOr .missingParameterValue >>= fun value => (remaining >>= params.go) >>=
          fun ps => pure ((name, value) :: ps)) Anything (Look PatternEnds) Unseen :=
      (completable_literalOr (k - 1) _).unseen.bind (x := [added (.symbol .rightBrace)])
        (fun value => (ih (k - 1) (Nat.sub_one_lt_of_lt hpos)).andThen)
        fun r _ => ⟨hends r, fun _ => (accepts_params_loop r).andThen⟩
    have hnamed : Completable k (expectName .parameter >>= fun name =>
        expectSymbol .assign >>= fun _ => literalOr .missingParameterValue >>= fun value =>
          (remaining >>= params.go) >>= fun ps => pure ((name, value) :: ps)) Anything
        (Look PatternEnds) (Look (Led [addedName.lexeme])) := by
      refine (completable_name (P := Anything) .parameter).bind (M := Unseen)
        (x := [added (.symbol .assign), added (.literal []), added (.symbol .rightBrace)])
        (fun name => .symbol (x := [added (.literal []), added (.symbol .rightBrace)])
          (fun hpos => hvalue hpos name) (fun _ _ _ _ _ => trivial)
          (fun r _ => accepts_params_value name) fun _ _ _ => trivial) fun r _ =>
        ⟨trivial, fun name => (accepts_symbol .assign _).bind fun _ => accepts_params_value name⟩
    refine .annotatedLook (x := [addedName, added (.symbol .assign), added (.literal []),
      added (.symbol .rightBrace)]) (fun s hs _ => hnamed s hs) (fun r h => h.notAt (by decide))
      fun r _ => ?_
    exact ⟨led_added (by decide) _, (accepts_name _ _).bind fun name =>
      (accepts_symbol .assign _).bind fun _ => accepts_params_value name⟩

/-! Datatypes -/

section

variable {setting : Setting} {level : Level} (hnext : level.CompletableBelow k)

/-- What follows the parameters of a datatype. -/
def exceptionPattern (setting : Setting) (next : Option Level) (type : Datatype) (span : Span)
    (params : List (String × Text)) : Parser Pattern := do
  let exception ←
    if ← accept (.symbol .minus) then
      some <$> nested setting next (·.primary)
    else pure none
  return .data type params exception span

theorem exceptionPattern_eq (type : Datatype) (span : Span) (params : List (String × Text)) :
    exceptionPattern setting (some level) type span params = (accept (.symbol .minus) >>= fun b =>
      if b = true then enclosed level.primary >>= fun p => pure (.data type params (some p) span)
      else pure (.data type params none span)) := by
  simp only [exceptionPattern, bind_map_left]
  rfl

theorem accepts_exceptionPattern (type : Datatype) (span : Span) (params : List (String × Text))
    {r : List Token} (hr : PatternEnds r) :
    Accepts (exceptionPattern setting (some level) type span params) r r := by
  rw [exceptionPattern_eq]
  exact .refuse (hr.notAt (by decide)) (accepts_pure _ r)

include hnext in
theorem completable_exceptionPattern (type : Datatype) (span : Span)
    (params : List (String × Text)) :
    Completable k (exceptionPattern setting (some level) type span params) PatternEnds
      (Look PatternEnds) (Look PatternEnds) := by
  rw [exceptionPattern_eq]
  refine .accept (fun hpos => (hnext.at hpos).primary.enclosed.andThen)
    (fun t r r' _ _ => look_cons _ t r r') (completable_pure _) fun r r' hr hrr' =>
      ⟨hrr', hrr'.notAt (fun r h => h.notAt ?_) hr⟩
  decide

include hnext in
theorem completable_datatypePattern (type : Datatype) (span : Span) :
    Completable k (datatypePattern setting (some level) type span) PatternEnds (Look PatternEnds)
      (Look PatternEnds) := by
  have hexception (params : List (String × Text)) (r : List Token) (hr : PatternEnds r) :
      Accepts (exceptionPattern setting (some level) type span params) r r :=
    accepts_exceptionPattern type span params hr
  have hvalue (t : Token) : Completable (k - 1) (loop literal.segments t.value >>= fun text =>
      pure (Pattern.value text type span)) PatternEnds (Look PatternEnds) (Look PatternEnds) :=
    (completable_literal_loop _ _).andThen
  refine .at (B := fun t => loop literal.segments t.value >>= fun text =>
      pure (.value text type span))
    (M := Look PatternEnds) (N := Look PatternEnds)
    (fun t _ _ => hvalue t) (fun s t rest hs ht => ?_)
    (fun t r r' _ _ => look_cons _ t r r') ?_
    fun r r' hr hrr' => ⟨hrr', hrr'.notAt (fun r h => h.notAt ?_) hr⟩
  · exact bind_of_eq (literal_of_cons hs ht) _
  · refine .at
      (B := fun _ => (remaining >>= params.go) >>= exceptionPattern setting (some level) type span)
      (M := Look PatternEnds) (fun t _ hpos => ?_) (fun s t rest hs ht => ?_)
      (fun t r r' _ _ => look_cons _ t r r') (completable_exceptionPattern hnext type span [])
      fun r r' hr hrr' => ⟨hrr', hrr'.notAt (fun r h => h.notAt ?_) hr⟩
    · exact (completable_params_loop _).bind (x := [])
        (fun params => completable_exceptionPattern hnext.pred type span params)
        fun r hr => ⟨trivial, fun params => hexception params r hr⟩
    · have hsymbol : expectSymbol .leftBrace s = .ok () { s with rest } :=
        bind_of_ok (expect_of_at _ hs ht)
      exact bind_of_eq (bind_of_ok hsymbol) _
    · decide
  · decide

end

end RelaxCompact.Parser
