import RelaxCompact.Proofs.Completing.Patterns

/-!
Components that fail no earlier than they have to. Behind a component its terminator may stand;
where none stands, a pattern in front may only be joined to what is ahead if it was before.
-/

namespace RelaxCompact.Parser

open Surface Run

variable {α β : Type} {k : Nat}

/-! What is passed over -/

theorem startsElement_cons (t : Token) (rest : List Token) : startsElement (t :: rest) =
    (t.is .prefixedName && rest.head?.any (·.is (.symbol .leftBracket))) := by
  rw [startsElement, List.head?_cons, Option.any_some, List.getElem?_cons_succ,
    List.head?_eq_getElem?]

theorem not_startsElement {r : List Token} (hr : NotAt .prefixedName r) :
    startsElement r = false := by
  rw [startsElement, hr, Bool.false_and]

/-- An annotation element, or the end of them. -/
def elementsStep (next : Parser Unit) : Parser Unit := fun s =>
  if startsElement s.rest = true then
    (skipAnnotations >>= fun _ => next) { s with rest := s.rest.tail }
  else .ok () s

theorem elementsStep_later (next next' : Parser Unit) (s : Progress)
    (h : ∀ t, t.rest.length < s.rest.length → next t = next' t) :
    elementsStep next s = elementsStep next' s := by
  unfold elementsStep
  cases hrest : s.rest with
  | nil => rfl
  | cons t rest =>
    split
    · refine bind_later fun _ u hu => h u ?_
      have hle := Plain.skipAnnotations.forward.length_le hu
      rw [hrest]
      exact Nat.lt_succ_of_le hle
    · rfl

theorem skipAnnotationElements_eq :
    skipAnnotationElements = elementsStep skipAnnotationElements := by
  refine turns_unit_eq (fun n => funext fun s => skipAnnotationElements_succ n) elementsStep_later
    fun next s hs => ?_
  have hno : startsElement s.rest = false := by
    rw [hs]
    rfl
  rw [elementsStep, hno]
  rfl

theorem elements_at {s : Progress} {t : Token} {rest : List Token} (f : Unit → Parser α)
    (hs : s.rest = t :: rest) (h : startsElement (t :: rest) = true) :
    (skipAnnotationElements >>= f) s =
      (skipAnnotations >>= fun _ => skipAnnotationElements >>= f) { s with rest } := by
  have hrun : skipAnnotationElements s =
      (skipAnnotations >>= fun _ => skipAnnotationElements) { s with rest } := by
    rw [skipAnnotationElements_eq, elementsStep, hs, if_pos h, List.tail_cons,
      ← skipAnnotationElements_eq]
  rw [bind_of_eq hrun f, bind_assoc]

theorem elements_of_not {s : Progress} (f : Unit → Parser α) (h : startsElement s.rest = false) :
    (skipAnnotationElements >>= f) s = f () s := by
  have hrun : skipAnnotationElements s = .ok () s := by
    rw [skipAnnotationElements_eq, elementsStep, h]
    rfl
  rw [bind_of_ok hrun]

/-! The loop over components -/

/-- Behind what is passed over: a component, or the terminator. -/
def turn (type : TokenType) (component : Parser Component) (next : Parser (List Component)) :
    Parser (List Component) :=
  at? type >>= fun b =>
    if b = true then pure [] else component >>= fun c => next >>= fun cs => pure (c :: cs)

/-- A turn of the loop. -/
def componentsStep (type : TokenType) (component : Parser Component)
    (next : Parser (List Component)) : Parser (List Component) :=
  skipAnnotations >>= fun _ => skipAnnotationElements >>= fun _ => turn type component next

section

variable {type : TokenType} {component : Parser Component} {f : Option Token → Parser Component}

theorem componentsStep_later
    (hprogress : ∀ s c t, component s = .ok c t → t.rest.length < s.rest.length)
    (next next' : Parser (List Component)) (s : Progress)
    (h : ∀ t, t.rest.length < s.rest.length → next t = next' t) :
    componentsStep type component next s = componentsStep type component next' s := by
  refine bind_later fun _ t ht => bind_later fun _ u hu => bind_later fun b v hv => ?_
  cases b with
  | true => rfl
  | false =>
    refine bind_later fun c w hw => ?_
    have hlt : w.rest.length < s.rest.length := calc
      w.rest.length < v.rest.length := hprogress v c w hw
      _ ≤ u.rest.length := (Plain.at? type).forward.length_le hv
      _ ≤ t.rest.length := Plain.skipAnnotationElements.forward.length_le hu
      _ ≤ s.rest.length := Plain.skipAnnotations.forward.length_le ht
    exact bind_of_eq (h w hlt) _

theorem components_eq (hnone : ∀ s, s.rest = [] → component s = fail .missingDefinition s)
    (hprogress : ∀ s c t, component s = .ok c t → t.rest.length < s.rest.length) :
    componentsOf component type =
      componentsStep type component (componentsOf component type) := by
  refine turns_unit_eq (fun _ => rfl) (componentsStep_later hprogress) fun next s hs => ?_
  have hskip : skipAnnotations s = .ok () s := skipAnnotations_eq (by rw [hs, afterAnnotations])
  have hno : startsElement s.rest = false := by
    rw [hs]
    rfl
  have hat : at? type s = .ok false s := by
    rw [at_eq, hs]
    rfl
  have hlast : componentsOf.go component type 0 s = (fail .missingDefinition : Parser _) s :=
    bind_of_ok hat
  have hfail : component s = .error _ s := hnone s hs
  rw [hlast, componentsStep, bind_of_ok hskip, elements_of_not _ hno, turn, bind_of_ok hat]
  exact (bind_of_error hfail).symm

theorem at_iff {r : List Token} : At type r ↔ r.head?.any (·.is type) = true := by
  rw [At, Option.any_eq_true]
  rfl

theorem At.any {r : List Token} (h : At type r) : r.head?.any (·.is type) = true := at_iff.mp h

theorem accepts_components (htype : Closes type) {r : List Token} (hr : At type r) :
    Accepts (componentsOf component type) r r := by
  intro s hs
  have hpassed : GrammarAnnotations [] := ⟨[], [], rfl, .nil, .nil⟩
  exact ⟨[], _, components_stop htype hpassed (Nat.le_refl _) hs hr.any, rfl⟩

/-- What a component does where the current token is `o`: it fails, or goes past a word or a name
and then keeps that no pattern is joined to what is in front. -/
inductive Opening (k : Nat) (o : Option Token) : Parser Component → Prop
  | fails (fault : SyntaxFault) : Opening k o (fail fault)
  | goes {head : Token} {body : Parser Component} {M : List Token → List Token → Prop}
      (ho : o = some head) (hname : head.is .prefixedName = false)
      (hbody : 0 < k → Completable (k - 1) body PatternEnds (Resumes PatternEnds) M)
      (hM : ∀ r r', M r r' → Apart (head :: r) → Apart (head :: r')) :
      Opening k o (advance >>= fun _ => body)

/-- The terminator stands here, or the first token is the same and no name in front of a bracket,
and no pattern is joined here that was not before. -/
def Settles (type : TokenType) (r r' : List Token) : Prop :=
  At type r' ∨ NotAt .prefixedName r ∧ r'.head? = r.head? ∧ (Apart r → Apart r')

theorem At.patternEnds (htype : Closes type) {r : List Token} (h : At type r) : PatternEnds r := by
  obtain ⟨t, ht, htype'⟩ := h
  refine ⟨t, ht, ?_⟩
  obtain rfl | rfl := htype
  · rw [Token.lexeme_of_symbol htype']
    decide
  · rw [Token.lexeme_of_eof htype']
    decide

theorem Look.at {r r' : List Token} (h : Look (At type) r r') (hr : At type r) : At type r' := by
  obtain hsame | hat := h
  · rwa [At, hsame]
  · exact hat

theorem turn_eq (next : Parser (List Component)) :
    turn type (current >>= f) next = current >>= fun o =>
      if o.any (·.is type) = true then pure []
      else f o >>= fun c => next >>= fun cs => pure (c :: cs) := by
  funext s
  rw [turn, bind_of_ok (at_eq type s), current_eq]
  cases s.rest.head?.any (·.is type) with
  | true => rfl
  | false => exact bind_of_eq (current_eq f s) _

theorem accepts_turn {next : Parser (List Component)} {r : List Token} (hr : At type r) :
    Accepts (turn type component next) r r := by
  intro s hs
  have hat : at? type s = .ok true s := by rw [at_eq, hs, hr.any]
  exact ⟨[], s, bind_of_ok hat, hs⟩

theorem completable_turn (htype : Closes type) (hopening : ∀ o, Opening k o (f o))
    {next : Parser (List Component)} (hnext : 0 < k →
      Completable (k - 1) next (At type) (Look (At type)) (Resumes (At type)))
    (hx : ∀ r, At type r → Accepts next r r) :
    Completable k (turn type (current >>= f) next) (At type) (Look (At type)) (Settles type) := by
  have hturn (r : List Token) (hr : At type r) :
      Accepts (turn type (current >>= f) next) ([] ++ r) r := accepts_turn hr
  rw [turn_eq] at hturn ⊢
  refine .current (x := []) hturn fun o => ?_
  cases hat : o.any (·.is type) with
  | true =>
    refine .stays fun old r hold hr => ?_
    have hr' := hr.at (at_iff.mpr (hold ▸ hat))
    rw [hr'.any]
    exact ⟨.inl hr', rfl⟩
  | false =>
    have hcase := hopening o
    generalize f o = p at hcase
    cases hcase with
    | fails fault => exact .fails fault fun old r _ hr => .inl hr
    | @goes head body M ho hname hbody hM =>
      have hloop (hpos : 0 < k) (c : Component) : Completable (k - 1)
          (next >>= fun cs => pure (c :: cs)) (At type) (Look (At type)) (Resumes PatternEnds) :=
        (hnext hpos).andThen.mono (fun _ => id) (fun _ _ => id) fun r r' h =>
          h.imp_left (At.patternEnds htype)
      have hgoes (hpos : 0 < k) : Completable (k - 1) (body >>= fun c => next >>= fun cs =>
          pure (c :: cs)) (At type) (Look (At type)) M :=
        (hbody hpos).bind (x := []) (hloop hpos) fun r hr =>
          ⟨At.patternEnds htype hr, fun c => (hx r hr).andThen⟩
      refine .goes ho hgoes fun r r' h => .inr ⟨?_, rfl, hM r r' h⟩
      exact hname

/-- Where no annotation stands, none does still, and what is seen of components is kept. -/
def BareResumes (type : TokenType) (r r' : List Token) : Prop :=
  NotAt (.symbol .leftBracket) r → NotAt (.symbol .leftBracket) r' ∧ Resumes (At type) r r'

theorem Closes.ne {other : TokenType} (h : Closes type)
    (hne : TokenType.symbol .rightBrace ≠ other ∧ TokenType.eof ≠ other) : type ≠ other := by
  obtain rfl | rfl := h
  · exact hne.1
  · exact hne.2

theorem At.notAt {other : TokenType} (hne : type ≠ other) {r : List Token} (h : At type r) :
    NotAt other r := by
  obtain ⟨t, ht, htype⟩ := h
  rw [NotAt, ht, Option.any_some, not_is htype hne]

theorem BareResumes.annotated (htype : Closes type) {passed r r' : List Token}
    (h : BareResumes type r r') (hpassed : Annotations passed)
    (hr : NotAt (.symbol .leftBracket) r) : Resumes (At type) (passed ++ r) (passed ++ r') := by
  cases passed with
  | nil => exact (h hr).2
  | cons t passed =>
    refine .inr ⟨rfl, fun hapart => ?_⟩
    rw [Apart, joins_append hpassed] at hapart ⊢
    obtain hat | ⟨-, hkept⟩ := (h hr).2
    · exact (At.patternEnds htype hat).apart
    · exact hkept hapart

theorem Settles.bareResumes (htype : Closes type) {r r' : List Token} (h : Settles type r r') :
    BareResumes type r r' := by
  intro hr
  obtain hat | ⟨-, hsame, hkept⟩ := h
  · exact ⟨hat.notAt (htype.ne (by decide)), .inl hat⟩
  · exact ⟨by rwa [NotAt, hsame], .inr ⟨hsame, hkept⟩⟩

/-- Behind annotations there are no annotation elements where there were none. -/
theorem Settles.not_startsElement (htype : Closes type) {r r' : List Token}
    (h : Settles type r r') : startsElement r' = false := by
  refine Parser.not_startsElement ?_
  obtain hat | ⟨hname, hsame, -⟩ := h
  · exact hat.notAt (htype.ne (by decide))
  · rwa [NotAt, hsame]

theorem apart_of_element {t : Token} {r : List Token} (ht : t.is .prefixedName = true)
    (hr : At (.symbol .leftBracket) r) : Apart (t :: r) := by
  obtain ⟨qualifier, localName, hl⟩ := Token.lexeme_of_prefixedName ht
  rw [Apart, joins_token (not_is ht (by decide)), continuesSequence, hl]
  dsimp only
  rw [hr.any]
  rfl

theorem accepts_elements {p : Parser α} {r : List Token} (htype : Closes type) (hr : At type r)
    (h : Accepts p r r) : Accepts (skipAnnotationElements >>= fun _ => p) r r := by
  intro s hs
  have hno : startsElement s.rest = false := by
    rw [hs]
    exact Parser.not_startsElement (hr.notAt (htype.ne (by decide)))
  rw [elements_of_not _ hno]
  exact h s hs

/-- An annotation that is closed at once. -/
abbrev addedAnnotation : List Token :=
  [added (.symbol .leftBracket), added (.symbol .rightBracket)]

/-- Where an annotation stands one does still. -/
def KeepsAnnotation (r r' : List Token) : Prop :=
  At (.symbol .leftBracket) r → At (.symbol .leftBracket) r'

theorem keepsAnnotation_append {passed r r' : List Token}
    (h : passed = [] → KeepsAnnotation r r') : KeepsAnnotation (passed ++ r) (passed ++ r') := by
  cases passed with
  | nil => exact h rfl
  | cons t passed => exact id

theorem completable_element (htype : Closes type) {p : Parser α}
    (h : Completable k p (At type) (Look (At type)) (BareResumes type))
    (hx : ∀ r, At type r → Accepts p r r) :
    Completable k (skipAnnotations >>= fun _ => p) (At type) (Look (At type)) KeepsAnnotation := by
  refine .annotated (x := addedAnnotation) (fun s hs _ => h s hs) (fun r r' hr h => (h hr).1)
    (fun passed r r' _ hr _ => keepsAnnotation_append fun _ hat => ?_)
    fun passed old r hpassed _ hr => ⟨keepsAnnotation_append fun _ _ => ⟨_, rfl, is_added _⟩, ?_⟩
  · exact absurd hat.any (Bool.eq_false_iff.mp hr)
  · have hadded : Annotations addedAnnotation := @Annotations.cons _ [] _ [] rfl .nil rfl .nil
    rw [← List.append_assoc]
    exact (hx r hr).annotated (hpassed.append hadded) (hr.notAt (htype.ne (by decide)))

theorem completable_elements (htype : Closes type) {p : Parser α}
    (h : Completable k p (At type) (Look (At type)) (Settles type))
    (hx : ∀ r, At type r → Accepts p r r) :
    Completable k (skipAnnotationElements >>= fun _ => p) (At type) (Look (At type))
      (BareResumes type) := by
  induction k using Nat.strongRecOn with
  | ind k ih =>
    intro s hs
    cases hstarts : startsElement s.rest with
    | false =>
      refine (h s hs).congr (elements_of_not _ hstarts) fun r hr =>
        ⟨hr.bareResumes htype, fun u hu => elements_of_not _ ?_⟩
      rw [hu]
      exact hr.not_startsElement htype
    | true =>
      cases hrest : s.rest with
      | nil =>
        rw [hrest] at hstarts
        cases hstarts
      | cons t rest =>
        rw [hrest, startsElement_cons, Bool.and_eq_true, ← at_iff] at hstarts
        obtain ⟨ht, hat⟩ := hstarts
        obtain ⟨hpos, hlength⟩ := length_of_cons hrest hs
        have hx' (r : List Token) (hr : At type r) := accepts_elements htype hr (hx r hr)
        have hbelow := ih (k - 1) (Nat.sub_one_lt_of_lt hpos) (h.le (Nat.sub_le k 1))
        have hbody := completable_element htype hbelow hx' { s with rest } hlength
        have hgo : Continues (advance >>= fun _ => skipAnnotations >>= fun _ =>
            skipAnnotationElements >>= fun _ => p) (At type) (Look (At type))
            (fun _ r' => ∃ ts, r' = t :: ts ∧ KeepsAnnotation rest ts) s :=
          hbody.behind hrest (fun u rest hu => advance_of_cons _ hu) fun r hr => ⟨r, rfl, hr⟩
        have hrun {u : Progress} {ts : List Token} (hu : u.rest = t :: ts)
            (hts : At (.symbol .leftBracket) ts) : (skipAnnotationElements >>= fun _ => p) u =
              (advance >>= fun _ => skipAnnotations >>= fun _ =>
                skipAnnotationElements >>= fun _ => p) u := by
          have hstarts : startsElement (t :: ts) = true := by
            rw [startsElement_cons, ht, Bool.true_and, hts.any]
          rw [elements_at _ hu hstarts, advance_of_cons _ hu]
        refine hgo.congr (hrun hrest hat) fun r hr => ?_
        obtain ⟨ts, rfl, hkeeps⟩ := hr
        have hts := hkeeps hat
        rw [hrest]
        exact ⟨fun hbare => ⟨hbare, .inr ⟨rfl, fun _ => apart_of_element ht hts⟩⟩,
          fun u hu => hrun hu hts⟩

theorem completable_components (htype : Closes type)
    (hnone : ∀ s, s.rest = [] → (current >>= f) s = fail .missingDefinition s)
    (hprogress : ∀ s c t, (current >>= f) s = .ok c t → t.rest.length < s.rest.length)
    (hopening : ∀ j, j ≤ k → ∀ o, Opening j o (f o)) :
    Completable k (componentsOf (current >>= f) type) (At type) (Look (At type))
      (Resumes (At type)) := by
  induction k using Nat.strongRecOn with
  | ind k ih =>
    have hturn := completable_turn htype (hopening k (Nat.le_refl k))
      (fun hpos => ih (k - 1) (Nat.sub_one_lt_of_lt hpos) fun j hj =>
        hopening j (hj.trans (Nat.sub_le k 1))) fun r hr => accepts_components htype hr
    have hx (r : List Token) (hr : At type r) : Accepts (skipAnnotationElements >>= fun _ =>
        turn type (current >>= f) (componentsOf (current >>= f) type)) r r :=
      accepts_elements htype hr (accepts_turn hr)
    have helements := completable_elements htype hturn fun r hr => accepts_turn hr
    rw [components_eq hnone hprogress, componentsStep]
    refine .annotated (x := []) (fun s hs _ => helements s hs) (fun r r' hr h => (h hr).1)
      (fun passed r r' hpassed hr h => h.annotated htype hpassed hr)
      fun passed old r hpassed _ hr =>
        ⟨?_, (hx r hr).annotated hpassed (hr.notAt (htype.ne (by decide)))⟩
    cases passed with
    | nil => exact .inl hr
    | cons t passed =>
      refine .inr ⟨rfl, fun _ => ?_⟩
      rw [Apart, joins_append hpassed]
      exact (At.patternEnds htype hr).apart

end

/-! Components -/

theorem apart_of_keyword {t : Token} {word : Keyword} (ht : t.lexeme = .keyword word)
    (hword : word ∈ [.start, .div, .incl]) (r : List Token) : Apart (t :: r) := by
  have hbare : t.is (.symbol .leftBracket) = false := not_is (is_of_lexeme ht) nofun
  rw [Apart, joins_token hbare, continuesSequence, ht]
  dsimp only
  revert hword
  cases word <;> decide

/-- A name in front of an assignment is joined to nothing. -/
theorem apart_of_assigned {t : Token} {name : String} (ht : t.lexeme = .identifier name)
    {r r' : List Token} (h : Look (Led [.symbol .assign]) r r') (hapart : Apart (t :: r)) :
    Apart (t :: r') := by
  have hbare : t.is (.symbol .leftBracket) = false := not_is (is_of_lexeme ht) nofun
  rw [Apart, joins_token hbare, continuesSequence, ht] at hapart ⊢
  dsimp only at hapart ⊢
  obtain hsame | ⟨op, hop, hl⟩ := h
  · rwa [hsame]
  · rw [hop, Option.bind_some, assignment?, List.mem_singleton.mp hl]
    rfl

section

variable {setting : Setting} {level : Level} (hready : level.Ready)

include hready

theorem opening_define {head : Token}
    (hprimary : Parser.Completable k level.primary PatternEnds (Look PatternEnds) Onset)
    (hname : head.is .prefixedName = false) (name : DefineName)
    (hapart : ∀ r r', Look (Led [.symbol .assign]) r r' → Apart (head :: r) →
      Apart (head :: r')) :
    Opening k (some head) (defineWith setting level.primary head name) := by
  have hpattern := completable_pattern hready hprimary
  refine .goes rfl hname (fun _ => ?_) hapart
  refine .current (x := [added (.symbol .assign), added (.keyword .empty)]) (fun r hr => ?_)
    fun o => ?_
  · have hempty : Accepts level.pattern ([added (.keyword .empty)] ++ r) r :=
      accepts_pattern hready (hready.primary r hr) hr
    exact .current rfl hempty.andThen
  · cases hassignment : o.bind assignment? with
    | none =>
      exact .fails _ fun _ _ _ _ => .inr (led_added (List.mem_singleton_self _) _)
    | some operator =>
      obtain ⟨op, rfl, -⟩ := Option.bind_eq_some_iff.mp hassignment
      exact .goes rfl (fun _ => (hpattern.le (by omega)).andThen) fun r r' _ => look_cons _ op r r'

omit hready in
/-- The overrides behind an include, if there are any. -/
theorem completable_overrides {p : Parser (List Component)} (f : List Component → Component)
    (h : Parser.Completable k p (At (.symbol .rightBrace)) (Look (At (.symbol .rightBrace)))
      (Resumes (At (.symbol .rightBrace)))) :
    Parser.Completable k (accept (.symbol .leftBrace) >>= fun b =>
      if b = true then p >>= fun cs => expectSymbol .rightBrace >>= fun _ => pure (f cs)
      else pure (f [])) PatternEnds (Look PatternEnds) (Look PatternEnds) := by
  refine .accept (fun _ => (h.le (Nat.sub_le k 1)).bind (x := [added (.symbol .rightBrace)])
    (fun cs => (completable_symbol .rightBrace (fun t r r' _ _ => look_cons _ t r r')
      fun _ r _ => .inr ⟨_, rfl, is_added _⟩).andThen) fun r _ => ?_)
    (fun t r r' _ _ => look_cons _ t r r') (completable_pure _) fun r r' hr hrr' =>
      ⟨hrr', hrr'.notAt (fun r h => h.notAt (by decide)) hr⟩
  exact ⟨⟨_, rfl, is_added _⟩, fun cs => (accepts_symbol .rightBrace r).andThen⟩

omit hready in
theorem accepts_overrides {p : Parser (List Component)} (f : List Component → Component)
    {r : List Token} (hr : PatternEnds r) : Accepts (accept (.symbol .leftBrace) >>= fun b =>
      if b = true then p >>= fun cs => expectSymbol .rightBrace >>= fun _ => pure (f cs)
      else pure (f [])) r r :=
  .refuse (hr.notAt (by decide)) (accepts_pure _ r)

theorem opening_component {overrides : Option (Parser (List Component))}
    (hprimary : Parser.Completable k level.primary PatternEnds (Look PatternEnds) Onset)
    (hnext : level.CompletableBelow k) (hoverrides : ∀ p, overrides = some p →
      Parser.Completable k p (At (.symbol .rightBrace)) (Look (At (.symbol .rightBrace)))
        (Resumes (At (.symbol .rightBrace)))) :
    ∃ f, componentWith setting level.primary (some level) overrides = current >>= f ∧
      ∀ j, j ≤ k → ∀ o, Opening j o (f o) := by
  refine ⟨_, rfl, fun j hj o => ?_⟩
  have hkeyword {head : Token} {word : Keyword} (hl : head.lexeme = .keyword word) :
      head.is .prefixedName = false := not_is (is_of_lexeme hl) nofun
  cases o with
  | none => exact .fails _
  | some head =>
    dsimp only
    cases hl : head.lexeme with
    | identifier name =>
      exact opening_define hready (hprimary.le hj) (not_is (is_of_lexeme hl) nofun) _
        fun r r' => apart_of_assigned hl
    | keyword word =>
      cases word with
      | start =>
        exact opening_define hready (hprimary.le hj) (hkeyword hl) _ fun r r' _ _ =>
          apart_of_keyword hl (by decide) r'
      | div =>
        refine .goes rfl (hkeyword hl) (fun _ => completable_block hready (fun i hi => ?_)
          overrides.isSome _) fun r r' _ _ => apart_of_keyword hl (by decide) r'
        exact hnext i (by omega)
      | incl =>
        cases overrides with
        | none => exact .fails _
        | some p =>
          refine .goes (M := Unseen) rfl (hkeyword hl) (fun _ => ?_) fun r r' _ _ =>
            apart_of_keyword hl (by decide) r'
          have hoverrides (f : List Component → Component) :=
            completable_overrides f ((hoverrides p rfl).le (show j - 1 ≤ k by omega))
          have hinclude : Parser.Completable (j - 1) _ PatternEnds (Look PatternEnds) Unseen :=
            (completable_literalOr (j - 1) .missingIncludeHref).unseen.bind (x := [])
              (fun href => (completable_inheritance (j - 1)).bind (x := [])
                (fun inherit => hoverrides (.incl href inherit · head.span))
                fun r hr => ⟨hr, fun _ => accepts_overrides _ hr⟩)
              fun r hr => ⟨hr, fun _ => (accepts_inheritance hr).bind fun _ =>
                accepts_overrides _ hr⟩
          exact hinclude.mono (fun _ => id) (fun _ _ h => h.look) fun _ _ => id
      | _ => exact .fails _
    | _ => exact .fails _

end

end RelaxCompact.Parser
