import RelaxCompact.Proofs.Completing.Constructs

/-!
Patterns that fail no earlier than they have to. Behind a pattern a bracket may be closed; it goes
on with what it sees of the tokens there, an operator or a further particle.
-/

namespace RelaxCompact.Parser

open Surface Run

variable {α : Type} {k : Nat}

/-! Occurrences -/

/-- An occurrence operator behind a pattern, or the end of them. -/
def occurrencesStep (p : Pattern) (next : Pattern → Parser Pattern) : Parser Pattern :=
  current >>= fun o => (o.bind postfixModifier?).elim (pure p) fun m =>
    advance >>= fun _ => next (.unary m p p.span)

theorem occurrences_succ (n : Nat) (p : Pattern) :
    postfixOf.go (n + 1) p = occurrencesStep p (postfixOf.go n) := by
  funext s
  rw [postfixOf.go, occurrencesStep, current_eq, current_eq]
  cases s.rest.head?.bind postfixModifier? <;> rfl

theorem occurrencesStep_later (p : Pattern) (next next' : Pattern → Parser Pattern) (s : Progress)
    (h : ∀ y t, t.rest.length < s.rest.length → next y t = next' y t) :
    occurrencesStep p next s = occurrencesStep p next' s := by
  rw [occurrencesStep, occurrencesStep, current_eq, current_eq]
  cases hmodifier : s.rest.head?.bind postfixModifier? with
  | none => rfl
  | some m =>
    obtain ⟨op, hop, -⟩ := Option.bind_eq_some_iff.mp hmodifier
    obtain ⟨rest, hrest⟩ := List.head?_eq_some_iff.mp hop
    rw [Option.elim_some, Option.elim_some, advance_of_cons _ hrest, advance_of_cons _ hrest]
    refine h _ _ ?_
    rw [hrest]
    exact Nat.lt_succ_self _

theorem occurrences_eq (p : Pattern) :
    loop postfixOf.go p = occurrencesStep p (loop postfixOf.go) :=
  loop_eq occurrences_succ occurrencesStep_later p

theorem postfix_eq (primary : Parser Pattern) :
    postfixOf primary = primary >>= loop postfixOf.go := by
  have hturns (p : Pattern) : (remaining >>= fun n => postfixOf.go n p) = loop postfixOf.go p := by
    refine turns_eq occurrences_succ occurrencesStep_later (fun p next s hs => ?_) p
    rw [occurrencesStep, current_eq, hs]
    rfl
  exact congrArg (primary >>= ·) (funext hturns)

theorem PatternEnds.no_modifier {r : List Token} (h : PatternEnds r) :
    r.head?.bind postfixModifier? = none := by
  obtain ⟨t, ht, hl⟩ := h
  rw [ht, Option.bind_some, postfixModifier?]
  simp only [List.mem_cons, List.not_mem_nil, or_false] at hl
  obtain hl | hl | hl := hl <;> rw [hl]

theorem accepts_occurrences (p : Pattern) {r : List Token} (hr : PatternEnds r) :
    Accepts (loop postfixOf.go p) r r := by
  intro s hs
  refine ⟨p, s, ?_, hs⟩
  rw [occurrences_eq, occurrencesStep, current_eq, hs, hr.no_modifier]
  rfl

theorem symbol_of_modifier {t : Token} {m : Modifier} (h : postfixModifier? t = some m) :
    ∃ sym, t.is (.symbol sym) = true ∧ sym ≠ .leftBracket ∧ sym ≠ .leftParen := by
  unfold postfixModifier? at h
  split at h
  next hl => exact ⟨_, is_of_lexeme hl, by decide⟩
  next hl => exact ⟨_, is_of_lexeme hl, by decide⟩
  next hl => exact ⟨_, is_of_lexeme hl, by decide⟩
  next => cases h

theorem completable_occurrences (k : Nat) (p : Pattern) :
    Completable k (loop postfixOf.go p) PatternEnds (Resumes PatternEnds)
      (Resumes PatternEnds) := by
  induction k using Nat.strongRecOn generalizing p with
  | ind k ih =>
    have hx (r : List Token) (hr : PatternEnds r) := accepts_occurrences p hr
    rw [occurrences_eq] at hx ⊢
    refine .current (x := []) hx fun o => ?_
    cases hmodifier : o.bind postfixModifier? with
    | none =>
      refine .stays fun old r hold hr => ⟨hr, ?_⟩
      have hnone : r.head?.bind postfixModifier? = none := by
        obtain hr | ⟨hsame, -⟩ := hr
        · exact hr.no_modifier
        · rw [hsame, hold, hmodifier]
      rw [hnone]
      rfl
    | some m =>
      obtain ⟨op, rfl, hop⟩ := Option.bind_eq_some_iff.mp hmodifier
      obtain ⟨sym, ht, hsym⟩ := symbol_of_modifier hop
      exact .goes rfl (fun hpos => ih (k - 1) (Nat.sub_one_lt_of_lt hpos) _) fun r r' _ =>
        resumes_symbol _ hsym ht r r'

theorem accepts_postfixOf {primary : Parser Pattern} {x r : List Token}
    (h : Accepts primary (x ++ r) r) (hr : PatternEnds r) :
    Accepts (postfixOf primary) (x ++ r) r := by
  rw [postfix_eq]
  exact h.bind fun p => accepts_occurrences p hr

theorem completable_postfixOf {primary : Parser Pattern}
    (h : Completable k primary PatternEnds (Look PatternEnds) Onset) :
    Completable k (postfixOf primary) PatternEnds (Resumes PatternEnds) Onset := by
  rw [postfix_eq]
  have hprimary : Completable k primary PatternEnds (Resumes PatternEnds) Onset :=
    h.mono (fun _ => id) (fun _ _ => Resumes.look) fun _ _ => id
  exact hprimary.bind (x := []) (completable_occurrences k) fun r hr =>
    ⟨hr, fun p => accepts_occurrences p hr⟩

/-! Sequences -/

/-- A particle behind a pattern, or the end of the sequence. -/
def sequenceStep (primary : Parser Pattern) (left : Pattern) (next : Pattern → Parser Pattern) :
    Parser Pattern :=
  accept (.symbol .comma) >>= fun b => startsParticle >>= fun b' =>
    if (b || b') = true then
      postfixOf primary >>= fun right => next (.binary .group left right left.span)
    else pure left

section

variable {primary : Parser Pattern}
  (hprogress : ∀ s p t, primary s = .ok p t → t.rest.length < s.rest.length)

include hprogress

theorem postfix_progress {s t : Progress} {p : Pattern} (h : postfixOf primary s = .ok p t) :
    t.rest.length < s.rest.length := by
  rw [postfix_eq] at h
  obtain ⟨p, u, hprimary, hloop⟩ := bind_ok h
  obtain ⟨read, hread, -⟩ := (completable_occurrences u.rest.length p u (Nat.le_refl _)).again hloop
  have hu := hprogress s p u hprimary
  rw [hread, List.length_append] at hu
  omega

theorem sequenceStep_later (left : Pattern) (next next' : Pattern → Parser Pattern) (s : Progress)
    (h : ∀ y t, t.rest.length < s.rest.length → next y t = next' y t) :
    sequenceStep primary left next s = sequenceStep primary left next' s := by
  refine bind_later fun b t ht => bind_later fun b' u hu => ?_
  have hle : u.rest.length ≤ s.rest.length :=
    (Plain.startsParticle.forward.length_le hu).trans ((Plain.accept _).forward.length_le ht)
  cases b || b' with
  | false => rfl
  | true =>
    exact bind_later fun right v hv =>
      h _ v (Nat.lt_of_lt_of_le (postfix_progress hprogress hv) hle)

theorem sequence_loop_eq (left : Pattern) : loop (sequenceOf.go primary) left =
    sequenceStep primary left (loop (sequenceOf.go primary)) :=
  loop_eq (fun _ _ => rfl) (sequenceStep_later hprogress) left

theorem sequence_eq :
    sequenceOf primary = postfixOf primary >>= loop (sequenceOf.go primary) := by
  have hturns (left : Pattern) : (remaining >>= fun n => sequenceOf.go primary n left) =
      loop (sequenceOf.go primary) left := by
    refine turns_eq (fun _ _ => rfl) (sequenceStep_later hprogress) (fun left next s hs => ?_) left
    have hno : NotAt (.symbol .comma) s.rest := by
      rw [hs]
      rfl
    have hapart : joins s.rest = false := by
      rw [hs, joins, afterAnnotations]
      rfl
    rw [sequenceStep, bind_of_ok (accept_of_not_at hno), bind_of_ok (startsParticle_eq s), hapart]
    rfl
  exact congrArg (postfixOf primary >>= ·) (funext hturns)

theorem sequence_loop_comma {s : Progress} {t : Token} {rest : List Token} (left : Pattern)
    (hs : s.rest = t :: rest) (ht : t.is (.symbol .comma) = true) :
    loop (sequenceOf.go primary) left s = (postfixOf primary >>= fun right =>
      loop (sequenceOf.go primary) (.binary .group left right left.span)) { s with rest } := by
  rw [sequence_loop_eq hprogress, sequenceStep, bind_of_ok (accept_of_at hs ht),
    bind_of_ok (startsParticle_eq _)]
  rfl

theorem sequence_loop_joined {s : Progress} (left : Pattern) (hno : NotAt (.symbol .comma) s.rest)
    (hjoins : joins s.rest = true) :
    loop (sequenceOf.go primary) left s = (postfixOf primary >>= fun right =>
      loop (sequenceOf.go primary) (.binary .group left right left.span)) s := by
  rw [sequence_loop_eq hprogress, sequenceStep, bind_of_ok (accept_of_not_at hno),
    bind_of_ok (startsParticle_eq _), hjoins]
  rfl

omit hprogress in
theorem sequence_loop_stop {s : Progress} (left : Pattern) (hno : NotAt (.symbol .comma) s.rest)
    (hapart : Apart s.rest) : loop (sequenceOf.go primary) left s = .ok left s :=
  sequence_stop primary _ left hno hapart

omit hprogress in
theorem accepts_sequence_loop (left : Pattern) {r : List Token} (hr : PatternEnds r) :
    Accepts (loop (sequenceOf.go primary) left) r r := by
  intro s hs
  rw [← hs] at hr
  exact ⟨left, s, sequence_loop_stop left (hr.notAt (by decide)) hr.apart, hs⟩

theorem completable_sequence_loop
    (h : Completable k primary PatternEnds (Look PatternEnds) Onset) (left : Pattern) :
    Completable k (loop (sequenceOf.go primary) left) PatternEnds (Resumes PatternEnds)
      (Resumes PatternEnds) := by
  have hparticle := completable_postfixOf h
  -- A turn of the loop leaves fewer tokens ahead, also where a particle is joined without a comma.
  have hloop (n : Nat) (hn : n ≤ k) : ∀ left, Completable n (loop (sequenceOf.go primary) left)
      PatternEnds (Resumes PatternEnds) (Resumes PatternEnds) := by
    induction n using Nat.strongRecOn with
    | ind n ih =>
      intro left s hs
      have hturn {u : Progress} (hu : u.rest.length ≤ n) :
          Continues (postfixOf primary >>= fun right =>
            loop (sequenceOf.go primary) (.binary .group left right left.span)) PatternEnds
            (Resumes PatternEnds) Onset u := by
        refine (hparticle u (hu.trans hn)).bind (x := []) (fun right v hv => ?_) fun r hr =>
          ⟨hr, fun _ => accepts_sequence_loop _ hr⟩
        have hlt := Nat.lt_of_lt_of_le (postfix_progress hprogress hv) hu
        exact ih v.rest.length hlt ((Nat.le_of_lt hlt).trans hn) _ v (Nat.le_refl _)
      obtain hno | ⟨t, rest, hrest, ht⟩ := notAt_or (.symbol .comma) s.rest
      · cases hjoins : joins s.rest with
        | true =>
          refine (hturn hs).congr (sequence_loop_joined hprogress left hno hjoins) fun r hr => ?_
          obtain ⟨hjoins', hsame⟩ := hr hjoins
          refine ⟨.inr ⟨hsame, fun hapart => absurd (hjoins.symm.trans hapart) (by decide)⟩,
            fun u hu => sequence_loop_joined hprogress left ?_ (hu ▸ hjoins')⟩
          rwa [NotAt, hu, hsame]
        | false =>
          refine (continues_pure left s).congr (sequence_loop_stop left hno hjoins) fun r hr => ?_
          refine ⟨hr, fun u hu => ?_⟩
          have hno' : NotAt (.symbol .comma) u.rest :=
            hu ▸ hr.look.notAt (fun r h => h.notAt (by decide)) hno
          refine sequence_loop_stop left hno' ?_
          rw [hu]
          obtain hends | ⟨-, hapart⟩ := hr
          · exact hends.apart
          · exact hapart hjoins
      · obtain ⟨-, hlength⟩ := length_of_cons hrest hs
        have hlength' := hlength.trans (Nat.sub_le n 1)
        exact (hturn (u := { s with rest }) hlength').behind hrest
          (fun u rest hu => sequence_loop_comma hprogress left hu ht)
          fun r _ => resumes_symbol _ (by decide) ht _ r
  exact hloop k (Nat.le_refl k) left

end

/-! Patterns -/

theorem Resumes.notAt_operator {op : Symbol} (hop : op ≠ .rightParen ∧ op ≠ .rightBrace)
    {r r' : List Token} (h : Resumes PatternEnds r r') (hr : NotAt (.symbol op) r) :
    NotAt (.symbol op) r' := by
  refine h.look.notAt (fun r h => h.notAt ?_) hr
  cases op <;> simp_all [Lexeme.type]

section

variable {setting : Setting} {level : Level} (hready : level.Ready)

include hready

theorem Level.Ready.forwardSequence : Forward (sequenceOf level.primary) :=
  forward_of_returning (lifting_returning.sequenceOf hready.returning.primary)

theorem Level.Ready.forwardInterleave : Forward (interleaveOf level.primary) :=
  forward_of_returning (lifting_returning.chain
    (lifting_returning.sequenceOf hready.returning.primary))

theorem accepts_pattern {x r : List Token} (h : Accepts level.primary (x ++ r) r)
    (hr : PatternEnds r) : Accepts level.pattern (x ++ r) r := by
  have hsequence : Accepts (sequenceOf level.primary) (x ++ r) r := by
    rw [sequence_eq hready.progress]
    exact (accepts_postfixOf h hr).bind fun _ => accepts_sequence_loop _ hr
  have hinterleave : Accepts (interleaveOf level.primary) (x ++ r) r := by
    exact accepts_chain hready.forwardSequence hsequence (hr.notAt (by decide))
  exact accepts_chain hready.forwardInterleave hinterleave (hr.notAt (by decide))

theorem completable_pattern
    (h : Parser.Completable k level.primary PatternEnds (Look PatternEnds) Onset) :
    Parser.Completable k level.pattern PatternEnds (Resumes PatternEnds) Onset := by
  have hsequence : Parser.Completable k (sequenceOf level.primary) PatternEnds
      (Resumes PatternEnds) Onset := by
    rw [sequence_eq hready.progress]
    exact (completable_postfixOf h).bind (x := [])
      (completable_sequence_loop hready.progress h) fun r hr =>
        ⟨hr, fun _ => accepts_sequence_loop _ hr⟩
  have hinterleave : Parser.Completable k (interleaveOf level.primary) PatternEnds
      (Resumes PatternEnds) Onset :=
    completable_chain hready.forwardSequence hsequence (fun r hr => hr.notAt (by decide))
      (fun r r' hr hrr' => hrr'.notAt_operator (by decide) hr)
      fun t r r' ht => resumes_symbol _ (by decide) ht r r'
  exact completable_chain hready.forwardInterleave hinterleave (fun r hr => hr.notAt (by decide))
    (fun r r' hr hrr' => hrr'.notAt_operator (by decide) hr)
    fun t r r' ht => resumes_symbol _ (by decide) ht r r'

variable (hnext : level.CompletableBelow k)

theorem accepts_bracedPattern (r : List Token) :
    Accepts (bracedPattern setting (some level)) (added (.symbol .leftBrace) ::
      added (.keyword .empty) :: added (.symbol .rightBrace) :: r) r := by
  have hends : PatternEnds (added (.symbol .rightBrace) :: r) := patternEnds_symbol (by decide) r
  exact accepts_braced (f := id) (x := [added (.keyword .empty)])
    (accepts_pattern hready (hready.primary _ hends) hends)

include hnext

theorem completable_bracedPattern {P : List Token → Prop} {L : List Token → List Token → Prop} :
    Parser.Completable k (bracedPattern setting (some level)) P L (Look NameEnds) :=
  completable_braced (f := id) (x := [added (.keyword .empty)])
    (fun hpos => completable_pattern hready (hnext.at hpos).primary)
    (fun r => patternEnds_symbol (by decide) r)
    (fun t r r' ht => resumes_symbol _ (by decide) ht r r')
    (fun _ r => .inl (patternEnds_symbol (by decide) r))
    fun r => accepts_pattern hready (hready.primary _ (patternEnds_symbol (by decide) r))
      (patternEnds_symbol (by decide) r)

/-- A block of components. -/
theorem completable_block {P : List Token → Prop} {L : List Token → List Token → Prop}
    (allowInclude : Bool) (f : List Component → α) :
    Parser.Completable k (expectSymbol .leftBrace >>= fun _ =>
      enclosed (level.components allowInclude (.symbol .rightBrace)) >>= fun cs =>
        expectSymbol .rightBrace >>= fun _ => pure (f cs)) P L (Look NameEnds) :=
  completable_braced (x := [])
    (fun hpos => (hnext.at hpos).components allowInclude _ (.inl rfl))
    (fun _ => ⟨_, rfl, is_added _⟩) (fun t r r' _ => look_cons _ t r r')
    (fun _ _ => .inr ⟨_, rfl, is_added _⟩)
    fun _ => hready.components allowInclude _ (.inl rfl) _ ⟨_, rfl, is_added _⟩

end

/-! Primaries -/

/-- Where no annotation stands, none does still, and a pattern that is joined still is. -/
def BareOnset (r r' : List Token) : Prop :=
  NotAt (.symbol .leftBracket) r → NotAt (.symbol .leftBracket) r' ∧ Onset r r'

theorem BareOnset.annotated {passed r r' : List Token} (h : BareOnset r r')
    (hpassed : Annotations passed) (hr : NotAt (.symbol .leftBracket) r) :
    Onset (passed ++ r) (passed ++ r') := by
  intro hjoins
  rw [joins_append hpassed] at hjoins ⊢
  obtain ⟨hjoins', hsame⟩ := (h hr).2 hjoins
  refine ⟨hjoins', ?_⟩
  cases passed with
  | nil => exact hsame
  | cons => rfl

theorem onset_of_unclosed {passed old r' : List Token} (hpassed : Annotations passed)
    (hunclosed : afterAnnotations old = .error old) : Onset (passed ++ old) r' := by
  intro hjoins
  rw [joins_append hpassed, joins, hunclosed] at hjoins
  cases hjoins

theorem bareOnset_cons {t : Token} {r r' : List Token}
    (h : continuesSequence (t :: r) = true → continuesSequence (t :: r') = true) :
    BareOnset (t :: r) (t :: r') := by
  intro hbare
  refine ⟨hbare, fun hjoins => ⟨?_, rfl⟩⟩
  rw [joins_token hbare] at hjoins ⊢
  exact h hjoins

theorem bareOnset_look {t : Token} {r r' : List Token} (h : Look PatternEnds r r') :
    BareOnset (t :: r) (t :: r') := by
  refine bareOnset_cons fun hcontinues => ?_
  rw [continuesSequence] at hcontinues ⊢
  cases hl : t.lexeme with
  | identifier name =>
    rw [hl] at hcontinues
    obtain hsame | hends := h
    · rwa [hsame]
    · obtain ⟨u, hu, hl⟩ := hends
      simp only [List.mem_cons, List.not_mem_nil, or_false] at hl
      dsimp only
      rw [hu, Option.bind_some, assignment?]
      obtain hl | hl | hl := hl <;> rw [hl] <;> rfl
  | prefixedName qualifier localName =>
    rw [hl] at hcontinues
    have hbracket : NotAt (.symbol .leftBracket) r := (Bool.not_eq_true' _).mp hcontinues
    have hbracket' := h.notAt (fun r h => h.notAt (by decide)) hbracket
    exact (Bool.not_eq_true' _).mpr hbracket'
  | symbol sym =>
    rw [hl] at hcontinues
    cases sym <;> exact hcontinues
  | literal => rfl
  | nsName | keyword | eof =>
    rw [hl] at hcontinues
    exact hcontinues

/-- A keyword or a symbol begins a pattern whatever follows it. -/
theorem bareOnset_keyword {t : Token} {k : Keyword} (ht : t.lexeme = .keyword k)
    (r r' : List Token) : BareOnset (t :: r) (t :: r') := by
  refine bareOnset_cons fun hcontinues => ?_
  rw [continuesSequence, ht] at hcontinues ⊢
  exact hcontinues

theorem bareOnset_leftParen {t : Token} (ht : t.lexeme = .symbol .leftParen) (r r' : List Token) :
    BareOnset (t :: r) (t :: r') := by
  refine bareOnset_cons fun _ => ?_
  rw [continuesSequence, ht]

/-- A pattern is added where none can begin. -/
theorem bareOnset_empty {old : List Token} (h : continuesSequence old = false) (r : List Token) :
    BareOnset old (added (.keyword .empty) :: r) := by
  refine fun hbare => ⟨rfl, fun hjoins => ?_⟩
  have hapart : joins old = false := by
    rw [joins, afterAnnotations_bare hbare]
    exact h
  exact absurd (hjoins.symm.trans hapart) (by decide)

theorem continuesSequence_of_head {old : List Token} {t : Token} (hold : old.head? = some t)
    (h : ∀ rest, continuesSequence (t :: rest) = false) : continuesSequence old = false := by
  obtain ⟨rest, rfl⟩ := List.head?_eq_some_iff.mp hold
  exact h rest

section

variable {setting : Setting} {level : Level} (hready : level.Ready)
  (hnext : level.CompletableBelow k)

theorem accepts_primary {basicName : Parser Surface.NameClass} (r : List Token) :
    Accepts (primaryWith setting basicName (some level)) (added (.keyword .empty) :: r) r :=
  .bare rfl (.current rfl (accepts_pure _ r))

include hready in
theorem Level.Ready.forwardBasicName : Forward (basicNameWith setting (some level)) := by
  refine forward_of_returning
    (lifting_returning.basicName (nests_returning (fun _ he => ?_) setting))
  cases he
  exact hready.returning

include hready hnext in
theorem completable_primary : Parser.Completable k
    (primaryWith setting (basicNameWith setting (some level)) (some level)) PatternEnds
    (Look PatternEnds) Onset := by
  have hprimary (r : List Token) : Accepts
      (primaryWith setting (basicNameWith setting (some level)) (some level))
      ([added (.keyword .empty)] ++ r) r := accepts_primary r
  have hhead (r : List Token) : Accepts _ ([added (.keyword .empty)] ++ r) r :=
    (hprimary r).of_bare rfl
  suffices hbare : Parser.Completable k _ PatternEnds (Look PatternEnds) BareOnset from
    .annotated (x := [added (.keyword .empty)]) (fun s hs _ => hbare s hs)
      (fun _ _ hr h => (h hr).1) (fun passed r r' hpassed hr h => h.annotated hpassed hr)
      fun passed old r hpassed hunclosed _ =>
        ⟨onset_of_unclosed hpassed hunclosed, (hhead r).annotated hpassed rfl⟩
  refine .current (x := [added (.keyword .empty)]) (fun r _ => hhead r) fun o => ?_
  have hfails {t : Token} (h : ∀ rest, continuesSequence (t :: rest) = false) (old r : List Token)
      (hold : old.head? = some t) (_ : PatternEnds r) :
      BareOnset old (added (.keyword .empty) :: r) :=
    bareOnset_empty (continuesSequence_of_head hold h) r
  have hbraced {j : Nat} (hj : j ≤ k) (f : Pattern → Pattern) : Parser.Completable j
      (bracedPattern setting (some level) >>= fun p => pure (f p)) PatternEnds
      (Look PatternEnds) (Look NameEnds) :=
    (completable_bracedPattern hready fun i hi => hnext i (Nat.lt_of_lt_of_le hi hj)).andThen
  have hnamed (f : Surface.NameClass → Pattern → Pattern) : Parser.Completable (k - 1)
      (nameClassOf (basicNameWith setting (some level)) >>= fun name =>
        bracedPattern setting (some level) >>= fun p => pure (f name p)) PatternEnds
      (Look PatternEnds) Unseen :=
    (completable_nameClass hready.forwardBasicName
      (completable_basicName hready hnext.pred)).bind
      (x := [added (.symbol .leftBrace), added (.keyword .empty), added (.symbol .rightBrace)])
      (fun name => hbraced (Nat.sub_le k 1) _)
      fun r _ => ⟨led_added (List.mem_cons_self ..) _, fun name =>
        (accepts_bracedPattern hready r).andThen⟩
  cases o with
  | none =>
    refine .fails _ fun old r hold _ => bareOnset_empty ?_ r
    rw [List.head?_eq_none_iff.mp hold]
    rfl
  | some head =>
    dsimp only
    cases hl : head.lexeme with
    | identifier name =>
      exact .goes rfl (fun _ => completable_pure _) fun r r' => bareOnset_look
    | prefixedName qualifier localName =>
      exact .goes rfl (fun _ => completable_datatypePattern hnext.pred _ _) fun r r' =>
        bareOnset_look
    | literal text =>
      have hvalue : Parser.Completable (k - 1) (loop literal.segments head.value >>= fun text =>
          pure (Pattern.value text ⟨none, "token"⟩ head.span)) PatternEnds (Look PatternEnds)
          (Look PatternEnds) :=
        (completable_literal_loop _ _).andThen
      exact .reads rfl (fun s rest hs => bind_of_eq (literal_of_cons hs (is_of_lexeme hl)) _)
        (fun _ => hvalue) fun r r' => bareOnset_look
    | symbol sym =>
      cases sym with
      | leftParen =>
        refine .goes (M := Unseen) rfl (fun hpos => ?_) fun r r' _ => bareOnset_leftParen hl r r'
        exact completable_delimited (completable_pattern hready (hnext.at hpos).primary).unseen
          (fun r => patternEnds_symbol (by decide) r)
          (fun t r r' ht => resumes_symbol _ (by decide) ht r r')
          fun _ r => .inl (patternEnds_symbol (by decide) r)
      | _ => exact .fails _ (hfails fun rest => by rw [continuesSequence, hl])
    | keyword word =>
      cases word with
      | element | attr =>
        exact .goes rfl (fun _ => hnamed _) fun r r' _ => bareOnset_keyword hl r r'
      | list | mixed =>
        exact .goes rfl (fun _ => hbraced (Nat.sub_le k 1) _) fun r r' _ =>
          bareOnset_keyword hl r r'
      | empty | text | notAllowed =>
        exact .goes rfl (fun _ => completable_pure _) fun r r' => bareOnset_look
      | parent =>
        refine .goes (M := Unseen) rfl (fun _ => ?_) fun r r' _ => bareOnset_keyword hl r r'
        exact (completable_expect .identifier _ (is_added addedName.lexeme)
          (fun _ _ _ _ _ => trivial) fun _ _ _ => trivial).andThen
      | external =>
        refine .goes (M := Unseen) rfl (fun _ => ?_) fun r r' _ => bareOnset_keyword hl r r'
        exact (completable_literalOr _ _).unseen.bind (x := [])
          (fun _ => (completable_inheritance _).andThen)
          fun r hr => ⟨hr, fun _ => (accepts_inheritance hr).andThen⟩
      | grammar =>
        exact .goes rfl (fun _ => completable_block hready hnext.pred true _) fun r r' _ =>
          bareOnset_keyword hl r r'
      | string | token =>
        exact .goes rfl (fun _ => completable_datatypePattern hnext.pred _ _) fun r r' =>
          bareOnset_look
      | _ =>
        refine .fails _ (hfails fun rest => ?_)
        rw [continuesSequence, hl]
        rfl
    | nsName | eof => exact .fails _ (hfails fun rest => by rw [continuesSequence, hl])

end

end RelaxCompact.Parser
