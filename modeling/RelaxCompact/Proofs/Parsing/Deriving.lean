import RelaxCompact.Proofs.Parsing.Consuming

/-!
The parsers of one level take derivations off the tokens ahead, if those of the level below do.
-/

namespace RelaxCompact

open Surface

theorem not_startsDefinition_of_continuesSequence {ts : List Token}
    (h : Parser.continuesSequence ts = true) : ¬ StartsDefinition ts := by
  rintro ⟨t, op, rest, name, rfl, ht, hop⟩
  rw [Parser.continuesSequence, ht] at h
  dsimp only [List.head?_cons, Option.bind_some] at h
  rw [Option.isNone_iff_eq_none] at h
  rw [h] at hop
  cases hop

theorem not_startsElement_of_continuesSequence {ts : List Token}
    (h : Parser.continuesSequence ts = true) : ¬ StartsElement ts := by
  rintro ⟨t, bracket, rest, qualifier, localName, rfl, ht, hbracket⟩
  have hleft : bracket.is (.symbol .leftBracket) = true := by
    rw [Token.is, Token.type, hbracket]
    rfl
  rw [Parser.continuesSequence, ht] at h
  dsimp only [List.head?_cons, Option.any_some] at h
  rw [hleft] at h
  cases h

/-! What constructs begin with -/

/-- The first token that is used stands behind annotations and opens none. -/
def Unbracketed (us : List Used) : Prop :=
  ∃ head vs, us = head :: vs ∧ Annotations head.passed ∧
    head.token.is (.symbol .leftBracket) = false

theorem DerivesLiteral.first {us : List Used} {text : Text} (h : DerivesLiteral us text) :
    ∃ (t : Token) (vs : List Used) (value : Text), us = t.used :: vs ∧
      t.lexeme = .literal value := by
  induction h with
  | single ht => exact ⟨_, [], _, rfl, ht⟩
  | joined _ _ _ ih =>
    obtain ⟨t, vs, value, rfl, ht⟩ := ih
    exact ⟨t, _, value, rfl, ht⟩

theorem NamesDatatype.not_leftBracket {t : Token} {type : Datatype} (h : NamesDatatype t type) :
    t.is (.symbol .leftBracket) = false := by
  rw [Token.is, Token.type]
  cases h with
  | string ht => rw [ht]; rfl
  | token ht => rw [ht]; rfl
  | qualified ht => rw [ht]; rfl

theorem DerivesPrimary.unbracketed {docs : DocLines} {us : List Used} {next : List Token}
    {p : Pattern} (h : DerivesPrimary docs us next p) : Unbracketed us := by
  have hlexeme {head : Used} {vs : List Used} {l : Lexeme} (hpassed : Annotations head.passed)
      (hl : head.token.lexeme = l) (htype : decide (l.type = .symbol .leftBracket) = false) :
      Unbracketed (head :: vs) := by
    refine ⟨head, vs, rfl, hpassed, ?_⟩
    rwa [Token.is, Token.type, hl]
  cases h with
  | value hpassed hnames | data hpassed hnames =>
    exact ⟨_, _, rfl, hpassed, hnames.not_leftBracket⟩
  | literal hpassed hus =>
    obtain ⟨_, _, _, he, hl⟩ := hus.first
    cases he
    exact hlexeme hpassed hl rfl
  | element hpassed hl | attr hpassed hl | list hpassed hl | mixed hpassed hl | empty hpassed hl
  | text hpassed hl | notAllowed hpassed hl | ref hpassed hl | parentRef hpassed hl
  | parenthesized hpassed hl | external hpassed hl | grammar hpassed hl =>
    exact hlexeme hpassed hl rfl

theorem DerivesPostfix.unbracketed {docs : DocLines} {us : List Used} {next : List Token}
    {p : Pattern} (h : DerivesPostfix docs us next p) : Unbracketed us := by
  match h with
  | .primary hprimary => exact hprimary.unbracketed
  | .modified hpostfix _ =>
    obtain ⟨head, vs, rfl, hpassed, hhead⟩ := hpostfix.unbracketed
    exact ⟨head, _, rfl, hpassed, hhead⟩

/-- A sequence goes on without a comma to a construct that its tokens may begin. -/
theorem DerivesSequence.continued {docs : DocLines} {us vs : List Used} {next rest : List Token}
    {left right : Pattern} (hleft : DerivesSequence docs us (written vs ++ next) left)
    (hafter : afterAnnotations (written vs ++ next) = .ok rest)
    (hcontinues : Parser.continuesSequence rest = true)
    (hright : DerivesPostfix docs vs next right) :
    DerivesSequence docs (us ++ vs) next (.binary .group left right left.span) := by
  obtain ⟨head, ws, rfl, hpassed, hhead⟩ := hright.unbracketed
  rw [written, List.append_assoc, afterAnnotations_append hpassed, List.cons_append,
    afterAnnotations_token hhead] at hafter
  cases hafter
  exact .juxtaposed hleft (not_startsDefinition_of_continuesSequence hcontinues)
    (not_startsElement_of_continuesSequence hcontinues) hright

namespace Parser

open Run

variable {α β : Type} {docs : DocLines} {s t : Progress}

/-! The head of a construct -/

/-- From a token on, a parser takes a derivation that begins with the token, whatever is passed over
in front of it. -/
def Heads (A : List Token → Prop) (head : Token) (p : Parser α)
    (R : List Used → List Token → α → Prop) : Prop :=
  ∀ s a t rest, s.rest = head :: rest → p s = .ok a t →
    ∃ us, rest = written us ++ t.rest ∧ ∀ passed, A passed → R (⟨passed, head⟩ :: us) t.rest a

/-- A parser takes a derivation that begins with the current token, whatever is passed over in front
of it. -/
def Headed (A : List Token → Prop) (p : Parser α) (R : List Used → List Token → α → Prop) : Prop :=
  Consumes p fun before a after =>
    ∃ head us, before = head :: (written us ++ after) ∧
      ∀ passed, A passed → R (⟨passed, head⟩ :: us) after a

section

variable {A : List Token → Prop} {head : Token} {p : Parser α}
  {R : List Used → List Token → α → Prop}

theorem heads_advance
    (h : Derives p fun us next a => ∀ passed, A passed → R (⟨passed, head⟩ :: us) next a) :
    Heads A head (advance >>= fun _ => p) R := by
  intro s a t rest hs hrun
  obtain ⟨_, u, hadvance, hthen⟩ := bind_ok hrun
  have hu := advance_ok hadvance
  rw [hs, List.tail_cons] at hu
  obtain ⟨us, hrest, hus⟩ := h u a t hthen
  exact ⟨us, hu ▸ hrest, hus⟩

/-- A construct of one token. -/
theorem heads_pure {a : α} (h : ∀ passed next, A passed → R [⟨passed, head⟩] next a) :
    Heads A head (advance >>= fun _ => pure a) R := by
  refine heads_advance ((derives_pure a).mono fun us next b ⟨hus, hb⟩ passed hpassed => ?_)
  subst hus hb
  exact h passed next hpassed

/-- A token and what is read behind it. -/
theorem heads_andThen {q : Parser β} {f : β → α} {S : List Used → List Token → β → Prop}
    (h : Derives q S) (hR : ∀ passed us next b, A passed → S us next b →
      R (⟨passed, head⟩ :: us) next (f b)) :
    Heads A head (do
      advance
      return f (← q)) R := by
  refine heads_advance (h.andThen.mono fun us next a ⟨b, hus, ha⟩ passed hpassed => ?_)
  subst ha
  exact hR passed us next b hpassed hus

theorem heads_fail (fault : SyntaxFault) : Heads A head (fail fault : Parser α) R :=
  fun _ _ _ _ _ h => (not_fail_ok h).elim

/-- A derivation whose first token may as well stand behind what is passed over. -/
theorem Derives.headed
    (h : Derives p fun us next a => ∃ (t : Token) (vs : List Used), us = t.used :: vs ∧
      ∀ passed, A passed → R (⟨passed, t⟩ :: vs) next a) :
    Headed A p R := by
  intro s a t hrun
  obtain ⟨_, hs, head, vs, rfl, hvs⟩ := h s a t hrun
  exact ⟨head, vs, hs, hvs⟩

theorem headed_current {f : Option Token → Parser α} {fault : SyntaxFault}
    (hnone : f none = fail fault) (hsome : ∀ head, Heads A head (f (some head)) R) :
    Headed A (current >>= f) R := by
  intro s a t h
  replace h := current_bind h
  cases hrest : s.rest with
  | nil =>
    rw [hrest, List.head?_nil, hnone] at h
    exact (not_fail_ok h).elim
  | cons head rest =>
    rw [hrest, List.head?_cons] at h
    obtain ⟨us, hus, hR⟩ := hsome head s a t rest hrest h
    exact ⟨head, us, congrArg _ hus, hR⟩

theorem Headed.annotated (h : Headed Annotations p R) :
    Derives (skipAnnotations >>= fun _ => p) R := by
  intro s a t hs
  obtain ⟨_, u, hskip, hthen⟩ := bind_ok hs
  obtain ⟨annotations, hrest, hannotations⟩ :=
    annotations_of_afterAnnotations (skipAnnotations_ok hskip)
  obtain ⟨head, us, hu, hus⟩ := h u a t hthen
  refine ⟨⟨annotations, head⟩ :: us, ?_, hus annotations hannotations⟩
  rw [hrest, hu, written, List.append_assoc, List.cons_append]

end

theorem consumes_nested {setting : Setting} {next : Option Level} {content : Level → Parser α}
    {P : List Token → α → List Token → Prop}
    (h : ∀ level, next = some level → Consumes (content level) P) :
    Consumes (nested setting next content) P := by
  unfold nested
  cases next with
  | none => exact fun _ _ _ h => (not_fail_ok h).elim
  | some level => exact (h level rfl).enclosed

/-- What is read, up to the symbol behind it. -/
theorem derives_delimited {p : Parser α} {R : List Used → List Token → α → Prop}
    (h : Derives p R) (sym : Symbol) (f : α → β) :
    Derives (do
      let a ← p
      expectSymbol sym
      return f a) fun ws next b =>
        ∃ (us : List Used) (close : Token) (a : α), ws = us ++ [close.used] ∧ b = f a ∧
          R us (close :: next) a ∧ close.lexeme = .symbol sym := by
  refine (h.bind fun a => (derives_expectSymbol sym).andThen).mono fun ws next b hws => ?_
  obtain ⟨us, _, a, rfl, hus, _, ⟨close, rfl, hclose⟩, rfl⟩ := hws
  exact ⟨us, close, a, rfl, rfl, hus, hclose⟩

/-! Name classes -/

theorem derives_nameClassOf {basicName : Parser Surface.NameClass}
    (h : Derives basicName fun us _ c => DerivesBasicName us c) :
    Derives (nameClassOf basicName) fun us _ c => DerivesNameClass us c :=
  derives_chain h (fun _ _ _ => .basic) fun _ _ _ _ _ _ hus ht hvs => .choice hus ht hvs

section

variable {setting : Setting} {next : Option Level}

theorem derives_nameException
    (hnext : ∀ level, next = some level →
      Derives level.basicName fun us _ c => DerivesBasicName us c) :
    Derives (nameException setting next) fun us _ except => DerivesNameException us except := by
  have hbasic : Derives (nested setting next (·.basicName)) fun us _ c => DerivesBasicName us c :=
    consumes_nested hnext
  have hpresent := Derives.andThen (f := some) hbasic
  refine (derives_accept hpresent (derives_pure none)).mono fun us _ except h => ?_
  rcases h with ⟨minus, vs, rfl, hminus, c, hc, rfl⟩ | ⟨rfl, rfl⟩
  · exact .present (Token.lexeme_of_symbol hminus) hc
  · exact .absent

theorem derives_basicNameWith
    (hnext : ∀ level, next = some level →
      Derives level.basicName fun us _ c => DerivesBasicName us c) :
    Derives (basicNameWith setting next) fun us _ c => DerivesBasicName us c := by
  refine Headed.annotated (headed_current rfl fun head => ?_)
  dsimp only
  split
  next name hhead => exact heads_pure fun _ _ hp => .name hp (by rw [nameOf?, hhead])
  next k hhead => exact heads_pure fun _ _ hp => .name hp (by rw [nameOf?, hhead])
  next qualifier localName hhead => exact heads_pure fun _ _ hp => .qualified hp hhead
  next hhead =>
    exact heads_andThen (derives_nameException hnext) fun _ _ _ _ hp hus => .anyName hp hhead hus
  next qualifier hhead =>
    exact heads_andThen (derives_nameException hnext) fun _ _ _ _ hp hus => .nsName hp hhead hus
  next hhead =>
    have hnested : Derives (nested setting next fun level => nameClassOf level.basicName)
        fun us _ c => DerivesNameClass us c :=
      consumes_nested fun level he => derives_nameClassOf (hnext level he)
    have hclass := derives_delimited hnested .rightParen id
    refine heads_advance (hclass.mono fun us _ c h passed hpassed => ?_)
    obtain ⟨vs, close, c, rfl, rfl, hc, hclose⟩ := h
    exact .parenthesized hpassed hhead hc hclose
  next => exact heads_fail _

end

/-! Sequences and what they are made of -/

theorem derives_postfixOf {primary : Parser Pattern}
    (h : Derives primary (DerivesPrimary docs)) :
    Derives (postfixOf primary) (DerivesPostfix docs) := by
  have hgo (n : Nat) (p : Pattern) : Derives (postfixOf.go n p) fun vs next q =>
      ∀ us, DerivesPostfix docs us (written vs ++ next) p →
        DerivesPostfix docs (us ++ vs) next q := by
    induction n generalizing p with
    | zero =>
      refine (derives_pure p).mono fun vs next q ⟨hvs, hq⟩ us hus => ?_
      subst hvs hq
      rwa [List.append_nil]
    | succ n ih =>
      intro s q t hrun
      replace hrun := current_bind hrun
      cases hmodifier : s.rest.head?.bind postfixModifier? with
      | none =>
        rw [hmodifier] at hrun
        obtain ⟨rfl, rfl⟩ := pure_ok hrun
        exact ⟨[], rfl, fun us hus => by rwa [List.append_nil]⟩
      | some modifier =>
        rw [hmodifier] at hrun
        obtain ⟨op, hop, hmodifier⟩ := Option.bind_eq_some_iff.mp hmodifier
        obtain ⟨rest, hrest⟩ := List.head?_eq_some_iff.mp hop
        obtain ⟨_, u, hadvance, hthen⟩ := bind_ok hrun
        have hu := advance_ok hadvance
        rw [hrest, List.tail_cons] at hu
        obtain ⟨vs, huvs, hvs⟩ := ih _ u q t hthen
        refine ⟨op.used :: vs, ?_, fun us hus => ?_⟩
        · rw [hrest, ← hu, huvs]
          rfl
        · have hq := hvs (us ++ [op.used]) (.modified hus hmodifier)
          rwa [List.append_assoc] at hq
  refine (h.bind fun p => .loop fun n => hgo n p).mono fun _ next q hus => ?_
  obtain ⟨us, vs, p, rfl, hus, hvs⟩ := hus
  exact hvs us (.primary hus)

theorem startsParticle_ok {b : Bool} (h : startsParticle s = .ok b t) :
    t = s ∧ (b = true → ∃ rest, afterAnnotations s.rest = .ok rest ∧
      continuesSequence rest = true) := by
  obtain ⟨_, _, hget, hthen⟩ := bind_ok h
  cases hget
  cases hafter : afterAnnotations s.rest with
  | ok rest =>
    rw [hafter] at hthen
    obtain ⟨rfl, rfl⟩ := pure_ok hthen
    exact ⟨rfl, fun hcontinues => ⟨rest, rfl, hcontinues⟩⟩
  | error rest =>
    rw [hafter] at hthen
    obtain ⟨rfl, rfl⟩ := pure_ok hthen
    exact ⟨rfl, nofun⟩

theorem derives_sequenceOf {primary : Parser Pattern}
    (h : Derives primary (DerivesPrimary docs)) :
    Derives (sequenceOf primary) (DerivesSequence docs) := by
  have hgo (n : Nat) (left : Pattern) : Derives (sequenceOf.go primary n left) fun vs next p =>
      ∀ us, DerivesSequence docs us (written vs ++ next) left →
        DerivesSequence docs (us ++ vs) next p := by
    induction n generalizing left with
    | zero =>
      refine (derives_pure left).mono fun vs next p ⟨hvs, hp⟩ us hus => ?_
      subst hvs hp
      rwa [List.append_nil]
    | succ n ih =>
      have hmore := (derives_postfixOf h).bind fun right =>
        ih (.binary .group left right left.span)
      intro s p t hrun
      obtain ⟨comma, u, haccept, hthen⟩ := bind_ok hrun
      obtain ⟨particle, v, hstarts, hbranch⟩ := bind_ok hthen
      obtain ⟨rfl, hparticle⟩ := startsParticle_ok hstarts
      rcases accept_ok haccept with ⟨rfl, token, hs, htype⟩ | ⟨rfl, rfl⟩
      · rw [Bool.true_or, if_pos rfl] at hbranch
        obtain ⟨ws, hu, vs, xs, right, rfl, hvs, hxs⟩ := hmore v p t hbranch
        refine ⟨token.used :: (vs ++ xs), by rw [hs, hu]; rfl, fun us hus => ?_⟩
        have hgroup := @DerivesSequence.comma _ us token _ _ _ _
          (by rwa [← List.append_assoc, ← written_append])
          (Token.lexeme_of_symbol htype) hvs
        have hp := hxs _ hgroup
        rwa [List.append_assoc] at hp
      · rw [Bool.false_or] at hbranch
        split at hbranch
        next htrue =>
          obtain ⟨rest, hafter, hcontinues⟩ := hparticle htrue
          obtain ⟨ws, hu, vs, xs, right, rfl, hvs, hxs⟩ := hmore v p t hbranch
          refine ⟨vs ++ xs, hu, fun us hus => ?_⟩
          rw [written_append, List.append_assoc] at hus hu
          have hp := hxs _ (hus.continued (hu ▸ hafter) hcontinues hvs)
          rwa [List.append_assoc] at hp
        next =>
          obtain ⟨rfl, rfl⟩ := pure_ok hbranch
          exact ⟨[], rfl, fun us hus => by rwa [List.append_nil]⟩
  refine ((derives_postfixOf h).bind fun p => .loop fun n => hgo n p).mono fun _ next q hus => ?_
  obtain ⟨us, vs, p, rfl, hus, hvs⟩ := hus
  exact hvs us (.occurrence hus)

theorem derives_patternOf {primary : Parser Pattern}
    (h : Derives primary (DerivesPrimary docs)) :
    Derives (patternOf primary) (DerivesPattern docs) := by
  have hinterleave : Derives (interleaveOf primary) (DerivesInterleave docs) :=
    derives_chain (derives_sequenceOf h) (fun _ _ _ => .sequence)
      fun _ _ _ _ _ _ hus ht hvs => .interleave hus ht hvs
  exact derives_chain hinterleave (fun _ _ _ => .interleave)
    fun _ _ _ _ _ _ hus ht hvs => .choice hus ht hvs

end Parser

end RelaxCompact
