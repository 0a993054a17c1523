import RelaxCompact.Proofs.Parsing.Rereading

/-!
Patterns that read the same when annotations are added. Where patterns are joined without commas the
tokens ahead are looked at behind their annotations; there a qualified name must not get a bracket
behind it.
-/

namespace RelaxCompact

open Surface

/-! What joins patterns -/

namespace Parser

/-- A pattern may be joined here without a comma. -/
def joins (ts : List Token) : Bool :=
  match afterAnnotations ts with
  | .ok rest => continuesSequence rest
  | .error _ => false

/-- No pattern is joined to one that ends here. -/
abbrev Apart (next : List Token) : Prop := joins next = false

theorem startsParticle_eq (s : Progress) : startsParticle s = .ok (joins s.rest) s := by
  have hget : (get : Parser Progress) s = .ok s s := rfl
  rw [startsParticle, Run.bind_of_ok hget, joins]
  cases afterAnnotations s.rest <;> rfl

theorem joins_append {passed : List Token} (h : Annotations passed) (ts : List Token) :
    joins (passed ++ ts) = joins ts := by
  rw [joins, joins, afterAnnotations_append h]

theorem joins_token {t : Token} (h : t.is (.symbol .leftBracket) = false) (ts : List Token) :
    joins (t :: ts) = continuesSequence (t :: ts) := by
  rw [joins, afterAnnotations_token h]

theorem not_is {t : Token} {a b : TokenType} (h : t.is a = true) (hne : a ≠ b) :
    t.is b = false := by
  rw [Token.is, Token.type, Token.lexeme_of_is h]
  exact decide_eq_false hne

theorem apart_of_symbol {t : Token} {sym : Symbol} (h : t.is (.symbol sym) = true)
    (hsym : sym ≠ .leftBracket ∧ sym ≠ .leftParen) (ts : List Token) : Apart (t :: ts) := by
  have hne : TokenType.symbol sym ≠ .symbol .leftBracket :=
    fun he => hsym.1 (TokenType.symbol.inj he)
  rw [Apart, joins_token (not_is h hne), continuesSequence, Token.lexeme_of_symbol h]
  cases sym <;> first | rfl | exact absurd rfl hsym.2

theorem apart_of_eof {t : Token} (h : t.is .eof = true) (ts : List Token) : Apart (t :: ts) := by
  rw [Apart, joins_token (not_is h (by decide)), continuesSequence, Token.lexeme_of_eof h]

/-- Annotations more do not matter for what is joined, if none is behind a qualified name. -/
theorem continuesSequence_ahead {t : Token} {rest rest' : List Token}
    (h : Ahead (t.is .prefixedName) rest rest')
    (hcontinues : continuesSequence (t :: rest) = true) :
    continuesSequence (t :: rest') = true := by
  rw [continuesSequence] at hcontinues ⊢
  cases hl : t.lexeme with
  | identifier name =>
    rw [hl] at hcontinues
    rcases h with heq | ⟨-, bracket, hbracket, hleft⟩
    · rwa [heq]
    · dsimp only
      rw [hbracket, Option.bind_some, assignment?, hleft]
      rfl
  | prefixedName qualifier localName =>
    rw [hl] at hcontinues
    rcases h with heq | ⟨hclosed, -⟩
    · rwa [heq]
    · exact absurd (hclosed.symm.trans (is_of_lexeme hl)) Bool.false_ne_true
  | symbol sym =>
    rw [hl] at hcontinues
    cases sym <;> exact hcontinues
  | literal => rfl
  | nsName | keyword | eof =>
    rw [hl] at hcontinues
    exact hcontinues

open Run

variable {α β : Type} {setting : Setting} {next : Option Level} {primary : Parser Pattern}

/-! Occurrences -/

theorem again_postfix_stop {bound : Nat} {D : List Token → Prop} {next : List Token} {p : Pattern}
    (h : next.head?.bind postfixModifier? = none) :
    Again bound D (postfixOf.go bound p) [] next p := by
  cases bound with
  | zero => exact again_pure p
  | succ bound =>
    intro s closed closed' w' next' _ hs hw' hnext _
    cases hw'
    have hnone : s.rest.head?.bind postfixModifier? = none := by
      rw [hs, Mark.tokens_nil, List.nil_append]
      rcases hnext with heq | ⟨-, bracket, hbracket, hleft⟩
      · rwa [heq]
      · rw [hbracket, Option.bind_some, postfixModifier?, hleft]
    refine ⟨s, ?_, hs⟩
    rw [postfixOf.go, current_eq, hnone]
    rfl

theorem loops_occurrences (p : Pattern) :
    Loops Anything (postfixOf.go · p) (.many (.one fun t => (postfixModifier? t).isSome)) := by
  intro n
  induction n generalizing p with
  | zero =>
    intro s a t hlength hrun
    have hs : s.rest = [] := List.eq_nil_of_length_eq_zero (Nat.le_zero.mp hlength)
    obtain ⟨rfl, rfl⟩ := pure_ok hrun
    refine ⟨[], rfl, .stop, fun bound => again_postfix_stop ?_⟩
    rw [hs]
    rfl
  | succ n ih =>
    intro s a t hlength hrun
    replace hrun := current_bind hrun
    cases hmodifier : s.rest.head?.bind postfixModifier? with
    | none =>
      rw [hmodifier] at hrun
      obtain ⟨rfl, rfl⟩ := pure_ok hrun
      exact ⟨[], rfl, .stop, fun bound => again_postfix_stop hmodifier⟩
    | some m =>
      rw [hmodifier] at hrun
      obtain ⟨op, hop, hmodifier⟩ := Option.bind_eq_some_iff.mp hmodifier
      obtain ⟨rest, hrest⟩ := List.head?_eq_some_iff.mp hop
      obtain ⟨_, u, hadvance, hthen⟩ := bind_ok hrun
      have hu := advance_ok hadvance
      rw [hrest, List.tail_cons] at hu
      rw [hrest, List.length_cons] at hlength
      obtain ⟨w, hw, hspells, hagain⟩ := ih _ u a t (hu ▸ Nat.le_of_succ_le_succ hlength) hthen
      have hsome : (postfixModifier? op).isSome = true := by
        rw [hmodifier]
        rfl
      refine ⟨op.mark :: w, ?_, .more (.one hsome) hspells, fun bound => ?_⟩
      · rw [hrest, ← hu, hw]
        rfl
      · cases bound with
        | zero => exact again_zero (List.cons_ne_nil _ _)
        | succ bound =>
          change Again (bound + 1) _ (postfixOf.go (bound + 1) p) _ _ _
          rw [postfixOf.go]
          refine again_current ?_
          rw [Option.bind_some, hmodifier]
          exact again_advance (hagain bound) op

theorem rereads_postfixOf (h : Rereads Anything primary (.rule .primary)) :
    Rereads Anything (postfixOf primary) .particle :=
  h.seq fun p => (loops_occurrences p).rereads

/-! Sequences -/

section

variable {s : Progress} {left : Pattern}

theorem accept_of_at {type : TokenType} {t : Token} {rest : List Token} (hs : s.rest = t :: rest)
    (ht : t.is type = true) : accept type s = .ok true { s with rest } := by
  rw [accept_eq, hs, List.head?_cons, Option.any_some, if_pos ht]
  rfl

theorem accept_of_not_at {type : TokenType} (h : s.rest.head?.any (·.is type) = false) :
    accept type s = .ok false s := by
  rw [accept_eq, h, if_neg Bool.false_ne_true]

/-- A turn of the loop behind a comma. -/
theorem sequence_comma (primary : Parser Pattern) (n : Nat) (left : Pattern) {t : Token}
    {rest : List Token} (hs : s.rest = t :: rest) (ht : t.is (.symbol .comma) = true) :
    sequenceOf.go primary (n + 1) left s =
      (postfixOf primary >>= fun right =>
        sequenceOf.go primary n (.binary .group left right left.span))
        { s with rest } := by
  refine (bind_of_ok (accept_of_at hs ht)).trans ?_
  exact (bind_of_ok (startsParticle_eq _)).trans rfl

/-- A turn of the loop without a comma. -/
theorem sequence_joined (primary : Parser Pattern) (n : Nat) (left : Pattern)
    (hcomma : s.rest.head?.any (·.is (.symbol .comma)) = false) (hjoins : joins s.rest = true) :
    sequenceOf.go primary (n + 1) left s =
      (postfixOf primary >>= fun right =>
        sequenceOf.go primary n (.binary .group left right left.span))
        s := by
  refine (bind_of_ok (accept_of_not_at hcomma)).trans ((bind_of_ok (startsParticle_eq _)).trans ?_)
  rw [hjoins]
  rfl

theorem sequence_stop (primary : Parser Pattern) (n : Nat) (left : Pattern)
    (hcomma : s.rest.head?.any (·.is (.symbol .comma)) = false) (hapart : Apart s.rest) :
    sequenceOf.go primary n left s = .ok left s := by
  cases n with
  | zero => rfl
  | succ n =>
    refine (bind_of_ok (accept_of_not_at hcomma)).trans
      ((bind_of_ok (startsParticle_eq _)).trans ?_)
    rw [hapart]
    rfl

end

theorem again_sequence_stop {next : List Token} (bound : Nat) (left : Pattern)
    (hcomma : next.head?.any (·.is (.symbol .comma)) = false) :
    Again bound Apart (sequenceOf.go primary bound left) [] next left := by
  intro s closed closed' w' next' _ hs hw' hnext hD
  cases hw'
  refine ⟨s, sequence_stop primary bound left ?_ ?_, hs⟩
  · rw [hs, Mark.tokens_nil, List.nil_append]
    exact hnext.is_eq_false (by decide) hcomma
  · rw [hs]
    exact hD

theorem opens_barePrimary : Form.barePrimary.Opens (·.is (.symbol .leftBracket) = false) := by
  have htype {type : TokenType} (hne : type ≠ .symbol .leftBracket) :
      (Form.type type).Opens (·.is (.symbol .leftBracket) = false) :=
    Form.opens_one fun t ht => not_is ht hne
  have hkeyword (k : Keyword) : (Form.keyword k).Opens (·.is (.symbol .leftBracket) = false) :=
    htype (by simp)
  refine .alt (.alt (.alt (.alt (.alt (.alt (.alt (.alt (.alt ?_ ?_) ?_) ?_) ?_) ?_) ?_) ?_) ?_) ?_
  · exact ((hkeyword _).alt (hkeyword _)).seq
  · exact ((hkeyword _).alt (hkeyword _)).seq
  · exact ((hkeyword _).alt (hkeyword _)).alt (hkeyword _)
  · exact htype (by decide)
  · exact (hkeyword _).seq
  · exact (htype (by decide)).seq
  · exact (hkeyword _).seq
  · exact (hkeyword _).seq
  · exact (((hkeyword _).alt (hkeyword _)).alt (htype (by decide))).seq
  · exact (htype (by decide)).seq

/-- The forms begin with a token behind annotations. -/
def Annotated (e : Form) : Prop :=
  ∀ w, e.Spells w → ∃ passed t v, w = ⟨⟨passed, t⟩, .head⟩ :: v ∧ Annotations passed ∧
    t.is (.symbol .leftBracket) = false

theorem annotated_primary : Annotated (.rule .primary) := by
  rintro w ⟨⟩
  next h =>
    obtain ⟨passed, t, v, rfl, hpassed, ht, -⟩ := Form.spells_led h opens_barePrimary
    exact ⟨passed, t, v, rfl, hpassed, ht⟩

theorem Annotated.seq {e e' : Form} (h : Annotated e) : Annotated (e * e') := by
  rintro w ⟨⟩
  next hu _ =>
    obtain ⟨passed, t, v, rfl, hpassed⟩ := h _ hu
    exact ⟨passed, t, _, List.cons_append .., hpassed⟩

theorem annotated_particle : Annotated .particle := annotated_primary.seq

/-- What is joined is still joined with annotations more. -/
theorem again_joined {bound : Nat} {passed next : List Token} {t : Token} {u v : List Mark}
    {left a : Pattern} (hpassed : Annotations passed) (ht : t.is (.symbol .leftBracket) = false)
    (hjoins : joins (passed ++ t :: (Mark.tokens (u ++ v) ++ next)) = true)
    (hcomma : (passed ++ t :: (Mark.tokens (u ++ v) ++ next)).head?.any (·.is (.symbol .comma)) =
      false)
    (hturn : Again (bound + 1) Apart (postfixOf primary >>= fun right =>
      sequenceOf.go primary bound (.binary .group left right left.span))
      (⟨⟨passed, t⟩, .head⟩ :: (u ++ v)) next a) :
    Again (bound + 1) Apart (sequenceOf.go primary (bound + 1) left)
      (⟨⟨passed, t⟩, .joined⟩ :: (u ++ v)) next a := by
  intro s closed closed' w' next' hlength hs hw' hnext hD
  obtain ⟨v', opened, htokens, hv', hopened⟩ := hw'.headed
  obtain ⟨more, x, rfl, hmore, hx⟩ := hw'.first
  have hcomma' : s.rest.head?.any (·.is (.symbol .comma)) = false := by
    rw [hs, ← htokens]
    refine (hv'.ahead (hnext.opened hopened)).is_eq_false (by decide) ?_
    rw [Mark.tokens_cons, List.append_assoc]
    exact hcomma
  have hjoins' : joins s.rest = true := by
    rw [joins_append hpassed, joins_token ht] at hjoins
    rw [hs, Mark.tokens_cons, List.append_assoc]
    change joins ((passed ++ more) ++ t :: (Mark.tokens x ++ next')) = true
    rw [joins_append (hpassed.append hmore), joins_token ht]
    exact continuesSequence_ahead (hx.ahead hnext) hjoins
  rw [sequence_joined primary bound left hcomma' hjoins']
  exact hturn s closed opened v' next' hlength (hs.trans (htokens ▸ rfl)) hv' (hnext.opened hopened)
    hD

theorem loops_sequence (h : Rereads Anything primary (.rule .primary)) (left : Pattern) :
    Loops Apart (sequenceOf.go primary · left)
      (.many (.symbol .comma * .particle + .led .joined .particle)) := by
  intro n
  induction n generalizing left with
  | zero =>
    intro s a t hlength hrun
    have hs : s.rest = [] := List.eq_nil_of_length_eq_zero (Nat.le_zero.mp hlength)
    obtain ⟨rfl, rfl⟩ := pure_ok hrun
    refine ⟨[], rfl, .stop, fun bound => again_sequence_stop bound a ?_⟩
    rw [hs]
    rfl
  | succ n ih =>
    intro s a t hlength hrun
    -- A particle, and the turns behind it.
    have hturn {s : Progress} {left : Pattern} (hlength : s.rest.length ≤ n + 1)
        (hrun : (postfixOf primary >>= fun right =>
          sequenceOf.go primary n (.binary .group left right left.span)) s = .ok a t) :
        ∃ u v, s.rest = Mark.tokens (u ++ v) ++ t.rest ∧ Form.particle.Spells u ∧
          (Form.many (.symbol .comma * .particle + .led .joined .particle)).Spells v ∧
          ∀ bound, Again (bound + 1) Apart (postfixOf primary >>= fun right =>
            sequenceOf.go primary bound (.binary .group left right left.span)) (u ++ v) t.rest a := by
      obtain ⟨right, s', hright, hmore⟩ := bind_ok hrun
      obtain ⟨u, hs, hu, hparticle⟩ := rereads_postfixOf h s right s' hright
      have hne : 1 ≤ u.length := by
        obtain ⟨passed, t, v, rfl, -⟩ := annotated_particle _ hu
        exact Nat.succ_le_succ (Nat.zero_le _)
      have hle := length_le_tokens u
      have hlength' : s'.rest.length ≤ n := by
        rw [hs, List.length_append] at hlength
        omega
      obtain ⟨v, hs', hv, hmore⟩ := ih _ s' a t hlength' hmore
      refine ⟨u, v, ?_, hu, hv, fun bound => ?_⟩
      · rw [hs, hs', Mark.tokens_append, List.append_assoc]
      · rw [hs'] at hparticle
        have hmore : Again bound Apart
            (sequenceOf.go primary bound (.binary .group left right left.span)) v t.rest a :=
          hmore bound
        exact (hparticle (bound + 1)).bind hmore (Nat.add_le_add_left hne bound) leaves_anything
    cases hcomma : s.rest.head?.any (·.is (.symbol .comma)) with
    | true =>
      cases hs : s.rest with
      | nil =>
        rw [hs] at hcomma
        cases hcomma
      | cons token rest =>
        rw [hs] at hcomma hlength
        have hrun := (sequence_comma primary n left hs hcomma).symm.trans hrun
        obtain ⟨u, v, hrest, hu, hv, hagain⟩ := hturn
          (Nat.le_succ_of_le (Nat.le_of_succ_le_succ hlength)) hrun
        refine ⟨token.mark :: (u ++ v), congrArg _ hrest, .more (.left (.seq (.one hcomma) hu)) hv,
          fun bound => ?_⟩
        cases bound with
        | zero => exact again_zero (List.cons_ne_nil _ _)
        | succ bound =>
          intro x closed closed' w' next' hlength hx hw' hnext hD
          obtain ⟨v', rfl, hv'⟩ := hw'.mark
          change ∃ t, sequenceOf.go primary (bound + 1) left x = _ ∧ _
          rw [sequence_comma primary bound left hx hcomma]
          refine hagain bound _ false closed' v' next' ?_ rfl hv' hnext hD
          rw [hx] at hlength
          exact (Nat.le_succ _).trans hlength
    | false =>
      cases hjoins : joins s.rest with
      | false =>
        have hstop := sequence_stop primary (n + 1) left hcomma hjoins
        cases hstop.symm.trans hrun
        exact ⟨[], rfl, .stop, fun bound => again_sequence_stop bound left hcomma⟩
      | true =>
        have hrun := (sequence_joined primary n left hcomma hjoins).symm.trans hrun
        obtain ⟨u, v, hrest, hu, hv, hagain⟩ := hturn hlength hrun
        obtain ⟨passed, token, u, rfl, hpassed, htoken⟩ := annotated_particle _ hu
        refine ⟨⟨⟨passed, token⟩, .joined⟩ :: (u ++ v), hrest, .more (.right (.led hu)) hv,
          fun bound => ?_⟩
        cases bound with
        | zero => exact again_zero (List.cons_ne_nil _ _)
        | succ bound =>
          rw [hrest, List.cons_append, Mark.tokens_cons, List.append_assoc] at hcomma hjoins
          exact again_joined hpassed htoken hjoins hcomma (hagain bound)

theorem rereads_patternOf (h : Rereads Anything primary (.rule .primary)) :
    Rereads Apart (patternOf primary) .pattern := by
  have hsequence : Rereads Apart (sequenceOf primary) .sequence := by
    refine (rereads_postfixOf h).seq fun left => ?_
    exact (loops_sequence h left).rereads
  have hinterleave : Rereads Apart (interleaveOf primary) .interleave :=
    rereads_chain (by decide) hsequence fun t rest ht => apart_of_symbol ht (by decide) rest
  exact rereads_chain (by decide) hinterleave fun t rest ht => apart_of_symbol ht (by decide) rest

/-! Primaries -/

/-- A symbol that closes a construct joins nothing. -/
theorem leaves_symbol {D : List Token → Prop} {sym : Symbol} {v : List Mark}
    (hsym : sym ≠ .leftBracket ∧ sym ≠ .leftParen) (hv : (Form.symbol sym).Spells v) :
    Leaves Apart D v := by
  intro closed v' closed' next' hv' _
  cases hv with
  | one ht =>
    obtain ⟨x, rfl, -⟩ := hv'.mark
    exact apart_of_symbol ht hsym _

/-- The parsers of a level read the same again. -/
structure Level.Rereads (level : Level) : Prop where
  basicName : Parser.Rereads Anything level.basicName (.rule .basicName)
  primary : Parser.Rereads Anything level.primary (.rule .primary)
  components : ∀ includes type, type = .symbol .rightBrace ∨ type = .eof →
    RereadsUpTo type (level.components includes type) (.many (.rule (.component includes)))

section

variable (hnext : ∀ level, next = some level → level.Rereads)

include hnext in
theorem rereads_delimited {D : List Token → Prop} {sym : Symbol}
    (hsym : sym ≠ .leftBracket ∧ sym ≠ .leftParen) :
    Rereads D (do
      let p ← nested setting next (·.pattern)
      expectSymbol sym
      return p) (.pattern * .symbol sym) := by
  have hpattern : Rereads Apart (nested setting next (·.pattern)) .pattern :=
    rereads_nested fun level he => rereads_patternOf (hnext level he).primary
  exact hpattern.bind (fun p => (rereads_expectSymbol sym).andThen) fun v hv =>
    leaves_symbol hsym hv

include hnext in
theorem rereads_bracedPattern {D : List Token → Prop} :
    Rereads D (bracedPattern setting next) .braced :=
  (rereads_expectSymbol .leftBrace).seq fun _ => rereads_delimited hnext (by decide)

end

section

variable (hnext : ∀ level, next = some level → level.Rereads)

include hnext in
/-- A block of components. -/
theorem rereads_block {D : List Token → Prop} (includes : Bool) (f : List Component → α) :
    Rereads D (do
      expectSymbol .leftBrace
      let components ← nested setting next (·.components includes (.symbol .rightBrace))
      expectSymbol .rightBrace
      return f components) (.block includes) := by
  refine (rereads_expectSymbol .leftBrace).seq fun _ => ?_
  have hcomponents : RereadsUpTo (.symbol .rightBrace)
      (nested setting next (·.components includes (.symbol .rightBrace)))
      (.many (.rule (.component includes))) :=
    rereadsUpTo_nested fun level he => (hnext level he).components includes _ (.inl rfl)
  exact hcomponents.closed fun cs => (rereads_expectSymbol .rightBrace).andThen

end

/-- Parameters up to the closing brace. -/
theorem loops_params {D : List Token → Prop} :
    Loops D params.go (.many .param * .symbol .rightBrace) := by
  let entry : Parser (String × Text) := do
    skipAnnotations
    let name ← expectName .parameter
    expectSymbol .assign
    let value ← literalOr .missingParameterValue
    return (name, value)
  have hsucc (n : Nat) : params.go (n + 1) = do
      if ← accept (.symbol .rightBrace) then return []
      else
        let param ← entry
        let ps ← params.go n
        return param :: ps := by
    simp only [params.go, entry, bind_assoc, pure_bind]
  have hentry : Rereads Anything entry .param := by
    refine Rereads.annotated (P := fun _ => True) ?_ (Form.opens_one fun _ _ => trivial).seq
    refine (rereads_expectName .parameter).seq fun name => ?_
    refine (rereads_expectSymbol .assign).seq fun _ => ?_
    exact (rereads_literalOr _).andThen
  intro n
  induction n with
  | zero =>
    intro s ps t hlength hrun
    obtain ⟨_, u, hclose, -⟩ := bind_ok hrun
    obtain ⟨token, hs, -⟩ := expectSymbol_ok hclose
    rw [hs] at hlength
    cases hlength
  | succ n ih =>
    intro s ps t hlength hrun
    rw [hsucc] at hrun
    obtain ⟨found, u, haccept, hthen⟩ := bind_ok hrun
    rcases accept_ok haccept with ⟨rfl, token, hs, htoken⟩ | ⟨rfl, -⟩
    · obtain ⟨rfl, rfl⟩ := pure_ok hthen
      refine ⟨[token.mark], hs, .seq .stop (.one htoken), fun bound => ?_⟩
      cases bound with
      | zero => exact again_zero (List.cons_ne_nil _ _)
      | succ bound =>
        rw [hsucc]
        have hnone : Again (bound + 1) D (pure ([] : List (String × Text))) [] t.rest [] :=
          again_pure []
        exact (again_accept_true htoken).bind hnone (Nat.le_add_right _ _) leaves_anything
    · obtain ⟨rfl, hnone⟩ := accept_false haccept
      obtain ⟨param, u', hparam, hmore⟩ := bind_ok hthen
      obtain ⟨rest, u'', hrest, hpure⟩ := bind_ok hmore
      obtain ⟨rfl, rfl⟩ := pure_ok hpure
      obtain ⟨v, hu, hv, hagain⟩ := hentry _ _ _ hparam
      have hne : 1 ≤ v.length := by
        obtain ⟨passed, head, v, rfl, -⟩ :=
          Form.spells_led hv (Form.opens_one fun _ _ => trivial).seq
        exact Nat.succ_le_succ (Nat.zero_le _)
      have hle := length_le_tokens v
      have hlength' : u'.rest.length ≤ n := by
        rw [hu, List.length_append] at hlength
        omega
      obtain ⟨w, hu', hw, hmore⟩ := ih u' rest _ hlength' hrest
      refine ⟨v ++ w, ?_, ?_, fun bound => ?_⟩
      · rw [hu, hu', Mark.tokens_append, List.append_assoc]
      · cases hw with
        | seq hparams hclose =>
          rw [← List.append_assoc]
          exact .seq (.more hv hparams) hclose
      · cases bound with
        | zero =>
          refine again_zero fun hnil => ?_
          rw [List.append_eq_nil_iff] at hnil
          rw [hnil.1] at hne
          cases hne
        | succ bound =>
          rw [hsucc]
          rw [hu, hu', ← List.append_assoc, ← Mark.tokens_append] at hnone
          rw [hu'] at hagain
          have hclosed : Again (bound + 1) Anything (accept (.symbol .rightBrace)) []
              (Mark.tokens (v ++ w) ++ t.rest) false := again_accept_false (by decide) hnone
          have hentries := (hagain (bound + 1)).bind (f := fun param => do
            let ps ← params.go bound
            return param :: ps) (hmore bound).andThen (Nat.add_le_add_left hne bound)
            leaves_anything
          exact hclosed.bind hentries (Nat.le_add_right _ _) leaves_anything

theorem rereads_params {D : List Token → Prop} : Rereads D params .params :=
  (rereads_expectSymbol .leftBrace).seq fun _ => loops_params.rereads

theorem opens_params : Form.params.Opens (·.is (.symbol .leftBrace)) :=
  (Form.opens_one fun _ => id).seq

section

variable (hnext : ∀ level, next = some level → level.Rereads)

include hnext in
theorem rereads_datatypePattern {D : List Token → Prop} (type : Datatype) (span : Span) :
    Rereads D (datatypePattern setting next type span) .data := by
  have hvalue : Rereads D (do return Pattern.value (← literal) type span) .literal :=
    rereads_literal.andThen
  have hexception (ps : List (String × Text)) : Rereads D (do
      let exception ←
        if ← accept (.symbol .minus) then
          some <$> nested setting next (·.primary)
        else pure none
      return Pattern.data type ps exception span)
      (.symbol .minus * .rule .primary + .nothing) := by
    have hnested : Rereads D (some <$> nested setting next (·.primary)) (.rule .primary) := by
      rw [map_eq_pure_bind]
      exact (rereads_nested fun level he => (hnext level he).primary).weaken.andThen
    exact rereads_accept (by decide) hnested.andThen (rereads_pure _)
  refine (rereads_at (by decide) hvalue opens_literal (rereads_at (by decide)
    (rereads_params.seq hexception) opens_params.seq (hexception []))).mono (fun _ => id)
    fun w hw => ?_
  cases hw with
  | left hw => exact .left hw
  | right hw =>
    cases hw with
    | left hw =>
      cases hw with
      | seq hu hv => exact .right (.seq (.left hu) hv)
    | right hw => exact .right (.seq (.right .nothing) hw)

include hnext in
theorem rereads_primaryWith {basicName : Parser Surface.NameClass}
    (h : Rereads Anything basicName (.rule .basicName)) :
    Rereads Anything (primaryWith setting basicName next) (.rule .primary) := by
  refine Rereads.mono (e := .primary) ?_ (fun _ => id) fun w hw => .rule hw
  refine Rereads.annotated (rereads_current rfl fun head => ?_) opens_barePrimary
  have hbraced : Rereads Anything (bracedPattern setting next) .braced :=
    rereads_bracedPattern hnext
  -- The alternatives stand in the order of the form.
  have hnamed (holder : Holder) {head : Token} (hhead : ((Form.keyword .element) +
      (Form.keyword .attr)).Spells [head.mark]) : RereadsFrom Anything head (do
        advance
        let name ← nameClassOf basicName
        return Pattern.named holder name (← bracedPattern setting next) head.span)
      .barePrimary := by
    refine (rereadsFrom_advance hhead ?_).mono fun w hw =>
      .left (.left (.left (.left (.left (.left (.left (.left (.left hw))))))))
    exact (rereads_nameClassOf h).seq fun name => hbraced.andThen
  have hwrapped (modifier : Modifier) {head : Token} (hhead : ((Form.keyword .list) +
      (Form.keyword .mixed)).Spells [head.mark]) : RereadsFrom Anything head (do
        advance
        return Pattern.unary modifier (← bracedPattern setting next) head.span)
      .barePrimary :=
    (rereadsFrom_advance hhead hbraced.andThen).mono fun w hw =>
      .left (.left (.left (.left (.left (.left (.left (.left (.right hw))))))))
  have hleaf (leaf : Leaf) {head : Token} (hhead : (Form.keyword .empty + Form.keyword .text +
      Form.keyword .notAllowed).Spells [head.mark]) : RereadsFrom Anything head (do
        advance
        return Pattern.leaf leaf head.span) .barePrimary :=
    (rereadsFrom_pure hhead _).mono fun w hw =>
      .left (.left (.left (.left (.left (.left (.left (.right hw)))))))
  have hdatatype (type : Datatype) {head : Token} (hhead : (Form.keyword .string +
      Form.keyword .token + Form.type .prefixedName).Spells [head.mark]) :
      RereadsFrom Anything head (do
        advance
        datatypePattern setting next type head.span) .barePrimary :=
    (rereadsFrom_advance hhead (rereads_datatypePattern hnext type head.span)).mono fun w hw =>
      .left (.right hw)
  dsimp only
  split
  next hhead => exact hnamed .element (.left (.one (is_of_lexeme hhead)))
  next hhead => exact hnamed .attr (.right (.one (is_of_lexeme hhead)))
  next hhead => exact hwrapped .list (.left (.one (is_of_lexeme hhead)))
  next hhead => exact hwrapped .mixed (.right (.one (is_of_lexeme hhead)))
  next hhead => exact hleaf .empty (.left (.left (.one (is_of_lexeme hhead))))
  next hhead => exact hleaf .text (.left (.right (.one (is_of_lexeme hhead))))
  next hhead => exact hleaf .notAllowed (.right (.one (is_of_lexeme hhead)))
  next name hhead =>
    exact (rereadsFrom_pure (.one (is_of_lexeme hhead)) _).mono fun w hw =>
      .left (.left (.left (.left (.left (.left (.right hw))))))
  next hhead =>
    exact (rereadsFrom_advance (.one (is_of_lexeme hhead)) (rereads_expect _ _).andThen).mono
      fun w hw => .left (.left (.left (.left (.left (.right hw)))))
  next hhead =>
    exact (rereadsFrom_advance (.one (is_of_lexeme hhead))
      (rereads_delimited hnext (by decide))).mono fun w hw =>
        .left (.left (.left (.left (.right hw))))
  next hhead =>
    refine (rereadsFrom_advance (.one (is_of_lexeme hhead)) ?_).mono fun w hw =>
      .left (.left (.left (.right hw)))
    exact (rereads_literalOr _).seq fun href => rereads_inheritance.andThen
  next hhead =>
    exact (rereadsFrom_advance (.one (is_of_lexeme hhead)) (rereads_block hnext true _)).mono
      fun w hw => .left (.left (.right hw))
  next hhead => exact hdatatype _ (.left (.left (.one (is_of_lexeme hhead))))
  next hhead => exact hdatatype _ (.left (.right (.one (is_of_lexeme hhead))))
  next hhead => exact hdatatype _ (.right (.one (is_of_lexeme hhead)))
  next hhead =>
    exact (rereads_literal.andThen.from_token opens_literal head).mono fun w hw => .right hw
  next => exact rereadsFrom_fail _ _

end

end Parser

end RelaxCompact
