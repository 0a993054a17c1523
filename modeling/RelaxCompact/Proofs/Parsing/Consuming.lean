import RelaxCompact.Proofs.Parsing.Derivation
import RelaxCompact.Proofs.Run

/-!
What successful runs of the basic parsers take off the tokens ahead.
-/

namespace RelaxCompact

open Surface

namespace Token

variable {t : Token}

theorem lexeme_of_is {type : TokenType} (h : t.is type = true) : t.lexeme.type = type := by
  exact of_decide_eq_true h

theorem lexeme_of_symbol {s : Symbol} (h : t.is (.symbol s) = true) : t.lexeme = .symbol s := by
  have htype := lexeme_of_is h
  cases hl : t.lexeme <;> rw [hl] at htype <;> cases htype
  rfl

theorem lexeme_of_keyword {k : Keyword} (h : t.is (.keyword k) = true) :
    t.lexeme = .keyword k := by
  have htype := lexeme_of_is h
  cases hl : t.lexeme <;> rw [hl] at htype <;> cases htype
  rfl

theorem lexeme_of_literal (h : t.is .literal = true) : t.lexeme = .literal t.value := by
  have htype := lexeme_of_is h
  rw [Token.value]
  cases hl : t.lexeme <;> rw [hl] at htype <;> cases htype
  rfl

theorem lexeme_of_identifier (h : t.is .identifier = true) :
    ∃ name, t.lexeme = .identifier name := by
  have htype := lexeme_of_is h
  cases hl : t.lexeme <;> rw [hl] at htype <;> cases htype
  exact ⟨_, rfl⟩

theorem lexeme_of_prefixedName (h : t.is .prefixedName = true) :
    ∃ qualifier localName, t.lexeme = .prefixedName qualifier localName := by
  have htype := lexeme_of_is h
  cases hl : t.lexeme <;> rw [hl] at htype <;> cases htype
  exact ⟨_, _, rfl⟩

theorem lexeme_of_eof (h : t.is .eof = true) : t.lexeme = .eof := by
  have htype := lexeme_of_is h
  cases hl : t.lexeme <;> rw [hl] at htype <;> cases htype

end Token

/-! Annotations -/

/-- What is left of the search for a closing bracket once the innermost open one is closed. -/
def Outward (depth : Nat) (ts rest : List Token) : Prop :=
  match depth with
  | 0 => ts = rest
  | depth + 1 => afterBrackets (depth + 1) ts = some rest

/-- Up to the bracket that closes the innermost open one, brackets match. -/
theorem balanced_of_afterBrackets {depth : Nat} {ts rest : List Token}
    (h : afterBrackets (depth + 1) ts = some rest) :
    ∃ inner right ts', ts = inner ++ right :: ts' ∧ Balanced inner ∧
      right.lexeme = .symbol .rightBracket ∧ Outward depth ts' rest := by
  cases ts with
  | nil => cases h
  | cons t ts =>
    rw [afterBrackets] at h
    split at h
    next hleft =>
      obtain ⟨inner, right, us, hts, hinner, hright, hus⟩ := balanced_of_afterBrackets h
      have hlength : us.length < ts.length := by
        rw [hts, List.length_append, List.length_cons]
        omega
      obtain ⟨inner', right', vs, hus', hinner', hright', hvs⟩ := balanced_of_afterBrackets hus
      refine ⟨t :: inner ++ right :: inner', right', vs, ?_,
        .brackets hleft hinner hright hinner', hright', hvs⟩
      rw [hts, hus', List.append_assoc, List.cons_append, List.cons_append]
    next hright =>
      refine ⟨[], t, ts, rfl, .nil, hright, ?_⟩
      cases depth with
      | zero =>
        cases h
        rfl
      | succ depth => exact h
    next => cases h
    next hleft hright heof =>
      obtain ⟨inner, right, us, hts, hinner, hclose, hus⟩ := balanced_of_afterBrackets h
      exact ⟨t :: inner, right, us, congrArg _ hts, .token hleft hright heof hinner, hclose, hus⟩
termination_by ts.length

/-- No annotation stands behind the annotations. -/
theorem not_leftBracket_of_afterAnnotations {ts rest : List Token} {t : Token}
    (h : afterAnnotations ts = .ok (t :: rest)) : t.is (.symbol .leftBracket) = false := by
  fun_induction afterAnnotations ts with
  | case1 => cases h
  | case2 _ _ _ _ _ _ ih => exact ih h
  | case3 => cases h
  | case4 t' ts hleft =>
    cases h
    exact Bool.eq_false_iff.mpr hleft

/-- What is behind annotations comes after annotations. -/
theorem annotations_of_afterAnnotations {ts rest : List Token}
    (h : afterAnnotations ts = .ok rest) :
    ∃ annotations, ts = annotations ++ rest ∧ Annotations annotations := by
  fun_induction afterAnnotations ts with
  | case1 =>
    cases h
    exact ⟨[], rfl, .nil⟩
  | case2 t ts hleft after hafter _ ih =>
    obtain ⟨annotations, hrest, hannotations⟩ := ih h
    obtain ⟨inner, right, us, hts, hinner, hright, hus⟩ := balanced_of_afterBrackets hafter
    cases hus
    refine ⟨t :: inner ++ right :: annotations, ?_, .cons ?_ hinner hright hannotations⟩
    · rw [hts, hrest, List.append_assoc, List.cons_append, List.cons_append]
    · exact Token.lexeme_of_symbol hleft
  | case3 => cases h
  | case4 t ts hleft =>
    cases h
    exact ⟨[], rfl, .nil⟩

theorem afterBrackets_append {inner : List Token} (h : Balanced inner) (depth : Nat)
    (ts : List Token) :
    afterBrackets (depth + 1) (inner ++ ts) = afterBrackets (depth + 1) ts := by
  induction h generalizing depth ts with
  | nil => rfl
  | token hleft hright heof _ ih =>
    rw [List.cons_append, afterBrackets]
    split
    next h => exact absurd h hleft
    next h => exact absurd h hright
    next h => exact absurd h heof
    next => exact ih depth ts
  | brackets hleft _ hright _ ihInner ih =>
    rw [List.append_assoc, List.cons_append, List.cons_append, afterBrackets, hleft]
    dsimp only
    rw [ihInner, afterBrackets, hright]
    dsimp only
    rw [if_neg (by omega), Nat.add_sub_cancel]
    exact ih depth ts

theorem afterAnnotations_append {passed : List Token} (h : Annotations passed)
    (ts : List Token) : afterAnnotations (passed ++ ts) = afterAnnotations ts := by
  induction h with
  | nil => rfl
  | @cons left inner right rest hleft hinner hright _ ih =>
    have hclose : afterBrackets 1 (inner ++ (right :: (rest ++ ts))) = some (rest ++ ts) := by
      rw [afterBrackets_append hinner 0, afterBrackets, hright]
      rfl
    have his : left.is (.symbol .leftBracket) = true := by
      rw [Token.is, Token.type, hleft]
      rfl
    rw [List.append_assoc, List.cons_append, List.cons_append, afterAnnotations, if_pos his]
    split
    next after h =>
      cases hclose.symm.trans h
      exact ih
    next h => cases hclose.symm.trans h

theorem afterAnnotations_token {t : Token} (h : t.is (.symbol .leftBracket) = false)
    (ts : List Token) : afterAnnotations (t :: ts) = .ok (t :: ts) := by
  rw [afterAnnotations, if_neg (Bool.eq_false_iff.mp h)]

theorem written_append (us vs : List Used) : written (us ++ vs) = written us ++ written vs := by
  induction us with
  | nil => rfl
  | cons u us ih => simp only [List.cons_append, written, ih, List.append_assoc]

namespace Parser

open Run

variable {α β : Type} {s t : Progress}

/-! Single tokens -/

theorem not_fail_ok {fault : SyntaxFault} {a : α} (h : (fail fault : Parser α) s = .ok a t) :
    False := by
  obtain ⟨_, _, -, hthrow⟩ := bind_ok h
  exact not_throw_ok hthrow

/-- The run that follows a look at the current token. -/
theorem current_bind {f : Option Token → Parser β} {b : β} (h : (current >>= f) s = .ok b t) :
    f s.rest.head? s = .ok b t := h

theorem at_ok {type : TokenType} {b : Bool} (h : at? type s = .ok b t) :
    t = s ∧ (b = true → ∃ token rest, s.rest = token :: rest ∧ token.is type = true) := by
  have hpure : (pure (s.rest.head?.any (·.is type)) : Parser Bool) s = .ok b t := h
  obtain ⟨hb, ht⟩ := pure_ok hpure
  refine ⟨ht, fun htrue => ?_⟩
  cases hrest : s.rest with
  | nil =>
    rw [hrest, htrue] at hb
    cases hb
  | cons token rest =>
    rw [hrest, htrue] at hb
    exact ⟨token, rest, rfl, hb.symm⟩

theorem advance_ok (h : advance s = .ok () t) : t.rest = s.rest.tail := by
  cases h
  rfl

/-- A token is accepted if it is of the type, and is gone then. -/
theorem accept_ok {type : TokenType} {b : Bool} (h : accept type s = .ok b t) :
    b = true ∧ (∃ token, s.rest = token :: t.rest ∧ token.is type = true) ∨ b = false ∧ t = s := by
  obtain ⟨found, u, hat, hthen⟩ := bind_ok h
  obtain ⟨hu, hfound⟩ := at_ok hat
  subst u
  split at hthen
  next htrue =>
    obtain ⟨token, rest, hrest, htype⟩ := hfound htrue
    obtain ⟨_, v, hadvance, hpure⟩ := bind_ok hthen
    obtain ⟨hb, ht⟩ := pure_ok hpure
    have hv := advance_ok hadvance
    refine .inl ⟨hb, token, ?_, htype⟩
    rw [ht, hv, hrest, List.tail_cons]
  next => exact .inr (pure_ok hthen)

theorem expect_ok {type : TokenType} {fault : SyntaxFault} {token : Token}
    (h : expect type fault s = .ok token t) :
    s.rest = token :: t.rest ∧ token.is type = true := by
  unfold expect at h
  replace h := current_bind h
  cases hrest : s.rest with
  | nil =>
    rw [hrest] at h
    exact (not_fail_ok h).elim
  | cons first rest =>
    rw [hrest, List.head?_cons] at h
    dsimp only at h
    split at h
    next htype =>
      obtain ⟨_, u, hadvance, hpure⟩ := bind_ok h
      obtain ⟨htoken, ht⟩ := pure_ok hpure
      have hu := advance_ok hadvance
      rw [ht, hu, hrest, List.tail_cons, htoken]
      exact ⟨rfl, htype⟩
    next => exact (not_fail_ok h).elim

theorem expectSymbol_ok {sym : Symbol} (h : expectSymbol sym s = .ok () t) :
    ∃ token, s.rest = token :: t.rest ∧ token.lexeme = .symbol sym := by
  obtain ⟨token, u, hexpect, hpure⟩ := bind_ok h
  obtain ⟨hrest, htype⟩ := expect_ok hexpect
  obtain ⟨-, ht⟩ := pure_ok hpure
  rw [ht]
  exact ⟨token, hrest, Token.lexeme_of_symbol htype⟩

theorem expectName_ok {role : NameRole} {name : String} (h : expectName role s = .ok name t) :
    ∃ token, s.rest = token :: t.rest ∧ nameOf? token = some name := by
  unfold expectName at h
  replace h := current_bind h
  cases hrest : s.rest with
  | nil =>
    rw [hrest] at h
    exact (not_fail_ok h).elim
  | cons token rest =>
    rw [hrest, List.head?_cons, Option.bind_some] at h
    cases hname : nameOf? token with
    | none =>
      rw [hname] at h
      exact (not_fail_ok h).elim
    | some found =>
      rw [hname] at h
      obtain ⟨_, u, hadvance, hpure⟩ := bind_ok h
      obtain ⟨hfound, ht⟩ := pure_ok hpure
      have hu := advance_ok hadvance
      rw [ht, hu, hrest, List.tail_cons, hfound]
      exact ⟨token, rfl, hname⟩

/-- Annotations are passed over as far as they go. -/
theorem skipAnnotations_ok (h : skipAnnotations s = .ok () t) :
    afterAnnotations s.rest = .ok t.rest := by
  obtain ⟨_, _, hget, hthen⟩ := bind_ok h
  cases hget
  cases hafter : afterAnnotations s.rest with
  | ok rest =>
    rw [hafter] at hthen
    cases hthen
    rfl
  | error rest =>
    rw [hafter] at hthen
    obtain ⟨_, _, _, hfail⟩ := bind_ok hthen
    exact (not_fail_ok hfail).elim

/-! What derives a value -/

/-- What a successful run makes of the tokens ahead, as a relation of those before it, its value and
those after it. -/
def Consumes (p : Parser α) (P : List Token → α → List Token → Prop) : Prop :=
  ∀ s a t, p s = .ok a t → P s.rest a t.rest

/-- What a parser takes derives the value that it gives, in front of what it leaves. -/
def Derives (p : Parser α) (R : List Used → List Token → α → Prop) : Prop :=
  Consumes p fun before a after => ∃ us, before = written us ++ after ∧ R us after a

section

variable {p : Parser α} {R S : List Used → List Token → α → Prop}
  {T : α → List Used → List Token → β → Prop}

theorem Consumes.enclosed {P : List Token → α → List Token → Prop} (h : Consumes p P) :
    Consumes (enclosed p) P := by
  intro s a t hs
  unfold Parser.enclosed at hs
  cases hrun : p { s with depth := s.depth + 1, deepest := max s.deepest (s.depth + 1) } with
  | ok b u =>
    rw [hrun] at hs
    cases hs
    have hus := h _ _ _ hrun
    exact hus
  | error e u =>
    rw [hrun] at hs
    cases hs

theorem Derives.mono (h : Derives p R) (hRS : ∀ us next a, R us next a → S us next a) :
    Derives p S := by
  intro s a t hs
  obtain ⟨us, hrest, hus⟩ := h s a t hs
  exact ⟨us, hrest, hRS us _ a hus⟩

theorem derives_fail (fault : SyntaxFault) : Derives (fail fault : Parser α) R :=
  fun _ _ _ h => (not_fail_ok h).elim

theorem derives_pure (a : α) : Derives (pure a) fun us _ b => us = [] ∧ b = a := by
  intro s b t h
  obtain ⟨hb, ht⟩ := pure_ok h
  exact ⟨[], congrArg _ ht.symm, rfl, hb⟩

/-- Two parsers in a row: the second stands in front of what follows both. -/
theorem Derives.bind {f : α → Parser β} (hp : Derives p R) (hf : ∀ a, Derives (f a) (T a)) :
    Derives (p >>= f) fun ws next b =>
      ∃ us vs a, ws = us ++ vs ∧ R us (written vs ++ next) a ∧ T a vs next b := by
  intro s b t h
  obtain ⟨a, u, hrun, hthen⟩ := bind_ok h
  obtain ⟨us, hs, hus⟩ := hp s a u hrun
  obtain ⟨vs, hu, hvs⟩ := hf a u b t hthen
  refine ⟨us ++ vs, ?_, us, vs, a, rfl, ?_, hvs⟩
  · rw [hs, hu, written_append, List.append_assoc]
  · rwa [hu] at hus

/-- A parser whose value is put into a larger one. -/
theorem Derives.andThen {f : α → β} (hp : Derives p R) :
    Derives (p >>= fun a => pure (f a)) fun us next b => ∃ a, R us next a ∧ b = f a :=
  (hp.bind fun a => derives_pure (f a)).mono fun ws next b ⟨us, vs, a, hws, hus, hvs, hb⟩ => by
    subst hvs
    rw [List.append_nil] at hws
    subst hws
    exact ⟨a, hus, hb⟩

/-- One parser behind a token of a type, the other where there is none. -/
theorem derives_accept {q : Parser α} {type : TokenType} (hp : Derives p R) (hq : Derives q S) :
    Derives (do if ← accept type then p else q) fun us next a =>
      (∃ (t : Token) (vs : List Used), us = t.used :: vs ∧ t.is type = true ∧ R vs next a) ∨
        S us next a := by
  intro s a t h
  obtain ⟨found, u, haccept, hthen⟩ := bind_ok h
  rcases accept_ok haccept with ⟨rfl, token, hs, htype⟩ | ⟨rfl, rfl⟩
  · obtain ⟨vs, hu, hvs⟩ := hp u a t hthen
    exact ⟨token.used :: vs, by rw [hs, hu]; rfl, .inl ⟨token, vs, rfl, htype, hvs⟩⟩
  · obtain ⟨us, hu, hus⟩ := hq u a t hthen
    exact ⟨us, hu, .inr hus⟩

/-- One parser in front of a token of a type, the other where there is none. -/
theorem derives_at {q : Parser α} {type : TokenType} (hp : Derives p R) (hq : Derives q R) :
    Derives (do if ← at? type then p else q) R := by
  intro s a t h
  obtain ⟨found, u, hat, hthen⟩ := bind_ok h
  obtain ⟨hu, -⟩ := at_ok hat
  subst hu
  split at hthen
  · exact hp u a t hthen
  · exact hq u a t hthen

theorem derives_expect (type : TokenType) (fault : SyntaxFault) :
    Derives (expect type fault) fun us _ t => us = [t.used] ∧ t.is type = true := by
  intro s token t h
  obtain ⟨hs, htype⟩ := expect_ok h
  exact ⟨[token.used], hs, rfl, htype⟩

theorem derives_expectSymbol (sym : Symbol) :
    Derives (expectSymbol sym) fun us _ _ =>
      ∃ t : Token, us = [t.used] ∧ t.lexeme = .symbol sym :=
  (derives_expect _ _).andThen.mono fun _ _ _ ⟨t, ⟨hus, htype⟩, _⟩ =>
    ⟨t, hus, Token.lexeme_of_symbol htype⟩

theorem derives_expectName (role : NameRole) :
    Derives (expectName role) fun us _ name =>
      ∃ t : Token, us = [t.used] ∧ nameOf? t = some name := by
  intro s name t h
  obtain ⟨token, hs, hname⟩ := expectName_ok h
  exact ⟨[token.used], hs, token, rfl, hname⟩

end

/-! Literals -/

theorem derives_segments (n : Nat) (text : Text) :
    Derives (literal.segments n text) fun vs _ result =>
      ∀ us, DerivesLiteral us text → DerivesLiteral (us ++ vs) result := by
  induction n generalizing text with
  | zero =>
    refine (derives_pure text).mono fun vs _ result ⟨hvs, hresult⟩ us hus => ?_
    rwa [hvs, hresult, List.append_nil]
  | succ n ih =>
    have hmore := (derives_expect .literal .missingSegment).bind fun t => ih (text ++ t.value)
    refine (derives_accept hmore (derives_pure text)).mono fun vs _ result h us hus => ?_
    rcases h with ⟨tilde, _, rfl, htilde, _, ws, t, rfl, ⟨rfl, ht⟩, hws⟩ | ⟨rfl, rfl⟩
    · have hjoined := hus.joined (Token.lexeme_of_symbol htilde) (Token.lexeme_of_literal ht)
      have hresult := hws _ hjoined
      rwa [List.append_assoc] at hresult
    · rwa [List.append_nil]

theorem derives_remaining : Derives remaining fun us _ _ => us = [] := by
  intro s n t h
  obtain ⟨-, ht⟩ := pure_ok h
  exact ⟨[], congrArg _ ht.symm, rfl⟩

/-- What a loop over the tokens left derives. -/
theorem Derives.loop {f : Nat → Parser β} {R : List Used → List Token → β → Prop}
    (hf : ∀ n, Derives (f n) R) : Derives (remaining >>= f) R :=
  (derives_remaining.bind hf).mono fun _ _ _ ⟨_, _, _, hws, hus, hvs⟩ => by
    rw [hus, List.nil_append] at hws
    rwa [hws]

/-- A literal begins with the current token. -/
theorem derives_literal_from : Derives literal fun us _ text =>
    ∃ (t : Token) (vs : List Used), us = t.used :: vs ∧ DerivesLiteral us text := by
  have hsegments (t : Token) := Derives.loop fun n => derives_segments n t.value
  refine ((derives_expect .literal _).bind hsegments).mono fun us _ text h => ?_
  obtain ⟨_, vs, t, rfl, ⟨rfl, ht⟩, hvs⟩ := h
  exact ⟨t, vs, rfl, hvs _ (.single (Token.lexeme_of_literal ht))⟩

theorem derives_literal : Derives literal fun us _ text => DerivesLiteral us text :=
  derives_literal_from.mono fun _ _ _ ⟨_, _, _, h⟩ => h

theorem derives_literalOr (fault : SyntaxFault) :
    Derives (literalOr fault) fun us _ text => DerivesLiteral us text :=
  derives_at derives_literal (derives_fail fault)

theorem derives_inheritance :
    Derives inheritance fun us _ inherit => DerivesInherit us inherit := by
  have hpresent := (derives_expectSymbol .assign).bind fun _ =>
    (derives_expectName .namespaceQualifier).andThen (f := some)
  refine (derives_accept hpresent (derives_pure none)).mono fun us _ inherit h => ?_
  rcases h with ⟨head, _, rfl, hhead, _, _, _, rfl, ⟨assign, rfl, hassign⟩, _,
    ⟨name, rfl, hname⟩, rfl⟩ | ⟨rfl, rfl⟩
  · exact .present (Token.lexeme_of_keyword hhead) hassign hname
  · exact .absent

/-! Operands -/

/-- Operands from left to right derive what they are combined to. -/
theorem derives_chain {p : Parser α} {R S : List Used → List Token → α → Prop} {op : Symbol}
    {combine : α → α → α} (h : Derives p R) (hsingle : ∀ us next a, R us next a → S us next a)
    (hmore : ∀ us (t : Token) vs next a b, S us (written (t.used :: vs) ++ next) a →
      t.lexeme = .symbol op → R vs next b → S (us ++ t.used :: vs) next (combine a b)) :
    Derives (chain op p combine) S := by
  have hgo (n : Nat) (left : α) : Derives (chain.go op p combine n left) fun vs next result =>
      ∀ us, S us (written vs ++ next) left → S (us ++ vs) next result := by
    induction n generalizing left with
    | zero =>
      refine (derives_pure left).mono fun vs next result ⟨hvs, hresult⟩ us hus => ?_
      subst hvs
      rwa [hresult, List.append_nil]
    | succ n ih =>
      have hright := h.bind fun right => ih (combine left right)
      refine (derives_accept hright (derives_pure left)).mono fun vs next result hvs us hus => ?_
      rcases hvs with ⟨t, _, rfl, ht, vs, ws, right, rfl, hvs, hws⟩ | ⟨rfl, rfl⟩
      · have hcombined := hmore us t vs (written ws ++ next) left right ?_
          (Token.lexeme_of_symbol ht) hvs
        · have hresult := hws _ hcombined
          rwa [List.append_assoc] at hresult
        · rwa [← List.append_assoc, ← written_append]
      · rwa [List.append_nil]
  refine (h.bind fun left => .loop fun n => hgo n left).mono fun _ next a hus => ?_
  obtain ⟨us, vs, left, rfl, hus, hvs⟩ := hus
  exact hvs us (hsingle _ _ _ hus)

end Parser

end RelaxCompact
