import RelaxCompact.Proofs.Printing.Takes

/-!
The ladder of precedence. At each rank a parser reads an operand of the next rank, and then a loop
goes on as long as operators of its own rank follow. Since operators associate to the left, a
pattern is read from the inside: what is to the right of an operand is left to the loop.
-/

namespace RelaxCompact.Parser

open Surface

/-- What may stand behind a pattern of rank `k` as it is written: what closes a block or a file,
the next component, or an operator of lower rank. -/
inductive Follows (k : Nat) : List Lexeme → Prop
  | paren {ls : List Lexeme} : Follows k (.symbol .rightParen :: ls)
  | brace {ls : List Lexeme} : Follows k (.symbol .rightBrace :: ls)
  | eof {ls : List Lexeme} : Follows k (.eof :: ls)
  | start {ls : List Lexeme} : Follows k (.keyword .start :: ls)
  | div {ls : List Lexeme} : Follows k (.keyword .div :: ls)
  | incl {ls : List Lexeme} : Follows k (.keyword .incl :: ls)
  | named {ls : List Lexeme} (name : String) (operator : Assignment) :
    Follows k (.identifier name :: .symbol operator.symbol :: ls)
  | connective {ls : List Lexeme} (op : Connective) (h : op.rank < k) :
    Follows k (.symbol op.symbol :: ls)
  | modifier {ls : List Lexeme} (m : Modifier) (hm : m.isPostfix = true) (h : postfixRank < k) :
    Follows k (m.lexeme :: ls)

section

variable {k k' : Nat} {ls : List Lexeme}

theorem Follows.mono (h : Follows k ls) (hk : k ≤ k') : Follows k' ls := by
  cases h with
  | paren => exact .paren
  | brace => exact .brace
  | eof => exact .eof
  | start => exact .start
  | div => exact .div
  | incl => exact .incl
  | named name operator => exact .named name operator
  | connective op h => exact .connective op (Nat.lt_of_lt_of_le h hk)
  | modifier m hm h => exact .modifier m hm (Nat.lt_of_lt_of_le h hk)

/-- All operators have a lower rank than the primaries. -/
theorem Follows.primary (h : Follows k ls) : Follows primaryRank ls := by
  cases h with
  | paren => exact .paren
  | brace => exact .brace
  | eof => exact .eof
  | start => exact .start
  | div => exact .div
  | incl => exact .incl
  | named name operator => exact .named name operator
  | connective op h => exact .connective op (by cases op <;> decide)
  | modifier m hm h => exact .modifier m hm (by decide)

/-- The types of the lexemes that would go on with a pattern by itself, or hide what follows. -/
def absorbed : List TokenType :=
  [.literal, .keyword .inherit] ++
    [Symbol.leftBrace, .leftBracket, .minus, .tilde].map TokenType.symbol

theorem Follows.not_absorbed (h : Follows k ls) {type : TokenType} (ht : type ∈ absorbed) :
    startsWith type ls = false := by
  revert ht type
  cases h with
  | connective op h => cases op <;> simp [absorbed, startsWith, Lexeme.type, Connective.symbol]
  | modifier m hm h => cases m <;> simp [absorbed, startsWith, Lexeme.type, Modifier.lexeme]
  | _ => simp [absorbed, startsWith, Lexeme.type]

/-- An operator of rank `k` or higher does not follow a pattern of rank `k`. -/
theorem Follows.not_connective (h : Follows k ls) (op : Connective) (hk : k ≤ op.rank) :
    startsWith (.symbol op.symbol) ls = false := by
  cases h with
  | connective op' h =>
    cases op <;> cases op' <;> first | rfl | exact absurd hk (Nat.not_le.mpr h)
  | modifier m hm h =>
    have hop : op.rank < postfixRank := by cases op <;> decide
    exact absurd (Nat.lt_of_lt_of_le h hk) (Nat.not_lt.mpr (Nat.le_of_lt hop))
  | _ => cases op <;> rfl

theorem Follows.not_modifier (h : Follows k ls) (hk : k ≤ postfixRank) {t : Option Token}
    (ht : t.map Token.lexeme = ls.head?) : t.bind postfixModifier? = none := by
  cases t with
  | none => rfl
  | some t =>
    have hl : some t.lexeme = ls.head? := ht
    change postfixModifier? t = none
    unfold postfixModifier?
    cases h with
    | connective op h => cases op <;> rw [Option.some.inj hl] <;> rfl
    | modifier m hm h => exact absurd hk (Nat.not_le.mpr h)
    | _ => rw [Option.some.inj hl]

/-- No particle stands behind a pattern, so nothing goes on with a sequence. -/
theorem Follows.not_particle (h : Follows k ls) {ts : List Token}
    (ht : ts.map Token.lexeme = ls) : continuesSequence ts = false := by
  cases ts with
  | nil => rfl
  | cons t ts =>
    rw [List.map_cons] at ht
    unfold continuesSequence
    cases h with
    | named name operator =>
      injection ht with hl hts
      cases ts with
      | nil => cases hts
      | cons t' ts =>
        injection hts with hl' _
        simp only [hl]
        cases operator <;> simp [assignment?, hl', Assignment.symbol]
    | connective op h => cases op <;> simp [(List.cons.inj ht).1, Connective.symbol]
    | modifier m hm h =>
      cases m <;> simp_all [(List.cons.inj ht).1, Modifier.lexeme, Modifier.isPostfix]
    | _ => simp [(List.cons.inj ht).1]

end

/-! Ranks -/

/-- The parser for patterns of at least a given rank. -/
def atRank (primary : Parser Pattern) : Nat → Parser Pattern
  | 0 => patternOf primary
  | 1 => interleaveOf primary
  | 2 => sequenceOf primary
  | 3 => postfixOf primary
  | _ => primary

/-- The loop over the operators of a rank, behind a first operand. -/
def loopAt (primary : Parser Pattern) : (rank turns : Nat) → Pattern → Parser Pattern
  | 0 => chain.go .pipe (interleaveOf primary) fun left right =>
    .binary .choice left right left.span
  | 1 => chain.go .ampersand (sequenceOf primary) fun left right =>
    .binary .interleave left right left.span
  | 2 => sequenceOf.go primary
  | 3 => postfixOf.go
  | _ => fun _ p => pure p

variable {primary : Parser Pattern} {ls mid rest : List Lexeme} {p left : Pattern}
  {Q R : Pattern → Prop}

theorem atRank_eq {k : Nat} (hk : k < primaryRank) :
    atRank primary k =
      atRank primary (k + 1) >>= fun left => remaining >>= fun n => loopAt primary k n left := by
  match k, hk with
  | 0, _ | 1, _ | 2, _ | 3, _ => rfl

theorem takes_loop_stop {k : Nat} (h : Follows k ls) (n : Nat) :
    Takes (loopAt primary k n p) ls (· = p) ls := by
  match k with
  | 0 => exact takes_chain_stop (h.not_connective .choice (Nat.le_refl _)) n
  | 1 => exact takes_chain_stop (h.not_connective .interleave (Nat.le_refl _)) n
  | 2 =>
    cases n with
    | zero => exact .pure rfl
    | succ n =>
      apply Takes.refuse (h.not_connective .group (Nat.le_refl _))
      refine Takes.bind (Q := fun b => b = false) (m := ls) (.get fun s hs => ?_) ?_
      · have hb : startsWith (.symbol .leftBracket) (s.rest.map Token.lexeme) = false :=
          hs ▸ h.not_absorbed (by decide)
        rw [afterAnnotations_eq hb]
        exact .pure (h.not_particle hs)
      · rintro _ rfl
        exact .pure rfl
  | 3 =>
    cases n with
    | zero => exact .pure rfl
    | succ n =>
      apply Takes.current
      intro t ht
      simp only [h.not_modifier (Nat.le_refl _) ht]
      exact .pure rfl
  | _ + 4 => exact .pure rfl

theorem takes_startsParticle : Takes startsParticle ls (fun _ => True) ls := by
  apply Takes.get
  intro s _
  split
  case h_1 => exact .pure trivial
  case h_2 => exact .pure trivial

theorem takes_loop_connective (op : Connective) {n : Nat}
    (hr : Takes (atRank primary (op.rank + 1)) ls Q mid)
    (h : ∀ right, Q right →
      Takes (loopAt primary op.rank n (.binary op left right left.span)) mid R rest) :
    Takes (loopAt primary op.rank (n + 1) left) (.symbol op.symbol :: ls) R rest := by
  cases op with
  | choice => exact takes_chain_step hr h
  | interleave => exact takes_chain_step hr h
  | group =>
    apply Takes.accept rfl
    apply takes_startsParticle.bind
    intro b _
    rw [Bool.true_or, if_pos rfl]
    exact hr.bind h

theorem takes_loop_modifier {m : Modifier} (hm : m.isPostfix = true) {n : Nat}
    (h : Takes (loopAt primary postfixRank n (.unary m left left.span)) ls R rest) :
    Takes (loopAt primary postfixRank (n + 1) left) (m.lexeme :: ls) R rest := by
  apply Takes.current_cons
  intro t ht
  have hb : (some t).bind postfixModifier? = some m := by
    simp only [Option.bind_some, postfixModifier?, ht]
    cases m <;> first | rfl | cases hm
  simp only [hb]
  exact .advance h

/-! Phrases -/

/-- The lexemes `w` are read as the pattern `p` where rank `k` is wanted. Since operators of that
rank may follow, what comes after `p` is up to the loop. -/
def Phrase (primary : Parser Pattern) (k : Nat) (w : List Lexeme) (p : Pattern) : Prop :=
  ∀ (ls rest : List Lexeme) (Q : Pattern → Prop), Follows (k + 1) ls →
    (∀ n q, ls.length ≤ n → p.agrees q = true → Takes (loopAt primary k n q) ls Q rest) →
    Takes (atRank primary k) (w ++ ls) Q rest

theorem Phrase.takes {k : Nat} {w : List Lexeme} (h : Phrase primary k w p) (hf : Follows k ls) :
    Takes (atRank primary k) (w ++ ls) (p.agrees · = true) ls :=
  h ls ls _ (hf.mono (Nat.le_succ k)) fun n _ _ hq =>
    (takes_loop_stop hf n).mono fun _ he => he ▸ hq

theorem Phrase.lower {k : Nat} {w : List Lexeme} (h : Phrase primary (k + 1) w p)
    (hk : k < primaryRank) : Phrase primary k w p := by
  intro ls rest Q hf hl
  rw [atRank_eq hk]
  exact (h.takes hf).bind fun q hq => .remaining (hl _ q (Nat.le_refl _) hq)

theorem Phrase.of_le {k k' : Nat} {w : List Lexeme} (h : Phrase primary k' w p)
    (hk : k ≤ k') (hk' : k' ≤ primaryRank) : Phrase primary k w p := by
  induction hk with
  | refl => exact h
  | step hk ih => exact ih (h.lower hk') (Nat.le_of_succ_le hk')

/-- What the parser of primaries reads by itself is a phrase of the highest rank. -/
theorem Phrase.of_primary {w : List Lexeme}
    (h : ∀ ls, Follows (primaryRank + 1) ls → Takes primary (w ++ ls) (p.agrees · = true) ls) :
    Phrase primary primaryRank w p := by
  intro ls rest Q hf hl
  have hb := (h ls hf).bind (f := pure) fun q hq => hl _ q (Nat.le_refl _) hq
  rwa [bind_pure] at hb

/-- The left operand of an operator is read first, the right one by the loop behind it. -/
theorem Phrase.binary {op : Connective} {w w' : List Lexeme} {right : Pattern} {span : Span}
    (hl : Phrase primary op.rank w left) (hr : Phrase primary (op.rank + 1) w' right) :
    Phrase primary op.rank (w ++ .symbol op.symbol :: w') (.binary op left right span) := by
  intro ls rest Q hf hk
  rw [List.append_assoc]
  refine hl _ _ _ (.connective op (Nat.lt_succ_self _)) fun n q hn hq => ?_
  obtain ⟨k, rfl⟩ := Nat.exists_eq_add_of_lt hn
  refine takes_loop_connective op (hr.takes hf) fun r hr => hk _ _ ?_ ?_
  · exact Nat.le_trans (List.sublist_append_right w' ls).length_le (Nat.le_add_right _ _)
  · simp only [Pattern.agrees, decide_true, Bool.true_and, hq, hr]

theorem Phrase.modified {m : Modifier} (hm : m.isPostfix = true) {w : List Lexeme} {span : Span}
    (h : Phrase primary postfixRank w p) :
    Phrase primary postfixRank (w ++ [m.lexeme]) (.unary m p span) := by
  intro ls rest Q hf hk
  rw [List.append_assoc]
  refine h _ _ _ (.modifier m hm (Nat.lt_succ_self _)) fun n q hn hq => ?_
  obtain ⟨k, rfl⟩ := Nat.exists_eq_add_of_lt hn
  refine takes_loop_modifier hm (hk _ _ (Nat.le_add_right _ _) ?_)
  simp only [Pattern.agrees, decide_true, Bool.true_and, hq]

end RelaxCompact.Parser
