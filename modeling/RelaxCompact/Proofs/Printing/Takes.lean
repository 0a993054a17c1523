import RelaxCompact.Proofs.Printing.Printer
import RelaxCompact.Proofs.Run

/-!
What a parser does on tokens with given lexemes. Places play no part in it, so the rules speak of
lexemes alone: a rule for a step says which lexemes it needs ahead and what the rest has to do.
-/

namespace RelaxCompact.Parser

open Run

/-- The next lexeme has a given type. -/
def startsWith (type : TokenType) (ls : List Lexeme) : Bool := ls.head?.any (·.type = type)

/-- On tokens with the lexemes `ls` the parser succeeds with a result of which `Q` holds, and stops
before the lexemes `rest`. -/
def Takes {α : Type} (p : Parser α) (ls : List Lexeme) (Q : α → Prop) (rest : List Lexeme) :
    Prop :=
  ∀ s, s.rest.map Token.lexeme = ls →
    Ends p s True fun a t => Q a ∧ t.rest.map Token.lexeme = rest

variable {α β : Type} {p : Parser α} {f : α → Parser β} {ls m rest : List Lexeme}
  {Q Q' : α → Prop} {R : β → Prop} {a : α} {l : Lexeme}

theorem Takes.mono (h : Takes p ls Q rest) (hQ : ∀ a, Q a → Q' a) : Takes p ls Q' rest := by
  intro s hs
  exact (h s hs).mono id fun a _ ⟨ha, ht⟩ => ⟨hQ a ha, ht⟩

theorem Takes.bind (h : Takes p ls Q m) (hf : ∀ a, Q a → Takes (f a) m R rest) :
    Takes (p >>= f) ls R rest := by
  intro s hs
  exact (h s hs).bind fun a t ⟨ha, ht⟩ => hf a ha t ht

theorem Takes.pure (h : Q a) : Takes (pure a) ls Q ls := by
  intro s hs
  exact Ends.pure ⟨h, hs⟩

theorem Takes.map {g : α → β} (h : Takes p ls Q rest) (hg : ∀ a, Q a → R (g a)) :
    Takes (g <$> p) ls R rest := by
  rw [map_eq_pure_bind]
  exact h.bind fun a ha => .pure (hg a ha)

/-! Looking ahead -/

theorem Takes.get {f : Progress → Parser β}
    (h : ∀ s : Progress, s.rest.map Token.lexeme = ls → Takes (f s) ls R rest) :
    Takes (get >>= f) ls R rest := by
  intro s hs
  exact Ends.get (h s hs s hs)

theorem Takes.remaining {f : Nat → Parser β} (h : Takes (f ls.length) ls R rest) :
    Takes (remaining >>= f) ls R rest := by
  refine Takes.bind (Q := fun n => n = ls.length) (.get fun s hs => .pure ?_) ?_
  · rw [← hs, List.length_map]
  · rintro _ rfl
    exact h

theorem Takes.current {f : Option Token → Parser β}
    (h : ∀ t : Option Token, t.map Token.lexeme = ls.head? → Takes (f t) ls R rest) :
    Takes (current >>= f) ls R rest := by
  refine Takes.bind (Q := fun t => t.map Token.lexeme = ls.head?) (.get fun s hs => .pure ?_) h
  rw [← hs, List.head?_map]

/-- With a lexeme ahead there is a current token. -/
theorem Takes.current_cons {f : Option Token → Parser β}
    (h : ∀ t : Token, t.lexeme = l → Takes (f (some t)) (l :: ls) R rest) :
    Takes (Parser.current >>= f) (l :: ls) R rest := by
  apply Takes.current
  intro t ht
  cases t with
  | none => cases ht
  | some t => exact h t (Option.some.inj ht)

theorem Takes.at {f : Bool → Parser β} {type : TokenType} {b : Bool}
    (hb : startsWith type ls = b) (h : Takes (f b) ls R rest) :
    Takes (at? type >>= f) ls R rest := by
  refine Takes.bind (Q := fun b' => b' = b) (.current fun t ht => .pure ?_) ?_
  · rw [← hb, startsWith, ← ht, Option.any_map]
    rfl
  · rintro _ rfl
    exact h

/-! Going on -/

theorem Takes.modify {g : Progress → Progress} {f : Unit → Parser β}
    (hg : ∀ s : Progress, s.rest.map Token.lexeme = ls →
      (g s).rest.map Token.lexeme = m) (h : Takes (f ()) m R rest) :
    Takes (modify g >>= f) ls R rest := by
  intro s hs
  exact Ends.modify (h _ (hg s hs))

theorem Takes.advance {f : Unit → Parser β} (h : Takes (f ()) ls R rest) :
    Takes (advance >>= f) (l :: ls) R rest := by
  refine .modify (fun s hs => ?_) h
  dsimp only
  rw [List.map_tail, hs, List.tail_cons]

theorem Takes.accept {f : Bool → Parser β} {type : TokenType} (ht : l.type = type)
    (h : Takes (f true) ls R rest) : Takes (accept type >>= f) (l :: ls) R rest := by
  refine Takes.bind (Q := fun b => b = true) (m := ls) ?_ ?_
  · exact .at (b := true) (decide_eq_true ht) (.advance (.pure rfl))
  · rintro _ rfl
    exact h

/-- A lexeme of another type stays ahead. -/
theorem Takes.refuse {f : Bool → Parser β} {type : TokenType} (ht : startsWith type ls = false)
    (h : Takes (f false) ls R rest) : Takes (Parser.accept type >>= f) ls R rest := by
  refine Takes.bind (Q := fun b => b = false) (m := ls) ?_ ?_
  · exact .at ht (.pure rfl)
  · rintro _ rfl
    exact h

theorem Takes.expect {f : Token → Parser β} {type : TokenType} {fault : SyntaxFault}
    (ht : l.type = type) (h : ∀ t : Token, t.lexeme = l → Takes (f t) ls R rest) :
    Takes (expect type fault >>= f) (l :: ls) R rest := by
  refine Takes.bind (Q := fun t => t.lexeme = l) (m := ls) ?_ h
  apply Takes.current_cons
  intro t htl
  have htype : t.is type = true := decide_eq_true ((congrArg Lexeme.type htl).trans ht)
  simp only [htype, if_true]
  exact .advance (.pure htl)

theorem Takes.symbol {f : Unit → Parser β} {s : Symbol} (h : Takes (f ()) ls R rest) :
    Takes (expectSymbol s >>= f) (.symbol s :: ls) R rest :=
  Takes.bind (Q := fun _ => True) (.expect rfl fun _ _ => .pure trivial) fun _ _ => h

theorem takes_name {role : NameRole} {name : String} :
    Takes (expectName role) (.identifier name :: ls) (· = name) ls := by
  apply Takes.current_cons
  intro t ht
  have hname : (some t).bind nameOf? = some name := by
    simp only [Option.bind_some, nameOf?, ht]
  simp only [hname]
  exact .advance (.pure rfl)

theorem Takes.name {f : String → Parser β} {role : NameRole} {name : String}
    (h : Takes (f name) ls R rest) :
    Takes (expectName role >>= f) (.identifier name :: ls) R rest :=
  takes_name.bind fun _ hn => hn ▸ h

/-! Annotations -/

theorem afterAnnotations_eq {ts : List Token}
    (h : startsWith (.symbol .leftBracket) (ts.map Token.lexeme) = false) :
    afterAnnotations ts = .ok ts := by
  cases ts with
  | nil => rw [afterAnnotations]
  | cons t ts =>
    have ht : t.is (.symbol .leftBracket) = false := h
    rw [afterAnnotations, if_neg (by rw [ht]; exact Bool.false_ne_true)]

theorem Takes.skipAnnotations {f : Unit → Parser β}
    (ht : startsWith (.symbol .leftBracket) ls = false) (h : Takes (f ()) ls R rest) :
    Takes (skipAnnotations >>= f) ls R rest := by
  refine Takes.bind (Q := fun _ => True) (m := ls) (.get fun s hs => ?_) fun _ _ => h
  rw [afterAnnotations_eq (hs ▸ ht)]
  intro s' hs'
  exact ⟨trivial, hs⟩

/-! Literals -/

theorem takes_literal {value : Text} (ht : startsWith (.symbol .tilde) ls = false) :
    Takes literal (.literal value :: ls) (· = value) ls := by
  apply Takes.expect rfl
  intro t hl
  apply Takes.remaining
  have hvalue : t.value = value := by rw [Token.value, hl, Lexeme.value]
  rw [hvalue]
  cases ls.length with
  | zero => exact .pure rfl
  | succ n => exact .refuse ht (.pure rfl)

theorem Takes.literal {f : Text → Parser β} {value : Text} {fault : SyntaxFault}
    (ht : startsWith (.symbol .tilde) ls = false) (h : Takes (f value) ls R rest) :
    Takes (literalOr fault >>= f) (.literal value :: ls) R rest := by
  refine Takes.bind (Q := fun v => v = value) (m := ls) (.at (b := true) rfl (takes_literal ht)) ?_
  rintro _ rfl
  exact h

theorem Takes.inheritance {f : Option String → Parser β} {inherit : Option String}
    (ht : startsWith (.keyword .inherit) ls = false) (h : Takes (f inherit) ls R rest) :
    Takes (inheritance >>= f) (Surface.inheritLexemes inherit ++ ls) R rest := by
  refine Takes.bind (Q := fun i => i = inherit) (m := ls) ?_ ?_
  · cases inherit with
    | none => exact .refuse ht (.pure rfl)
    | some qualifier => exact .accept rfl (.symbol (.name (.pure rfl)))
  · rintro _ rfl
    exact h

/-! Operators and levels -/

section

variable {op : Symbol} {operand : Parser α} {combine : α → α → α}

theorem takes_chain_stop (ht : startsWith (.symbol op) ls = false) (n : Nat) :
    Takes (chain.go op operand combine n a) ls (· = a) ls := by
  cases n with
  | zero => exact .pure rfl
  | succ n => exact .refuse ht (.pure rfl)

theorem takes_chain_step {n : Nat} (hr : Takes operand ls Q m)
    (h : ∀ b, Q b → Takes (chain.go op operand combine n (combine a b)) m Q' rest) :
    Takes (chain.go op operand combine (n + 1) a) (.symbol op :: ls) Q' rest :=
  .accept rfl (hr.bind h)

end

theorem Takes.enclosed (h : Takes p ls Q rest) : Takes (enclosed p) ls Q rest := by
  intro s hs
  have hp := h { s with depth := s.depth + 1, deepest := max s.deepest (s.depth + 1) } hs
  unfold Ends at hp ⊢
  unfold Parser.enclosed
  split at hp
  case h_1 heq =>
    rw [heq]
    exact hp
  case h_2 => exact absurd trivial hp

/-- The parsers inside one more opening construct, where `n` levels are left. -/
def below (setting : Setting) : Nat → Option Level
  | 0 => none
  | n + 1 => some (level setting n)

theorem level_eq (setting : Setting) (n : Nat) :
    level setting n = .above setting (below setting n) := by
  cases n <;> rfl

theorem Takes.nested {setting : Setting} {n : Nat} {content : Level → Parser α}
    (h : Takes (content (level setting n)) ls Q rest) :
    Takes (nested setting (below setting (n + 1)) content) ls Q rest :=
  h.enclosed

end RelaxCompact.Parser
