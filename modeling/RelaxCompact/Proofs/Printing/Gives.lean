import RelaxCompact.Proofs.Printing.Spelling
import RelaxCompact.Proofs.Printing.Takes

/-! What a parser gives if it succeeds, on tokens whose names are names that the lexer reads. -/

namespace RelaxCompact.Parser

open Run

/-- The tokens are named. -/
def Named (ts : List Token) : Prop := ∀ t ∈ ts, t.lexeme.named = true

/-- On named tokens the parser fails, or gives a result of which `Q` holds before named tokens. -/
def Gives {α : Type} (p : Parser α) (Q : α → Prop) : Prop :=
  ∀ s, Named s.rest → Ends p s False fun a t => Q a ∧ Named t.rest

variable {α β : Type} {p : Parser α} {f : α → Parser β} {Q Q' : α → Prop} {R : β → Prop} {a : α}

theorem Gives.mono (h : Gives p Q) (hQ : ∀ a, Q a → Q' a) : Gives p Q' := by
  intro s hs
  exact (h s hs).mono id fun a _ ⟨ha, ht⟩ => ⟨hQ a ha, ht⟩

theorem Gives.bind (h : Gives p Q) (hf : ∀ a, Q a → Gives (f a) R) : Gives (p >>= f) R := by
  intro s hs
  exact (h s hs).bind fun a t ⟨ha, ht⟩ => hf a ha t ht

theorem Gives.pure (h : Q a) : Gives (pure a) Q := by
  intro s hs
  exact Ends.pure ⟨h, hs⟩

theorem Gives.map {g : α → β} (h : Gives p Q) (hg : ∀ a, Q a → R (g a)) : Gives (g <$> p) R := by
  rw [map_eq_pure_bind]
  exact h.bind fun a ha => .pure (hg a ha)

/-! Single steps -/

theorem Gives.get {f : Progress → Parser β} (h : ∀ s : Progress, Named s.rest → Gives (f s) R) :
    Gives (get >>= f) R := by
  intro s hs
  exact Ends.get (h s hs s hs)

theorem Gives.modify {g : Progress → Progress}
    (hg : ∀ s : Progress, Named s.rest → Named (g s).rest) : Gives (modify g) fun _ => True := by
  intro s hs
  exact ⟨trivial, hg s hs⟩

theorem Gives.throw {e : SchemaError} : Gives (throw e : Parser α) Q := by
  intro s _
  exact Ends.throw id

theorem gives_current : Gives current fun t => ∀ u, t = some u → u.lexeme.named = true := by
  refine .get fun s hs => .pure fun u hu => hs u (List.mem_of_mem_head? hu)

theorem gives_following : Gives following fun _ => True := .get fun _ _ => .pure trivial

theorem gives_remaining : Gives remaining fun _ => True := .get fun _ _ => .pure trivial

theorem gives_fail {fault : SyntaxFault} : Gives (fail fault : Parser α) Q :=
  gives_current.bind fun _ _ => .throw

theorem gives_advance : Gives advance fun _ => True :=
  .modify fun _ hs _ ht => hs _ (List.mem_of_mem_tail ht)

theorem gives_at {type : TokenType} : Gives (at? type) fun _ => True :=
  gives_current.bind fun _ _ => .pure trivial

theorem gives_accept {type : TokenType} : Gives (accept type) fun _ => True := by
  apply gives_at.bind
  intro b _
  split
  case isTrue => exact gives_advance.bind fun _ _ => .pure trivial
  case isFalse => exact .pure trivial

theorem gives_expect {type : TokenType} {fault : SyntaxFault} :
    Gives (expect type fault) fun t => t.lexeme.named = true ∧ t.type = type := by
  apply gives_current.bind
  intro t ht
  cases t with
  | none => exact gives_fail
  | some t =>
    dsimp only
    split
    case isTrue htype =>
      exact gives_advance.bind fun _ _ => .pure ⟨ht t rfl, of_decide_eq_true htype⟩
    case isFalse => exact gives_fail

theorem gives_expectSymbol {s : Symbol} : Gives (expectSymbol s) fun _ => True :=
  gives_expect.bind fun _ _ => .pure trivial

/-- Identifiers and keywords are names. -/
theorem isName_of_nameOf? {t : Token} {name : String} (ht : t.lexeme.named = true)
    (h : nameOf? t = some name) : Lexer.isName name = true := by
  unfold nameOf? at h
  split at h
  case h_1 heq =>
    cases h
    rwa [heq] at ht
  case h_2 k heq =>
    cases h
    exact k.isName_spelling
  case h_3 => cases h

theorem gives_expectName {role : NameRole} :
    Gives (expectName role) fun name => Lexer.isName name = true := by
  apply gives_current.bind
  intro t ht
  split
  case h_1 name hname =>
    obtain ⟨u, hu, hname⟩ := Option.bind_eq_some_iff.mp hname
    exact gives_advance.bind fun _ _ => .pure (isName_of_nameOf? (ht u hu) hname)
  case h_2 => exact gives_fail

/-! Annotations -/

theorem named_of_afterBrackets {depth : Nat} {ts rest : List Token} (hts : Named ts)
    (h : afterBrackets depth ts = some rest) : Named rest := by
  fun_induction afterBrackets depth ts with
  | case1 => cases h
  | case2 depth t ts ht ih => exact ih (List.forall_mem_cons.mp hts).2 h
  | case3 depth t ts ht hd =>
    cases h
    exact (List.forall_mem_cons.mp hts).2
  | case4 depth t ts ht hd ih => exact ih (List.forall_mem_cons.mp hts).2 h
  | case5 => cases h
  | case6 depth t ts _ _ _ ih => exact ih (List.forall_mem_cons.mp hts).2 h

/-- Annotations are passed as a whole, so the tokens that are left are tokens of the file. -/
theorem named_of_afterAnnotations {ts : List Token} (hts : Named ts) :
    (∀ rest, afterAnnotations ts = .ok rest → Named rest) ∧
      ∀ rest, afterAnnotations ts = .error rest → Named rest := by
  fun_induction afterAnnotations ts with
  | case1 =>
    refine ⟨fun rest h => ?_, fun rest h => ?_⟩
    · cases h
      exact hts
    · cases h
  | case2 t ts ht rest hb _ ih =>
    exact ih (named_of_afterBrackets (List.forall_mem_cons.mp hts).2 hb)
  | case3 t ts ht hb =>
    refine ⟨fun rest h => ?_, fun rest h => ?_⟩
    · cases h
    · cases h
      exact hts
  | case4 t ts ht =>
    refine ⟨fun rest h => ?_, fun rest h => ?_⟩
    · cases h
      exact hts
    · cases h

theorem gives_skipAnnotations : Gives skipAnnotations fun _ => True := by
  apply Gives.get
  intro s hs
  split
  case h_1 rest h => exact .modify fun _ _ => (named_of_afterAnnotations hs).1 rest h
  case h_2 rest h =>
    exact (Gives.modify fun _ _ => (named_of_afterAnnotations hs).2 rest h).bind
      fun _ _ => gives_fail

/-! Literals -/

theorem gives_literal : Gives literal fun _ => True := by
  apply gives_expect.bind
  intro t _
  apply gives_remaining.bind
  intro n _
  generalize t.value = text
  induction n generalizing text with
  | zero => exact .pure trivial
  | succ n ih =>
    apply gives_accept.bind
    intro b _
    split
    case isTrue => exact gives_expect.bind fun u _ => ih _
    case isFalse => exact .pure trivial

theorem gives_literalOr {fault : SyntaxFault} : Gives (literalOr fault) fun _ => True := by
  apply gives_at.bind
  intro b _
  split
  case isTrue => exact gives_literal
  case isFalse => exact gives_fail

theorem gives_inheritance : Gives inheritance fun i => i.all Lexer.isName = true := by
  apply gives_accept.bind
  intro b _
  split
  case isTrue =>
    exact gives_expectSymbol.bind fun _ _ => gives_expectName.bind fun name hn => .pure hn
  case isFalse => exact .pure rfl

/-! Operators and levels -/

theorem gives_chain_go {op : Symbol} {operand : Parser α} {combine : α → α → α}
    (h : Gives operand Q) (hc : ∀ a b, Q' a → Q b → Q' (combine a b)) (turns : Nat) (ha : Q' a) :
    Gives (chain.go op operand combine turns a) Q' := by
  induction turns generalizing a with
  | zero => exact .pure ha
  | succ turns ih =>
    apply gives_accept.bind
    intro b _
    split
    case isTrue => exact h.bind fun b hb => ih (hc a b ha hb)
    case isFalse => exact .pure ha

theorem Gives.enclosed (h : Gives p Q) : Gives (enclosed p) Q := by
  intro s hs
  have hp := h { s with depth := s.depth + 1, deepest := max s.deepest (s.depth + 1) } hs
  unfold Ends at hp ⊢
  unfold Parser.enclosed
  split at hp
  case h_1 heq =>
    rw [heq]
    exact hp
  case h_2 heq =>
    rw [heq]
    exact id

/-- What is nested is read at the next level, if one is left. -/
theorem Gives.nested {setting : Setting} {n : Nat} {content : Level → Parser α}
    (h : ∀ m, n = m + 1 → Gives (content (level setting m)) Q) :
    Gives (nested setting (below setting n) content) Q := by
  cases n with
  | zero => exact gives_fail
  | succ n => exact (h n rfl).enclosed

end RelaxCompact.Parser
