import RelaxCompact.Parser.File
import RelaxCompact.Proofs.Alike
import RelaxCompact.Proofs.Parsing.Consuming

/-!
The pace of parsers. A parser only goes forward, and it closes the levels that it opens however it
ends. The parsers that do not depend on a level open none.
-/

namespace RelaxCompact.Parser

open Surface Run

variable {α β : Type}

/-- From one place to a later one no level is opened. -/
structure Passes (s t : Progress) : Prop where
  rest : t.rest <:+ s.rest
  depth : t.depth = s.depth
  deepest : t.deepest = s.deepest

theorem Passes.refl (s : Progress) : Passes s s := ⟨List.suffix_rfl, rfl, rfl⟩

theorem Passes.trans {s t u : Progress} (h : Passes s t) (h' : Passes t u) : Passes s u :=
  ⟨h'.rest.trans h.rest, h'.depth.trans h.depth, h'.deepest.trans h.deepest⟩

/-! Annotations -/

theorem suffix_of_afterAnnotations {ts rest : List Token} (h : afterAnnotations ts = .ok rest) :
    rest <:+ ts := by
  obtain ⟨annotations, rfl, -⟩ := annotations_of_afterAnnotations h
  exact List.suffix_append _ _

theorem suffix_of_unclosed {ts rest : List Token} (h : afterAnnotations ts = .error rest) :
    rest <:+ ts := by
  fun_induction afterAnnotations ts with
  | case1 | case4 => cases h
  | case2 t ts _ after hafter _ ih =>
    obtain ⟨inner, right, behind, rfl, -, -, rfl⟩ := balanced_of_afterBrackets hafter
    exact (ih h).trans ((List.suffix_cons right behind).trans ((List.suffix_append inner _).trans
      (List.suffix_cons t _)))
  | case3 =>
    cases h
    exact List.suffix_rfl

/-! One level deeper -/

/-- The same place with one more level open. -/
def entered (s : Progress) : Progress :=
  { s with depth := s.depth + 1, deepest := max s.deepest (s.depth + 1) }

theorem enclosed_congr {p q : Parser α} {s : Progress} (h : p (entered s) = q (entered s)) :
    enclosed p s = enclosed q s := by
  unfold entered at h
  unfold enclosed
  rw [h]

theorem left_enclosed (p : Parser α) (s : Progress) :
    left (enclosed p s) =
      { left (p (entered s)) with depth := (left (p (entered s))).depth - 1 } := by
  unfold enclosed entered
  cases p { s with depth := s.depth + 1, deepest := max s.deepest (s.depth + 1) } <;> rfl

/-! Parsers that open no level -/

/-- A parser that opens no level. -/
def Plain (p : Parser α) : Prop := ∀ s, Passes s (left (p s))

theorem left_bind (p : Parser α) (f : α → Parser β) (s : Progress) :
    left ((p >>= f) s) = left (p s) ∧ (∀ a t, p s ≠ .ok a t) ∨
      ∃ a t, p s = .ok a t ∧ left ((p >>= f) s) = left (f a t) := by
  cases hp : p s with
  | ok a t =>
    refine .inr ⟨a, t, rfl, ?_⟩
    rw [bind_of_ok hp]
  | error e t =>
    refine .inl ⟨?_, nofun⟩
    rw [bind_of_error hp]
    rfl

namespace Plain

variable {p : Parser α} {f : α → Parser β}

theorem of_left (h : ∀ s, left (p s) = s) : Plain p := fun s => (h s).symm ▸ Passes.refl s

theorem pure (a : α) : Plain (pure a) := .of_left fun _ => rfl

theorem bind (h : Plain p) (hf : ∀ a, Plain (f a)) : Plain (p >>= f) := by
  intro s
  obtain ⟨hleft, -⟩ | ⟨a, t, hp, hleft⟩ := left_bind p f s
  · rw [hleft]
    exact h s
  · have hs := h s
    rw [hp] at hs
    rw [hleft]
    exact hs.trans (hf a t)

theorem ite {c : Prop} [Decidable c] {q : Parser α} (hp : Plain p) (hq : Plain q) :
    Plain (if c then p else q) := by
  split
  · exact hp
  · exact hq

theorem fail (fault : SyntaxFault) : Plain (fail fault : Parser α) := .of_left fun _ => rfl

theorem current : Plain current := .of_left fun _ => rfl

theorem following : Plain following := .of_left fun _ => rfl

theorem remaining : Plain remaining := .of_left fun _ => rfl

theorem get : Plain get := .of_left fun _ => rfl

theorem advance : Plain advance := fun s => ⟨List.tail_suffix s.rest, rfl, rfl⟩

theorem at? (type : TokenType) : Plain (at? type) := current.bind fun _ => .pure _

theorem accept (type : TokenType) : Plain (accept type) :=
  (at? type).bind fun _ => .ite (advance.bind fun _ => .pure _) (.pure _)

theorem expect (type : TokenType) (fault : SyntaxFault) : Plain (expect type fault) := by
  refine current.bind fun token => ?_
  cases token with
  | none => exact .fail _
  | some token => exact .ite (advance.bind fun _ => .pure _) (.fail _)

theorem expectSymbol (s : Symbol) : Plain (expectSymbol s) := (expect _ _).bind fun _ => .pure _

theorem expectName (role : NameRole) : Plain (expectName role) := by
  refine current.bind fun token => ?_
  cases token.bind nameOf? with
  | none => exact .fail _
  | some name => exact advance.bind fun _ => .pure _

theorem skipAnnotations : Plain skipAnnotations := by
  intro s
  have hget : (MonadState.get : Parser Progress) s = .ok s s := rfl
  rw [Parser.skipAnnotations, bind_of_ok hget]
  cases h : afterAnnotations s.rest with
  | ok rest => exact .mk (suffix_of_afterAnnotations h) rfl rfl
  | error rest => exact .mk (suffix_of_unclosed h) rfl rfl

theorem literal : Plain literal := by
  have hsegments (n : Nat) : ∀ text, Plain (literal.segments n text) := by
    induction n with
    | zero => exact fun _ => .pure _
    | succ n ih =>
      exact fun _ => (accept _).bind fun _ => .ite ((expect _ _).bind fun _ => ih _) (.pure _)
  exact (expect _ _).bind fun _ => remaining.bind fun _ => hsegments _ _

theorem literalOr (fault : SyntaxFault) : Plain (literalOr fault) :=
  (at? _).bind fun _ => .ite literal (.fail _)

theorem inheritance : Plain inheritance :=
  (accept _).bind fun _ => .ite
    ((expectSymbol _).bind fun _ => (expectName _).bind fun _ => .pure _) (.pure _)

theorem startsParticle : Plain startsParticle := by
  refine get.bind fun s => ?_
  split <;> exact .pure _

theorem params : Plain params := by
  have hgo (n : Nat) : Plain (params.go n) := by
    induction n with
    | zero => exact (expectSymbol _).bind fun _ => .pure _
    | succ n ih =>
      exact (accept _).bind fun _ => .ite (.pure _) (skipAnnotations.bind fun _ =>
        (expectName _).bind fun _ => (expectSymbol _).bind fun _ => (literalOr _).bind fun _ =>
          ih.bind fun _ => .pure _)
  exact (expectSymbol _).bind fun _ => remaining.bind fun n => hgo n

theorem skipAnnotationElements : Plain skipAnnotationElements := by
  have hgo (n : Nat) : Plain (skipAnnotationElements.go n) := by
    induction n with
    | zero => exact .pure _
    | succ n ih =>
      exact (at? _).bind fun _ => following.bind fun _ => .ite
        (advance.bind fun _ => skipAnnotations.bind fun _ => ih) (.pure _)
  exact remaining.bind fun n => hgo n

theorem namespaceUri : Plain namespaceUri :=
  (accept _).bind fun _ => .ite (.pure _) ((literalOr _).bind fun _ => .pure _)

theorem declaration : Plain declaration? := by
  refine current.bind fun token => ?_
  cases token with
  | none => exact .pure _
  | some token =>
    dsimp only
    split
    · exact advance.bind fun _ => (expectName _).bind fun _ => (expectSymbol _).bind fun _ =>
        namespaceUri.bind fun _ => .pure _
    · have hrest (qualifier : Option String) : Plain (do
          Parser.expectSymbol .assign
          return some (Declaration.binding qualifier (← Parser.namespaceUri) true token.span)) :=
        (expectSymbol _).bind fun _ => namespaceUri.bind fun _ => .pure _
      exact advance.bind fun _ => (expect _ _).bind fun _ => (at? _).bind fun _ =>
        .ite (hrest none) (((expectName _).bind fun _ => .pure _).bind fun _ => hrest _)
    · exact advance.bind fun _ => (expectName _).bind fun _ => (expectSymbol _).bind fun _ =>
        (literalOr _).bind fun _ => .pure _
    · exact .pure _

theorem header : Plain header := by
  have hgo (n : Nat) : Plain (header.go n) := by
    induction n with
    | zero => exact .pure _
    | succ n ih =>
      refine skipAnnotations.bind fun _ => declaration.bind fun d => ?_
      cases d with
      | none => exact .pure _
      | some d => exact ih.bind fun _ => .pure _
  exact remaining.bind fun n => hgo n

end Plain

end RelaxCompact.Parser
