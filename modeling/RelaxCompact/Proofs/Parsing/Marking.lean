import RelaxCompact.Proofs.Parsing.Derivation

/-!
The grammar of the compact syntax over marked tokens. A mark says whether a token is the first of a
declaration, a name class, a parameter, a pattern or a component; annotations may stand in front of
these. What further annotations make of a list of marks is the relation `Annotates`.
-/

namespace RelaxCompact

/-- The part of a token in a construct. -/
inductive Role
  | inner
  | head
  /-- the first of a pattern that is joined to the one in front of it without a comma, or of a
  pattern that is the body of a file -/
  | joined
  deriving DecidableEq, Repr

/-- A token with its part, and what is passed over in front of it. -/
structure Mark extends Used where
  role : Role

def Token.mark (t : Token) : Mark := ⟨t.used, .inner⟩

namespace Mark

/-- The mark with more to pass over, in front of the rest. -/
def behind (passed : List Token) (m : Mark) : Mark := { m with passed := passed ++ m.passed }

/-- The mark with more to pass over, directly in front of the token. -/
def annotated (more : List Token) (m : Mark) : Mark := { m with passed := m.passed ++ more }

/-- With a bracket behind it the token is read as an annotation element. -/
def shuts (m : Mark) : Bool := m.role = .joined && m.token.is .prefixedName

/-- The tokens as they are written. -/
def tokens (w : List Mark) : List Token := written (w.map Mark.toUsed)

@[simp]
theorem tokens_nil : tokens [] = [] := rfl

@[simp]
theorem tokens_cons (m : Mark) (w : List Mark) :
    tokens (m :: w) = m.passed ++ m.token :: tokens w := rfl

@[simp]
theorem tokens_mark (t : Token) (w : List Mark) : tokens (t.mark :: w) = t :: tokens w := rfl

@[simp]
theorem tokens_append (w w' : List Mark) : tokens (w ++ w') = tokens w ++ tokens w' := by
  induction w with
  | nil => rfl
  | cons m w ih => simp only [List.cons_append, tokens_cons, ih, List.append_assoc]

end Mark

/-! The grammar -/

/-- What the tokens of a construct are derived from by themselves. -/
inductive Construct
  | basicName
  | primary
  | component (includes : Bool)

/-- Forms of marked tokens. -/
inductive Form
  | nothing
  | one (P : Token → Prop)
  | seq (e e' : Form)
  | alt (e e' : Form)
  | many (e : Form)
  /-- behind tokens that are passed over -/
  | behind (P : List Token → Prop) (e : Form)
  /-- with another part for the first token -/
  | led (role : Role) (e : Form)
  | rule (c : Construct)

namespace Form

instance : Mul Form := ⟨seq⟩

instance : Add Form := ⟨alt⟩

def type (t : TokenType) : Form := one (·.is t)

def keyword (k : Keyword) : Form := type (.keyword k)

def symbol (s : Symbol) : Form := type (.symbol s)

def name : Form := one fun t => (Parser.nameOf? t).isSome

def literal : Form := type .literal * many (symbol .tilde * type .literal)

def inheritance : Form := keyword .inherit * (symbol .assign * name) + nothing

def namespaceUri : Form := keyword .inherit + literal

/-- A declaration without annotations in front. -/
def bareDeclaration : Form :=
  keyword .ns * (name * (symbol .assign * namespaceUri)) +
  keyword .default * (keyword .ns * ((nothing + name) * (symbol .assign * namespaceUri))) +
  keyword .datatypes * (name * (symbol .assign * literal))

def declaration : Form := behind Annotations (led .head bareDeclaration)

def nameClass : Form := rule .basicName * many (symbol .pipe * rule .basicName)

def nameException : Form := symbol .minus * rule .basicName + nothing

def basicName : Form :=
  behind Annotations <| led .head <|
    name + type .prefixedName + symbol .star * nameException + type .nsName * nameException +
    symbol .leftParen * (nameClass * symbol .rightParen)

def particle : Form := rule .primary * many (one fun t => (Parser.postfixModifier? t).isSome)

def sequence : Form := particle * many (symbol .comma * particle + led .joined particle)

def interleave : Form := sequence * many (symbol .ampersand * sequence)

def pattern : Form := interleave * many (symbol .pipe * interleave)

def braced : Form := symbol .leftBrace * (pattern * symbol .rightBrace)

def param : Form :=
  behind Annotations <| led .head <| name * (symbol .assign * literal)

def params : Form := symbol .leftBrace * (many param * symbol .rightBrace)

def data : Form := literal + (params + nothing) * (symbol .minus * rule .primary + nothing)

/-- Components up to a token that closes them. -/
def components (includes : Bool) (close : TokenType) : Form :=
  many (rule (.component includes)) * behind GrammarAnnotations (type close)

def block (includes : Bool) : Form :=
  symbol .leftBrace * components includes (.symbol .rightBrace)

/-- A primary without annotations in front. -/
def barePrimary : Form :=
  (keyword .element + keyword .attr) * (nameClass * braced) +
  (keyword .list + keyword .mixed) * braced +
  (keyword .empty + keyword .text + keyword .notAllowed) +
  type .identifier +
  keyword .parent * type .identifier +
  symbol .leftParen * (pattern * symbol .rightParen) +
  keyword .external * (literal * inheritance) +
  keyword .grammar * block true +
  (keyword .string + keyword .token + type .prefixedName) * data +
  literal

def primary : Form := behind Annotations (led .head barePrimary)

def definition : Form :=
  (keyword .start + type .identifier) *
    (one (fun t => (Parser.assignment? t).isSome) * pattern)

/-- A component without annotations in front. -/
def bareComponent : (includes : Bool) → Form
  | false => definition + keyword .div * block false
  | true =>
    definition + keyword .div * block true +
    keyword .incl * (literal * (inheritance * (block false + nothing)))

def component (includes : Bool) : Form :=
  behind GrammarAnnotations (led .head (bareComponent includes))

/-- What stands behind the declarations of a file. -/
def body : Form := components true .eof + led .joined (pattern * type .eof)

def file : Form := many declaration * behind Annotations body

end Form

def Construct.form : Construct → Form
  | basicName => .basicName
  | primary => .primary
  | component includes => .component includes

/-- The marked tokens have a form. -/
inductive Form.Spells : Form → List Mark → Prop
  | nothing : Spells .nothing []
  | one {P t} : P t → Spells (.one P) [t.mark]
  | seq {e e' u v} : Spells e u → Spells e' v → Spells (e * e') (u ++ v)
  | left {e e' w} : Spells e w → Spells (e + e') w
  | right {e e' w} : Spells e' w → Spells (e + e') w
  | stop {e} : Spells (.many e) []
  | more {e u v} : Spells e u → Spells (.many e) v → Spells (.many e) (u ++ v)
  | behind {P e passed m w} : P passed → Spells e (m :: w) →
    Spells (.behind P e) (m.behind passed :: w)
  | led {role e m w} : Spells e (m :: w) → Spells (.led role e) ({ m with role } :: w)
  | rule {c w} : Spells c.form w → Spells (.rule c) w

/-! What a form begins with -/

namespace Form

/-- The forms begin with a token that has a property, and with nothing to pass over. -/
def Opens (e : Form) (P : Token → Prop) : Prop :=
  ∀ w, Spells e w → ∃ t v, w = t.mark :: v ∧ P t

variable {e e' : Form} {P Q : Token → Prop}

theorem opens_one (hPQ : ∀ t, P t → Q t) : (one P).Opens Q := by
  intro w hw
  cases hw with
  | one ht => exact ⟨_, [], rfl, hPQ _ ht⟩

theorem Opens.seq (h : e.Opens P) : (e * e').Opens P := by
  intro w hw
  cases hw with
  | seq hu _ =>
    obtain ⟨t, u, rfl, ht⟩ := h _ hu
    exact ⟨t, _, List.cons_append .., ht⟩

theorem Opens.alt (h : e.Opens P) (h' : e'.Opens P) : (e + e').Opens P := by
  intro w hw
  cases hw with
  | left hw => exact h w hw
  | right hw => exact h' w hw

/-- A construct begins with its first token. -/
theorem spells_led {A : List Token → Prop} {role : Role} {w : List Mark}
    (h : (behind A (led role e)).Spells w) (hopens : e.Opens P) :
    ∃ passed t v, w = ⟨⟨passed, t⟩, role⟩ :: v ∧ A passed ∧ P t ∧ e.Spells (t.mark :: v) := by
  cases h with
  | @behind _ _ passed _ _ hpassed h =>
    cases h with
    | led h =>
      obtain ⟨t, v, he, ht⟩ := hopens _ h
      cases he
      refine ⟨passed, t, _, ?_, hpassed, ht, h⟩
      simp only [Mark.behind, Token.mark, Token.used, List.append_nil]

theorem spells_construct {A : List Token → Prop} {role : Role} {passed : List Token} {t : Token}
    {w : List Mark} (hpassed : A passed) (h : e.Spells (t.mark :: w)) :
    (behind A (led role e)).Spells (⟨⟨passed, t⟩, role⟩ :: w) := by
  have hw : (behind A (led role e)).Spells
      (Mark.behind passed { t.mark with role } :: w) := .behind hpassed (.led h)
  rwa [Mark.behind, Token.mark, Token.used, List.append_nil] at hw

end Form

/-! Further annotations -/

/-- Annotations stand more in front of some marks that are not inner ones, but not directly behind a
mark that is shut, and not in front of everything if `closed`. Whether the last is shut is told by
`closed'`. -/
inductive Annotates : (closed : Bool) → List Mark → List Mark → (closed' : Bool) → Prop
  | nil {closed} : Annotates closed [] [] closed
  | cons {closed m more w w' closed'} :
    (more = [] ∨ (closed = false ∨ m.passed ≠ []) ∧ m.role ≠ .inner ∧ Annotations more) →
    Annotates m.shuts w w' closed' → Annotates closed (m :: w) (m.annotated more :: w') closed'

namespace Annotates

variable {closed closed' : Bool} {w w' : List Mark}

/-- Nothing is put in front of an inner mark. -/
theorem inner {t : Used} (h : Annotates closed (⟨t, .inner⟩ :: w) w' closed') :
    ∃ v, w' = ⟨t, .inner⟩ :: v ∧ Annotates false w v closed' := by
  cases h with
  | cons hmore h =>
    rcases hmore with rfl | ⟨-, hrole, -⟩
    · rw [Mark.annotated, List.append_nil]
      exact ⟨_, rfl, h⟩
    · exact absurd rfl hrole

theorem mark {t : Token} (h : Annotates closed (t.mark :: w) w' closed') :
    ∃ v, w' = t.mark :: v ∧ Annotates false w v closed' := h.inner

theorem append {u v x : List Mark} (h : Annotates closed (u ++ v) x closed') :
    ∃ u' v' between, x = u' ++ v' ∧ Annotates closed u u' between ∧
      Annotates between v v' closed' := by
  induction u generalizing closed x with
  | nil => exact ⟨[], x, closed, rfl, .nil, h⟩
  | cons m u ih =>
    cases h with
    | cons hmore h =>
      obtain ⟨u', v', between, rfl, hu, hv⟩ := ih h
      exact ⟨_ :: u', v', between, rfl, .cons hmore hu, hv⟩

theorem length_eq (h : Annotates closed w w' closed') : w'.length = w.length := by
  induction h with
  | nil => rfl
  | cons _ _ ih => rw [List.length_cons, List.length_cons, ih]

/-- Where nothing may be put, nothing is. -/
theorem loosen {opened : Bool} (h : Annotates closed w w' closed')
    (hopened : opened = true → closed = true) :
    ∃ opened', Annotates opened w w' opened' ∧ (opened' = true → closed' = true) := by
  cases h with
  | nil => exact ⟨opened, .nil, hopened⟩
  | cons hmore h =>
    refine ⟨closed', .cons (hmore.imp_right (.imp_left (.imp_left fun hclosed => ?_))) h, id⟩
    cases opened with
    | false => rfl
    | true => exact (hopened rfl).symm.trans hclosed

/-- What stands more in front of the first mark. -/
theorem first {m : Mark} (h : Annotates closed (m :: w) w' closed') :
    ∃ more v, w' = m.annotated more :: v ∧ Annotations more ∧ Annotates m.shuts w v closed' := by
  cases h with
  | cons hmore h =>
    refine ⟨_, _, rfl, ?_, h⟩
    rcases hmore with rfl | ⟨-, -, hmore⟩
    · exact .nil
    · exact hmore

/-- What is passed over in front of the first mark stays there. -/
theorem behind {m : Mark} {passed : List Token}
    (h : Annotates closed (m.behind passed :: w) w' closed') :
    ∃ v, Mark.tokens w' = passed ++ Mark.tokens v ∧ Annotates false (m :: w) v closed' := by
  cases h with
  | @cons _ _ more _ v _ hmore h =>
    refine ⟨m.annotated more :: v, ?_, .cons (hmore.imp_right (.imp_left fun _ => .inl rfl)) h⟩
    simp only [Mark.tokens_cons, Mark.behind, Mark.annotated, List.append_assoc]

/-- As the first of a primary a token does not shut what follows it. -/
theorem headed {t : Used} (h : Annotates closed (⟨t, .joined⟩ :: w) w' closed') :
    ∃ v opened, Mark.tokens v = Mark.tokens w' ∧ Annotates closed (⟨t, .head⟩ :: w) v opened ∧
      (opened = true → closed' = true) := by
  cases h with
  | @cons _ _ more _ v _ hmore h =>
    have hshuts : Mark.shuts ⟨t, .head⟩ = true → Mark.shuts ⟨t, .joined⟩ = true := by
      intro h
      cases h
    have hrole : Role.head ≠ .inner := by decide
    obtain ⟨opened, h, hopened⟩ := h.loosen hshuts
    exact ⟨Mark.annotated more ⟨t, .head⟩ :: v, opened, rfl,
      .cons (hmore.imp_right (.imp_right fun h => ⟨hrole, h.2⟩)) h, hopened⟩

/-- Marks may stay as they are. -/
theorem self (closed : Bool) (w : List Mark) :
    Annotates closed w w ((w.getLast?.map Mark.shuts).getD closed) := by
  induction w generalizing closed with
  | nil => exact .nil
  | cons m w ih =>
    have hm : m.annotated [] = m := by rw [Mark.annotated, List.append_nil]
    have hw : Annotates closed (m :: w) (m.annotated [] :: w) _ := .cons (.inl rfl) (ih m.shuts)
    rw [hm] at hw
    cases w with
    | nil => exact hw
    | cons m' w => exact hw

theorem concat {u u' v v' : List Mark} {between : Bool} (hu : Annotates closed u u' between)
    (hv : Annotates between v v' closed') : Annotates closed (u ++ v) (u' ++ v') closed' := by
  induction hu with
  | nil => exact hv
  | cons hmore _ ih => exact .cons hmore (ih hv)

/-- An annotation in front of one mark. -/
theorem at_mark {u v : List Mark} {m : Mark} {more : List Token} (hm : m.role ≠ .inner)
    (hu : m.passed = [] → ∀ last ∈ u.getLast?, last.shuts = false) (hmore : Annotations more) :
    ∃ closed, Annotates false (u ++ m :: v) (u ++ m.annotated more :: v) closed := by
  have hopen : (u.getLast?.map Mark.shuts).getD false = false ∨ m.passed ≠ [] := by
    by_cases hpassed : m.passed = []
    · refine .inl ?_
      cases hlast : u.getLast? with
      | none => rfl
      | some last => exact hu hpassed last hlast
    · exact .inr hpassed
  exact ⟨_, (self false u).concat (.cons (.inr ⟨hopen, hm, hmore⟩) (self _ v))⟩

end Annotates

end RelaxCompact
