import RelaxCompact.Proofs.Parsing.Accepting
import RelaxCompact.Proofs.Parsing.Marking

/-!
Parsers that read the same when annotations are added. What a successful run reads can be marked;
from the marked tokens with further annotations the parser reads the same value again.
-/

namespace RelaxCompact

open Surface

/-! What is seen of the tokens that follow -/

/-- The first of the tokens is the same, or a bracket where one may be put. -/
def Ahead (closed : Bool) (next next' : List Token) : Prop :=
  next'.head? = next.head? ∨
    closed = false ∧ ∃ t ∈ next'.head?, t.lexeme = .symbol .leftBracket

theorem Annotations.head {ts : List Token} (h : Annotations ts) :
    ts = [] ∨ ∃ t rest, ts = t :: rest ∧ t.lexeme = .symbol .leftBracket := by
  cases h with
  | nil => exact .inl rfl
  | cons hleft _ _ _ => exact .inr ⟨_, _, List.cons_append .., hleft⟩

theorem Annotates.ahead {closed closed' : Bool} {w w' : List Mark} {next next' : List Token}
    (h : Annotates closed w w' closed') (hnext : Ahead closed' next next') :
    Ahead closed (Mark.tokens w ++ next) (Mark.tokens w' ++ next') := by
  cases h with
  | nil => exact hnext
  | @cons _ m more w w' _ hmore _ =>
    rw [Mark.tokens_cons, Mark.tokens_cons]
    cases hpassed : m.passed with
    | cons t passed =>
      rw [Mark.annotated, hpassed]
      exact .inl rfl
    | nil =>
      rw [Mark.annotated, hpassed]
      rcases hmore with rfl | ⟨hclosed, -, hmore⟩
      · exact .inl rfl
      · rcases hmore.head with rfl | ⟨t, rest, rfl, ht⟩
        · exact .inl rfl
        · exact .inr ⟨hclosed.resolve_right (absurd hpassed), t, rfl, ht⟩

namespace Ahead

variable {closed : Bool} {next next' : List Token}

theorem refl (closed : Bool) (next : List Token) : Ahead closed next next := .inl rfl

theorem opened {opened : Bool} (h : Ahead closed next next')
    (hopened : opened = true → closed = true) : Ahead opened next next' := by
  refine h.imp_right (.imp_left fun hclosed => ?_)
  cases opened with
  | false => rfl
  | true => exact (hopened rfl).symm.trans hclosed

/-- A token that is not there is not there with annotations more. -/
theorem not_at (h : Ahead closed next next') {P : Token → Bool}
    (hP : ∀ t : Token, t.lexeme = .symbol .leftBracket → P t = false)
    (hnext : next.head?.any P = false) : next'.head?.any P = false := by
  rcases h with heq | ⟨-, t, ht, hbracket⟩
  · rwa [heq]
  · rw [ht]
    exact hP t hbracket

theorem is_eq_false (h : Ahead closed next next') {type : TokenType}
    (htype : type ≠ .symbol .leftBracket) (hnext : next.head?.any (·.is type) = false) :
    next'.head?.any (·.is type) = false := by
  refine h.not_at (fun t ht => ?_) hnext
  rw [Token.is, Token.type, ht]
  exact decide_eq_false htype.symm

end Ahead

namespace Parser

open Run

variable {α β : Type} {s : Progress}

theorem skipAnnotations_eq {rest : List Token} (h : afterAnnotations s.rest = .ok rest) :
    skipAnnotations s = .ok () { s with rest } := by
  have hget : (get : Parser Progress) s = .ok s s := rfl
  rw [skipAnnotations, bind_of_ok hget, h]
  rfl

theorem current_eq (f : Option Token → Parser α) (s : Progress) :
    (current >>= f) s = f s.rest.head? s := rfl

theorem accept_eq (type : TokenType) (s : Progress) :
    accept type s = if s.rest.head?.any (·.is type) = true then
      .ok true { s with rest := s.rest.tail } else .ok false s := by
  change (if s.rest.head?.any (·.is type) = true then advance >>= fun _ => pure true
    else pure false : Parser Bool) s = _
  split <;> rfl

/-- Anything may follow. -/
abbrev Anything (_ : List Token) : Prop := True

/-- A parser makes a value of marked tokens, also if annotations are added to them and to what
follows, which is left. -/
def Again (bound : Nat) (D : List Token → Prop) (p : Parser α) (w : List Mark)
    (next : List Token) (a : α) : Prop :=
  ∀ s closed closed' w' next', s.rest.length ≤ bound → s.rest = Mark.tokens w' ++ next' →
    Annotates closed w w' closed' → Ahead closed' next next' → D next' →
    ∃ t, p s = .ok a t ∧ t.rest = next'

/-- What a successful run reads has a form, and is read again with annotations more, if what follows
is as `D` says. -/
def Rereads (D : List Token → Prop) (p : Parser α) (e : Form) : Prop :=
  ∀ s a t, p s = .ok a t → ∃ w, s.rest = Mark.tokens w ++ t.rest ∧ e.Spells w ∧
    ∀ bound, Again bound D p w t.rest a

/-- So does a loop with as much fuel as there are tokens, or more. -/
def Loops (D : List Token → Prop) (f : Nat → Parser α) (e : Form) : Prop :=
  ∀ n s a t, s.rest.length ≤ n → f n s = .ok a t →
    ∃ w, s.rest = Mark.tokens w ++ t.rest ∧ e.Spells w ∧
      ∀ bound, Again bound D (f bound) w t.rest a

/-- What follows with annotations more is as `D` says, if `D'` holds behind it. -/
def Leaves (D D' : List Token → Prop) (w : List Mark) : Prop :=
  ∀ closed w' closed' next', Annotates closed w w' closed' → D' next' →
    D (Mark.tokens w' ++ next')

section

variable {D D' : List Token → Prop} {p : Parser α} {f : α → Parser β} {e e' : Form}
  {u v w : List Mark} {next : List Token} {a : α} {b : β}

theorem leaves_anything : Leaves Anything D w := fun _ _ _ _ _ _ => trivial

/-! Runs in a row -/

theorem length_le_tokens (w : List Mark) : w.length ≤ (Mark.tokens w).length := by
  induction w with
  | nil => exact Nat.le_refl 0
  | cons m w ih =>
    rw [Mark.tokens_cons, List.length_append, List.length_cons, List.length_cons]
    omega

theorem Again.mono {bound bound' : Nat} (h : Again bound' D p w next a) (hle : bound ≤ bound') :
    Again bound D p w next a :=
  fun s closed closed' w' next' hs => h s closed closed' w' next' (hs.trans hle)

theorem Again.bind {bound bound' : Nat} (hp : Again bound D p u (Mark.tokens v ++ next) a)
    (hf : Again bound' D' (f a) v next b) (hbound : bound ≤ bound' + u.length)
    (hv : Leaves D D' v) : Again bound D' (p >>= f) (u ++ v) next b := by
  intro s closed closed' x next' hlength hs hx hnext hD
  obtain ⟨u', v', between, rfl, hu', hv'⟩ := hx.append
  rw [Mark.tokens_append, List.append_assoc] at hs
  obtain ⟨t, ht, hrest⟩ := hp s closed between u' _ hlength hs hu' (hv'.ahead hnext)
    (hv _ _ _ _ hv' hD)
  have hrun : (p >>= f) s = f a t := bind_of_ok ht
  rw [hrun]
  refine hf t between closed' v' next' ?_ hrest hv' hnext hD
  have hu := length_le_tokens u'
  rw [hu'.length_eq] at hu
  rw [hs, List.length_append] at hlength
  rw [hrest]
  omega

theorem Again.andThen {bound : Nat} {g : α → β} (hp : Again bound D p w next a) :
    Again bound D (p >>= fun a => pure (g a)) w next (g a) := by
  intro s closed closed' w' next' hlength hs hw' hnext hD
  obtain ⟨t, ht, hrest⟩ := hp s closed closed' w' next' hlength hs hw' hnext hD
  have hrun : (p >>= fun a => pure (g a)) s = (pure (g a) : Parser β) t := bind_of_ok ht
  exact ⟨t, hrun, hrest⟩

theorem Rereads.bind (hp : Rereads D p e) (hf : ∀ a, Rereads D' (f a) e')
    (hD : ∀ v, e'.Spells v → Leaves D D' v) : Rereads D' (p >>= f) (e * e') := by
  intro s b t h
  obtain ⟨a, s', hrun, hthen⟩ := bind_ok h
  obtain ⟨u, hs, hu, hp⟩ := hp s a s' hrun
  obtain ⟨v, hs', hv, hf⟩ := hf a s' b t hthen
  refine ⟨u ++ v, ?_, .seq hu hv, fun bound => ?_⟩
  · rw [hs, hs', Mark.tokens_append, List.append_assoc]
  · rw [hs'] at hp
    exact (hp bound).bind (hf bound) (Nat.le_add_right _ _) (hD v hv)

theorem Rereads.seq (hp : Rereads Anything p e) (hf : ∀ a, Rereads D (f a) e') :
    Rereads D (p >>= f) (e * e') :=
  hp.bind hf fun _ _ => leaves_anything

theorem Rereads.mono {D' : List Token → Prop} {e' : Form} (h : Rereads D p e)
    (hD : ∀ next, D' next → D next) (he : ∀ w, e.Spells w → e'.Spells w) : Rereads D' p e' := by
  intro s a t hrun
  obtain ⟨w, hs, hw, hagain⟩ := h s a t hrun
  refine ⟨w, hs, he w hw, fun bound s closed closed' w' next' hlength hs hw' hnext hD' => ?_⟩
  exact hagain bound s closed closed' w' next' hlength hs hw' hnext (hD _ hD')

theorem Rereads.weaken (h : Rereads Anything p e) : Rereads D p e :=
  h.mono (fun _ _ => trivial) fun _ => id

theorem again_pure {bound : Nat} (a : α) : Again bound D (pure a) [] next a := by
  intro s closed closed' w' next' _ hs hw' _ _
  cases hw'
  exact ⟨s, rfl, hs⟩

theorem rereads_pure (a : α) : Rereads D (pure a) .nothing := by
  intro s b t h
  obtain ⟨rfl, rfl⟩ := pure_ok h
  exact ⟨[], rfl, .nothing, fun bound => again_pure b⟩

theorem rereads_fail (fault : SyntaxFault) : Rereads D (fail fault : Parser α) e :=
  fun _ _ _ h => (not_fail_ok h).elim

theorem Rereads.andThen {g : α → β} (hp : Rereads D p e) :
    Rereads D (p >>= fun a => pure (g a)) e := by
  intro s b t h
  obtain ⟨a, u, hrun, hthen⟩ := bind_ok h
  obtain ⟨rfl, rfl⟩ := pure_ok hthen
  obtain ⟨w, hs, hw, hagain⟩ := hp s a _ hrun
  exact ⟨w, hs, hw, fun bound => (hagain bound).andThen⟩

/-! Single tokens -/

theorem is_of_lexeme {t : Token} {l : Lexeme} (h : t.lexeme = l) : t.is l.type = true := by
  rw [Token.is, Token.type, h]
  exact decide_eq_true rfl

theorem again_token {bound : Nat} {t : Token}
    (h : ∀ s rest, s.rest = t :: rest → p s = .ok a { s with rest }) :
    Again bound D p [t.mark] next a := by
  intro s closed closed' w' next' _ hs hw' _ _
  obtain ⟨v, rfl, hv⟩ := hw'.mark
  cases hv
  exact ⟨_, h s next' hs, rfl⟩

theorem rereads_token {P : Token → Prop}
    (h : ∀ s a u, p s = .ok a u → ∃ t, s.rest = t :: u.rest ∧ P t ∧
      ∀ s rest, s.rest = t :: rest → p s = .ok a { s with rest }) :
    Rereads D p (.one P) := by
  intro s a u hrun
  obtain ⟨t, hs, ht, hagain⟩ := h s a u hrun
  exact ⟨[t.mark], hs, .one ht, fun bound => again_token hagain⟩

theorem rereads_expect (type : TokenType) (fault : SyntaxFault) :
    Rereads D (expect type fault) (.type type) := by
  refine rereads_token fun s t u h => ?_
  obtain ⟨hs, ht⟩ := expect_ok h
  refine ⟨t, hs, ht, fun s' rest hs' => ?_⟩
  obtain ⟨rest', depth, deepest⟩ := s'
  cases hs'
  change (if t.is type = true then advance >>= fun _ => pure t else fail fault : Parser Token) _ = _
  rw [if_pos ht]
  rfl

theorem rereads_expectSymbol (sym : Symbol) : Rereads D (expectSymbol sym) (.symbol sym) :=
  (rereads_expect _ _).andThen

theorem rereads_expectName (role : NameRole) : Rereads D (expectName role) .name := by
  refine rereads_token fun s name u h => ?_
  obtain ⟨t, hs, hname⟩ := expectName_ok h
  refine ⟨t, hs, by rw [hname]; rfl, fun s' rest hs' => ?_⟩
  have hadvance : advance s' = .ok () { s' with rest } := by
    change EStateM.Result.ok () { s' with rest := s'.rest.tail } = _
    rw [hs', List.tail_cons]
  rw [expectName, current_eq, hs', List.head?_cons, Option.bind_some, hname]
  exact bind_of_ok hadvance

/-! Choices by the type of the current token -/

theorem again_accept_true {bound : Nat} {type : TokenType} {t : Token} (ht : t.is type = true) :
    Again bound D (accept type) [t.mark] next true := by
  refine again_token fun s rest hs => ?_
  rw [accept_eq, hs, List.head?_cons, Option.any_some, if_pos ht]
  rfl

theorem again_accept_false {bound : Nat} {type : TokenType} (htype : type ≠ .symbol .leftBracket)
    (hnext : next.head?.any (·.is type) = false) : Again bound D (accept type) [] next false := by
  intro s closed closed' w' next' _ hs hw' hahead _
  cases hw'
  have hs' : s.rest.head?.any (·.is type) = false := hs ▸ hahead.is_eq_false htype hnext
  refine ⟨s, ?_, hs⟩
  rw [accept_eq, hs', if_neg Bool.false_ne_true]

theorem accept_false {type : TokenType} {s t : Progress} (h : accept type s = .ok false t) :
    t = s ∧ s.rest.head?.any (·.is type) = false := by
  rw [accept_eq] at h
  split at h
  next => cases h
  next hat =>
    cases h
    exact ⟨rfl, Bool.eq_false_iff.mpr hat⟩

/-- One parser behind a token of a type, the other where there is none. -/
theorem rereads_accept {q : Parser α} {type : TokenType} (htype : type ≠ .symbol .leftBracket)
    (hp : Rereads D p e) (hq : Rereads D q e') :
    Rereads D (do if ← accept type then p else q) (.type type * e + e') := by
  intro s a u h
  obtain ⟨found, s', haccept, hthen⟩ := bind_ok h
  rcases accept_ok haccept with ⟨rfl, t, hs, ht⟩ | ⟨rfl, -⟩
  · obtain ⟨w, hs', hw, hagain⟩ := hp s' a u hthen
    refine ⟨t.mark :: w, ?_, .left (.seq (.one ht) hw), fun bound => ?_⟩
    · rw [hs, hs']
      rfl
    · exact (again_accept_true ht).bind (hagain bound) (Nat.le_add_right _ _) leaves_anything
  · obtain ⟨rfl, hnone⟩ := accept_false haccept
    obtain ⟨w, hs', hw, hagain⟩ := hq s' a u hthen
    refine ⟨w, hs', .right hw, fun bound => ?_⟩
    rw [hs'] at hnone
    exact (again_accept_false htype hnone).bind (hagain bound) (Nat.le_add_right _ _)
      leaves_anything

/-- One parser in front of a token of a type, the other where there is none. -/
theorem rereads_at {q : Parser α} {type : TokenType} (htype : type ≠ .symbol .leftBracket)
    (hp : Rereads D p e) (hopens : e.Opens (·.is type)) (hq : Rereads D q e') :
    Rereads D (do if ← at? type then p else q) (e + e') := by
  intro s a u h
  change (if s.rest.head?.any (·.is type) = true then p else q) s = .ok a u at h
  split at h
  next =>
    obtain ⟨w, hs, hw, hagain⟩ := hp s a u h
    obtain ⟨t, v, rfl, ht⟩ := hopens w hw
    refine ⟨_, hs, .left hw, fun bound s' closed closed' w' next' hlength hs' hw' => ?_⟩
    obtain ⟨v', rfl, -⟩ := id hw'.mark
    have hat : s'.rest.head?.any (·.is type) = true := by
      rw [hs']
      exact ht
    change _ → _ → ∃ t, (if s'.rest.head?.any (·.is type) = true then p else q) s' = _ ∧ _
    rw [if_pos hat]
    exact hagain bound s' closed closed' _ next' hlength hs' hw'
  next hat =>
    obtain ⟨w, hs, hw, hagain⟩ := hq s a u h
    refine ⟨w, hs, .right hw, fun bound s' closed closed' w' next' hlength hs' hw' hnext => ?_⟩
    rw [hs] at hat
    have hat' : ¬ s'.rest.head?.any (·.is type) = true := by
      rw [hs', (hw'.ahead hnext).is_eq_false htype (Bool.eq_false_iff.mpr hat)]
      exact Bool.false_ne_true
    change _ → ∃ t, (if s'.rest.head?.any (·.is type) = true then p else q) s' = _ ∧ _
    rw [if_neg hat']
    exact hagain bound s' closed closed' w' next' hlength hs' hw' hnext

/-! Constructs from their first token on -/

/-- A parser reads a form again that begins with the current token. -/
def RereadsFrom (D : List Token → Prop) (head : Token) (p : Parser α) (e : Form) : Prop :=
  ∀ s a t rest, s.rest = head :: rest → p s = .ok a t →
    ∃ w, rest = Mark.tokens w ++ t.rest ∧ e.Spells (head.mark :: w) ∧
      ∀ bound, Again bound D p (head.mark :: w) t.rest a

theorem RereadsFrom.mono {head : Token} (h : RereadsFrom D head p e)
    (he : ∀ w, e.Spells w → e'.Spells w) : RereadsFrom D head p e' := by
  intro s a t rest hs hrun
  obtain ⟨w, hrest, hw, hagain⟩ := h s a t rest hs hrun
  exact ⟨w, hrest, he _ hw, hagain⟩

theorem rereadsFrom_fail (head : Token) (fault : SyntaxFault) :
    RereadsFrom D head (fail fault : Parser α) e :=
  fun _ _ _ _ _ h => (not_fail_ok h).elim

theorem again_advance {bound : Nat} (h : Again bound D p w next a) (t : Token) :
    Again (bound + 1) D (advance >>= fun _ => p) (t.mark :: w) next a := by
  have hadvance : Again (bound + 1) Anything advance [t.mark] (Mark.tokens w ++ next) () :=
    again_token fun s rest hs => by
      change EStateM.Result.ok () { s with rest := s.rest.tail } = _
      rw [hs, List.tail_cons]
  exact hadvance.bind h (Nat.le_refl _) leaves_anything

theorem again_current {bound : Nat} {f : Option Token → Parser α} {t : Token}
    (h : Again bound D (f (some t)) (t.mark :: w) next a) :
    Again bound D (current >>= f) (t.mark :: w) next a := by
  intro s closed closed' w' next' hlength hs hw'
  obtain ⟨v', rfl, -⟩ := id hw'.mark
  rw [current_eq, hs]
  exact h s closed closed' _ next' hlength hs hw'

theorem rereadsFrom_advance {head : Token} (hhead : e'.Spells [head.mark]) (h : Rereads D p e) :
    RereadsFrom D head (advance >>= fun _ => p) (e' * e) := by
  intro s a t rest hs hrun
  obtain ⟨_, u, hadvance, hthen⟩ := bind_ok hrun
  have hu := advance_ok hadvance
  rw [hs, List.tail_cons] at hu
  obtain ⟨w, hrest, hw, hagain⟩ := h u a t hthen
  exact ⟨w, hu ▸ hrest, .seq hhead hw, fun bound =>
    (again_advance (hagain bound) head).mono (Nat.le_succ _)⟩

/-- A construct of one token. -/
theorem rereadsFrom_pure {head : Token} (hhead : e.Spells [head.mark]) (a : α) :
    RereadsFrom D head (advance >>= fun _ => pure a) e := by
  intro s b t rest hs hrun
  obtain ⟨_, u, hadvance, hthen⟩ := bind_ok hrun
  obtain ⟨rfl, rfl⟩ := pure_ok hthen
  have hu := advance_ok hadvance
  rw [hs, List.tail_cons] at hu
  exact ⟨[], hu.symm, hhead, fun bound =>
    (again_advance (again_pure b) head).mono (Nat.le_succ bound)⟩

theorem Rereads.from_token (h : Rereads D p e) {P : Token → Prop} (hopens : e.Opens P)
    (head : Token) : RereadsFrom D head p e := by
  intro s a t rest hs hrun
  obtain ⟨w, hrest, hw, hagain⟩ := h s a t hrun
  obtain ⟨first, v, rfl, -⟩ := hopens w hw
  obtain ⟨rfl, hv⟩ := List.cons_eq_cons.mp (hs.symm.trans hrest)
  exact ⟨v, hv, hw, hagain⟩

theorem rereadsFrom_current {f : Option Token → Parser β} {head : Token}
    (h : RereadsFrom D head (f (some head)) e) : RereadsFrom D head (current >>= f) e := by
  intro s b t rest hs hrun
  replace hrun := current_bind hrun
  rw [hs, List.head?_cons] at hrun
  obtain ⟨w, hrest, hw, hagain⟩ := h s b t rest hs hrun
  exact ⟨w, hrest, hw, fun bound => again_current (hagain bound)⟩

theorem rereads_current {f : Option Token → Parser β} {fault : SyntaxFault}
    (hnone : f none = fail fault) (hsome : ∀ head, RereadsFrom D head (f (some head)) e) :
    Rereads D (current >>= f) e := by
  intro s b t h
  cases hs : s.rest with
  | nil =>
    replace h := current_bind h
    rw [hs, List.head?_nil, hnone] at h
    exact (not_fail_ok h).elim
  | cons head rest =>
    obtain ⟨w, hrest, hw, hagain⟩ := rereadsFrom_current (hsome head) s b t rest hs h
    exact ⟨head.mark :: w, congrArg _ hrest, hw, hagain⟩

/-- Annotations in front of a construct. -/
theorem Rereads.annotated (h : Rereads D p e) {P : Token → Prop} (hopens : e.Opens P) :
    Rereads D (skipAnnotations >>= fun _ => p) (.behind Annotations (.led .head e)) := by
  intro s a u hrun
  obtain ⟨_, s', hskip, hthen⟩ := bind_ok hrun
  have hafter := skipAnnotations_ok hskip
  obtain ⟨w, hs', hw, hagain⟩ := h s' a u hthen
  obtain ⟨t, v, rfl, -⟩ := hopens w hw
  have ht : t.is (.symbol .leftBracket) = false := by
    rw [hs'] at hafter
    exact not_leftBracket_of_afterAnnotations hafter
  obtain ⟨passed, hs, hpassed⟩ := annotations_of_afterAnnotations hafter
  refine ⟨⟨⟨passed, t⟩, .head⟩ :: v, ?_, Form.spells_construct hpassed hw, fun bound => ?_⟩
  · rw [hs, hs', Mark.tokens_mark, Mark.tokens_cons, List.append_assoc]
  · intro x closed closed' w' next' hlength hx hw' hnext hD
    obtain ⟨more, v', rfl, hmore, hv'⟩ := hw'.first
    have hx' : x.rest = (passed ++ more) ++ t :: (Mark.tokens v' ++ next') := by
      rw [hx, Mark.tokens_cons, List.append_assoc]
      rfl
    have hskip' : skipAnnotations x = .ok () { x with rest := t :: (Mark.tokens v' ++ next') } :=
      skipAnnotations_eq (by
        rw [hx', afterAnnotations_append (hpassed.append hmore), afterAnnotations_token ht])
    rw [show (skipAnnotations >>= fun _ => p) x = _ from bind_of_ok hskip']
    refine hagain bound _ false closed' (t.mark :: v') next' ?_ rfl (.cons (.inl rfl) hv') hnext hD
    rw [hx', List.length_append] at hlength
    exact (Nat.le_add_left _ _).trans hlength

/-! Levels and loops -/

/-- What a successful run reads has a form, up to tokens that are passed over in front of a token of
a type, and is read again with annotations more. -/
def RereadsUpTo (type : TokenType) (p : Parser α) (e : Form) : Prop :=
  ∀ s a t, p s = .ok a t → ∃ w passed, s.rest = Mark.tokens w ++ (passed ++ t.rest) ∧
    e.Spells w ∧ GrammarAnnotations passed ∧ t.rest.head?.any (·.is type) = true ∧
    ∀ s' closed w' closed' rest', s'.rest = Mark.tokens w' ++ (passed ++ rest') →
      Annotates closed w w' closed' → rest'.head? = t.rest.head? →
      ∃ t', p s' = .ok a t' ∧ t'.rest = rest'

/-- What is read, with the token that closes it. -/
theorem RereadsUpTo.closed {type : TokenType} (h : RereadsUpTo type p e)
    (hf : ∀ a, Rereads D (f a) (.type type)) :
    Rereads D (p >>= f) (e * .behind GrammarAnnotations (.type type)) := by
  intro s b t hrun
  obtain ⟨a, u, hp, hclose⟩ := bind_ok hrun
  obtain ⟨w, passed, hs, hw, hpassed, -, hagain⟩ := h s a u hp
  obtain ⟨_, hu, hx, hcloses⟩ := hf a u b t hclose
  cases hx with
  | @one _ close hx =>
    refine ⟨w ++ [close.mark.behind passed], ?_, .seq hw (.behind hpassed (.one hx)), ?_⟩
    · rw [hs, hu]
      simp only [Mark.tokens_append, Mark.tokens_cons, Mark.tokens_nil, Mark.behind, Token.mark,
        Token.used, List.append_nil, List.nil_append, List.append_assoc, List.cons_append]
    · intro bound s' closed closed' x next' hlength hs' hx' hnext hD
      obtain ⟨w', _, between, rfl, hw', hlast⟩ := hx'.append
      obtain ⟨_, rfl, hend⟩ := hlast.inner
      cases hend
      have hs' : s'.rest = Mark.tokens w' ++ (passed ++ close :: next') := by
        rw [hs']
        simp only [Mark.tokens_append, Mark.tokens_cons, Mark.tokens_nil, Token.mark, Token.used,
          List.append_nil, List.nil_append, List.append_assoc, List.cons_append]
      have hhead : (close :: next').head? = u.rest.head? := by
        rw [hu]
        rfl
      obtain ⟨u', hp', hu'⟩ := hagain s' closed w' between _ hs' hw' hhead
      rw [show (p >>= f) s' = _ from bind_of_ok hp']
      exact hcloses u'.rest.length u' false false [close.mark] next' (Nat.le_refl _) hu'
        (.self false [close.mark]) hnext hD

theorem RereadsUpTo.enclosed {type : TokenType} (h : RereadsUpTo type p e) :
    RereadsUpTo type (enclosed p) e := by
  intro s a t hrun
  unfold Parser.enclosed at hrun
  cases hp : p { s with depth := s.depth + 1, deepest := max s.deepest (s.depth + 1) } with
  | error e u =>
    rw [hp] at hrun
    cases hrun
  | ok b u =>
    rw [hp] at hrun
    cases hrun
    obtain ⟨w, passed, hs, hw, hpassed, hclose, hagain⟩ := h _ _ _ hp
    refine ⟨w, passed, hs, hw, hpassed, hclose, fun s' closed w' closed' rest' hs' hw' hrest => ?_⟩
    obtain ⟨t, ht, hrest⟩ := hagain
      { s' with depth := s'.depth + 1, deepest := max s'.deepest (s'.depth + 1) }
      closed w' closed' rest' hs' hw' hrest
    refine ⟨{ t with depth := t.depth - 1 }, ?_, hrest⟩
    unfold Parser.enclosed
    rw [ht]

theorem rereadsUpTo_nested {type : TokenType} {setting : Setting} {next : Option Level}
    {content : Level → Parser α}
    (h : ∀ level, next = some level → RereadsUpTo type (content level) e) :
    RereadsUpTo type (nested setting next content) e := by
  unfold nested
  cases next with
  | none => exact fun _ _ _ h => (not_fail_ok h).elim
  | some level => exact (h level rfl).enclosed

theorem Rereads.enclosed (h : Rereads D p e) : Rereads D (enclosed p) e := by
  intro s a t hrun
  unfold Parser.enclosed at hrun
  cases hp : p { s with depth := s.depth + 1, deepest := max s.deepest (s.depth + 1) } with
  | error e u =>
    rw [hp] at hrun
    cases hrun
  | ok b u =>
    rw [hp] at hrun
    cases hrun
    obtain ⟨w, hs, hw, hagain⟩ := h _ _ _ hp
    refine ⟨w, hs, hw, fun bound s' closed closed' w' next' hlength hs' hw' hnext hD => ?_⟩
    obtain ⟨t, ht, hrest⟩ := hagain bound
      { s' with depth := s'.depth + 1, deepest := max s'.deepest (s'.depth + 1) }
      closed closed' w' next' hlength hs' hw' hnext hD
    refine ⟨{ t with depth := t.depth - 1 }, ?_, hrest⟩
    unfold Parser.enclosed
    rw [ht]

theorem rereads_nested {setting : Setting} {next : Option Level} {content : Level → Parser α}
    (h : ∀ level, next = some level → Rereads D (content level) e) :
    Rereads D (nested setting next content) e := by
  unfold nested
  cases next with
  | none => exact rereads_fail _
  | some level => exact (h level rfl).enclosed

theorem Loops.rereads {f : Nat → Parser α} (h : Loops D f e) :
    Rereads D (remaining >>= f) e := by
  intro s a t hrun
  obtain ⟨w, hs, hw, hagain⟩ := h s.rest.length s a t (Nat.le_refl _) hrun
  exact ⟨w, hs, hw, fun bound s' closed closed' w' next' _ =>
    hagain s'.rest.length s' closed closed' w' next' (Nat.le_refl _)⟩

/-- Without tokens nothing is read. -/
theorem again_zero (hw : w ≠ []) : Again 0 D p w next a := by
  intro s closed closed' w' next' hlength hs hw' _ _
  have hle := length_le_tokens w'
  have hpos := List.length_pos_iff.mpr hw
  rw [hs, List.length_append] at hlength
  rw [hw'.length_eq] at hle
  omega

theorem again_stop {bound : Nat} {σ γ : Type} {type : TokenType}
    (htype : type ≠ .symbol .leftBracket) {body : Parser γ} {step : σ → γ → σ}
    {f : Nat → σ → Parser σ} (hzero : ∀ x, f 0 x = pure x)
    (hsucc : ∀ n x, f (n + 1) x = do
      if ← accept type then
        let c ← body
        f n (step x c)
      else return x)
    (hnext : next.head?.any (·.is type) = false) (x : σ) : Again bound D (f bound x) [] next x := by
  cases bound with
  | zero =>
    rw [hzero]
    exact again_pure x
  | succ bound =>
    rw [hsucc]
    have hrefused : Again (bound + 1) Anything (accept type) [] (Mark.tokens [] ++ next) false :=
      again_accept_false htype hnext
    exact hrefused.bind (again_pure x) (Nat.le_add_right _ _) leaves_anything

/-- What is behind one turn of a loop: another, or what follows the loop. -/
theorem leaves_many {type : TokenType} (hD : ∀ t rest, t.is type = true → D (t :: rest))
    (hv : (Form.many (.type type * e)).Spells v) : Leaves D D v := by
  intro closed v' closed' next' hv' hnext
  cases hv with
  | stop =>
    cases hv'
    exact hnext
  | more hu _ =>
    cases hu with
    | seq ht _ =>
      cases ht with
      | one ht =>
        obtain ⟨x, rfl, -⟩ := hv'.mark
        exact hD _ _ ht

/-- A loop that goes on behind tokens of a type. -/
theorem loops_accept {σ γ : Type} {type : TokenType} (htype : type ≠ .symbol .leftBracket)
    {body : Parser γ} {step : σ → γ → σ} {f : Nat → σ → Parser σ} (hzero : ∀ x, f 0 x = pure x)
    (hsucc : ∀ n x, f (n + 1) x = do
      if ← accept type then
        let c ← body
        f n (step x c)
      else return x)
    (hbody : Rereads D body e) (hD : ∀ t rest, t.is type = true → D (t :: rest)) (x : σ) :
    Loops D (f · x) (.many (.type type * e)) := by
  have hstop {next : List Token} (hnext : next.head?.any (·.is type) = false) (x : σ)
      (bound : Nat) : Again bound D (f bound x) [] next x := again_stop htype hzero hsucc hnext x
  intro n
  induction n generalizing x with
  | zero =>
    intro s a t hlength hrun
    have hs : s.rest = [] := List.eq_nil_of_length_eq_zero (Nat.le_zero.mp hlength)
    dsimp only at hrun
    rw [hzero] at hrun
    obtain ⟨rfl, rfl⟩ := pure_ok hrun
    refine ⟨[], rfl, .stop, hstop ?_ a⟩
    rw [hs]
    rfl
  | succ n ih =>
    intro s a t hlength hrun
    dsimp only at hrun
    rw [hsucc] at hrun
    obtain ⟨found, u, haccept, hthen⟩ := bind_ok hrun
    rcases accept_ok haccept with ⟨rfl, token, hs, htoken⟩ | ⟨rfl, -⟩
    · obtain ⟨c, u', hturn, hmore⟩ := bind_ok hthen
      obtain ⟨v, hu, hv, hturn⟩ := hbody u c u' hturn
      have hlength' : u'.rest.length ≤ n := by
        rw [hs, hu, List.length_cons, List.length_append] at hlength
        omega
      obtain ⟨w, hu', hw, hmore⟩ := ih (step x c) u' a t hlength' hmore
      refine ⟨token.mark :: (v ++ w), ?_, .more (.seq (.one htoken) hv) hw, fun bound => ?_⟩
      · rw [hs, hu, hu', Mark.tokens_mark, Mark.tokens_append, List.cons_append,
          List.append_assoc]
      · cases bound with
        | zero => exact again_zero (List.cons_ne_nil _ _)
        | succ bound =>
          change Again _ _ (f (bound + 1) x) _ _ _
          rw [hsucc]
          rw [hu'] at hturn
          have hmore : Again bound D (f bound (step x c)) w t.rest a := hmore bound
          have hturn : Again bound D (body >>= fun c => f bound (step x c)) (v ++ w) t.rest a :=
            (hturn bound).bind hmore (Nat.le_add_right _ _) (leaves_many hD hw)
          exact (again_accept_true htoken).bind hturn (Nat.le_refl _) leaves_anything
    · obtain ⟨rfl, hnone⟩ := accept_false haccept
      obtain ⟨rfl, rfl⟩ := pure_ok hthen
      exact ⟨[], rfl, .stop, hstop hnone a⟩

/-- Operands with an operator between them. -/
theorem rereads_chain {op : Symbol} {combine : α → α → α} (hop : op ≠ .leftBracket)
    (h : Rereads D p e) (hD : ∀ t rest, t.is (.symbol op) = true → D (t :: rest)) :
    Rereads D (chain op p combine) (e * .many (.symbol op * e)) := by
  have htype : TokenType.symbol op ≠ .symbol .leftBracket := fun he => hop (TokenType.symbol.inj he)
  refine h.bind (fun left => ?_) fun v hv => leaves_many hD hv
  exact (loops_accept (f := chain.go op p combine) htype (fun _ => rfl) (fun _ _ => rfl) h hD
    left).rereads

/-! Literals -/

theorem rereads_literal : Rereads D literal .literal := by
  refine (rereads_expect _ _).seq fun token => ?_
  exact (loops_accept (f := literal.segments) (by decide) (fun _ => rfl) (fun _ _ => rfl)
    (rereads_expect (D := Anything) _ _) (fun _ _ _ => trivial) token.value).rereads.weaken

theorem opens_literal : Form.literal.Opens (·.is .literal) := (Form.opens_one fun _ => id).seq

theorem rereads_literalOr (fault : SyntaxFault) : Rereads D (literalOr fault) .literal := by
  refine (rereads_at (by decide) rereads_literal opens_literal
    (rereads_fail (e := .literal) fault)).mono (fun _ => id) fun w hw => ?_
  cases hw with
  | left hw | right hw => exact hw

theorem rereads_inheritance : Rereads D inheritance .inheritance := by
  refine rereads_accept (by decide) ?_ (rereads_pure none)
  exact (rereads_expectSymbol .assign).seq fun _ => (rereads_expectName _).andThen

/-! Name classes -/

theorem rereads_nameClassOf {basicName : Parser Surface.NameClass}
    (h : Rereads Anything basicName (.rule .basicName)) :
    Rereads D (nameClassOf basicName) .nameClass :=
  (rereads_chain (by decide) h fun _ _ _ => trivial).weaken

end

section

variable {setting : Setting} {next : Option Level}

theorem rereads_nameException
    (hnext : ∀ level, next = some level → Rereads Anything level.basicName (.rule .basicName)) :
    Rereads Anything (nameException setting next) .nameException :=
  rereads_accept (by decide) (rereads_nested hnext).andThen (rereads_pure none)

theorem rereads_basicNameWith
    (hnext : ∀ level, next = some level → Rereads Anything level.basicName (.rule .basicName)) :
    Rereads Anything (basicNameWith setting next) (.rule .basicName) := by
  have hname {head : Token} {name : String} (hhead : nameOf? head = some name) :
      (nameOf? head).isSome = true := by
    rw [hhead]
    rfl
  have hopens {P : Token → Prop} : (Form.one P).Opens fun _ => True :=
    Form.opens_one fun _ _ => trivial
  refine Rereads.mono (e := .basicName) ?_ (fun _ => id) fun w hw => .rule hw
  refine Rereads.annotated (rereads_current rfl fun head => ?_)
    ((((hopens.alt hopens).alt hopens.seq).alt hopens.seq).alt hopens.seq)
  dsimp only
  split
  next name hhead =>
    have hnamed : nameOf? head = some name := by rw [nameOf?, hhead]
    exact (rereadsFrom_pure (.one (hname hnamed)) _).mono fun w hw =>
      .left (.left (.left (.left hw)))
  next k hhead =>
    have hnamed : nameOf? head = some k.spelling := by rw [nameOf?, hhead]
    exact (rereadsFrom_pure (.one (hname hnamed)) _).mono fun w hw =>
      .left (.left (.left (.left hw)))
  next qualifier localName hhead =>
    exact (rereadsFrom_pure (.one (is_of_lexeme hhead)) _).mono fun w hw =>
      .left (.left (.left (.right hw)))
  next hhead =>
    exact (rereadsFrom_advance (.one (is_of_lexeme hhead))
      (rereads_nameException hnext).andThen).mono
      fun w hw => .left (.left (.right hw))
  next qualifier hhead =>
    exact (rereadsFrom_advance (.one (is_of_lexeme hhead))
      (rereads_nameException hnext).andThen).mono
      fun w hw => .left (.right hw)
  next hhead =>
    have hclass : Rereads Anything (nested setting next fun level => nameClassOf level.basicName)
        .nameClass := rereads_nested fun level he => rereads_nameClassOf (hnext level he)
    refine (rereadsFrom_advance (.one (is_of_lexeme hhead)) (hclass.seq fun name => ?_)).mono
      fun w hw => .right hw
    exact (rereads_expectSymbol .rightParen).andThen
  next => exact rereadsFrom_fail _ _

end

end Parser

end RelaxCompact
