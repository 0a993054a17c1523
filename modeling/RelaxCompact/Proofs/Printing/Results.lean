import RelaxCompact.Proofs.Printing.Components
import RelaxCompact.Proofs.Printing.Gives

/-!
Whatever the parsers give is well formed, and its written form opens no more levels than the parser
had left. Parentheses in a source open a level each, and those that are written again are among
them.
-/

namespace RelaxCompact.Parser

open Surface (Pattern Component)

/-! Name classes -/

/-- The name class is well formed, and where rank `k` is wanted it opens at most `n` levels. -/
def FitsName (n k : Nat) (c : Surface.NameClass) : Prop :=
  c.wellFormed = true ∧ nestingWithin k c.rank c.nesting ≤ n

section

variable {setting : Setting} {n k : Nat}

theorem FitsName.mono {k' : Nat} {c : Surface.NameClass} (h : FitsName n k' c) (hk : k ≤ k') :
    FitsName n k c :=
  ⟨h.1, Nat.le_trans (nestingWithin_mono hk _ _) h.2⟩

/-- With parentheses around it, a name class may stand anywhere. -/
theorem FitsName.parenthesized {c : Surface.NameClass} (h : FitsName n 0 c) :
    FitsName (n + 1) k c := by
  refine ⟨h.1, Nat.le_trans (nestingWithin_le k _ _) (Nat.succ_le_succ ?_)⟩
  exact Nat.le_trans (le_nestingWithin 0 _ _) h.2

theorem FitsName.choice {left right : Surface.NameClass} {span : Span} (hl : FitsName n 0 left)
    (hr : FitsName n 1 right) : FitsName n 0 (.choice left right span) := by
  refine ⟨?_, ?_⟩
  · rw [Surface.NameClass.wellFormed, hl.1, hr.1, Bool.and_self]
  · rw [nestingWithin_of_le (Nat.zero_le _)]
    exact Nat.max_le.mpr ⟨Nat.le_trans (le_nestingWithin 0 _ _) hl.2, hr.2⟩

theorem gives_nameClassOf {basic : Parser Surface.NameClass} (h : Gives basic (FitsName n 1)) :
    Gives (nameClassOf basic) (FitsName n 0) :=
  h.bind fun _ hc => gives_remaining.bind fun turns _ =>
    gives_chain_go h (fun _ _ hl hr => hl.choice hr) turns (hc.mono (Nat.zero_le _))

theorem gives_nameException
    (h : ∀ m, n = m + 1 → Gives (basicNameAt setting m) (FitsName m 1)) :
    Gives (nameException setting (below setting n)) fun e =>
      ∀ c, e = some c → c.wellFormed = true ∧ nestingWithin 1 c.rank c.nesting + 1 ≤ n := by
  apply gives_accept.bind
  intro b _
  split
  case isTrue =>
    refine Gives.bind (Q := fun c => c.wellFormed = true ∧
      nestingWithin 1 c.rank c.nesting + 1 ≤ n) (.nested fun m hm => ?_) fun c hc => .pure ?_
    · rw [level_basicName]
      exact (h m hm).mono fun c hc => ⟨hc.1, hm ▸ Nat.succ_le_succ hc.2⟩
    · intro c' hc'
      cases hc'
      exact hc
  case isFalse => exact .pure fun c hc => by cases hc

theorem gives_basicName_step
    (h : ∀ m, n = m + 1 → Gives (basicNameAt setting m) (FitsName m 1)) :
    Gives (basicNameAt setting n) (FitsName n 1) := by
  unfold basicNameAt basicNameWith
  apply gives_skipAnnotations.bind
  intro _ _
  apply gives_current.bind
  intro t ht
  cases t with
  | none => exact gives_fail
  | some t =>
    have hname := ht t rfl
    dsimp only
    split
    case h_1 name hl =>
      rw [hl] at hname
      exact gives_advance.bind fun _ _ => .pure ⟨hname, Nat.zero_le _⟩
    case h_2 k hl => exact gives_advance.bind fun _ _ => .pure ⟨k.isName_spelling, Nat.zero_le _⟩
    case h_3 qualifier localName hl =>
      rw [hl] at hname
      exact gives_advance.bind fun _ _ => .pure ⟨hname, Nat.zero_le _⟩
    case h_4 =>
      refine gives_advance.bind fun _ _ => (gives_nameException h).bind fun e he => .pure ?_
      cases e with
      | none => exact ⟨rfl, Nat.zero_le _⟩
      | some e => exact he e rfl
    case h_5 qualifier hl =>
      rw [hl] at hname
      refine gives_advance.bind fun _ _ => (gives_nameException h).bind fun e he => .pure ?_
      cases e with
      | none => exact ⟨hname, Nat.zero_le _⟩
      | some e => exact ⟨Bool.and_eq_true_iff.mpr ⟨hname, (he e rfl).1⟩, (he e rfl).2⟩
    case h_6 =>
      refine gives_advance.bind fun _ _ => Gives.bind (Q := FitsName n 1) (.nested fun m hm => ?_)
        fun c hc => gives_expectSymbol.bind fun _ _ => .pure hc
      rw [level_basicName]
      subst hm
      exact (gives_nameClassOf (h m rfl)).mono fun c hc => hc.parenthesized
    case h_7 => exact gives_fail

theorem gives_basicName (setting : Setting) (n : Nat) :
    Gives (basicNameAt setting n) (FitsName n 1) := by
  induction n with
  | zero => exact gives_basicName_step fun m hm => absurd hm (Nat.succ_ne_zero m).symm
  | succ n ih =>
    refine gives_basicName_step fun m hm => ?_
    cases hm
    exact ih

end

/-! Patterns -/

/-- The pattern is well formed, and where rank `k` is wanted it opens at most `n` levels. -/
def Fits (n k : Nat) (p : Pattern) : Prop :=
  p.wellFormed = true ∧ nestingWithin k p.rank p.nesting ≤ n

section

variable {setting : Setting} {n k : Nat} {primary : Parser Pattern} {p left right : Pattern}

theorem Fits.mono {k' : Nat} (h : Fits n k' p) (hk : k ≤ k') : Fits n k p :=
  ⟨h.1, Nat.le_trans (nestingWithin_mono hk _ _) h.2⟩

theorem Fits.nesting_le (h : Fits n k p) : p.nesting ≤ n :=
  Nat.le_trans (le_nestingWithin k _ _) h.2

/-- With parentheses around it, a pattern may stand anywhere. -/
theorem Fits.parenthesized (h : Fits n 0 p) : Fits (n + 1) k p :=
  ⟨h.1, Nat.le_trans (nestingWithin_le k _ _) (Nat.succ_le_succ h.nesting_le)⟩

theorem Fits.binary (op : Connective) {span : Span} (hl : Fits n op.rank left)
    (hr : Fits n (op.rank + 1) right) : Fits n op.rank (.binary op left right span) := by
  refine ⟨?_, ?_⟩
  · rw [Pattern.wellFormed, hl.1, hr.1, Bool.and_self]
  · rw [Pattern.rank, nestingWithin_of_le (Nat.le_refl _), Pattern.nesting]
    exact Nat.max_le.mpr ⟨hl.2, hr.2⟩

theorem Fits.modified {m : Modifier} {span : Span} (hm : m.isPostfix = true)
    (h : Fits n postfixRank p) : Fits n postfixRank (.unary m p span) := by
  refine ⟨h.1, ?_⟩
  rw [Pattern.rank, if_pos hm, nestingWithin_of_le (Nat.le_refl _), Pattern.nesting, if_pos hm]
  exact h.2

theorem isPostfix_of_postfixModifier? {t : Token} {m : Modifier}
    (h : postfixModifier? t = some m) : m.isPostfix = true := by
  unfold postfixModifier? at h
  split at h <;> cases h <;> rfl

/-- The loop of a rank only combines what fits there with operands of the next rank. -/
theorem gives_loopAt (hk : k < primaryRank) (h : Gives (atRank primary (k + 1)) (Fits n (k + 1)))
    (turns : Nat) (hp : Fits n k p) : Gives (loopAt primary k turns p) (Fits n k) := by
  match k, hk with
  | 0, _ => exact gives_chain_go h (fun _ _ hl hr => hl.binary .choice hr) turns hp
  | 1, _ => exact gives_chain_go h (fun _ _ hl hr => hl.binary .interleave hr) turns hp
  | 2, _ =>
    induction turns generalizing p with
    | zero => exact .pure hp
    | succ turns ih =>
      have hstart : Gives startsParticle fun _ => True := by
        apply Gives.get
        intro s _
        split
        case h_1 => exact .pure trivial
        case h_2 => exact .pure trivial
      refine gives_accept.bind fun b _ => hstart.bind fun b' _ => ?_
      split
      case isTrue => exact h.bind fun q hq => ih (hp.binary .group hq)
      case isFalse => exact .pure hp
  | 3, _ =>
    induction turns generalizing p with
    | zero => exact .pure hp
    | succ turns ih =>
      apply gives_current.bind
      intro t _
      split
      case h_1 m hm =>
        obtain ⟨u, -, hm⟩ := Option.bind_eq_some_iff.mp hm
        exact gives_advance.bind fun _ _ => ih (hp.modified (isPostfix_of_postfixModifier? hm))
      case h_2 => exact .pure hp

theorem gives_atRank (h : Gives primary (Fits n primaryRank)) {k : Nat} (hk : k ≤ primaryRank) :
    Gives (atRank primary k) (Fits n k) := by
  -- The induction goes down from the primaries, by the distance to them.
  generalize hd : primaryRank - k = d
  induction d generalizing k with
  | zero =>
    obtain rfl : k = primaryRank := by omega
    exact h
  | succ d ih =>
    have hlt : k < primaryRank := by omega
    have hnext := ih (k := k + 1) hlt (by omega)
    rw [atRank_eq hlt]
    exact hnext.bind fun q hq => gives_remaining.bind fun turns _ =>
      gives_loopAt hlt hnext turns (hq.mono (Nat.le_succ k))

/-- In the braces of a construct everything is one level deeper. -/
theorem gives_bracedPattern
    (h : ∀ m, n = m + 1 → Gives (primaryAt setting m) (Fits m primaryRank)) :
    Gives (bracedPattern setting (below setting n)) fun p =>
      p.wellFormed = true ∧ p.nesting + 1 ≤ n := by
  refine gives_expectSymbol.bind fun _ _ => Gives.bind
    (Q := fun p => p.wellFormed = true ∧ p.nesting + 1 ≤ n) (.nested fun m hm => ?_)
    fun p hp => gives_expectSymbol.bind fun _ _ => .pure hp
  rw [level_pattern]
  exact (gives_atRank (h m hm) (Nat.zero_le _)).mono fun p hp =>
    ⟨hp.1, hm ▸ Nat.succ_le_succ hp.nesting_le⟩

/-! Datatypes -/

theorem gives_params_go (turns : Nat) : Gives (params.go turns) fun ps =>
    (ps.all fun (name, _) => Lexer.isName name) = true := by
  induction turns with
  | zero => exact gives_expectSymbol.bind fun _ _ => .pure rfl
  | succ turns ih =>
    apply gives_accept.bind
    intro b _
    split
    case isTrue => exact .pure rfl
    case isFalse =>
      apply gives_skipAnnotations.bind
      intro _ _
      apply gives_expectName.bind
      intro name hn
      apply gives_expectSymbol.bind
      intro _ _
      apply gives_literalOr.bind
      intro value _
      exact ih.bind fun ps hps => .pure (Bool.and_eq_true_iff.mpr ⟨hn, hps⟩)

theorem gives_params : Gives params fun ps =>
    (ps.all fun (name, _) => Lexer.isName name) = true :=
  gives_expectSymbol.bind fun _ _ => gives_remaining.bind fun turns _ => gives_params_go turns

theorem gives_datatypePattern {type : Datatype} (ht : type.wellFormed = true) {span : Span}
    (h : ∀ m, n = m + 1 → Gives (primaryAt setting m) (Fits m primaryRank)) :
    Gives (datatypePattern setting (below setting n) type span) (Fits n primaryRank) := by
  have hexception (ps : List (String × Text))
      (hps : (ps.all fun (name, _) => Lexer.isName name) = true) : Gives (do
        let exception ←
          if ← accept (.symbol .minus) then
            some <$> nested setting (below setting n) (·.primary)
          else pure none
        return Pattern.data type ps exception span) (Fits n primaryRank) := by
    apply gives_accept.bind
    intro b _
    split
    case isTrue =>
      refine Gives.bind (Q := fun e => ∃ p, e = some p ∧ p.wellFormed = true ∧
        nestingWithin primaryRank p.rank p.nesting + 1 ≤ n)
        (.map (.nested fun m hm => ?_) fun p hp => ⟨p, rfl, hp⟩) ?_
      · rw [level_primary]
        exact (h m hm).mono fun p hp => ⟨hp.1, hm ▸ Nat.succ_le_succ hp.2⟩
      · rintro _ ⟨p, rfl, hp, hn⟩
        refine .pure ⟨?_, hn⟩
        rw [Pattern.wellFormed, ht, hps, hp, Bool.and_self, Bool.and_self]
    case isFalse =>
      refine .pure ⟨?_, Nat.zero_le _⟩
      rw [Pattern.wellFormed, ht, hps, Bool.and_self]
  apply gives_at.bind
  intro b _
  split
  case isTrue => exact gives_literal.bind fun value _ => .pure ⟨ht, Nat.zero_le _⟩
  case isFalse =>
    apply gives_at.bind
    intro b _
    split
    case isTrue => exact gives_params.bind hexception
    case isFalse => exact hexception [] rfl

end

/-! Components -/

/-- The component is well formed, and it opens at most `n` levels. -/
def FitsComponent (n : Nat) (includes : Bool) (c : Component) : Prop :=
  c.wellFormed includes = true ∧ c.nesting ≤ n

/-- The components are well formed, and they open at most `n` levels. -/
def FitComponents (n : Nat) (includes : Bool) (cs : List Component) : Prop :=
  Component.allWellFormed includes cs = true ∧ Component.allNesting cs ≤ n

section

variable {setting : Setting} {n : Nat} {includes : Bool}

theorem gives_skipAnnotationElements : Gives skipAnnotationElements fun _ => True := by
  apply gives_remaining.bind
  intro turns _
  induction turns with
  | zero => exact .pure trivial
  | succ turns ih =>
    apply gives_at.bind
    intro b _
    apply gives_following.bind
    intro t _
    split
    case isTrue => exact gives_advance.bind fun _ _ => gives_skipAnnotations.bind fun _ _ => ih
    case isFalse => exact .pure trivial

theorem gives_componentsOf {component : Parser Component} {terminator : TokenType}
    (h : Gives component (FitsComponent n includes)) :
    Gives (componentsOf component terminator) (FitComponents n includes) := by
  apply gives_remaining.bind
  intro turns _
  induction turns with
  | zero =>
    apply gives_at.bind
    intro b _
    split
    case isTrue => exact .pure ⟨rfl, Nat.zero_le _⟩
    case isFalse => exact gives_fail
  | succ turns ih =>
    apply gives_skipAnnotations.bind
    intro _ _
    apply gives_skipAnnotationElements.bind
    intro _ _
    apply gives_at.bind
    intro b _
    split
    case isTrue => exact .pure ⟨rfl, Nat.zero_le _⟩
    case isFalse =>
      exact h.bind fun c hc => ih.bind fun cs hcs => .pure
        ⟨Bool.and_eq_true_iff.mpr ⟨hc.1, hcs.1⟩, Nat.max_le.mpr ⟨hc.2, hcs.2⟩⟩

/-- A braced list of components is one level deeper. -/
theorem gives_nestedComponents {terminator : TokenType}
    (h : ∀ m, n = m + 1 →
      Gives (componentAt setting m includes) (FitsComponent m includes)) :
    Gives (nested setting (below setting n) (·.components includes terminator)) fun cs =>
      Component.allWellFormed includes cs = true ∧ Component.allNesting cs + 1 ≤ n := by
  refine .nested fun m hm => ?_
  rw [level_components]
  exact (gives_componentsOf (h m hm)).mono fun cs hcs => ⟨hcs.1, hm ▸ Nat.succ_le_succ hcs.2⟩

/-! Primaries -/

theorem exists_name {t : Token} (h : t.type = .identifier) : ∃ name, nameOf? t = some name := by
  unfold Token.type Lexeme.type at h
  split at h
  case h_1 name hl => exact ⟨name, by simp only [nameOf?, hl]⟩
  all_goals cases h

theorem gives_primary_step
    (hp : ∀ m, n = m + 1 → Gives (primaryAt setting m) (Fits m primaryRank))
    (hc : ∀ m, n = m + 1 → Gives (componentAt setting m true) (FitsComponent m true)) :
    Gives (primaryAt setting n) (Fits n primaryRank) := by
  have hname := gives_nameClassOf (gives_basicName setting n)
  have hbraced := gives_bracedPattern hp
  have hnamed (holder : Holder) (span : Span) : Gives (do
      advance
      let name ← nameClassOf (basicNameAt setting n)
      return Pattern.named holder name (← bracedPattern setting (below setting n)) span)
      (Fits n primaryRank) := by
    refine gives_advance.bind fun _ _ => hname.bind fun c hc => hbraced.bind fun p hp => .pure ?_
    refine ⟨Bool.and_eq_true_iff.mpr ⟨hc.1, hp.1⟩, Nat.max_le.mpr ⟨?_, hp.2⟩⟩
    exact Nat.le_trans (le_nestingWithin 0 _ _) hc.2
  have hwrapped (m : Modifier) (hm : m.isPostfix = false) (span : Span) : Gives (do
      advance
      return Pattern.unary m (← bracedPattern setting (below setting n)) span)
      (Fits n primaryRank) := by
    refine gives_advance.bind fun _ _ => hbraced.bind fun p hp => .pure ⟨hp.1, ?_⟩
    rw [Pattern.rank, hm, if_neg Bool.false_ne_true, nestingWithin_of_le (Nat.le_refl _),
      Pattern.nesting, hm, if_neg Bool.false_ne_true]
    exact hp.2
  have hleaf (leaf : Leaf) (span : Span) : Gives (do
      advance
      return Pattern.leaf leaf span) (Fits n primaryRank) :=
    gives_advance.bind fun _ _ => .pure ⟨rfl, Nat.zero_le _⟩
  have hdatatype (type : Datatype) (ht : type.wellFormed = true) (span : Span) : Gives (do
      advance
      datatypePattern setting (below setting n) type span) (Fits n primaryRank) :=
    gives_advance.bind fun _ _ => gives_datatypePattern ht hp
  unfold primaryAt primaryWith
  apply gives_skipAnnotations.bind
  intro _ _
  apply gives_current.bind
  intro t ht
  cases t with
  | none => exact gives_fail
  | some t =>
    have htoken := ht t rfl
    dsimp only
    split
    case h_1 => exact hnamed .element _
    case h_2 => exact hnamed .attr _
    case h_3 => exact hwrapped .list rfl _
    case h_4 => exact hwrapped .mixed rfl _
    case h_5 => exact hleaf .empty _
    case h_6 => exact hleaf .text _
    case h_7 => exact hleaf .notAllowed _
    case h_8 name hl =>
      rw [hl] at htoken
      exact gives_advance.bind fun _ _ => .pure ⟨htoken, Nat.zero_le _⟩
    case h_9 =>
      refine gives_advance.bind fun _ _ => gives_expect.bind fun u hu => .pure ?_
      obtain ⟨name, hname⟩ := exists_name hu.2
      rw [hname]
      exact ⟨isName_of_nameOf? hu.1 hname, Nat.zero_le _⟩
    case h_10 =>
      refine gives_advance.bind fun _ _ => Gives.bind (Q := Fits n primaryRank)
        (.nested fun m hm => ?_) fun p hp => gives_expectSymbol.bind fun _ _ => .pure hp
      rw [level_pattern]
      subst hm
      exact (gives_atRank (hp m rfl) (Nat.zero_le _)).mono fun p hp => hp.parenthesized
    case h_11 =>
      apply gives_advance.bind
      intro _ _
      apply gives_literalOr.bind
      intro href _
      exact gives_inheritance.bind fun inherit hi => .pure ⟨hi, Nat.zero_le _⟩
    case h_12 =>
      apply gives_advance.bind
      intro _ _
      apply gives_expectSymbol.bind
      intro _ _
      exact (gives_nestedComponents hc).bind fun cs hcs =>
        gives_expectSymbol.bind fun _ _ => .pure hcs
    case h_13 => exact hdatatype _ rfl _
    case h_14 => exact hdatatype _ rfl _
    case h_15 qualifier localName hl =>
      rw [hl] at htoken
      exact hdatatype ⟨some qualifier, localName⟩ htoken _
    case h_16 => exact gives_literal.bind fun value _ => .pure ⟨rfl, Nat.zero_le _⟩
    case h_17 => exact gives_fail

/-! Definitions, divisions and includes -/

theorem gives_defineWith {head : Token} {name : DefineName} (hname : name.wellFormed = true)
    (hp : Gives (primaryAt setting n) (Fits n primaryRank)) :
    Gives (defineWith setting (primaryAt setting n) head name) (FitsComponent n includes) := by
  apply gives_advance.bind
  intro _ _
  apply gives_current.bind
  intro t _
  split
  case h_1 => exact gives_fail
  case h_2 operator _ =>
    have hpattern := gives_atRank hp (Nat.zero_le primaryRank)
    exact gives_advance.bind fun _ _ => hpattern.bind fun p hp => .pure
      ⟨Bool.and_eq_true_iff.mpr ⟨hname, hp.1⟩, hp.nesting_le⟩

/-- What holds of the parser of components, if it holds of its override blocks. -/
theorem gives_componentWith {overrides : Option (Parser (List Component))}
    (ho : overrides.isSome = includes) (hp : Gives (primaryAt setting n) (Fits n primaryRank))
    (hc : ∀ m, n = m + 1 →
      Gives (componentAt setting m includes) (FitsComponent m includes))
    (hb : ∀ block, overrides = some block → Gives block (FitComponents n false)) :
    Gives (componentWith setting (primaryAt setting n) (below setting n) overrides)
      (FitsComponent n includes) := by
  unfold componentWith
  apply gives_current.bind
  intro t ht
  cases t with
  | none => exact gives_fail
  | some t =>
    have htoken := ht t rfl
    dsimp only
    split
    case h_1 => exact gives_defineWith rfl hp
    case h_2 name hl =>
      rw [hl] at htoken
      exact gives_defineWith htoken hp
    case h_3 =>
      rw [ho]
      apply gives_advance.bind
      intro _ _
      apply gives_expectSymbol.bind
      intro _ _
      exact (gives_nestedComponents hc).bind fun cs hcs =>
        gives_expectSymbol.bind fun _ _ => .pure hcs
    case h_4 =>
      split
      case h_1 => exact gives_fail
      case h_2 block =>
        have hincludes : includes = true := ho.symm
        subst hincludes
        apply gives_advance.bind
        intro _ _
        apply gives_literalOr.bind
        intro href _
        apply gives_inheritance.bind
        intro inherit hi
        apply gives_accept.bind
        intro b _
        split
        case isTrue =>
          refine (hb block rfl).bind fun cs hcs => gives_expectSymbol.bind fun _ _ => .pure ?_
          exact ⟨Bool.and_eq_true_iff.mpr ⟨hi, hcs.1⟩, hcs.2⟩
        case isFalse => exact .pure ⟨Bool.and_eq_true_iff.mpr ⟨hi, rfl⟩, Nat.zero_le _⟩
    case h_5 | h_6 | h_7 | h_8 => exact gives_fail

theorem gives_component_step
    (hp : Gives (primaryAt setting n) (Fits n primaryRank))
    (hc : ∀ m, n = m + 1 → ∀ includes,
      Gives (componentAt setting m includes) (FitsComponent m includes)) (includes : Bool) :
    Gives (componentAt setting n includes) (FitsComponent n includes) := by
  have hplain : Gives (componentAt setting n false) (FitsComponent n false) :=
    gives_componentWith rfl hp (fun m hm => hc m hm false) fun block hb => by cases hb
  cases includes with
  | false => exact hplain
  | true =>
    refine gives_componentWith rfl hp (fun m hm => hc m hm true) fun block hb => ?_
    cases hb
    exact gives_componentsOf hplain

end

/-- Whatever is read at a level is well formed and opens no more levels than are left there. -/
theorem gives_level (setting : Setting) (n : Nat) :
    Gives (primaryAt setting n) (Fits n primaryRank) ∧
      ∀ includes, Gives (componentAt setting n includes) (FitsComponent n includes) := by
  induction n with
  | zero =>
    have hnone (m : Nat) : 0 ≠ m + 1 := (Nat.succ_ne_zero m).symm
    have hp : Gives (primaryAt setting 0) (Fits 0 primaryRank) :=
      gives_primary_step (fun m hm => absurd hm (hnone m)) fun m hm => absurd hm (hnone m)
    exact ⟨hp, gives_component_step hp fun m hm => absurd hm (hnone m)⟩
  | succ n ih =>
    have hp : Gives (primaryAt setting (n + 1)) (Fits (n + 1) primaryRank) :=
      gives_primary_step (fun m hm => by cases hm; exact ih.1) fun m hm => by
        cases hm
        exact ih.2 true
    exact ⟨hp, gives_component_step hp fun m hm => by cases hm; exact ih.2⟩

end RelaxCompact.Parser
