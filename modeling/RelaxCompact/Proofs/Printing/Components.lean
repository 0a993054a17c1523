import RelaxCompact.Proofs.Printing.Patterns

/-! Components are read back as they are written, and with them all patterns, by one induction over
the syntax. -/

namespace RelaxCompact.Parser

open Surface (Pattern Component)

/-- The parser of components where `n` levels are left, with or without includes. -/
def componentAt (setting : Setting) (n : Nat) (includes : Bool) : Parser Component :=
  componentWith setting (primaryAt setting n) (below setting n)
    (if includes then
      some (componentsOf
        (componentWith setting (primaryAt setting n) (below setting n) none) (.symbol .rightBrace))
    else none)

theorem level_components (setting : Setting) (n : Nat) (includes : Bool) :
    (level setting n).components includes = componentsOf (componentAt setting n includes) := by
  rw [level_eq]
  cases includes <;> rfl

/-- The component is read back from its lexemes, whatever may stand behind it. -/
def ReadsBack (component : Parser Component) (c : Component) : Prop :=
  ∀ ls, Follows 0 ls → Takes component (c.lexemes ++ ls) (c.agrees · = true) ls

/-- What ends a list of components: the closing brace or the end of the file. -/
def Closing (l : Lexeme) : Prop := l = .symbol .rightBrace ∨ l = .eof

theorem Closing.follows {l : Lexeme} (hl : Closing l) (k : Nat) (ls : List Lexeme) :
    Follows k (l :: ls) := by
  obtain rfl | rfl := hl
  · exact .brace
  · exact .eof

/-! Lists of components -/

theorem follows_component (c : Component) (ls : List Lexeme) : Follows 0 (c.lexemes ++ ls) := by
  cases c with
  | define name operator pattern documentation span =>
    rw [Component.lexemes]
    cases name with
    | start => exact .start
    | named name => exact .named name operator
  | div components span => exact .div
  | incl href inherit overrides span => exact .incl

theorem follows_allLexemes (cs : List Component) {l : Lexeme} (hl : Closing l)
    (ls : List Lexeme) : Follows 0 (Component.allLexemes cs ++ l :: ls) := by
  cases cs with
  | nil => exact hl.follows 0 ls
  | cons c cs =>
    rw [Component.allLexemes, List.append_assoc]
    exact follows_component c _

/-- A component starts with neither an annotation element nor what ends a list of components. -/
theorem startsWith_component (c : Component) (ls : List Lexeme) {type : TokenType}
    (ht : type ∈ [.prefixedName, .symbol .rightBrace, .eof]) :
    startsWith type (c.lexemes ++ ls) = false := by
  revert ht type
  cases c with
  | define name operator pattern documentation span =>
    cases name <;> simp [Component.lexemes, DefineName.lexeme, startsWith, Lexeme.type]
  | div components span => simp [Component.lexemes, startsWith, Lexeme.type]
  | incl href inherit overrides span => simp [Component.lexemes, startsWith, Lexeme.type]

theorem length_le_allLexemes (cs : List Component) :
    cs.length ≤ (Component.allLexemes cs).length := by
  induction cs with
  | nil => exact Nat.le_refl _
  | cons c cs ih =>
    have hc : 0 < c.lexemes.length := by
      cases c <;> exact Nat.succ_pos _
    rw [Component.allLexemes, List.length_append, List.length_cons]
    omega

section

variable {α : Type} {ls rest : List Lexeme} {Q : α → Prop}

theorem Takes.skipAnnotationElements {f : Unit → Parser α}
    (ht : startsWith .prefixedName ls = false) (h : Takes (f ()) ls Q rest) :
    Takes (skipAnnotationElements >>= f) ls Q rest := by
  refine Takes.bind (Q := fun _ => True) (m := ls) (.remaining ?_) fun _ _ => h
  cases ls.length with
  | zero => exact .pure trivial
  | succ n =>
    exact .at ht (.get fun s _ => .pure trivial)

theorem takes_componentsOf {component : Parser Component} {cs : List Component} {l : Lexeme}
    (hl : Closing l) (h : ∀ c ∈ cs, ReadsBack component c) :
    Takes (componentsOf component l.type) (Component.allLexemes cs ++ l :: ls)
      (Component.allAgree cs · = true) (l :: ls) := by
  have hgo : ∀ turns, cs.length ≤ turns →
      Takes (componentsOf.go component l.type turns) (Component.allLexemes cs ++ l :: ls)
        (Component.allAgree cs · = true) (l :: ls) := by
    induction cs with
    | nil =>
      have hat : startsWith l.type (l :: ls) = true := decide_eq_true rfl
      have hp : startsWith .prefixedName (l :: ls) = false := by obtain rfl | rfl := hl <;> rfl
      intro turns _
      cases turns with
      | zero => exact .at hat (.pure rfl)
      | succ turns =>
        apply Takes.skipAnnotations ((hl.follows 0 ls).not_absorbed (by decide))
        exact .skipAnnotationElements hp (.at hat (.pure rfl))
    | cons c cs ih =>
      intro turns hturns
      obtain ⟨m, rfl⟩ := Nat.exists_eq_add_of_lt hturns
      have hat : startsWith l.type (c.lexemes ++ (Component.allLexemes cs ++ l :: ls)) = false :=
        startsWith_component c _ (by obtain rfl | rfl := hl <;> decide)
      rw [Component.allLexemes, List.append_assoc]
      apply Takes.skipAnnotations ((follows_component c _).not_absorbed (by decide))
      refine .skipAnnotationElements (startsWith_component c _ (by decide)) (.at hat ?_)
      refine (h c List.mem_cons_self _ (follows_allLexemes cs hl ls)).bind fun c' hc => ?_
      refine (ih (fun d hd => h d (List.mem_cons_of_mem _ hd)) _ (Nat.le_add_right _ _)).bind
        fun cs' hcs => .pure ?_
      simp only [Component.allAgree, hc, hcs, Bool.and_self]
  refine .remaining (hgo _ ?_)
  have hlength := length_le_allLexemes cs
  rw [List.length_append]
  omega

end

/-! Single components -/

section

variable {setting : Setting} {n : Nat} {includes : Bool} {cs : List Component} {p : Pattern}

theorem readsBack_define (name : DefineName) (operator : Assignment)
    (documentation : Option String) (span : Span)
    (h : Phrase (primaryAt setting n) 0 p.lexemes p) :
    ReadsBack (componentAt setting n includes)
      (.define name operator p documentation span) := by
  intro ls hf
  have hdefine : ∀ head, Takes (defineWith setting (primaryAt setting n) head name)
      ((Component.define name operator p documentation span).lexemes ++ ls)
      ((Component.define name operator p documentation span).agrees · = true) ls := by
    intro head
    apply Takes.advance
    apply Takes.current_cons
    intro t ht
    have hoperator : (some t).bind assignment? = some operator := by
      simp only [Option.bind_some, assignment?, ht]
      cases operator <;> rfl
    simp only [hoperator]
    refine .advance (Takes.bind (h.takes hf) fun q hq => .pure ?_)
    simp only [Component.agrees, decide_true, Bool.true_and, hq]
  unfold componentAt componentWith
  cases name with
  | start =>
    apply Takes.current_cons (l := .keyword .start)
    intro t ht
    simp only [ht]
    exact hdefine t
  | named name =>
    apply Takes.current_cons (l := .identifier name)
    intro t ht
    simp only [ht]
    exact hdefine t

theorem readsBack_div (span : Span)
    (h : ∀ c ∈ cs, ReadsBack (componentAt setting n includes) c) :
    ReadsBack (componentAt setting (n + 1) includes) (.div cs span) := by
  intro ls hf
  have hincludes (block : Parser (List Component)) :
      (if includes then some block else none).isSome = includes := by
    cases includes <;> rfl
  unfold componentAt componentWith
  rw [Component.lexemes, List.cons_append, braced_append]
  apply Takes.current_cons
  intro t ht
  simp only [ht, hincludes]
  refine .advance (.symbol (Takes.bind (Q := fun cs' => Component.allAgree cs cs' = true)
    (.nested ?_) fun cs' hcs => .symbol (.pure ?_)))
  · rw [level_components]
    exact takes_componentsOf (l := .symbol .rightBrace) (.inl rfl) h
  · simpa only [Component.agrees] using hcs

/-- Overrides are read where includes are not allowed, at the level of the include itself. -/
theorem readsBack_incl (href : Text) (inherit : Option String) (span : Span)
    (h : ∀ c ∈ cs, ReadsBack (componentAt setting n false) c) :
    ReadsBack (componentAt setting n true) (.incl href inherit cs span) := by
  intro ls hf
  have hnext : ∀ type ∈ [TokenType.keyword .inherit, .symbol .tilde], startsWith type
      ((if cs.isEmpty then [] else braced (Component.allLexemes cs)) ++ ls) = false := by
    intro type ht
    cases cs with
    | nil =>
      refine hf.not_absorbed ?_
      revert ht type
      decide
    | cons c cs =>
      revert ht type
      simp [startsWith, braced, Lexeme.type]
  have htilde : startsWith (.symbol .tilde) (Surface.inheritLexemes inherit ++
      ((if cs.isEmpty then [] else braced (Component.allLexemes cs)) ++ ls)) = false := by
    cases inherit with
    | none => exact hnext _ (by decide)
    | some qualifier => rfl
  unfold componentAt componentWith
  rw [Component.lexemes, List.cons_append, List.cons_append, List.append_assoc]
  apply Takes.current_cons
  intro t ht
  simp only [ht, if_true]
  refine .advance (.literal htilde (.inheritance (hnext _ (by decide)) ?_))
  cases cs with
  | nil =>
    apply Takes.refuse (hf.not_absorbed (by decide))
    apply Takes.pure
    simp only [Component.agrees, decide_true, Bool.true_and]
    rfl
  | cons c cs =>
    rw [List.isEmpty_cons, if_neg Bool.false_ne_true, braced_append]
    refine .accept rfl (Takes.bind (Q := fun cs' => Component.allAgree (c :: cs) cs' = true)
      ?_ fun cs' hcs => .symbol (.pure ?_))
    · exact takes_componentsOf (l := .symbol .rightBrace) (.inl rfl) h
    · simp only [Component.agrees, decide_true, Bool.true_and, hcs]

end

/-! All of the syntax -/

theorem rank_le_primaryRank (p : Pattern) : p.rank ≤ primaryRank := by
  cases p with
  | binary op left right span =>
    change op.rank ≤ primaryRank
    cases op <;> decide
  | unary m content span =>
    change (if m.isPostfix then postfixRank else primaryRank) ≤ primaryRank
    cases m <;> decide
  | _ => exact Nat.le_refl _

mutual

/-- Every well-formed pattern is read back where its written form opens no more levels than are
left. -/
theorem pattern_reads (setting : Setting) : (p : Pattern) → p.wellFormed = true →
    ∀ n, p.nesting ≤ n → Phrase (primaryAt setting n) p.rank p.lexemes p
  | .binary op left right span, hw, n, hn => by
    rw [Pattern.wellFormed, Bool.and_eq_true] at hw
    rw [Pattern.nesting] at hn
    have hop : op.rank + 1 ≤ primaryRank := by cases op <;> decide
    have hl := Phrase.within (Nat.le_of_succ_le hop) (rank_le_primaryRank left)
      (pattern_reads setting left hw.1) (Nat.le_trans (Nat.le_max_left _ _) hn)
    have hr := Phrase.within hop (rank_le_primaryRank right)
      (pattern_reads setting right hw.2) (Nat.le_trans (Nat.le_max_right _ _) hn)
    rw [Pattern.lexemes]
    exact hl.binary hr
  | .unary m content span, hw, n, hn => by
    rw [Pattern.wellFormed] at hw
    rw [Pattern.nesting] at hn
    rw [Pattern.lexemes, Pattern.rank]
    have hc := pattern_reads setting content hw
    cases hm : m.isPostfix with
    | true =>
      rw [hm, if_pos rfl] at hn
      exact (Phrase.within (by decide) (rank_le_primaryRank content) hc hn).modified hm
    | false =>
      rw [hm, if_neg Bool.false_ne_true] at hn
      obtain ⟨k, rfl⟩ := Nat.exists_eq_add_of_lt hn
      apply Phrase.of_primary
      intro ls _
      apply takes_wrapped hm span
      exact (hc _ (Nat.le_add_right _ _)).of_le (Nat.zero_le _) (rank_le_primaryRank content)
  | .leaf leaf span, _, n, _ => .of_primary fun _ _ => takes_leaf span
  | .named holder name content span, hw, n, hn => by
    rw [Pattern.wellFormed, Bool.and_eq_true] at hw
    rw [Pattern.nesting] at hn
    obtain ⟨k, rfl⟩ := Nat.exists_eq_add_of_lt (Nat.le_trans (Nat.le_max_right _ _) hn)
    have hname := (nameClass_reads setting name).phrase _ (Nat.le_trans (Nat.le_max_left _ _) hn)
    have hc := pattern_reads setting content hw.2 (content.nesting + k) (Nat.le_add_right _ _)
    exact .of_primary fun _ _ =>
      takes_named holder span hname (hc.of_le (Nat.zero_le _) (rank_le_primaryRank content))
  | .ref name span, _, n, _ => .of_primary fun _ _ => takes_ref name span
  | .parentRef name span, _, n, _ => .of_primary fun _ _ => takes_parentRef name span
  | .data type params none span, hw, n, _ => by
    rw [Pattern.wellFormed, Bool.and_eq_true] at hw
    exact .of_primary fun _ hf => takes_data hw.1 params span hf
  | .data type params (some e) span, hw, n, hn => by
    rw [Pattern.wellFormed, Bool.and_eq_true, Bool.and_eq_true] at hw
    rw [Pattern.nesting] at hn
    obtain ⟨k, rfl⟩ := Nat.exists_eq_add_of_lt hn
    have he := Phrase.within (Nat.le_refl _) (rank_le_primaryRank e)
      (pattern_reads setting e hw.2) (Nat.le_add_right _ k)
    apply Phrase.of_primary
    intro ls hf
    rw [Pattern.lexemes, List.cons_append, List.append_assoc]
    exact takes_data_except hw.1.1 params span hf he
  | .value value type span, hw, n, _ => .of_primary fun _ hf => takes_value value hw span hf
  | .external href inherit span, _, n, _ =>
    .of_primary fun _ hf => takes_external href inherit span hf
  | .grammar cs span, hw, n, hn => by
    rw [Pattern.nesting] at hn
    obtain ⟨k, rfl⟩ := Nat.exists_eq_add_of_lt hn
    apply Phrase.of_primary
    intro ls _
    apply takes_grammar span
    rw [level_components]
    exact takes_componentsOf (l := .symbol .rightBrace) (.inl rfl)
      (components_read setting cs true hw _ (Nat.le_add_right _ _))

theorem component_reads (setting : Setting) : (c : Component) → (includes : Bool) →
    c.wellFormed includes = true → ∀ n, c.nesting ≤ n →
    ReadsBack (componentAt setting n includes) c
  | .define name operator pattern documentation span, includes, hw, n, hn => by
    rw [Component.wellFormed, Bool.and_eq_true] at hw
    have hp := pattern_reads setting pattern hw.2 n hn
    exact readsBack_define name operator documentation span
      (hp.of_le (Nat.zero_le _) (rank_le_primaryRank pattern))
  | .div cs span, includes, hw, n, hn => by
    rw [Component.nesting] at hn
    obtain ⟨k, rfl⟩ := Nat.exists_eq_add_of_lt hn
    exact readsBack_div span (components_read setting cs includes hw _ (Nat.le_add_right _ _))
  | .incl href inherit cs span, includes, hw, n, hn => by
    rw [Component.wellFormed, Bool.and_eq_true, Bool.and_eq_true] at hw
    obtain ⟨⟨rfl, -⟩, hcs⟩ := hw
    exact readsBack_incl href inherit span (components_read setting cs false hcs n hn)

theorem components_read (setting : Setting) : (cs : List Component) → (includes : Bool) →
    Component.allWellFormed includes cs = true → ∀ n, Component.allNesting cs ≤ n →
    ∀ c ∈ cs, ReadsBack (componentAt setting n includes) c
  | [], _, _, _, _ => fun c hc => absurd hc List.not_mem_nil
  | c :: cs, includes, hw, n, hn => by
    rw [Component.allWellFormed, Bool.and_eq_true] at hw
    rw [Component.allNesting] at hn
    have hc := component_reads setting c includes hw.1 n (Nat.le_trans (Nat.le_max_left _ _) hn)
    intro d hd
    obtain rfl | hd := List.mem_cons.mp hd
    · exact hc
    · exact components_read setting cs includes hw.2 n (Nat.le_trans (Nat.le_max_right _ _) hn) d hd

end

end RelaxCompact.Parser
