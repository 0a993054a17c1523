import RelaxCompact.Proofs.Printing.Precedence
import RelaxCompact.Proofs.Printing.Takes

/-!
What is written is read back, in name classes and in patterns.
-/

/-! Name classes are read back as they are written. -/

namespace RelaxCompact.Parser

/-- The parser of basic name classes where `n` levels are left. -/
def basicNameAt (setting : Setting) (n : Nat) : Parser Surface.NameClass :=
  basicNameWith setting (below setting n)

theorem level_basicName (setting : Setting) (n : Nat) :
    (level setting n).basicName = basicNameAt setting n := by
  rw [level_eq]
  rfl

/-- The lexemes `w` are read as `c` where a basic name class is wanted. -/
def BasicName (basic : Parser Surface.NameClass) (w : List Lexeme) (c : Surface.NameClass) : Prop :=
  ∀ ls, startsWith (.symbol .minus) ls = false → Takes basic (w ++ ls) (c.agrees · = true) ls

/-- The loop over the choices behind a basic name class. -/
def nameLoop (basic : Parser Surface.NameClass) :
    (turns : Nat) → Surface.NameClass → Parser Surface.NameClass :=
  chain.go .pipe basic fun left right => .choice left right left.span

/-- The lexemes `w` are read as `c` where a name class is wanted. What comes after `c` is up to the
loop. -/
def NamePhrase (basic : Parser Surface.NameClass) (w : List Lexeme) (c : Surface.NameClass) :
    Prop :=
  ∀ (ls rest : List Lexeme) (Q : Surface.NameClass → Prop),
    startsWith (.symbol .minus) ls = false →
    (∀ n d, ls.length ≤ n → c.agrees d = true → Takes (nameLoop basic n d) ls Q rest) →
    Takes (nameClassOf basic) (w ++ ls) Q rest

section

variable {basic : Parser Surface.NameClass} {w w' ls : List Lexeme} {c d : Surface.NameClass}

theorem NamePhrase.takes (h : NamePhrase basic w c) (hm : startsWith (.symbol .minus) ls = false)
    (hp : startsWith (.symbol .pipe) ls = false) :
    Takes (nameClassOf basic) (w ++ ls) (c.agrees · = true) ls :=
  h ls ls _ hm fun n _ _ hd => (takes_chain_stop hp n).mono fun _ he => he ▸ hd

theorem BasicName.phrase (h : BasicName basic w c) : NamePhrase basic w c := by
  intro ls rest Q hm hl
  exact (h ls hm).bind fun d hd => .remaining (hl _ d (Nat.le_refl _) hd)

theorem NamePhrase.choice {span : Span} (hc : NamePhrase basic w c) (hd : BasicName basic w' d) :
    NamePhrase basic (w ++ .symbol .pipe :: w') (.choice c d span) := by
  intro ls rest Q hm hl
  rw [List.append_assoc]
  refine hc _ _ _ rfl fun n c' hn hc' => ?_
  obtain ⟨k, rfl⟩ := Nat.exists_eq_add_of_lt hn
  refine takes_chain_step (hd ls hm) fun d' hd' => hl _ _ ?_ ?_
  · exact Nat.le_trans (List.sublist_append_right w' ls).length_le (Nat.le_add_right _ _)
  · simp only [Surface.NameClass.agrees, hc', hd', Bool.and_self]

end

section

variable {setting : Setting} {n : Nat} {w ls : List Lexeme} {c : Surface.NameClass}

theorem BasicName.parenthesized (h : NamePhrase (basicNameAt setting n) w c) :
    BasicName (basicNameAt setting (n + 1)) (parenthesized w) c := by
  intro ls _
  rw [parenthesized_append]
  unfold basicNameAt basicNameWith
  apply Takes.skipAnnotations rfl
  apply Takes.current_cons
  intro t ht
  simp only [ht]
  refine .advance (Takes.bind (Q := fun d => c.agrees d = true) (.nested ?_) fun d hd =>
    .symbol (.pure hd))
  rw [level_basicName]
  exact h.takes rfl rfl

/-- An exception behind a wildcard is read one level deeper. -/
theorem takes_nameException (h : BasicName (basicNameAt setting n) w c)
    (hm : startsWith (.symbol .minus) ls = false) :
    Takes (nameException setting (below setting (n + 1))) (.symbol .minus :: (w ++ ls))
      (fun e => ∃ d, e = some d ∧ c.agrees d = true) ls := by
  refine .accept rfl (Takes.bind (Q := fun d => c.agrees d = true) (.nested ?_) fun d hd =>
    .pure ⟨d, rfl, hd⟩)
  rw [level_basicName]
  exact h ls hm

theorem takes_no_nameException {next : Option Level} (hm : startsWith (.symbol .minus) ls = false) :
    Takes (nameException setting next) ls (· = none) ls :=
  .refuse hm (.pure rfl)

theorem basicName_name (setting : Setting) (n : Nat) (qualifier : Option String)
    (localName : String) (span : Span) :
    BasicName (basicNameAt setting n) (Surface.NameClass.name qualifier localName span).lexemes
      (.name qualifier localName span) := by
  intro ls _
  unfold basicNameAt basicNameWith
  cases qualifier
  all_goals
    apply Takes.skipAnnotations rfl
    apply Takes.current_cons
    intro t ht
    simp only [ht]
    exact .advance (.pure (by simp only [Surface.NameClass.agrees, decide_true, Bool.and_self]))

/-- The name class is read back, by itself or, with the parentheses it may need, as a basic one,
where its written form opens no more levels than are left. -/
structure ReadsName (setting : Setting) (c : Surface.NameClass) : Prop where
  phrase : ∀ n, c.nesting ≤ n → NamePhrase (basicNameAt setting n) c.lexemes c
  basic : ∀ n, nestingWithin 1 c.rank c.nesting ≤ n →
    BasicName (basicNameAt setting n) (within 1 c.rank c.lexemes) c

theorem ReadsName.of_basic (hr : c.rank = 1)
    (h : ∀ n, c.nesting ≤ n → BasicName (basicNameAt setting n) c.lexemes c) :
    ReadsName setting c where
  phrase n hn := (h n hn).phrase
  basic := by
    rw [hr]
    exact h

theorem ReadsName.of_choice (hr : c.rank = 0)
    (h : ∀ n, c.nesting ≤ n → NamePhrase (basicNameAt setting n) c.lexemes c) :
    ReadsName setting c where
  phrase := h
  basic := by
    rw [hr]
    intro n hn
    obtain ⟨k, rfl⟩ := Nat.exists_eq_add_of_lt hn
    exact .parenthesized (h _ (Nat.le_add_right _ _))

/-- The two kinds of wildcards. -/
def IsWildcard (make : Option Surface.NameClass → Span → Surface.NameClass) : Prop :=
  make = .anyName ∨ ∃ qualifier, make = .nsName qualifier

theorem readsName_wildcard {make : Option Surface.NameClass → Span → Surface.NameClass}
    (hw : IsWildcard make) (span : Span) : ReadsName setting (make none span) := by
  obtain rfl | ⟨qualifier, rfl⟩ := hw
  all_goals
    refine .of_basic rfl fun n _ ls hm => ?_
    unfold basicNameAt basicNameWith
    apply Takes.skipAnnotations rfl
    apply Takes.current_cons
    intro t ht
    simp only [ht]
    refine .advance ((takes_no_nameException hm).bind fun e he => .pure ?_)
    subst he
    simp only [Surface.NameClass.agrees, decide_true]

theorem readsName_except {make : Option Surface.NameClass → Span → Surface.NameClass}
    (hw : IsWildcard make) (hc : ReadsName setting c) (span : Span) :
    ReadsName setting (make (some c) span) := by
  obtain rfl | ⟨qualifier, rfl⟩ := hw
  all_goals
    refine .of_basic rfl fun n hn ls hm => ?_
    obtain ⟨k, rfl⟩ := Nat.exists_eq_add_of_lt hn
    unfold basicNameAt basicNameWith
    apply Takes.skipAnnotations rfl
    apply Takes.current_cons
    intro t ht
    simp only [ht]
    refine .advance ((takes_nameException (hc.basic _ (Nat.le_add_right _ k)) hm).bind ?_)
    rintro _ ⟨d, rfl, hd⟩
    apply Takes.pure
    simp only [Surface.NameClass.agrees, decide_true, Bool.true_and, hd]

end

/-- Every name class is read back. -/
theorem nameClass_reads (setting : Setting) : (c : Surface.NameClass) → ReadsName setting c
  | .name qualifier localName span => by
    refine .of_basic ?_ fun n _ => basicName_name setting n qualifier localName span
    rfl
  | .anyName none span => readsName_wildcard (.inl rfl) span
  | .anyName (some e) span => readsName_except (.inl rfl) (nameClass_reads setting e) span
  | .nsName qualifier none span => readsName_wildcard (.inr ⟨qualifier, rfl⟩) span
  | .nsName qualifier (some e) span =>
    readsName_except (.inr ⟨qualifier, rfl⟩) (nameClass_reads setting e) span
  | .choice left right span => .of_choice rfl fun n hn =>
    ((nameClass_reads setting left).phrase n (Nat.le_trans (Nat.le_max_left _ _) hn)).choice
      ((nameClass_reads setting right).basic n (Nat.le_trans (Nat.le_max_right _ _) hn))

end RelaxCompact.Parser

/-! Patterns are read back as they are written: each construct by itself, and what may stand in it
one level deeper. -/

namespace RelaxCompact.Parser

open Surface (Pattern Component)

/-- The parser of primaries where `n` levels are left. -/
def primaryAt (setting : Setting) (n : Nat) : Parser Pattern :=
  primaryWith setting (basicNameAt setting n) (below setting n)

theorem level_primary (setting : Setting) (n : Nat) :
    (level setting n).primary = primaryAt setting n := by
  rw [level_eq]
  rfl

theorem level_pattern (setting : Setting) (n : Nat) :
    (level setting n).pattern = atRank (primaryAt setting n) 0 := by
  rw [Level.pattern, level_primary]
  rfl

section

variable {setting : Setting} {n : Nat} {w ls rest : List Lexeme} {p : Pattern} {α : Type}
  {Q : α → Prop}

/-! Brackets -/

theorem takes_bracedPattern {f : Pattern → Parser α} (h : Phrase (primaryAt setting n) 0 w p)
    (hf : ∀ q, p.agrees q = true → Takes (f q) ls Q rest) :
    Takes (bracedPattern setting (below setting (n + 1)) >>= f) (braced w ++ ls) Q rest := by
  refine Takes.bind (Q := fun q => p.agrees q = true) (m := ls) ?_ hf
  rw [braced_append]
  refine .symbol (Takes.bind (Q := fun q => p.agrees q = true) (.nested ?_) fun q hq =>
    .symbol (.pure hq))
  rw [level_pattern]
  exact h.takes .brace

theorem Phrase.parenthesized (h : Phrase (primaryAt setting n) 0 w p) :
    Phrase (primaryAt setting (n + 1)) primaryRank (parenthesized w) p := by
  apply Phrase.of_primary
  intro ls _
  rw [parenthesized_append]
  unfold primaryAt primaryWith
  apply Takes.skipAnnotations rfl
  apply Takes.current_cons
  intro t ht
  simp only [ht]
  refine .advance (Takes.bind (Q := fun q => p.agrees q = true) (.nested ?_) fun q hq =>
    .symbol (.pure hq))
  rw [level_pattern]
  exact h.takes .paren

/-- With the parentheses it may need, a pattern is a phrase of every rank. -/
theorem Phrase.within {k : Nat} (hk : k ≤ primaryRank) (hr : p.rank ≤ primaryRank)
    (h : ∀ n, p.nesting ≤ n → Phrase (primaryAt setting n) p.rank w p)
    (hn : nestingWithin k p.rank p.nesting ≤ n) :
    Phrase (primaryAt setting n) k (within k p.rank w) p := by
  unfold nestingWithin at hn
  unfold RelaxCompact.within
  split
  case isTrue hlt =>
    rw [if_pos hlt] at hn
    obtain ⟨m, rfl⟩ := Nat.exists_eq_add_of_lt hn
    exact .of_le (.parenthesized (.of_le (h _ (Nat.le_add_right _ _)) (Nat.zero_le _) hr)) hk
      (Nat.le_refl _)
  case isFalse hge =>
    rw [if_neg hge] at hn
    exact .of_le (h n hn) (Nat.le_of_not_lt hge) hr

/-! Patterns without parts -/

theorem takes_leaf {leaf : Leaf} (span : Span) :
    Takes (primaryAt setting n) (.keyword leaf.keyword :: ls)
      ((Pattern.leaf leaf span).agrees · = true) ls := by
  unfold primaryAt primaryWith
  cases leaf
  all_goals
    apply Takes.skipAnnotations rfl
    apply Takes.current_cons
    intro t ht
    simp only [ht, Leaf.keyword]
    exact .advance (.pure rfl)

theorem takes_ref (name : String) (span : Span) :
    Takes (primaryAt setting n) (.identifier name :: ls)
      ((Pattern.ref name span).agrees · = true) ls := by
  unfold primaryAt primaryWith
  apply Takes.skipAnnotations rfl
  apply Takes.current_cons
  intro t ht
  simp only [ht]
  exact .advance (.pure (decide_eq_true rfl))

theorem takes_parentRef (name : String) (span : Span) :
    Takes (primaryAt setting n) (.keyword .parent :: .identifier name :: ls)
      ((Pattern.parentRef name span).agrees · = true) ls := by
  unfold primaryAt primaryWith
  apply Takes.skipAnnotations rfl
  apply Takes.current_cons
  intro t ht
  simp only [ht]
  refine .advance (.expect rfl fun u hu => .pure ?_)
  have hname : nameOf? u = some name := by simp only [nameOf?, hu]
  rw [hname]
  exact decide_eq_true rfl

theorem takes_external {k : Nat} (href : Text) (inherit : Option String) (span : Span)
    (hf : Follows k ls) :
    Takes (primaryAt setting n)
      (.keyword .external :: .literal href :: (Surface.inheritLexemes inherit ++ ls))
      ((Pattern.external href inherit span).agrees · = true) ls := by
  have htilde : startsWith (.symbol .tilde) (Surface.inheritLexemes inherit ++ ls) = false := by
    cases inherit with
    | none => exact hf.not_absorbed (by decide)
    | some qualifier => rfl
  unfold primaryAt primaryWith
  apply Takes.skipAnnotations rfl
  apply Takes.current_cons
  intro t ht
  simp only [ht]
  refine .advance (.literal htilde (.inheritance (hf.not_absorbed (by decide)) (.pure ?_)))
  simp only [Pattern.agrees, decide_true, Bool.and_self]

/-! Datatypes -/

/-- A well-formed datatype is read as itself, and what follows decides on the pattern. -/
theorem takes_datatype {type : Datatype} (ht : type.wellFormed = true) {Q : Pattern → Prop}
    (h : ∀ span, Takes (datatypePattern setting (below setting n) type span) ls Q rest) :
    Takes (primaryAt setting n) (type.lexeme :: ls) Q rest := by
  obtain ⟨qualifier, localName⟩ := type
  unfold primaryAt primaryWith
  cases qualifier with
  | some qualifier =>
    apply Takes.skipAnnotations rfl
    apply Takes.current_cons
    intro t ht
    simp only [ht, Datatype.lexeme]
    exact .advance (h _)
  | none =>
    have hname : localName = "string" ∨ localName = "token" := by
      simpa [Datatype.wellFormed] using ht
    obtain rfl | rfl := hname
    · have hl : Datatype.lexeme ⟨none, "string"⟩ = .keyword .string := by decide
      rw [hl]
      apply Takes.skipAnnotations rfl
      apply Takes.current_cons
      intro t ht
      simp only [ht]
      exact .advance (h _)
    · have hl : Datatype.lexeme ⟨none, "token"⟩ = .keyword .token := by decide
      rw [hl]
      apply Takes.skipAnnotations rfl
      apply Takes.current_cons
      intro t ht
      simp only [ht]
      exact .advance (h _)

theorem takes_value {k : Nat} (value : Text) {type : Datatype} (ht : type.wellFormed = true)
    (span : Span) (hf : Follows k ls) :
    Takes (primaryAt setting n) ((Pattern.value value type span).lexemes ++ ls)
      ((Pattern.value value type span).agrees · = true) ls := by
  have htilde : startsWith (.symbol .tilde) ls = false := hf.not_absorbed (by decide)
  rw [Pattern.lexemes]
  split
  case isTrue htoken =>
    subst htoken
    unfold primaryAt primaryWith
    apply Takes.skipAnnotations rfl
    apply Takes.current_cons
    intro t ht
    simp only [ht]
    apply (takes_literal htilde).bind
    intro v hv
    apply Takes.pure
    subst hv
    simp only [Pattern.agrees, Datatype.token, decide_true, Bool.and_self]
  case isFalse =>
    apply takes_datatype ht
    intro span
    apply Takes.at (b := true) rfl
    apply (takes_literal htilde).bind
    intro v hv
    apply Takes.pure
    subst hv
    simp only [Pattern.agrees, decide_true, Bool.and_self]

theorem takes_params_go (ps : List (String × Text)) {turns : Nat} (ht : ps.length < turns) :
    Takes (params.go turns) (Surface.paramLexemes ps ++ .symbol .rightBrace :: ls) (· = ps) ls := by
  induction ps generalizing turns with
  | nil =>
    obtain ⟨m, rfl⟩ := Nat.exists_eq_add_of_lt ht
    exact .accept rfl (.pure rfl)
  | cons param ps ih =>
    obtain ⟨m, rfl⟩ := Nat.exists_eq_add_of_lt ht
    have htilde : startsWith (.symbol .tilde)
        (Surface.paramLexemes ps ++ .symbol .rightBrace :: ls) = false := by
      cases ps <;> rfl
    have hnext : Takes (params.go (ps.length + 1 + m))
        (Surface.paramLexemes ps ++ .symbol .rightBrace :: ls) (· = ps) ls := ih (by omega)
    apply Takes.refuse rfl
    refine .skipAnnotations rfl (.name (.symbol (.literal htilde ?_)))
    exact hnext.bind fun ps' hps => .pure (by rw [hps])

theorem length_le_paramLexemes (ps : List (String × Text)) :
    ps.length ≤ (Surface.paramLexemes ps).length := by
  induction ps with
  | nil => exact Nat.le_refl _
  | cons param ps ih =>
    change ps.length + 1 ≤ (Surface.paramLexemes ps).length + 3
    omega

theorem takes_params (ps : List (String × Text)) :
    Takes params (braced (Surface.paramLexemes ps) ++ ls) (· = ps) ls := by
  rw [braced_append]
  refine .symbol (.remaining (takes_params_go ps ?_))
  have hlength := length_le_paramLexemes ps
  rw [List.length_append, List.length_cons]
  omega

/-- The parameters of a datatype, where there are any, and what comes after them. -/
theorem takes_paramBlock {f : List (String × Text) → Parser α} {ps : List (String × Text)}
    (hb : startsWith (.symbol .leftBrace) ls = false) (h : Takes (f ps) ls Q rest) :
    Takes (at? (.symbol .leftBrace) >>= fun b =>
      if b = true then params >>= f else pure [] >>= f) (Surface.paramBlock ps ++ ls) Q rest := by
  cases ps with
  | nil => exact .at hb h
  | cons param ps =>
    refine .at (b := true) rfl ((takes_params (param :: ps)).bind ?_)
    rintro _ rfl
    exact h

theorem startsWith_paramBlock {ps : List (String × Text)} (hl : startsWith .literal ls = false) :
    startsWith .literal (Surface.paramBlock ps ++ ls) = false := by
  cases ps with
  | nil => exact hl
  | cons param ps => rfl

theorem takes_data {k : Nat} {type : Datatype} (ht : type.wellFormed = true)
    (ps : List (String × Text)) (span : Span) (hf : Follows k ls) :
    Takes (primaryAt setting n) (type.lexeme :: (Surface.paramBlock ps ++ ls))
      ((Pattern.data type ps none span).agrees · = true) ls := by
  refine takes_datatype ht fun span =>
    .at (startsWith_paramBlock (hf.not_absorbed (by decide))) ?_
  apply takes_paramBlock (hf.not_absorbed (by decide))
  apply Takes.refuse (hf.not_absorbed (by decide))
  apply Takes.pure
  simp only [Pattern.agrees, decide_true, Bool.and_self]

/-- The exception of a datatype is read one level deeper, as a primary. -/
theorem takes_data_except {k : Nat} {type : Datatype} (ht : type.wellFormed = true)
    (ps : List (String × Text)) (span : Span) (hf : Follows k ls)
    (h : Phrase (primaryAt setting n) primaryRank w p) :
    Takes (primaryAt setting (n + 1))
      (type.lexeme :: (Surface.paramBlock ps ++ .symbol .minus :: (w ++ ls)))
      ((Pattern.data type ps (some p) span).agrees · = true) ls := by
  apply takes_datatype ht
  intro span
  apply Takes.at (startsWith_paramBlock rfl)
  refine takes_paramBlock rfl (.accept rfl ?_)
  refine Takes.bind (Q := fun e => ∃ q, e = some q ∧ p.agrees q = true) (m := ls) ?_ ?_
  · refine Takes.map (Q := fun q => p.agrees q = true) (.nested ?_) fun q hq => ⟨q, rfl, hq⟩
    rw [level_primary]
    exact h.takes hf.primary
  · rintro _ ⟨q, rfl, hq⟩
    apply Takes.pure
    simp only [Pattern.agrees, decide_true, Bool.true_and, hq]

/-! Patterns with braces -/

theorem takes_named (holder : Holder) {w' : List Lexeme} {c : Surface.NameClass} (span : Span)
    (hc : NamePhrase (basicNameAt setting (n + 1)) w' c)
    (h : Phrase (primaryAt setting n) 0 w p) :
    Takes (primaryAt setting (n + 1)) (.keyword holder.keyword :: (w' ++ braced w ++ ls))
      ((Pattern.named holder c p span).agrees · = true) ls := by
  unfold primaryAt primaryWith
  rw [List.append_assoc]
  cases holder
  all_goals
    apply Takes.skipAnnotations rfl
    apply Takes.current_cons
    intro t ht
    simp only [ht, Holder.keyword]
    refine .advance (Takes.bind (hc.takes rfl rfl) fun d hd => ?_)
    apply takes_bracedPattern h
    intro q hq
    apply Takes.pure
    simp only [Pattern.agrees, decide_true, Bool.true_and, hd, hq]

theorem takes_wrapped {m : Modifier} (hm : m.isPostfix = false) (span : Span)
    (h : Phrase (primaryAt setting n) 0 w p) :
    Takes (primaryAt setting (n + 1)) (m.lexeme :: (braced w ++ ls))
      ((Pattern.unary m p span).agrees · = true) ls := by
  unfold primaryAt primaryWith
  cases m with
  | optional | zeroOrMore | oneOrMore => cases hm
  | mixed | list =>
    apply Takes.skipAnnotations rfl
    apply Takes.current_cons
    intro t ht
    simp only [ht, Modifier.lexeme]
    apply Takes.advance
    apply takes_bracedPattern h
    intro q hq
    apply Takes.pure
    simp only [Pattern.agrees, decide_true, Bool.true_and, hq]

theorem takes_grammar {cs : List Component} (span : Span)
    (h : Takes ((level setting n).components true (.symbol .rightBrace))
      (w ++ .symbol .rightBrace :: ls) (Component.allAgree cs · = true)
      (.symbol .rightBrace :: ls)) :
    Takes (primaryAt setting (n + 1)) (.keyword .grammar :: (braced w ++ ls))
      ((Pattern.grammar cs span).agrees · = true) ls := by
  unfold primaryAt primaryWith
  apply Takes.skipAnnotations rfl
  apply Takes.current_cons
  intro t ht
  simp only [ht]
  rw [braced_append]
  refine .advance (.symbol (Takes.bind (Takes.nested h) fun cs' hcs => .symbol (.pure ?_)))
  simpa only [Pattern.agrees] using hcs

end

end RelaxCompact.Parser
