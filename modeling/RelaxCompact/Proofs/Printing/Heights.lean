import RelaxCompact.Proofs.Printing.RoundTrip

/-!
How high the trees of a file are. The levels that a file may open bound the height of its trees, if
a row of occurrence operators and a row of alternatives between names count as one level each.
Without that nothing bounds it: a pattern may have any number of occurrence operators behind it.
-/

namespace RelaxCompact

open Surface

theorem Connective.rank_injective {op op' : Connective} (h : op.rank = op'.rank) : op = op' := by
  cases op <;> cases op' <;> first | rfl | cases h

theorem Connective.rank_lt (op : Connective) : op.rank < postfixRank := by
  cases op <;> decide

namespace Surface

/-- The operators that put one tree on top of another of their kind. -/
inductive Chain
  | operands (op : Connective)
  | occurrences
  deriving DecidableEq

/-- The height of a tree on top of parts, as a link of a chain or by itself. -/
def Chain.height (chain : Chain) (above : Option Chain) (parts : Nat) : Nat :=
  if above = some chain then parts else parts + 1

/-- The height of a name class. If `rows` are flat, the alternatives of a choice that associates to
the left stand on one level; `inRow` says that the name class is one of these. -/
def NameClass.height (rows inRow : Bool) : NameClass → Nat
  | name _ _ _ | anyName none _ | nsName _ none _ => 1
  | anyName (some e) _ | nsName _ (some e) _ => e.height rows false + 1
  | choice left right _ =>
    max (left.height rows true) (right.height rows false) + if rows && inRow then 0 else 1

mutual

/-- The height of a pattern, name classes and nested grammars included. The operands of a chain of
one operator stand on one level; if `rows` are flat, a row of occurrence operators is one as well.
`above` is the chain that the pattern is a link of. -/
def Pattern.height (rows : Bool) (above : Option Chain) : Pattern → Nat
  | .binary op left right _ =>
    (Chain.operands op).height above
      (max (left.height rows (some (.operands op))) (right.height rows none))
  | .unary m content _ =>
    if rows && m.isPostfix then
      Chain.occurrences.height above (content.height rows (some .occurrences))
    else content.height rows none + 1
  | .named _ name content _ => max (name.height rows false) (content.height rows none) + 1
  | .data _ _ (some e) _ => e.height rows none + 1
  | .grammar components _ => Component.allHeight rows components + 1
  | _ => 1

def Component.height (rows : Bool) : Component → Nat
  | .define _ _ pattern _ _ => pattern.height rows none
  | .div components _ => Component.allHeight rows components + 1
  | .incl _ _ overrides _ => Component.allHeight rows overrides + 1

def Component.allHeight (rows : Bool) : List Component → Nat
  | [] => 0
  | c :: cs => max (c.height rows) (Component.allHeight rows cs)

end

/-- The height of the highest tree of a file. -/
def File.height (rows : Bool) (f : File) : Nat := Component.allHeight rows f.components

/-! Chains of one operator -/

theorem Chain.height_none (chain : Chain) (parts : Nat) : chain.height none parts = parts + 1 :=
  if_neg nofun

theorem Chain.height_self (chain : Chain) (parts : Nat) :
    chain.height (some chain) parts = parts :=
  if_pos rfl

theorem Chain.height_of_ne {chain chain' : Chain} (h : chain' ≠ chain) (parts : Nat) :
    chain.height (some chain') parts = parts + 1 :=
  if_neg fun he => h (Option.some.inj he)

theorem Chain.height_le (chain : Chain) (above : Option Chain) (parts : Nat) :
    chain.height above parts ≤ parts + 1 := by
  unfold height
  split
  · exact Nat.le_succ parts
  · exact Nat.le_refl _

theorem Pattern.height_le_above (rows : Bool) (above : Option Chain) (p : Pattern) :
    p.height rows above ≤ p.height rows none := by
  cases p with
  | binary op =>
    rw [height, height, Chain.height_none]
    exact Chain.height_le _ _ _
  | unary m =>
    rw [height, height]
    split
    · rw [Chain.height_none]
      exact Chain.height_le _ _ _
    · exact Nat.le_refl _
  | data _ _ except =>
    cases except <;> exact Nat.le_refl _
  | _ => exact Nat.le_refl _

/-- Below an operator, a pattern is as high as the highest of the operands that it stands for. -/
theorem Pattern.height_spine_le (rows : Bool) (op : Connective) {n : Nat} : (p : Pattern) →
    (p.height rows (some (.operands op)) ≤ n ↔ ∀ o ∈ p.spine op, o.height rows none ≤ n)
  | .binary op' left right span => by
    have hleft := height_spine_le rows op (n := n) left
    rw [spine]
    by_cases hop : op' = op
    · subst hop
      rw [if_pos rfl, List.forall_mem_append, List.forall_mem_singleton, ← hleft, height,
        Chain.height_self, Nat.max_le]
    · have hne : Chain.operands op ≠ Chain.operands op' := fun he => hop (Chain.operands.inj he).symm
      rw [if_neg hop, List.forall_mem_singleton, height, height, Chain.height_of_ne hne,
        Chain.height_none]
  | .unary m content span => by
    rw [spine, List.forall_mem_singleton, height, height]
    split
    · have hne : Chain.operands op ≠ .occurrences := Chain.noConfusion
      rw [Chain.height_of_ne hne, Chain.height_none]
    · rfl
    all_goals nofun
  | .data _ _ none _ | .data _ _ (some _) _ | .leaf _ _ | .named _ _ _ _ | .ref _ _
  | .parentRef _ _ | .value _ _ _ | .external _ _ _ | .grammar _ _ => by
    rw [spine, List.forall_mem_singleton, height, height]
    all_goals nofun

/-- The operands of a chain of one operator stand on one level. -/
theorem Pattern.height_operands_le (rows : Bool) (op : Connective) (left right : Pattern)
    (span : Span) {n : Nat} : (binary op left right span).height rows none ≤ n + 1 ↔
      ∀ o ∈ (binary op left right span).operands, o.height rows none ≤ n := by
  rw [operands, List.forall_mem_append, List.forall_mem_singleton, ← height_spine_le, height,
    Chain.height_none, Nat.succ_le_succ_iff, Nat.max_le]

/-! Levels bound heights -/

theorem NameClass.rank_le (c : NameClass) : c.rank ≤ 1 := by
  unfold rank
  split <;> decide

/-- A choice that stands in a row is a level lower than by itself. -/
theorem NameClass.height_row (c : NameClass) :
    c.height true true + (1 - c.rank) = c.height true false := by
  cases c with
  | name => rfl
  | anyName except => cases except <;> rfl
  | nsName _ except => cases except <;> rfl
  | choice => rfl

theorem NameClass.height_within {e : NameClass} (h : e.height true false + e.rank ≤ 2 * e.nesting + 2) :
    e.height true false ≤ 2 * nestingWithin 1 e.rank e.nesting + 1 := by
  have hrank := e.rank_le
  unfold nestingWithin
  split <;> omega

/-- With flat rows, a name class is at most two levels high for each level that is open in it. -/
theorem NameClass.height_le : (c : NameClass) → c.height true false + c.rank ≤ 2 * c.nesting + 2
  | name _ _ _ | anyName none _ | nsName _ none _ => Nat.le_refl _
  | anyName (some e) _ | nsName _ (some e) _ => by
    have he := height_within (height_le e)
    change e.height true false + 1 + 1 ≤ 2 * (nestingWithin 1 e.rank e.nesting + 1) + 2
    omega
  | choice left right _ => by
    have hl := height_le left
    have hrow := left.height_row
    have hr := height_within (height_le right)
    have hrank := left.rank_le
    change max (left.height true true) (right.height true false) + 1 + 0 ≤
      2 * max left.nesting (nestingWithin 1 right.rank right.nesting) + 2
    omega

/-- A pattern that may need parentheses where only rank `k` may stand. -/
theorem Pattern.height_within {p : Pattern} (h : p.height true none + p.rank ≤ 6 * p.nesting + 6)
    {k : Nat} (hk : k ≤ primaryRank) :
    p.height true none + k ≤ 6 * nestingWithin k p.rank p.nesting + 6 := by
  unfold nestingWithin
  unfold primaryRank at hk
  split <;> omega

/-- A pattern that is a chain of an operator is a level lower as an operand of it. -/
theorem Pattern.height_of_rank {p : Pattern} {op : Connective} (h : p.rank = op.rank) :
    p.height true (some (.operands op)) + 1 = p.height true none := by
  have hop := op.rank_lt
  cases p with
  | binary op' =>
    cases Connective.rank_injective h
    rw [height, height, Chain.height_self, Chain.height_none]
  | unary m =>
    cases m <;> exact absurd h (Nat.ne_of_gt (by first | exact hop | exact Nat.lt_succ_of_lt hop))
  | _ => exact absurd h (Nat.ne_of_gt (Nat.lt_succ_of_lt hop))

/-- A pattern with an occurrence operator behind it is a level lower in front of another one. -/
theorem Pattern.height_of_postfixRank {p : Pattern} (h : p.rank = postfixRank) :
    p.height true (some .occurrences) + 1 = p.height true none := by
  cases p with
  | binary op => exact absurd h (Nat.ne_of_lt op.rank_lt)
  | unary m =>
    cases m with
    | mixed | list => cases h
    | _ => rfl
  | _ => cases h

theorem Pattern.height_left {p : Pattern} (op : Connective)
    (h : p.height true none + p.rank ≤ 6 * p.nesting + 6) :
    p.height true (some (.operands op)) + 1 + op.rank ≤
      6 * nestingWithin op.rank p.rank p.nesting + 6 := by
  have hop := op.rank_lt
  unfold postfixRank at hop
  have habove := p.height_le_above true (some (.operands op))
  rcases Nat.lt_trichotomy p.rank op.rank with hlt | heq | hgt
  · rw [nestingWithin, if_pos hlt]
    omega
  · rw [nestingWithin_of_le (Nat.le_of_eq heq.symm), height_of_rank heq, ← heq]
    exact h
  · rw [nestingWithin_of_le (Nat.le_of_lt hgt)]
    omega

theorem Pattern.height_content {p : Pattern}
    (h : p.height true none + p.rank ≤ 6 * p.nesting + 6) :
    p.height true (some .occurrences) + 1 + postfixRank ≤
      6 * nestingWithin postfixRank p.rank p.nesting + 6 := by
  have habove := p.height_le_above true (some .occurrences)
  rcases Nat.lt_trichotomy p.rank postfixRank with hlt | heq | hgt
  · rw [nestingWithin, if_pos hlt]
    unfold postfixRank
    omega
  · rw [nestingWithin_of_le (Nat.le_of_eq heq.symm), height_of_postfixRank heq, ← heq]
    exact h
  · rw [nestingWithin_of_le (Nat.le_of_lt hgt)]
    omega

mutual

/-- With flat rows, a pattern is at most six levels high for each level that is open in it. -/
theorem Pattern.height_le : (p : Pattern) → p.wellFormed = true →
    p.height true none + p.rank ≤ 6 * p.nesting + 6
  | .binary op left right _, hw => by
    rw [Pattern.wellFormed, Bool.and_eq_true] at hw
    have hop : op.rank + 1 ≤ primaryRank := Nat.le_succ_of_le op.rank_lt
    have hl := Pattern.height_left op (Pattern.height_le left hw.1)
    have hr := Pattern.height_within (Pattern.height_le right hw.2) hop
    rw [Pattern.height, Chain.height_none, Pattern.rank, Pattern.nesting]
    omega
  | .unary m content _, hw => by
    rw [Pattern.wellFormed] at hw
    have hc := Pattern.height_le content hw
    rw [Pattern.height, Pattern.rank, Pattern.nesting]
    cases hm : m.isPostfix with
    | true =>
      have hcontent := Pattern.height_content hc
      simp only [Bool.and_self, if_true, Chain.height_none]
      omega
    | false =>
      simp only [Bool.and_false, Bool.false_eq_true, if_false]
      unfold primaryRank
      omega
  | .leaf _ _, _ | .ref _ _, _ | .parentRef _ _, _ | .value _ _ _, _ | .external _ _ _, _
  | .data _ _ none _, _ => by
    change 1 + 4 ≤ 6 * 0 + 6
    decide
  | .named _ name content _, hw => by
    rw [Pattern.wellFormed, Bool.and_eq_true] at hw
    have hc := Pattern.height_le content hw.2
    have hname := name.height_le
    change max (name.height true false) (content.height true none) + 1 + 4 ≤
      6 * max name.nesting (content.nesting + 1) + 6
    omega
  | .data _ _ (some e) _, hw => by
    rw [Pattern.wellFormed, Bool.and_eq_true] at hw
    have he := Pattern.height_within (Pattern.height_le e hw.2) (Nat.le_refl primaryRank)
    change e.height true none + 1 + 4 ≤ 6 * (nestingWithin primaryRank e.rank e.nesting + 1) + 6
    omega
  | .grammar components _, hw => by
    rw [Pattern.wellFormed] at hw
    have hc := Component.allHeight_le true components hw
    change Component.allHeight true components + 1 + 4 ≤
      6 * (Component.allNesting components + 1) + 6
    rw [if_pos rfl] at hc
    omega

/-- An override block opens no level, but there is none within another. -/
theorem Component.height_le (includes : Bool) : (c : Component) → c.wellFormed includes = true →
    c.height true ≤ 6 * c.nesting + if includes then 7 else 6
  | .define _ _ pattern _ _, hw => by
    rw [Component.wellFormed, Bool.and_eq_true] at hw
    have hp := Pattern.height_le pattern hw.2
    rw [Component.height, Component.nesting]
    split <;> omega
  | .div components _, hw => by
    rw [Component.wellFormed] at hw
    have hc := Component.allHeight_le includes components hw
    rw [Component.height, Component.nesting]
    cases includes
    · rw [if_neg Bool.false_ne_true] at hc ⊢
      omega
    · rw [if_pos rfl] at hc ⊢
      omega
  | .incl _ _ overrides _, hw => by
    rw [Component.wellFormed, Bool.and_eq_true, Bool.and_eq_true] at hw
    obtain ⟨⟨rfl, -⟩, hoverrides⟩ := hw
    have hc := Component.allHeight_le false overrides hoverrides
    rw [Component.height, Component.nesting]
    rw [if_neg Bool.false_ne_true] at hc
    rw [if_pos rfl]
    omega

theorem Component.allHeight_le (includes : Bool) : (cs : List Component) →
    Component.allWellFormed includes cs = true →
    Component.allHeight true cs ≤ 6 * Component.allNesting cs + if includes then 7 else 6
  | [], _ => Nat.zero_le _
  | c :: cs, hw => by
    rw [Component.allWellFormed, Bool.and_eq_true] at hw
    have hc := Component.height_le includes c hw.1
    have hcs := Component.allHeight_le includes cs hw.2
    rw [Component.allHeight, Component.allNesting]
    omega

end

end Surface

/-- **Heights.** The trees of a file that is accepted are of bounded height, if rows are flat: each
of the levels that may be open adds six at most, and an override block one more. -/
theorem parse_bounds_height {source : Source} {path : Text} {f : File}
    (h : source.parse path = .ok f) : f.height true ≤ 6 * Parser.nestingLimit + 7 := by
  obtain ⟨-, hw⟩ := wellFormed_of_parse h
  simp only [File.wellFormed, Bool.and_eq_true, decide_eq_true_eq] at hw
  obtain ⟨⟨⟨-, hcomponents⟩, -⟩, hnesting⟩ := hw
  have hheight := Component.allHeight_le true f.components hcomponents
  rw [if_pos rfl] at hheight
  unfold File.height
  omega

namespace Repeated

/-! A pattern with any number of occurrence operators behind it. -/

def here : Span := ⟨[], 1, 1, 0, 0⟩

def pattern : Nat → Pattern
  | 0 => .leaf .text here
  | n + 1 => .unary .optional (pattern n) here

def file (n : Nat) : File := ⟨[], [], [.define .start .single (pattern n) none here], false⟩

theorem pattern_wellFormed (n : Nat) : (pattern n).wellFormed = true ∧ (pattern n).nesting = 0 := by
  induction n with
  | zero => exact ⟨rfl, rfl⟩
  | succ n ih =>
    have hrank : postfixRank ≤ (pattern n).rank := by
      cases n
      · exact Nat.le_succ postfixRank
      · exact Nat.le_refl postfixRank
    refine ⟨ih.1, ?_⟩
    change nestingWithin postfixRank (pattern n).rank (pattern n).nesting = 0
    rw [nestingWithin_of_le hrank, ih.2]

theorem file_wellFormed (n : Nat) : (file n).wellFormed = true := by
  obtain ⟨hw, hn⟩ := pattern_wellFormed n
  simp [File.wellFormed, file, Component.allWellFormed, Component.wellFormed, DefineName.wellFormed,
    Component.allNesting, Component.nesting, hw, hn]

theorem lt_height {n : Nat} {p : Pattern} (h : (pattern n).agrees p = true) :
    n < p.height false none := by
  induction n generalizing p with
  | zero =>
    cases p with
    | leaf => exact Nat.zero_lt_one
    | _ => cases h
  | succ n ih =>
    cases p with
    | unary m content =>
      obtain ⟨-, hcontent⟩ := Bool.and_eq_true_iff.mp h
      exact Nat.succ_lt_succ (ih hcontent)
    | _ => cases h

/-- Reading gives the pattern back, at its height. -/
theorem exists_parse (n : Nat) :
    ∃ g, Source.parse (.text (file n).print) [] = .ok g ∧ n < g.height false := by
  obtain ⟨g, hparse, hagrees⟩ := parse_print (file_wellFormed n)
  refine ⟨g, hparse, ?_⟩
  obtain ⟨path, declarations, components, isPattern⟩ := g
  have hall : Component.allAgree (file n).components components = true := by
    simp only [File.agrees, Bool.and_eq_true] at hagrees
    exact hagrees.1.2
  cases components with
  | nil => cases hall
  | cons c cs =>
    obtain ⟨hc, -⟩ := Bool.and_eq_true_iff.mp hall
    cases c with
    | define name operator p =>
      obtain ⟨-, hp⟩ := Bool.and_eq_true_iff.mp hc
      exact Nat.lt_of_lt_of_le (lt_height hp) (Nat.le_max_left _ _)
    | _ => cases hc

theorem parse_bounds_height_repeated :
    ∃ g, Source.parse (.text (file 400).print) [] = .ok g ∧ 400 < g.height false ∧
      g.height true ≤ 6 * Parser.nestingLimit + 7 := by
  obtain ⟨g, hparse, hheight⟩ := exists_parse 400
  exact ⟨g, hparse, hheight, parse_bounds_height hparse⟩

/-- Nothing bounds the height of a tree if each occurrence operator counts. -/
theorem parse_bounds_height_beyond : ¬ ∃ bound : Nat, ∀ (source : Source) (path : Text) (f : File),
    source.parse path = .ok f → f.height false ≤ bound := by
  rintro ⟨bound, h⟩
  obtain ⟨g, hparse, hheight⟩ := exists_parse bound
  exact Nat.not_le_of_lt hheight (h _ _ g hparse)

end Repeated

end RelaxCompact
