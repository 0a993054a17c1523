import RelaxCompact.Proofs.Querying.Handles

/-!
Descriptions. They are rendered on a stack, with what is rendered so far at hand, so that shared
parts are rendered once; the text is that of a recursion on the tree below the handle. A handle
stands on the stack with its mark only while its parts are rendered, which all have smaller trees:
none of them needs the handle itself.
-/

namespace RelaxCompact

/-- The recursive description: of a pattern from those of its parts, and of a reference by name. -/
def Tree.describe : Tree → Text
  | binary op left right => op.label ++ "(" ++ left.describe ++ ", " ++ right.describe ++ ")"
  | unary modifier content => modifier.label ++ "(" ++ content.describe ++ ")"
  | leaf l => l.label
  | named holder name content =>
    holder.label ++ "(" ++ name.describe ++ ", " ++ content.describe ++ ")"
  | ref name _ => "Ref(" ++ name ++ ")"
  | parentRef name _ => "ParentRef(" ++ name ++ ")"
  | data _ name params => "DataType(" ++ name ++ Node.renderParams params ++ ")"
  | dataExcept _ name params except =>
    "DataType(" ++ name ++ Node.renderParams params ++ " - " ++ except.describe ++ ")"
  | value literal _ _ => "Value(\"" ++ literal ++ "\")"

theorem Text.join_singleton (separator text : Text) : join separator [text] = text := by
  rw [join, List.intercalate_singleton]

theorem Text.join_pair (separator first second : Text) :
    join separator [first, second] = first ++ separator ++ second := by
  simp [join, List.intercalate]

theorem Reads.exists_node {node : Handle → Option Node} {h : Handle} {t : Tree}
    (hr : Reads node h t) : ∃ n, node h = some n := by
  cases hr with
  | _ hn => exact ⟨_, hn⟩

/-- The parts without a text, as they come onto the stack: the last one is its top. -/
def Node.missing (n : Node) (rendered : Schema.Rendered) : List Handle :=
  (n.parts.filter fun child => (List.lookup child rendered).isNone).reverse

theorem Node.mem_missing {n : Node} {rendered : Schema.Rendered} {c : Handle} :
    c ∈ n.missing rendered ↔ c ∈ n.parts ∧ (List.lookup c rendered).isNone := by
  rw [missing, List.mem_reverse, List.mem_filter]

theorem Node.length_missing_le (n : Node) (rendered : Schema.Rendered) :
    (n.missing rendered).length ≤ 2 := by
  have hparts : n.parts.length ≤ 2 := by
    cases n with
    | binary => exact le_rfl
    | unary | named => exact one_le_two
    | leaf | ref | parentRef | value => exact Nat.zero_le _
    | data library name params except =>
      cases except with
      | none => exact Nat.zero_le _
      | some => exact one_le_two
  rw [missing, List.length_reverse]
  exact (List.length_filter_le _ _).trans hparts

namespace Schema

variable {s : Schema} {h c : Handle} {n : Node} {t : Tree}

/-- No way down through parts leads back to where it began. -/
def Layered (s : Schema) : Prop := ∀ h, ¬ Relation.TransGen s.Part h h

/-! Trees below handles -/

theorem Closed.part (hs : s.Closed) (hc : s.Part h c) : s.Addresses c := by
  obtain ⟨n, hn, hc⟩ := hc
  exact hs.child hn (parts_subset n hc)

theorem exists_reads_of_parts (hn : s.node? h = some n)
    (hparts : ∀ c ∈ n.parts, ∃ t, Reads s.node? c t) : ∃ t, Reads s.node? h t := by
  cases n with
  | binary op left right =>
    obtain ⟨l, hl⟩ := hparts left List.mem_cons_self
    obtain ⟨r, hr⟩ := hparts right (List.mem_cons_of_mem _ List.mem_cons_self)
    exact ⟨_, .binary hn hl hr⟩
  | unary modifier content =>
    obtain ⟨c, hc⟩ := hparts content List.mem_cons_self
    exact ⟨_, .unary hn hc⟩
  | leaf l => exact ⟨_, .leaf hn⟩
  | named holder name content =>
    obtain ⟨c, hc⟩ := hparts content List.mem_cons_self
    exact ⟨_, .named hn hc⟩
  | ref name target => exact ⟨_, .ref hn⟩
  | parentRef name target => exact ⟨_, .parentRef hn⟩
  | data library name params except =>
    cases except with
    | none => exact ⟨_, .data hn⟩
    | some except =>
      obtain ⟨e, he⟩ := hparts except List.mem_cons_self
      exact ⟨_, .dataExcept hn he⟩
  | value literal library type => exact ⟨_, .value hn⟩

/-- Without a way back there is a tree below every handle: handles are finitely many. -/
theorem Layered.exists_reads (hl : s.Layered) (hs : s.Closed) (hh : s.Addresses h) :
    ∃ t, Reads s.node? h t := by
  let below (c h : {h // s.Addresses h}) : Prop := Relation.TransGen s.Part h.1 c.1
  have : Finite {h // s.Addresses h} :=
    (Set.finite_Ico (-(s.nodes.size : Int)) s.nodes.size).to_subtype
  have : IsTrans _ below := ⟨fun _ _ _ hab hbc => hbc.trans hab⟩
  have : Std.Irrefl below := ⟨fun h => hl h.1⟩
  have hread : ∀ h : {h // s.Addresses h}, ∃ t, Reads s.node? h.1 t := by
    intro h
    induction h using (Finite.wellFounded_of_trans_of_irrefl below).induction with
    | _ h ih =>
      obtain ⟨n, hn⟩ := h.2.exists_node
      apply exists_reads_of_parts hn
      intro c hc
      have hpart : s.Part h.1 c := ⟨n, hn, hc⟩
      exact ih ⟨c, hs.part hpart⟩ (.single hpart)
  exact hread ⟨h, hh⟩

theorem exists_smaller_of_transGen (hc : Relation.TransGen s.Part h c) (hr : Reads s.node? h t) :
    ∃ t', Reads s.node? c t' ∧ sizeOf t' < sizeOf t := by
  induction hc with
  | single hpart =>
    obtain ⟨n, hn, hc⟩ := hpart
    exact hr.part hn hc
  | tail _ hpart ih =>
    obtain ⟨n, hn, hc⟩ := hpart
    obtain ⟨t', hr', hlt⟩ := ih
    obtain ⟨t'', hr'', hlt'⟩ := hr'.part hn hc
    exact ⟨t'', hr'', hlt'.trans hlt⟩

/-- Where there is a tree below every place no way leads back. -/
theorem layered_of_reads (hall : ∀ i : Nat, i < s.nodes.size → ∃ t, Reads s.node? i t) :
    s.Layered := by
  intro h hback
  obtain ⟨-, ⟨n, hn, -⟩, -⟩ := Relation.TransGen.head'_iff.1 hback
  obtain ⟨i, hi, he⟩ := exists_getElem?_of_node? hn
  obtain ⟨t, hr⟩ := hall i (Array.getElem?_eq_some_iff.1 hi).1
  obtain ⟨t', hr', hlt⟩ := exists_smaller_of_transGen hback (hr.congr he)
  rw [hr'.unique (hr.congr he)] at hlt
  exact lt_irrefl _ hlt

theorem layered_of_resolve {a : Assembled} (ha : a.resolve = .ok s) : s.Layered :=
  layered_of_reads fun _ hi => exists_reads_of_resolve ha hi

/-! Steps of rendering -/

/-- The handles that have a text. -/
def Rendered.handles (rendered : Rendered) : List Handle := rendered.map Prod.fst

/-- The texts are the descriptions of trees. -/
def Rendered.Sound (s : Schema) (rendered : Rendered) : Prop :=
  ∀ entry ∈ rendered, ∃ t, Reads s.node? entry.1 t ∧ entry.2 = t.describe

variable {rendered before between after : Rendered} {listed top : List Handle} {bound : Nat}

theorem Rendered.mem_handles : h ∈ rendered.handles ↔ (List.lookup h rendered).isSome := by
  rw [List.lookup_isSome_iff, handles, List.mem_map]
  exact exists_congr fun entry => and_congr_right fun _ => by rw [beq_iff_eq, eq_comm]

theorem Rendered.Sound.cons (hs : rendered.Sound s) (hr : Reads s.node? h t) :
    Rendered.Sound s ((h, t.describe) :: rendered) :=
  List.forall_mem_cons.2 ⟨⟨t, hr, rfl⟩, hs⟩

theorem Rendered.Sound.lookup (hs : rendered.Sound s) (hh : h ∈ rendered.handles)
    (hr : Reads s.node? h t) : List.lookup h rendered = some t.describe := by
  obtain ⟨text, htext⟩ := Option.isSome_iff_exists.1 (mem_handles.1 hh)
  obtain ⟨_, _, heq, -⟩ := List.lookup_eq_some_iff.1 htext
  obtain ⟨t', hr', he⟩ := hs (h, text) (by simp [heq])
  rw [htext, ← hr'.unique hr, ← he]

/-- When all parts are rendered, putting them together gives the description of the tree. -/
theorem Rendered.Sound.render (hs : rendered.Sound s) (hr : Reads s.node? h t)
    (hn : s.node? h = some n) (hparts : n.parts ⊆ rendered.handles) :
    ∃ texts, (n.parts.mapM fun c => List.lookup c rendered) = some texts ∧
      n.render texts = t.describe := by
  have hsingle {c : Handle} {t' : Tree} (hc : c ∈ n.parts) (hr' : Reads s.node? c t') :
      ([c].mapM fun c => List.lookup c rendered) = some [t'.describe] := by
    simp [hs.lookup (hparts hc) hr']
  cases hr with
  | @binary _ op left right l r hn' hl hr =>
    cases hn.symm.trans hn'
    refine ⟨[l.describe, r.describe], ?_, by simp [Node.render, Tree.describe, Text.join_pair]⟩
    have hright := hsingle (List.mem_cons_of_mem _ List.mem_cons_self) hr
    change ([left, right].mapM fun c => List.lookup c rendered) = _
    rw [List.mapM_cons, hs.lookup (hparts List.mem_cons_self) hl, hright]
    rfl
  | unary hn' hc | named hn' hc | dataExcept hn' hc =>
    cases hn.symm.trans hn'
    exact ⟨[_], hsingle List.mem_cons_self hc,
      by simp [Node.render, Tree.describe, Text.join_singleton]⟩
  | leaf hn' | ref hn' | parentRef hn' | value hn' =>
    cases hn.symm.trans hn'
    exact ⟨[], rfl, rfl⟩
  | data hn' =>
    cases hn.symm.trans hn'
    exact ⟨[], rfl, by simp [Node.render, Tree.describe]⟩

theorem renderFrom_skip (hh : h ∈ rendered.handles) (budget : Nat) (expanded : Bool)
    (stack : List (Handle × Bool)) :
    s.renderFrom (budget + 1) rendered ((h, expanded) :: stack) =
      s.renderFrom budget rendered stack := by
  rw [renderFrom, if_pos (Rendered.mem_handles.1 hh)]

theorem renderFrom_expand (hh : h ∉ rendered.handles) (hn : s.node? h = some n)
    (hparts : n.parts ≠ []) (budget : Nat) (stack : List (Handle × Bool)) :
    s.renderFrom (budget + 1) rendered ((h, false) :: stack) =
      s.renderFrom budget rendered ((n.missing rendered).map (·, false) ++ (h, true) :: stack) := by
  rw [renderFrom, if_neg (mt Rendered.mem_handles.2 hh), node_eq_ok.2 hn]
  change (if (n.parts.isEmpty || false) = true then _ else _) = _
  rw [if_neg (by simpa using hparts)]
  rfl

theorem renderFrom_render (hs : rendered.Sound s) (hh : h ∉ rendered.handles)
    (hr : Reads s.node? h t) (hn : s.node? h = some n) (hparts : n.parts ⊆ rendered.handles)
    {expanded : Bool} (hready : n.parts = [] ∨ expanded) (budget : Nat)
    (stack : List (Handle × Bool)) :
    s.renderFrom (budget + 1) rendered ((h, expanded) :: stack) =
      s.renderFrom budget ((h, t.describe) :: rendered) stack := by
  obtain ⟨texts, htexts, htext⟩ := hs.render hr hn hparts
  rw [renderFrom, if_neg (mt Rendered.mem_handles.2 hh), node_eq_ok.2 hn]
  change (if (n.parts.isEmpty || expanded) = true then _ else _) = _
  rw [if_pos (by simpa using hready), htexts, ← htext]

/-- Rendering of the handles at the top of a stack. Only trees smaller than `bound` are rendered.
One step is taken for each of these handles, and up to three more for each listed handle that gets a
text: one for each of its parts, of which there are at most two, and one to put them together. -/
structure Renders (s : Schema) (listed : List Handle) (bound : Nat) (top : List Handle)
    (before after : Rendered) : Prop where
  sound : after.Sound s
  kept : before.handles ⊆ after.handles
  done : top ⊆ after.handles
  smaller : ∀ x ∈ after.handles, x ∈ before.handles ∨ ∃ t, Reads s.node? x t ∧ sizeOf t < bound
  runs : ∃ steps,
    steps + 3 * unmet listed after.handles ≤ top.length + 3 * unmet listed before.handles ∧
    ∀ budget stack, s.renderFrom (budget + steps) before (top.map (·, false) ++ stack) =
      s.renderFrom budget after stack

namespace Renders

theorem nil (hs : before.Sound s) : s.Renders listed bound [] before before where
  sound := hs
  kept := List.Subset.refl _
  done := List.nil_subset _
  smaller _ hx := .inl hx
  runs := ⟨0, by simp, fun _ _ => rfl⟩

theorem cons (hfirst : s.Renders listed bound [h] before between)
    (hrest : s.Renders listed bound top between after) :
    s.Renders listed bound (h :: top) before after := by
  obtain ⟨steps, hsteps, hruns⟩ := hfirst.runs
  obtain ⟨steps', hsteps', hruns'⟩ := hrest.runs
  refine ⟨hrest.sound, List.Subset.trans hfirst.kept hrest.kept, ?done, ?smaller,
    steps' + steps, ?cost, ?runs⟩
  case done =>
    exact List.cons_subset.2 ⟨hrest.kept (hfirst.done (List.mem_singleton_self h)), hrest.done⟩
  case smaller =>
    intro x hx
    rcases hrest.smaller x hx with hx | hx
    · exact hfirst.smaller x hx
    · exact .inr hx
  case cost =>
    rw [List.length_singleton] at hsteps
    rw [List.length_cons]
    omega
  case runs =>
    intro budget stack
    rw [← Nat.add_assoc]
    exact (hruns _ _).trans (hruns' _ _)

/-- A handle that has a text is passed over. -/
theorem skip (hs : before.Sound s) (hh : h ∈ before.handles) :
    s.Renders listed bound [h] before before where
  sound := hs
  kept := List.Subset.refl _
  done := List.cons_subset.2 ⟨hh, List.nil_subset _⟩
  smaller _ hx := .inl hx
  runs := ⟨1, by simp, fun budget stack => renderFrom_skip hh budget false stack⟩

/-- After its parts a pattern is rendered itself. -/
theorem whole (hparts : s.Renders listed (sizeOf t) top before after)
    (hr : Reads s.node? h t) (ht : sizeOf t < bound)
    (hruns : ∃ steps,
      steps + 3 * unmet listed (h :: after.handles) ≤ 1 + 3 * unmet listed before.handles ∧
      ∀ budget stack, s.renderFrom (budget + steps) before ((h, false) :: stack) =
        s.renderFrom budget ((h, t.describe) :: after) stack) :
    s.Renders listed bound [h] before ((h, t.describe) :: after) where
  sound := hparts.sound.cons hr
  kept := List.subset_cons_of_subset _ hparts.kept
  done := List.cons_subset.2 ⟨List.mem_cons_self, List.nil_subset _⟩
  smaller x hx := by
    rcases List.mem_cons.1 hx with rfl | hx
    · exact .inr ⟨t, hr, ht⟩
    · refine (hparts.smaller x hx).imp_right ?_
      rintro ⟨t', hr', hlt⟩
      exact ⟨t', hr', hlt.trans ht⟩
  runs := hruns

/-- A handle gets no text before its parts, which have smaller trees. -/
theorem not_mem (hparts : s.Renders listed (sizeOf t) top before after) (hr : Reads s.node? h t)
    (hh : h ∉ before.handles) : h ∉ after.handles := by
  intro hmem
  rcases hparts.smaller h hmem with hmem | ⟨t', hr', hlt⟩
  · exact hh hmem
  · rw [hr'.unique hr] at hlt
    exact lt_irrefl _ hlt

theorem subset_of_missing (hparts : s.Renders listed bound (n.missing before) before after) :
    n.parts ⊆ after.handles := by
  intro c hc
  by_cases hmem : c ∈ before.handles
  · exact hparts.kept hmem
  · apply hparts.done
    rw [Rendered.mem_handles, Option.not_isSome_iff_eq_none] at hmem
    exact Node.mem_missing.2 ⟨hc, by rw [hmem]; rfl⟩

theorem childless (hs : before.Sound s) (hlisted : h ∈ listed) (hh : h ∉ before.handles)
    (hr : Reads s.node? h t) (ht : sizeOf t < bound) (hn : s.node? h = some n)
    (hnone : n.parts = []) : s.Renders listed bound [h] before ((h, t.describe) :: before) := by
  have hunmet := unmet_cons hlisted hh
  have hparts : n.parts ⊆ before.handles := hnone ▸ List.nil_subset _
  exact (nil hs).whole hr ht
    ⟨1, by omega, renderFrom_render hs hh hr hn hparts (.inl hnone)⟩

theorem compound (hlisted : h ∈ listed) (hh : h ∉ before.handles) (hr : Reads s.node? h t)
    (ht : sizeOf t < bound) (hn : s.node? h = some n) (hsome : n.parts ≠ [])
    (hparts : s.Renders listed (sizeOf t) (n.missing before) before after) :
    s.Renders listed bound [h] before ((h, t.describe) :: after) := by
  have hh' := hparts.not_mem hr hh
  have hunmet := unmet_cons hlisted hh'
  have hlength := n.length_missing_le before
  obtain ⟨steps, hsteps, hruns⟩ := hparts.runs
  refine hparts.whole hr ht ⟨1 + steps + 1, by omega, fun budget stack => ?_⟩
  calc s.renderFrom (budget + (1 + steps + 1)) before ((h, false) :: stack)
      = s.renderFrom (budget + (1 + steps)) before
          ((n.missing before).map (·, false) ++ (h, true) :: stack) :=
        renderFrom_expand hh hn hsome _ stack
    _ = s.renderFrom (budget + 1) after ((h, true) :: stack) := by
        rw [← Nat.add_assoc]
        exact hruns _ _
    _ = s.renderFrom budget ((h, t.describe) :: after) stack :=
        renderFrom_render hparts.sound hh' hr hn hparts.subset_of_missing (.inr rfl) budget stack

theorem exists_whole (hs : before.Sound s) (hlisted : h ∈ listed) (hr : Reads s.node? h t)
    (ht : sizeOf t < bound)
    (hparts : ∀ n, s.node? h = some n →
      ∃ after, s.Renders listed (sizeOf t) (n.missing before) before after) :
    ∃ after, s.Renders listed bound [h] before after := by
  by_cases hh : h ∈ before.handles
  · exact ⟨before, skip hs hh⟩
  · obtain ⟨n, hn⟩ := hr.exists_node
    by_cases hnone : n.parts = []
    · exact ⟨_, childless hs hlisted hh hr ht hn hnone⟩
    · obtain ⟨after, hafter⟩ := hparts n hn
      exact ⟨_, compound hlisted hh hr ht hn hnone hafter⟩

end Renders

/-- Everything on the stack is rendered that has a tree below it. The induction is on a bound for
the trees: the parts of a pattern have smaller ones. -/
theorem exists_renders (hoffspring : s.offspring ⊆ listed) (hs : before.Sound s)
    (htop : ∀ x ∈ top, x ∈ listed ∧ ∃ t, Reads s.node? x t ∧ sizeOf t < bound) :
    ∃ after, s.Renders listed bound top before after := by
  induction bound using Nat.strong_induction_on generalizing top before with
  | _ bound ih =>
    induction top generalizing before with
    | nil => exact ⟨before, .nil hs⟩
    | cons h top ihTop =>
      obtain ⟨⟨hlisted, t, hr, ht⟩, htop⟩ := List.forall_mem_cons.1 htop
      have hparts : ∀ n, s.node? h = some n →
          ∃ after, s.Renders listed (sizeOf t) (n.missing before) before after := by
        intro n hn
        apply ih (sizeOf t) ht hs
        intro c hc
        have hpart := (Node.mem_missing.1 hc).1
        exact ⟨hoffspring (mem_offspring hn (parts_subset n hpart)), hr.part hn hpart⟩
      obtain ⟨between, hfirst⟩ := Renders.exists_whole hs hlisted hr ht hparts
      obtain ⟨after, hrest⟩ := ihTop hfirst.sound htop
      exact ⟨after, hfirst.cons hrest⟩

theorem describe_of_reads (hr : Reads s.node? h t) : s.describe h = .ok t.describe := by
  have htop : ∀ x ∈ [h], x ∈ h :: s.offspring ∧ ∃ t', Reads s.node? x t' ∧
      sizeOf t' < sizeOf t + 1 :=
    List.forall_mem_singleton.2 ⟨List.mem_cons_self, t, hr, Nat.lt_succ_self _⟩
  obtain ⟨after, hafter⟩ : ∃ after, s.Renders (h :: s.offspring) (sizeOf t + 1) [h] [] after :=
    exists_renders (List.subset_cons_self _ _) nofun htop
  obtain ⟨steps, hsteps, hruns⟩ := hafter.runs
  have hcount := unmet_le (h :: s.offspring) []
  have hbudget : 3 * s.edges + 5 = 3 * s.edges + 5 - steps + steps := by
    rw [List.length_cons, length_offspring] at hcount
    rw [List.length_singleton] at hsteps
    change _ ≤ 1 + 3 * unmet (h :: s.offspring) [] at hsteps
    omega
  have hdone : s.renderFrom (3 * s.edges + 5) [] [(h, false)] = .ok after := by
    rw [hbudget]
    refine (hruns _ []).trans ?_
    cases 3 * s.edges + 5 - steps <;> rfl
  have htext := hafter.sound.lookup (hafter.done (List.mem_singleton_self h)) hr
  rw [describe, hdone]
  simp only [bind, Except.bind, htext]
  rfl

end Schema

/-- Where no way down through parts leads back, there is one tree below each handle, and the
description is the recursive one of this tree. The schemas of assembled grammars are such. -/
theorem describe_reads :
    (∀ s : Schema, s.Closed → s.Layered → ∀ h, s.Addresses h →
      ∃ t, Reads s.node? h t ∧ s.describe h = .ok t.describe) ∧
    ∀ (a : Assembled) s, a.resolve = .ok s → s.Closed ∧ s.Layered := by
  refine ⟨fun s hs hl h hh => ?_, fun a s ha => ?_⟩
  · obtain ⟨t, hr⟩ := hl.exists_reads hs hh
    exact ⟨t, hr, Schema.describe_of_reads hr⟩
  · exact ⟨Schema.closed_of_resolve ha, Schema.layered_of_resolve ha⟩

namespace Sharing

/-- `3` is the choice of two groups, which are both `2`, and `4` is an element with this choice. -/
def shared : Schema where
  start := 5
  nodes := #[.leaf .empty, .leaf .text, .binary .group 0 1, .binary .choice 2 2,
    .named .element (.anyName none) 3, .ref "a" 4]

theorem layered : shared.Layered := by
  have group : Reads shared.node? 2 (.binary .group (.leaf .empty) (.leaf .text)) :=
    .binary rfl (.leaf rfl) (.leaf rfl)
  apply Schema.layered_of_reads
  intro i hi
  match i with
  | 0 => exact ⟨_, .leaf rfl⟩
  | 1 => exact ⟨_, .leaf rfl⟩
  | 2 => exact ⟨_, group⟩
  | 3 => exact ⟨_, .binary rfl group group⟩
  | 4 => exact ⟨_, .named rfl (.binary rfl group group)⟩
  | 5 => exact ⟨_, .ref rfl⟩

theorem describe_reads_shared :
    (shared.Closed ∧ shared.Layered ∧ shared.Addresses 4 ∧
      ∃ t, Reads shared.node? 4 t ∧ shared.describe 4 = .ok t.describe ∧
        t.describe = Text.ofString "Element(*, Choice(Group(Empty, Text), Group(Empty, Text)))") ∧
    ∃ schema, Nesting.assembled.resolve = .ok schema ∧ schema.Closed ∧ schema.Layered := by
  have hclosed : shared.Closed := by decide
  have hplace : shared.Addresses 4 := by decide
  obtain ⟨t, hr, hdescribe⟩ := describe_reads.1 shared hclosed layered 4 hplace
  have htext : shared.describe 4 =
      .ok (Text.ofString "Element(*, Choice(Group(Empty, Text), Group(Empty, Text)))") := by rfl
  obtain ⟨schema, hschema, -⟩ := Nesting.exists_schema
  exact ⟨⟨hclosed, layered, hplace, t, hr, hdescribe, Except.ok.inj (hdescribe.symm.trans htext)⟩,
    schema, hschema, describe_reads.2 _ schema hschema⟩

end Sharing

end RelaxCompact
