import RelaxCompact.Proofs.Resolution.Forest

/-!
Handles of a schema: which of them stand for a place in the arena, how they lead to one another,
and how many can be met on the way. The schema of an assembled grammar has no way around that avoids
elements and attributes, and none at all that enters no reference.
-/

namespace RelaxCompact

/-- How many of the listed handles have not been met, each as often as it is listed. -/
def unmet (listed met : List Handle) : Nat := (listed.filter (· ∉ met)).length

theorem unmet_le (listed met : List Handle) : unmet listed met ≤ listed.length :=
  List.length_filter_le _ _

theorem unmet_append {listed fresh met : List Handle} (hfresh : fresh.Nodup)
    (hlisted : fresh ⊆ listed) (hnew : ∀ h ∈ fresh, h ∉ met) :
    unmet listed (fresh ++ met) + fresh.length ≤ unmet listed met := by
  have hrest : listed.filter (· ∉ fresh ++ met) =
      (listed.filter (· ∉ met)).filter fun h => !decide (h ∈ fresh) := by
    rw [List.filter_filter]
    apply List.filter_congr
    intro h _
    simp [not_or]
  have htaken : fresh.length ≤ ((listed.filter (· ∉ met)).filter (· ∈ fresh)).length := by
    apply (List.subperm_of_subset hfresh _).length_le
    intro h hh
    simp [hh, hlisted hh, hnew h hh]
  have hsplit := List.length_eq_length_filter_add (l := listed.filter (· ∉ met)) (· ∈ fresh)
  rw [unmet, unmet, hrest]
  omega

theorem unmet_cons {listed met : List Handle} {h : Handle} (hlisted : h ∈ listed) (hnew : h ∉ met) :
    unmet listed (h :: met) + 1 ≤ unmet listed met := by
  apply unmet_append (List.nodup_singleton h)
  · exact List.cons_subset.2 ⟨hlisted, List.nil_subset _⟩
  · exact List.forall_mem_singleton.2 hnew

namespace Schema

variable {s : Schema} {h c : Handle} {n : Node}

/-- A handle stands for a place in the arena, counted from the start or, if negative, from the
end. -/
def Addresses (s : Schema) (h : Handle) : Prop := -(s.nodes.size : Int) ≤ h ∧ h < s.nodes.size

instance (s : Schema) (h : Handle) : Decidable (s.Addresses h) :=
  inferInstanceAs (Decidable (_ ∧ _))

/-- All children stand for places. -/
def Closed (s : Schema) : Prop := ∀ n ∈ s.nodes, ∀ c ∈ n.children, s.Addresses c

instance (s : Schema) : Decidable s.Closed :=
  inferInstanceAs (Decidable (∀ n ∈ s.nodes, ∀ c ∈ n.children, s.Addresses c))

/-- `c` is a child of `h`. -/
def Child (s : Schema) (h c : Handle) : Prop := ∃ n, s.node? h = some n ∧ c ∈ n.children

/-- `c` is a child of `h` that no reference leads to. -/
def Part (s : Schema) (h c : Handle) : Prop := ∃ n, s.node? h = some n ∧ c ∈ n.parts

/-- `h` is a reference to `t`. -/
def Refers (s : Schema) (h t : Handle) : Prop := ∃ n, s.node? h = some n ∧ n.target? = some t

/-- The children of all nodes. -/
def offspring (s : Schema) : List Handle := s.nodes.toList.flatMap Node.children

theorem length_offspring (s : Schema) : s.offspring.length = s.edges := rfl

theorem node_eq_ok : s.node h = .ok n ↔ s.node? h = some n := by
  unfold node?
  cases s.node h with
  | ok m => simp [Except.toOption]
  | error e => simp [Except.toOption]

theorem children_of_node? (hn : s.node? h = some n) : s.children h = .ok n.children := by
  rw [children, node_eq_ok.2 hn]
  rfl

theorem mem_of_node? (hn : s.node? h = some n) : n ∈ s.nodes := by
  obtain ⟨i, hi, -⟩ := exists_getElem?_of_node? hn
  exact Array.mem_of_getElem? hi

theorem mem_offspring (hn : s.node? h = some n) (hc : c ∈ n.children) : c ∈ s.offspring :=
  List.mem_flatMap.2 ⟨n, Array.mem_toList_iff.2 (mem_of_node? hn), hc⟩

theorem Closed.child (hs : s.Closed) (hn : s.node? h = some n) (hc : c ∈ n.children) :
    s.Addresses c :=
  hs n (mem_of_node? hn) c hc

/-- What stands for a place has a node. -/
theorem Addresses.exists_node (hh : s.Addresses h) : ∃ n, s.node? h = some n := by
  obtain ⟨hlow, hhigh⟩ := hh
  obtain ⟨i, hindex, hi⟩ : ∃ i, s.index? h = some i ∧ i < s.nodes.size := by
    by_cases hpos : 0 ≤ h
    · exact ⟨h.toNat, by rw [index?, if_pos ⟨hpos, hhigh⟩], by lia⟩
    · refine ⟨(h + s.nodes.size).toNat, ?_, by lia⟩
      rw [index?, if_neg fun hp => hpos hp.1, if_pos ⟨by lia, hlow⟩]
  refine ⟨s.nodes[i], node_eq_ok.1 ?_⟩
  rw [node, hindex, Option.bind_some, Array.getElem?_eq_getElem hi]

/-- A handle that is not negative counts from the start. -/
theorem getElem?_of_node? (hh : 0 ≤ h) (hn : s.node? h = some n) : s.nodes[h.toNat]? = some n := by
  have hok := node_eq_ok.2 hn
  unfold node at hok
  cases hbind : (s.index? h).bind (s.nodes[·]?) with
  | none =>
    rw [hbind] at hok
    cases hok
  | some m =>
    rw [hbind] at hok
    cases hok
    obtain ⟨i, hindex, hi⟩ := Option.bind_eq_some_iff.1 hbind
    unfold index? at hindex
    split at hindex
    next =>
      cases hindex
      exact hi
    next =>
      rw [if_neg (by lia)] at hindex
      cases hindex

theorem parts_subset (n : Node) : n.parts ⊆ n.children := by
  intro c hc
  unfold Node.parts at hc
  split at hc
  · cases hc
  · exact hc

theorem mem_children_of_target? {n : Node} {t : Handle} (ht : n.target? = some t) :
    t ∈ n.children := by
  cases n <;> cases ht <;> exact List.mem_singleton_self t

end Schema

/-! Schemas of assembled grammars -/

namespace Resolve

variable {a : Assembled} {s : Schema}

/-- A resolved schema is a finished arena in which all ways from slot to slot end. -/
theorem exists_finished (h : a.resolve = .ok s) :
    ∃ arena, Finished a arena ∧ arena.Owned [] ∧ arena.nodes = s.nodes.map some ∧
      ∀ i ∈ (Finished.graph s.nodes arena).slots, (Finished.graph s.nodes arena).Ends i := by
  obtain ⟨start, arena, hw, hn, -, -, hcycle⟩ := resolve_ok h
  obtain ⟨hf, -⟩ := (writeAll_ends a).ok hw
  obtain ⟨hreports, hends⟩ := SlotGraph.findCycle?_reports (hf.proper hn)
  refine ⟨arena, hf, (writeAll_owned a).ok hw, hn, hends ?_⟩
  cases hfind : (Finished.graph s.nodes arena).findCycle? with
  | none => rfl
  | some cycle =>
    obtain ⟨_, _, -, herror⟩ := hf.cycleError_eq hn (hreports cycle hfind)
    change (Finished.graph s.nodes arena).findCycle?.bind _ = none at hcycle
    rw [hfind, Option.bind_some, herror] at hcycle
    cases hcycle

end Resolve

namespace Schema

variable {a : Assembled} {s : Schema} {h : Handle} {n : Node}

theorem child_inside (ha : a.resolve = .ok s) (hn : n ∈ s.nodes) {c : Handle}
    (hc : c ∈ n.children) : 0 ≤ c ∧ c < s.nodes.size := by
  obtain ⟨arena, hf, howned, hnodes, -⟩ := Resolve.exists_finished ha
  exact hf.child_inside hnodes howned hn hc

theorem closed_of_resolve (ha : a.resolve = .ok s) : s.Closed := by
  intro n hn c hc
  obtain ⟨hlow, hhigh⟩ := child_inside ha hn hc
  exact ⟨by lia, hhigh⟩

theorem exists_reads_of_resolve (ha : a.resolve = .ok s) {i : Nat} (hi : i < s.nodes.size) :
    ∃ t, Reads s.node? i t := by
  obtain ⟨arena, hf, -, hnodes, -⟩ := Resolve.exists_finished ha
  exact hf.exists_reads hnodes (Array.getElem?_eq_getElem hi)

/-- Every way down through children other than element and attribute content ends. -/
theorem acc_of_resolve (ha : a.resolve = .ok s) (hn : s.node? h = some n) : Acc s.Below h := by
  obtain ⟨arena, hf, -, hnodes, hends⟩ := Resolve.exists_finished ha
  exact hf.acc_node hnodes hends hn

end Schema

theorem Nesting.exists_schema :
    ∃ schema, assembled.resolve = .ok schema ∧ schema.nodes.size = 10 := by
  have hsize : assembled.resolve.toOption.map (·.nodes.size) = some 10 := by cbv
  exact Run.exists_ok_of_map hsize

end RelaxCompact
