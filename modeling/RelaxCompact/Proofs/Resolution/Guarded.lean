import RelaxCompact.Proofs.Resolution.Cycle
import RelaxCompact.Proofs.Resolution.Resolved

/-!
A schema is refused exactly if definitions refer to one another around a cycle that no element or
attribute breaks. In a schema that is not refused every way down ends or enters one.
-/

/-! The references that a body makes outside elements and attributes are those that the walk through
its nodes collects. -/

namespace RelaxCompact

namespace Node

/-- What a reference leads to. -/
def target? : Node → Option Handle
  | ref _ target | parentRef _ target => some target
  | _ => none

/-- The parts that are no element or attribute content. -/
def inner : Node → List Handle
  | ref _ _ | parentRef _ _ | named _ _ _ => []
  | n => n.children

theorem length_inner_le (n : Node) : n.inner.length ≤ n.children.length := by
  cases n <;> simp [inner, children]

end Node

/-- A way from a handle to the target of a reference, through no element or attribute and none of
the handles in `avoid`. -/
inductive Leads (nodes : Array Node) (avoid : List Nat) : Nat → Nat → Prop
  | target {h n x} : h ∉ avoid → nodes[h]? = some n → n.target? = some x →
    Leads nodes avoid h x.toNat
  | inner {h n c x} : h ∉ avoid → nodes[h]? = some n → c ∈ n.inner →
    Leads nodes avoid c.toNat x → Leads nodes avoid h x

namespace Leads

variable {nodes : Array Node} {avoid : List Nat} {h x : Nat}

theorem not_mem (hl : Leads nodes avoid h x) : h ∉ avoid := by
  cases hl with
  | target ha => exact ha
  | inner ha => exact ha

/-- A way either avoids a handle too, or has a rest from there on that does. -/
theorem split (hl : Leads nodes avoid h x) (i : Nat) :
    Leads nodes (i :: avoid) h x ∨ ∃ n, nodes[i]? = some n ∧
      ((∃ y, n.target? = some y ∧ y.toNat = x) ∨
        ∃ c ∈ n.inner, Leads nodes (i :: avoid) c.toNat x) := by
  induction hl with
  | @target h n y ha hn hy =>
    by_cases he : h = i
    · subst i
      exact .inr ⟨n, hn, .inl ⟨y, hy, rfl⟩⟩
    · exact .inl (.target (List.not_mem_cons_of_ne_of_not_mem he ha) hn hy)
  | @inner h n c x ha hn hc _ ih =>
    rcases ih with ih | ih
    · by_cases he : h = i
      · subst i
        exact .inr ⟨n, hn, .inr ⟨c, hc, ih⟩⟩
      · exact .inl (.inner (List.not_mem_cons_of_ne_of_not_mem he ha) hn hc ih)
    · exact .inr ih

theorem iff_of_getElem? {n : Node} (hn : nodes[h]? = some n) :
    Leads nodes [] h x ↔
      (∃ y, n.target? = some y ∧ y.toNat = x) ∨ ∃ c ∈ n.inner, Leads nodes [] c.toNat x := by
  constructor
  · intro hl
    cases hl with
    | target _ hn' hy =>
      cases hn.symm.trans hn'
      exact .inl ⟨_, hy, rfl⟩
    | inner _ hn' hc hl =>
      cases hn.symm.trans hn'
      exact .inr ⟨_, hc, hl⟩
  · rintro (⟨y, hy, rfl⟩ | ⟨c, hc, hl⟩)
    · exact .target List.not_mem_nil hn hy
    · exact .inner List.not_mem_nil hn hc hl

end Leads

namespace SlotGraph

variable {nodes : Array Node}

theorem unguarded_cons (nodes : Array Node) (budget : Nat) (seen : List Nat) (h : Nat)
    (stack : List Nat) :
    unguarded nodes (budget + 1) seen (h :: stack) =
      if h ∈ seen then unguarded nodes budget seen stack
      else match nodes[h]? with
        | none => unguarded nodes budget (h :: seen) stack
        | some n => (n.target?.map Int.toNat).toList ++
            unguarded nodes budget (h :: seen) ((n.inner.map Int.toNat).reverse ++ stack) := by
  rw [unguarded]
  split
  next => rfl
  next =>
    cases nodes[h]? with
    | none => rfl
    | some n => cases n <;> rfl

/-- Whatever is collected is led to. -/
theorem leads_of_mem_unguarded {budget : Nat} {seen stack : List Nat} {x : Nat}
    (hx : x ∈ unguarded nodes budget seen stack) : ∃ h ∈ stack, Leads nodes [] h x := by
  induction budget generalizing seen stack with
  | zero => simp [unguarded] at hx
  | succ budget ih =>
    cases stack with
    | nil => simp [unguarded] at hx
    | cons h stack =>
      have hrest {l : List Nat} (hl : ∃ i ∈ l, Leads nodes [] i x)
          (hsub : ∀ i ∈ l, Leads nodes [] i x → Leads nodes [] h x ∨ i ∈ stack) :
          ∃ i ∈ h :: stack, Leads nodes [] i x := by
        obtain ⟨i, hi, hl⟩ := hl
        rcases hsub i hi hl with hl | hi
        · exact ⟨h, List.mem_cons_self, hl⟩
        · exact ⟨i, List.mem_cons_of_mem _ hi, hl⟩
      rw [unguarded_cons] at hx
      split at hx
      next => exact hrest (ih hx) fun i hi _ => .inr hi
      next =>
        cases hn : nodes[h]? with
        | none =>
          rw [hn] at hx
          exact hrest (ih hx) fun i hi _ => .inr hi
        | some n =>
          rw [hn] at hx
          rcases List.mem_append.1 hx with hx | hx
          · obtain ⟨y, hy, hyx⟩ := Option.map_eq_some_iff.1 (Option.mem_toList.1 hx)
            exact ⟨h, List.mem_cons_self, (Leads.iff_of_getElem? hn).2 (.inl ⟨y, hy, hyx⟩)⟩
          · apply hrest (ih hx)
            intro i hi hl
            rcases List.mem_append.1 hi with hi | hi
            · obtain ⟨c, hc, rfl⟩ := List.mem_map.1 (List.mem_reverse.1 hi)
              exact .inl ((Leads.iff_of_getElem? hn).2 (.inr ⟨c, hc, hl⟩))
            · exact .inr hi

/-- How many handles a handle brings onto the stack, at most. -/
def branching (nodes : Array Node) (h : Nat) : Nat :=
  (nodes[h]?.map fun n => n.children.length).getD 0

/-- Whatever is led to is collected, as long as the budget is that of all handles not seen. -/
theorem mem_unguarded_of_leads {budget : Nat} {seen stack : List Nat}
    (hbudget : stack.length + unseenWeight (branching nodes) (List.range nodes.size) seen ≤ budget)
    {h x : Nat} (hmem : h ∈ stack) (hl : Leads nodes seen h x) :
    x ∈ unguarded nodes budget seen stack := by
  induction budget generalizing seen stack h with
  | zero =>
    cases stack with
    | nil => cases hmem
    | cons i stack => simp at hbudget
  | succ budget ih =>
    cases stack with
    | nil => cases hmem
    | cons i stack =>
      rw [List.length_cons] at hbudget
      rw [unguarded_cons]
      split
      next hi =>
        refine ih (by omega) (List.mem_of_ne_of_mem ?_ hmem) hl
        rintro rfl
        exact hl.not_mem hi
      next hi =>
        have hle := unseenWeight_cons_le (branching nodes) (List.range nodes.size) seen i
        have hstack (hl' : Leads nodes (i :: seen) h x) : h ∈ stack :=
          List.mem_of_ne_of_mem (fun he => hl'.not_mem (he ▸ List.mem_cons_self)) hmem
        cases hn : nodes[i]? with
        | none =>
          rcases hl.split i with hl | ⟨n, hn', -⟩
          · exact ih (by omega) (hstack hl) hl
          · cases hn.symm.trans hn'
        | some n =>
          have hrange : i ∈ List.range nodes.size :=
            List.mem_range.2 (Array.getElem?_eq_some_iff.1 hn).1
          have hweight := unseenWeight_cons (branching nodes) List.nodup_range hrange hi
          have hbranching : branching nodes i = n.children.length := by rw [branching, hn]; rfl
          have hinner := n.length_inner_le
          have hbudget' : ((n.inner.map Int.toNat).reverse ++ stack).length +
              unseenWeight (branching nodes) (List.range nodes.size) (i :: seen) ≤ budget := by
            rw [List.length_append, List.length_reverse, List.length_map]
            omega
          rcases hl.split i with hl | ⟨n', hn', hl⟩
          · exact List.mem_append_right _
              (ih hbudget' (List.mem_append_right _ (hstack hl)) hl)
          · cases hn.symm.trans hn'
            rcases hl with ⟨y, hy, rfl⟩ | ⟨c, hc, hl⟩
            · apply List.mem_append_left _
              rw [hy]
              exact List.mem_singleton_self _
            · refine List.mem_append_right _ (ih hbudget' (List.mem_append_left _ ?_) hl)
              exact List.mem_reverse.2 (List.mem_map.2 ⟨c, hc, rfl⟩)

theorem sum_branching (nodes : Array Node) :
    ((List.range nodes.size).map (branching nodes)).sum =
      (nodes.toList.flatMap Node.children).length := by
  have hmap : (List.range nodes.size).map (branching nodes) =
      nodes.toList.map fun n => n.children.length := by
    refine List.ext_getElem (by simp) fun i hi hi' => ?_
    have hlt : i < nodes.size := by simpa using hi
    rw [List.getElem_map, List.getElem_map, List.getElem_range, branching,
      Array.getElem?_eq_getElem hlt, Array.getElem_toList]
    rfl
  rw [hmap, List.length_flatMap]

/-- From a slot just what is led to is collected. -/
theorem mem_unguarded_iff (nodes : Array Node) (slot x : Nat) :
    x ∈ unguarded nodes ((nodes.toList.flatMap Node.children).length + 1) [] [slot] ↔
      Leads nodes [] slot x := by
  constructor
  · intro hx
    obtain ⟨h, hh, hl⟩ := leads_of_mem_unguarded hx
    cases List.mem_singleton.1 hh
    exact hl
  · refine mem_unguarded_of_leads ?_ (List.mem_singleton_self _)
    rw [unseenWeight_nil, sum_branching, List.length_singleton, Nat.add_comm]

end SlotGraph

/-- What a handle leads to are the targets in its tree outside elements and attributes. -/
theorem Reads.leads_iff {arena : Arena} {nodes : Array Node} (hnodes : arena.nodes = nodes.map some)
    {h : Handle} {t : Tree} (hr : Reads arena.node? h t) (x : Nat) :
    Leads nodes [] h.toNat x ↔ ∃ y ∈ t.targets false, y.toNat = x := by
  have hget {h : Handle} {n : Node} (hn : arena.node? h = some n) : nodes[h.toNat]? = some n := by
    obtain ⟨i, rfl, hi⟩ := Arena.node?_eq_some.1 hn
    rw [hnodes, Array.getElem?_map, Option.map_eq_some_iff] at hi
    obtain ⟨m, hm, he⟩ := hi
    cases he
    exact hm
  induction hr with
  | binary hn _ _ ihLeft ihRight =>
    rw [Leads.iff_of_getElem? (hget hn)]
    simp only [Node.target?, Node.inner, Node.children, List.mem_cons, List.not_mem_nil, or_false,
      reduceCtorEq, false_and, exists_false, false_or, exists_eq_left, ihLeft, ihRight,
      Tree.targets, List.mem_append, or_and_right, exists_or]
  | unary hn _ ih | dataExcept hn _ ih =>
    rw [Leads.iff_of_getElem? (hget hn)]
    simp only [Node.target?, Node.inner, Node.children, List.mem_cons, List.not_mem_nil, or_false,
      reduceCtorEq, false_and, exists_false, false_or, exists_eq_left, ih, Tree.targets,
      Option.toList_some]
  | leaf hn | named hn | data hn | value hn =>
    rw [Leads.iff_of_getElem? (hget hn)]
    simp [Node.target?, Node.inner, Node.children, Tree.targets]
  | ref hn | parentRef hn =>
    rw [Leads.iff_of_getElem? (hget hn)]
    simp [Node.target?, Node.inner, Tree.targets]

end RelaxCompact

/-! Cycles -/

namespace RelaxCompact

open Run Arena

namespace Assembled

/-- The body of a definition refers to another outside elements and attributes. -/
def Refers (a : Assembled) (k k' : DefinitionKey) : Prop :=
  ∃ r, a.Contains false k r ∧ r.key? a k.grammar = some k'

/-- A chain of definitions each of which refers to the next, with the first again at the end. -/
structure IsCycle (a : Assembled) (cycle : List DefinitionKey) : Prop where
  belongs : ∀ k ∈ cycle, a.Belongs k
  chain : cycle.IsChain a.Refers
  closed : cycle.head? = cycle.getLast?
  nontrivial : 2 ≤ cycle.length

end Assembled

/-- No endless way down avoids elements and attributes. -/
def Schema.Guarded (s : Schema) : Prop :=
  ∀ way : Nat → Handle,
    (∀ n, ∃ node, s.node (way n) = .ok node ∧ way (n + 1) ∈ node.children) →
    ∃ n holder name content, s.node (way n) = .ok (.named holder name content)

namespace Resolve.Finished

variable {a : Assembled} {s : Arena} {nodes : Array Node}

/-- The graph of a finished arena. -/
def graph (nodes : Array Node) (s : Arena) : SlotGraph :=
  .ofNodes nodes (s.slots.map Prod.snd)

theorem slots_graph (nodes : Array Node) (s : Arena) :
    (graph nodes s).slots = s.slots.map Prod.snd := by
  rw [SlotGraph.slots, graph, SlotGraph.ofNodes, List.map_map]
  exact List.map_id _

theorem slot?_of_mem (hf : Finished a s) {k : DefinitionKey} {i : Nat} (h : (k, i) ∈ s.slots) :
    s.slot? k = some ↑i := by
  rw [slot?, Table.lookup_of_mem hf.ready.keys h]
  rfl

/-- The edges from a slot are the targets in the body that it holds. -/
theorem edge_iff_target (hf : Finished a s) (hn : s.nodes = nodes.map some) {k : DefinitionKey}
    {i : Nat} (hk : (k, i) ∈ s.slots) {d : Definition} {tree : Tree}
    (hholds : s.Holds a k i d tree) (j : Nat) :
    (graph nodes s).Edge i j ↔ ∃ y ∈ tree.targets false, y.toNat = j := by
  have hnodup : (graph nodes s).slots.Nodup := by
    rw [slots_graph]
    exact hf.ready.handles
  have hmem : (i, SlotGraph.unguarded nodes ((nodes.toList.flatMap Node.children).length + 1)
      [] [i]) ∈ graph nodes s :=
    List.mem_map.2 ⟨i, List.mem_map.2 ⟨_, hk, rfl⟩, rfl⟩
  rw [SlotGraph.Edge, SlotGraph.successors_of_mem hnodup hmem, SlotGraph.mem_unguarded_iff,
    ← Int.toNat_natCast i, hholds.shows.reads.leads_iff hn]

/-- Edges of the graph are references between definitions. -/
theorem edge_iff (hf : Finished a s) (hn : s.nodes = nodes.map some) {k : DefinitionKey} {i : Nat}
    (hk : (k, i) ∈ s.slots) (j : Nat) :
    (graph nodes s).Edge i j ↔ ∃ k', a.Refers k k' ∧ (k', j) ∈ s.slots := by
  obtain ⟨d, tree, hholds⟩ := hf.holds _ hk
  have htargets := hholds.bound.targets false
  rw [hf.edge_iff_target hn hk hholds]
  constructor
  · rintro ⟨y, hy, rfl⟩
    obtain ⟨r, hr, k', hkey, hslot⟩ := exists_of_forall₂ htargets.flip hy
    obtain ⟨j, rfl, hj⟩ := mem_slots hslot
    obtain ⟨site, hs, hr⟩ := List.mem_flatMap.1 hr
    exact ⟨k', ⟨r, ⟨d, hholds.definition, site, hs, hr⟩, hkey⟩, hj⟩
  · rintro ⟨k', ⟨r, ⟨d', hd', site, hs, hr⟩, hkey⟩, hj⟩
    cases hholds.definition.symm.trans hd'
    obtain ⟨y, hy, k'', hkey', hslot⟩ :=
      exists_of_forall₂ htargets (List.mem_flatMap.2 ⟨site, hs, hr⟩)
    cases hkey.symm.trans hkey'
    rw [hf.slot?_of_mem hj] at hslot
    cases hslot
    exact ⟨j, hy, rfl⟩

theorem proper (hf : Finished a s) (hn : s.nodes = nodes.map some) : (graph nodes s).Proper where
  nodup := by
    rw [slots_graph]
    exact hf.ready.handles
  targets v w h := by
    have hv := h.source
    rw [slots_graph] at hv ⊢
    obtain ⟨p, hp, rfl⟩ := List.mem_map.1 hv
    obtain ⟨k', -, hw⟩ := (hf.edge_iff hn hp w).1 h
    exact List.mem_map.2 ⟨_, hw, rfl⟩

/-- The definition of a slot. -/
def keyOf (s : Arena) (slot : Nat) : Option DefinitionKey :=
  (s.slots.find? (·.2 = slot)).map Prod.fst

theorem keyOf_eq (hf : Finished a s) {k : DefinitionKey} {i : Nat} (h : (k, i) ∈ s.slots) :
    keyOf s i = some k := by
  unfold keyOf
  cases hp : s.slots.find? (·.2 = i) with
  | none =>
    have hnone := List.find?_eq_none.1 hp _ h
    simp at hnone
  | some p =>
    have hi : p.2 = i := by simpa using List.find?_some hp
    have heq : p = (k, i) :=
      List.inj_on_of_nodup_map hf.ready.handles (List.mem_of_find?_eq_some hp) h hi
    rw [heq]
    rfl

/-- A cycle of slots is a cycle of definitions, and is reported with their names. -/
theorem cycleError_eq (hf : Finished a s) (hn : s.nodes = nodes.map some) {cycle : List Nat}
    (hc : (graph nodes s).IsCycle cycle) :
    ∃ ks span, a.IsCycle ks ∧ cycleError a s.slots cycle =
      some (.referenceCycle (ks.map fun k => Text.ofString k.name.display) span) := by
  let key (i : Nat) : DefinitionKey := (keyOf s i).getD ⟨0, .start⟩
  have hkey (i : Nat) (hi : i ∈ cycle) : (key i, i) ∈ s.slots ∧ keyOf s i = some (key i) := by
    have hslots := hc.subset_slots (hf.proper hn) hi
    rw [slots_graph] at hslots
    obtain ⟨⟨k, _⟩, hp, rfl⟩ := List.mem_map.1 hslots
    have hk := hf.keyOf_eq hp
    simp only [key, hk, Option.getD_some]
    exact ⟨hp, trivial⟩
  have hedge (i j : Nat) (hi : i ∈ cycle) (hj : j ∈ cycle) (h : (graph nodes s).Edge i j) :
      a.Refers (key i) (key j) := by
    obtain ⟨k', hr, hm⟩ := (hf.edge_iff hn (hkey i hi).1 j).1 h
    have hk' := hf.keyOf_eq hm
    rw [(hkey j hj).2] at hk'
    cases hk'
    exact hr
  have hcycle : a.IsCycle (cycle.map key) := by
    refine ⟨?belongs, ?chain, ?closed, ?nontrivial⟩
    case belongs =>
      intro k hk
      obtain ⟨i, hi, rfl⟩ := List.mem_map.1 hk
      exact hf.ready.belongs _ (hkey i hi).1
    case chain =>
      exact (List.isChain_map key).2 (hc.chain.imp_of_mem_imp fun i j hi hj => hedge i j hi hj)
    case closed => rw [List.head?_map, List.getLast?_map, hc.closed]
    case nontrivial =>
      rw [List.length_map]
      exact hc.nontrivial
  obtain ⟨i, hi⟩ : ∃ i, cycle.head? = some i := by
    cases cycle with
    | nil => exact absurd hc.nontrivial (by simp)
    | cons i _ => exact ⟨i, rfl⟩
  obtain ⟨hm, hki⟩ := hkey i (List.mem_of_head? hi)
  obtain ⟨d, _, hholds⟩ := hf.holds _ hm
  have hd : (grammarAt a (key i).grammar).definitions.get? (key i).name = some d :=
    hholds.definition
  have hnames : (cycle.map fun i => ((keyOf s i).map (·.name.display)).getD "") =
      (cycle.map key).map (·.name.display) := by
    rw [List.map_map]
    apply List.map_congr_left
    intro j hj
    rw [(hkey j hj).2]
    rfl
  refine ⟨cycle.map key, d.first.span, hcycle, ?_⟩
  change (cycle.head?.bind (keyOf s)).bind _ = _
  rw [hi, Option.bind_some, hki]
  change ((grammarAt a (key i).grammar).definitions.get? (key i).name).bind _ = _
  rw [hd]
  change some (SchemaError.referenceCycle
    ((cycle.map fun i => ((keyOf s i).map (·.name.display)).getD "").map Text.ofString) _) = _
  rw [hnames, List.map_map]
  rfl

/-- If definitions refer to one another around a cycle, some slot has endless ways. -/
theorem not_ends_of_isCycle (hf : Finished a s) (hn : s.nodes = nodes.map some)
    {cycle : List DefinitionKey} (hc : a.IsCycle cycle) :
    ∃ i ∈ (graph nodes s).slots, ¬ (graph nodes s).Ends i := by
  let slot (k : DefinitionKey) : Nat := (Table.lookup k s.slots).getD 0
  have hslot (k : DefinitionKey) (hk : a.Belongs k) : (k, slot k) ∈ s.slots := by
    obtain ⟨h, hs⟩ := Option.isSome_iff_exists.1 ((hf.belongs_iff k).2 hk)
    obtain ⟨i, hi, -⟩ := Option.map_eq_some_iff.1 hs
    simp only [slot, hi, Option.getD_some]
    exact Table.mem_of_lookup hi
  have hchain : (cycle.map slot).IsChain (graph nodes s).Edge := by
    refine (List.isChain_map slot).2 (hc.chain.imp_of_mem_imp fun k k' hk hk' hr => ?_)
    exact (hf.edge_iff hn (hslot k (hc.belongs k hk)) _).2 ⟨k', hr, hslot k' (hc.belongs k' hk')⟩
  obtain ⟨i, hi, htrans⟩ := transGen_of_isChain hchain
    (by rw [List.head?_map, List.getLast?_map, hc.closed])
    (by rw [List.length_map]; exact hc.nontrivial)
  obtain ⟨k, hk, rfl⟩ := List.mem_map.1 hi
  refine ⟨slot k, ?_, fun he => he.not_transGen htrans⟩
  rw [slots_graph]
  exact List.mem_map.2 ⟨_, hslot k (hc.belongs k hk), rfl⟩

end Resolve.Finished

/-! Ways down -/

namespace Schema

variable {s : Schema}

/-- A handle is a child of another that is no element or attribute. -/
def Below (s : Schema) (h' h : Handle) : Prop :=
  ∃ n, s.node? h = some n ∧ (∀ holder name content, n ≠ .named holder name content) ∧
    h' ∈ n.children

/-- All ways down end if they do from the targets in the tree. -/
theorem acc_of_reads {h : Handle} {t : Tree} (hr : Reads s.node? h t)
    (ht : ∀ x ∈ t.targets false, Acc s.Below x) : Acc s.Below h := by
  have hintro {h : Handle} {n : Node} (hn : s.node? h = some n)
      (hall : (∀ holder name content, n ≠ .named holder name content) →
        ∀ c ∈ n.children, Acc s.Below c) : Acc s.Below h := by
    refine .intro h fun c ⟨n', hn', hnot, hc⟩ => ?_
    cases hn.symm.trans hn'
    exact hall hnot c hc
  induction hr with
  | binary hn _ _ ihLeft ihRight =>
    apply hintro hn
    intro _ c hc
    rcases List.mem_pair.1 hc with rfl | rfl
    · exact ihLeft fun x hx => ht x (List.mem_append_left _ hx)
    · exact ihRight fun x hx => ht x (List.mem_append_right _ hx)
  | unary hn _ ih =>
    apply hintro hn
    intro _ c hc
    rw [List.mem_singleton.1 hc]
    exact ih ht
  | dataExcept hn _ ih =>
    apply hintro hn
    intro _ c hc
    rw [List.mem_singleton.1 hc]
    exact ih ht
  | ref hn | parentRef hn =>
    apply hintro hn
    intro _ c hc
    rw [List.mem_singleton.1 hc]
    exact ht _ (List.mem_singleton_self _)
  | leaf hn | data hn | value hn => exact hintro hn fun _ c hc => nomatch hc
  | named hn => exact hintro hn fun hnot => absurd rfl (hnot _ _ _)

/-- If all ways down end, none of them avoids elements and attributes for ever. -/
theorem guarded_of_acc (h : ∀ i n, s.node? i = some n → Acc s.Below i) : s.Guarded := by
  intro way hway
  by_contra hnone
  have hnode (n : Nat) : ∃ node, s.node? (way n) = some node ∧
      (∀ holder name content, node ≠ .named holder name content) ∧
      way (n + 1) ∈ node.children := by
    obtain ⟨node, hn, hc⟩ := hway n
    refine ⟨node, by rw [node?, hn]; rfl, ?_, hc⟩
    rintro holder name content rfl
    exact hnone ⟨n, holder, name, content, hn⟩
  obtain ⟨node, hn, -⟩ := hnode 0
  exact (acc_iff_isEmpty_descending_chain.1 (h _ node hn)).false ⟨way, rfl, hnode⟩

/-- The node at any handle is that of a place in the arena. -/
theorem exists_getElem?_of_node? {h : Handle} {n : Node} (hn : s.node? h = some n) :
    ∃ i : Nat, s.nodes[i]? = some n ∧ s.node? h = s.node? i := by
  have hbind : (s.index? h).bind (s.nodes[·]?) = some n := by
    unfold node? node at hn
    cases hb : (s.index? h).bind (s.nodes[·]?) with
    | none =>
      rw [hb] at hn
      cases hn
    | some m =>
      rw [hb] at hn
      exact hn
  obtain ⟨i, -, hi⟩ := Option.bind_eq_some_iff.1 hbind
  exact ⟨i, hi, hn.trans (node?_of_getElem? hi).symm⟩

end Schema

namespace Resolve.Finished

variable {a : Assembled} {s : Arena} {schema : Schema}

theorem acc_slot (hf : Finished a s) (hn : s.nodes = schema.nodes.map some) {i : Nat}
    (he : (graph schema.nodes s).Ends i) {k : DefinitionKey} (hk : (k, i) ∈ s.slots) :
    Acc schema.Below i := by
  induction he generalizing k with
  | intro i _ ih =>
    obtain ⟨d, tree, hholds⟩ := hf.holds _ hk
    apply Schema.acc_of_reads (hholds.shows.reads.mono (Schema.keeps hn))
    intro x hx
    obtain ⟨k', hk'⟩ := hholds.shows.closed x (tree.targets_subset hx)
    obtain ⟨j, rfl, hj⟩ := mem_slots hk'
    exact ih j ((hf.edge_iff_target hn hk hholds j).2 ⟨j, hx, rfl⟩) hj

/-- All ways down end if those from slot to slot do. -/
theorem acc_node (hf : Finished a s) (hn : s.nodes = schema.nodes.map some)
    (he : ∀ i ∈ (graph schema.nodes s).slots, (graph schema.nodes s).Ends i) {h : Handle}
    {n : Node} (hnode : schema.node? h = some n) : Acc schema.Below h := by
  obtain ⟨i, hi, heq⟩ := Schema.exists_getElem?_of_node? hnode
  have harena : s.node? i = some n := by
    refine node?_eq_some.2 ⟨i, rfl, ?_⟩
    rw [hn, Array.getElem?_map, hi]
    rfl
  obtain ⟨t, hr, hc⟩ := hf.ready.closed _ _ harena
  apply Schema.acc_of_reads ((hr.mono (Schema.keeps hn)).congr heq)
  intro x hx
  obtain ⟨k, hk⟩ := hc x (t.targets_subset hx)
  obtain ⟨j, rfl, hj⟩ := mem_slots hk
  refine hf.acc_slot hn (he j ?_) hj
  rw [slots_graph]
  exact List.mem_map.2 ⟨_, hj, rfl⟩

theorem guarded (hf : Finished a s) (hn : s.nodes = schema.nodes.map some)
    (he : ∀ i ∈ (graph schema.nodes s).slots, (graph schema.nodes s).Ends i) :
    schema.Guarded :=
  Schema.guarded_of_acc fun _ _ hnode => hf.acc_node hn he hnode

/-- Everything is written in the end. -/
theorem exists_nodes (hf : Finished a s) : ∃ nodes : Array Node, s.nodes = nodes.map some := by
  have hpending : s.pending = [] := List.self_eq_append_right.1 hf.ready.slots
  have hfilled (o : Option Node) (ho : o ∈ s.nodes.toList) : o.isSome := by
    obtain ⟨i, hi⟩ := List.mem_iff_getElem?.1 ho
    apply Option.isSome_iff_ne_none.2
    rintro rfl
    rw [Array.getElem?_toList, hf.ready.opened, hpending] at hi
    cases hi
  have hlist (l : List (Option Node)) (hl : ∀ o ∈ l, o.isSome) :
        ∃ m : List Node, l = m.map some := by
    induction l with
    | nil => exact ⟨[], rfl⟩
    | cons o l ih =>
      obtain ⟨n, rfl⟩ := Option.isSome_iff_exists.1 (hl o List.mem_cons_self)
      obtain ⟨m, rfl⟩ := ih fun o' ho' => hl o' (List.mem_cons_of_mem _ ho')
      exact ⟨n :: m, rfl⟩
  obtain ⟨m, hm⟩ := hlist _ hfilled
  refine ⟨m.toArray, ?_⟩
  rw [← Array.toList_inj, hm]
  simp

end Resolve.Finished

theorem resolve_of_cycle {a : Assembled} {start : Nat} {s : Arena} {nodes : Array Node}
    (hw : Resolve.writeAll a {} = .ok start s) (hn : s.nodes = nodes.map some) {e : SchemaError}
    (hc : (Resolve.Finished.graph nodes s).findCycle?.bind (cycleError a s.slots) = some e) :
    a.resolve = .error (.schema e) := by
  unfold Resolve.Finished.graph at hc
  unfold Assembled.resolve
  rw [hw]
  dsimp only
  rw [mapM_id_eq_some.2 hn]
  dsimp only
  rw [hc]

theorem resolve_of_no_cycle {a : Assembled} {start : Nat} {s : Arena} {nodes : Array Node}
    (hw : Resolve.writeAll a {} = .ok start s) (hn : s.nodes = nodes.map some)
    (hc : (Resolve.Finished.graph nodes s).findCycle? = none) :
    ∃ schema, a.resolve = .ok schema ∧ schema.nodes = nodes := by
  unfold Resolve.Finished.graph at hc
  unfold Assembled.resolve
  rw [hw]
  dsimp only
  rw [mapM_id_eq_some.2 hn]
  dsimp only
  rw [hc]
  exact ⟨_, rfl, rfl⟩

/-- A complete grammar is refused for a cycle, or else there is none and its schema is guarded. -/
theorem resolve_of_complete {a : Assembled} (ha : a.Complete) :
    (∃ cycle span, a.IsCycle cycle ∧ a.resolve = .error (.schema
        (.referenceCycle (cycle.map fun k => Text.ofString k.name.display) span))) ∨
      ((¬ ∃ cycle, a.IsCycle cycle) ∧ ∃ schema, a.resolve = .ok schema ∧ schema.Guarded) := by
  obtain ⟨start, s, hw, hf, -⟩ := (Resolve.writeAll_ends a).exists_ok ha
  obtain ⟨nodes, hn⟩ := hf.exists_nodes
  obtain ⟨hcycle, hends⟩ := SlotGraph.findCycle?_reports (hf.proper hn)
  cases hfind : (Resolve.Finished.graph nodes s).findCycle? with
  | some slots =>
    obtain ⟨ks, span, hks, herror⟩ := hf.cycleError_eq hn (hcycle slots hfind)
    refine .inl ⟨ks, span, hks, resolve_of_cycle hw hn ?_⟩
    rw [hfind, Option.bind_some, herror]
  | none =>
    obtain ⟨schema, hschema, rfl⟩ := resolve_of_no_cycle hw hn hfind
    refine .inr ⟨?_, schema, hschema, hf.guarded hn (hends hfind)⟩
    rintro ⟨ks, hks⟩
    obtain ⟨i, hi, hnot⟩ := hf.not_ends_of_isCycle hn hks
    exact hnot (hends hfind i hi)

/-- A complete grammar is refused exactly if its definitions refer to one another around a cycle.
The error shows the names around one such cycle. Otherwise there is a schema, and no endless way
down in it avoids elements and attributes. -/
theorem resolve_refuses_cycles {a : Assembled} (ha : a.Complete) :
    ((∃ names span, a.resolve = .error (.schema (.referenceCycle names span))) ↔
        ∃ cycle, a.IsCycle cycle) ∧
      (∀ names span, a.resolve = .error (.schema (.referenceCycle names span)) →
        ∃ cycle, a.IsCycle cycle ∧
          names = cycle.map fun k => Text.ofString k.name.display) ∧
      ((¬ ∃ cycle, a.IsCycle cycle) → ∃ schema, a.resolve = .ok schema ∧ schema.Guarded) := by
  rcases resolve_of_complete ha with ⟨cycle, span, hc, hr⟩ | ⟨hnone, schema, hr, hg⟩
  · refine ⟨⟨fun _ => ⟨cycle, hc⟩, fun _ => ⟨_, span, hr⟩⟩, fun names span' h => ?_,
      fun hnone => absurd ⟨cycle, hc⟩ hnone⟩
    cases hr.symm.trans h
    exact ⟨cycle, hc, rfl⟩
  · refine ⟨⟨?_, fun h => absurd h hnone⟩, fun names span h => ?_, fun _ => ⟨schema, hr, hg⟩⟩
    · rintro ⟨names, span, h⟩
      cases hr.symm.trans h
    · cases hr.symm.trans h

namespace Nesting

/-- `start = element * { x } x = y? y = grammar { start = parent x }` -/
def cyclic : Assembled where
  grammars :=
    [{ label := [], parent := none
       definitions := ⟨[
        (.start, { first := site .single (.named .element (.anyName none) (.ref "x" here) here) }),
        (.named "x", { first := site .single (.unary .optional (.ref "y" here) here) }),
        (.named "y", { first := site .single (.grammar 1 here) })]⟩ },
     { label := [], parent := some 0
       definitions := ⟨[(.start, { first := site .single (.parentRef "x" here) })]⟩ }]
  path := []
  environment := Environment.ofDeclarations []
  fragments := {}

theorem complete_cyclic : cyclic.Complete :=
  Assembled.complete_of_forall (by decide +kernel) (by decide +kernel)

theorem complete_assembled : assembled.Complete :=
  Assembled.complete_of_forall (by decide +kernel) (by decide +kernel)

/-- The names in the error for a cycle. -/
def cycleNames : Except Failure Schema → Option (List Text)
  | .error (.schema (.referenceCycle names _)) => some names
  | _ => none

theorem exists_of_cycleNames {result : Except Failure Schema} {names : List Text}
    (h : cycleNames result = some names) :
    ∃ span, result = .error (.schema (.referenceCycle names span)) := by
  unfold cycleNames at h
  split at h
  · cases h
    exact ⟨_, rfl⟩
  · cases h

/-- In one grammar `x`, `y` and the nested start refer to one another; in the other an element
breaks the cycle. -/
theorem resolve_refuses_cycles_nesting :
    (cyclic.Complete ∧ ∃ cycle, cyclic.IsCycle cycle ∧
        [Text.ofString "x", Text.ofString "y", Text.ofString "start", Text.ofString "x"] =
          cycle.map fun k => Text.ofString k.name.display) ∧
      assembled.Complete ∧ ∃ schema, assembled.resolve = .ok schema ∧ schema.Guarded := by
  have hnames : cycleNames cyclic.resolve =
      some [Text.ofString "x", Text.ofString "y", Text.ofString "start", Text.ofString "x"] := by
    cbv
  obtain ⟨span, hcyclic⟩ := exists_of_cycleNames hnames
  have hnone : cycleNames assembled.resolve = none := by cbv
  have hassembled := resolve_refuses_cycles complete_assembled
  refine ⟨⟨complete_cyclic, (resolve_refuses_cycles complete_cyclic).2.1 _ span hcyclic⟩,
    complete_assembled, hassembled.2.2 fun hc => ?_⟩
  obtain ⟨names, span, h⟩ := hassembled.1.2 hc
  rw [h] at hnone
  cases hnone

end Nesting

end RelaxCompact
