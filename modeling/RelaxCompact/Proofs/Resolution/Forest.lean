import RelaxCompact.Proofs.Resolution.Guarded
import RelaxCompact.Proofs.Resolution.Owned
import RelaxCompact.Proofs.Resolution.Undefined

/-!
The arena of a resolved schema is a forest: one finite tree for each definition, which begins at the
slot of the definition and shares no handle with another tree. Only references lead from tree to
tree.
-/

namespace RelaxCompact

open Run Arena

/-- What is read back from a part is smaller than what is read back from the whole. -/
theorem Reads.part {node : Handle → Option Node} {h c : Handle} {t : Tree} {n : Node}
    (hr : Reads node h t) (hn : node h = some n) (hc : c ∈ n.parts) :
    ∃ t', Reads node c t' ∧ sizeOf t' < sizeOf t := by
  cases hr with
  | binary hn' hl hr =>
    cases hn.symm.trans hn'
    rcases List.mem_pair.1 hc with rfl | rfl
    · exact ⟨_, hl, by simp only [Tree.binary.sizeOf_spec]; omega⟩
    · exact ⟨_, hr, by simp only [Tree.binary.sizeOf_spec]; omega⟩
  | unary hn' hr =>
    cases hn.symm.trans hn'
    cases List.mem_singleton.1 hc
    exact ⟨_, hr, by simp only [Tree.unary.sizeOf_spec]; omega⟩
  | named hn' hr =>
    cases hn.symm.trans hn'
    cases List.mem_singleton.1 hc
    exact ⟨_, hr, by simp only [Tree.named.sizeOf_spec]; omega⟩
  | dataExcept hn' hr =>
    cases hn.symm.trans hn'
    cases List.mem_singleton.1 hc
    exact ⟨_, hr, by simp only [Tree.dataExcept.sizeOf_spec]; omega⟩
  | leaf hn' | data hn' | value hn' | ref hn' | parentRef hn' =>
    cases hn.symm.trans hn'
    cases hc

/-- The target of a reference is a target in what is read back from it. -/
theorem Reads.target {node : Handle → Option Node} {h c : Handle} {t : Tree} {n : Node}
    (hr : Reads node h t) (hn : node h = some n) (href : n.isReference) (hc : c ∈ n.children) :
    c ∈ t.targets true := by
  cases hr with
  | ref hn' | parentRef hn' =>
    cases hn.symm.trans hn'
    exact hc
  | _ hn' =>
    cases hn.symm.trans hn'
    cases href

theorem Node.mem_parts {n : Node} {h : Handle} (hh : h ∈ n.children) (hn : ¬ n.isReference) :
    h ∈ n.parts := by
  rw [parts, if_neg hn]
  exact hh

theorem Node.isReference_of_target {n : Node} {h : Handle} (hh : h ∈ n.children)
    (hnot : h ∉ n.parts) : n.isReference := by
  by_contra hn
  exact hnot (mem_parts hh hn)

namespace Schema

/-- Handle number `i` is a part of node number `p`: a child that no reference leads to. -/
def Owns (s : Schema) (p i : Nat) : Prop := ∃ n, s.nodes[p]? = some n ∧ (i : Handle) ∈ n.parts

/-- Slots and the parts of nodes are all handles, each once. -/
def Partitioned (s : Schema) (slots : List Nat) : Prop :=
  (slots.map Int.ofNat ++ s.nodes.toList.flatMap Node.parts).Perm
    ((List.range s.nodes.size).map Int.ofNat)

namespace Partitioned

variable {s : Schema} {slots : List Nat}

theorem nodup (h : s.Partitioned slots) :
    (slots.map Int.ofNat ++ s.nodes.toList.flatMap Node.parts).Nodup :=
  h.nodup_iff.2 (List.nodup_range.map fun _ _ he => Int.ofNat.inj he)

theorem inside (h : s.Partitioned slots) {x : Handle}
    (hx : x ∈ slots.map Int.ofNat ++ s.nodes.toList.flatMap Node.parts) :
    ∃ i < s.nodes.size, x = (i : Nat) := by
  obtain ⟨i, hi, rfl⟩ := List.mem_map.1 (h.mem_iff.1 hx)
  exact ⟨i, List.mem_range.1 hi, rfl⟩

theorem inside_of_mem_parts (h : s.Partitioned slots) {n : Node} (hn : n ∈ s.nodes) {x : Handle}
    (hx : x ∈ n.parts) : ∃ i < s.nodes.size, x = (i : Nat) :=
  h.inside (List.mem_append_right _ (List.mem_flatMap.2 ⟨n, Array.mem_toList_iff.2 hn, hx⟩))

theorem nodup_parts (h : s.Partitioned slots) {n : Node} (hn : n ∈ s.nodes) : n.parts.Nodup :=
  (List.nodup_flatMap.1 (List.nodup_append.1 h.nodup).2.1).1 n (Array.mem_toList_iff.2 hn)

/-- A handle is a part of one node only. -/
theorem owns_unique (h : s.Partitioned slots) {p p' i : Nat} (hp : s.Owns p i)
    (hp' : s.Owns p' i) : p = p' := by
  have hdisjoint := (List.nodup_flatMap.1 (List.nodup_append.1 h.nodup).2.1).2
  have hnot {p p' : Nat} (hp : s.Owns p i) (hp' : s.Owns p' i) : ¬ p < p' := by
    intro hlt
    obtain ⟨n, hn, hi⟩ := hp
    obtain ⟨n', hn', hi'⟩ := hp'
    rw [← Array.getElem?_toList] at hn hn'
    obtain ⟨hsize, rfl⟩ := List.getElem?_eq_some_iff.1 hn
    obtain ⟨hsize', rfl⟩ := List.getElem?_eq_some_iff.1 hn'
    exact List.pairwise_iff_getElem.1 hdisjoint p p' hsize hsize' hlt hi hi'
  exact Nat.le_antisymm (Nat.le_of_not_lt (hnot hp' hp)) (Nat.le_of_not_lt (hnot hp hp'))

/-- A slot is a part of no node. -/
theorem not_mem_parts (h : s.Partitioned slots) {j : Nat} (hj : j ∈ slots) {n : Node}
    (hn : n ∈ s.nodes) : (j : Handle) ∉ n.parts := by
  intro hm
  have hparts : (j : Handle) ∈ s.nodes.toList.flatMap Node.parts :=
    List.mem_flatMap.2 ⟨n, Array.mem_toList_iff.2 hn, hm⟩
  exact (List.nodup_append.1 h.nodup).2.2 _ (List.mem_map_of_mem hj) _ hparts rfl

theorem not_owns (h : s.Partitioned slots) {p j : Nat} (hj : j ∈ slots) : ¬ s.Owns p j := by
  rintro ⟨n, hn, hm⟩
  exact h.not_mem_parts hj (Array.mem_of_getElem? hn) hm

/-- A handle that is no slot is a part. -/
theorem exists_owner (h : s.Partitioned slots) {i : Nat} (hi : i < s.nodes.size)
    (hnot : i ∉ slots) : ∃ p, p < s.nodes.size ∧ s.Owns p i := by
  have hmem : (i : Handle) ∈ slots.map Int.ofNat ++ s.nodes.toList.flatMap Node.parts :=
    h.mem_iff.2 (List.mem_map_of_mem (List.mem_range.2 hi))
  rcases List.mem_append.1 hmem with hs | hparts
  · obtain ⟨j, hj, he⟩ := List.mem_map.1 hs
    cases Int.ofNat.inj he
    exact absurd hj hnot
  · obtain ⟨n, hn, hm⟩ := List.mem_flatMap.1 hparts
    obtain ⟨p, hp⟩ := List.mem_iff_getElem?.1 hn
    rw [Array.getElem?_toList] at hp
    exact ⟨p, (Array.getElem?_eq_some_iff.1 hp).1, n, hp, hm⟩

/-- The trees of two slots share no handle. -/
theorem root_unique (h : s.Partitioned slots) {j j' i : Nat} (hj : j ∈ slots) (hj' : j' ∈ slots)
    (hi : Relation.ReflTransGen s.Owns j i) (hi' : Relation.ReflTransGen s.Owns j' i) :
    j = j' := by
  induction hi with
  | refl =>
    rcases hi'.cases_tail with he | ⟨p, -, hp⟩
    · exact he
    · exact absurd hp (h.not_owns hj)
  | tail _ hp ih =>
    rcases hi'.cases_tail with rfl | ⟨p', hi', hp'⟩
    · exact absurd hp (h.not_owns hj')
    · cases h.owns_unique hp hp'
      exact ih hi'

/-- Every handle lies in the tree of some slot, since the way up comes to ever larger trees. -/
theorem exists_root (h : s.Partitioned slots)
    (hreads : ∀ (p : Nat) n, s.nodes[p]? = some n → ∃ t, Reads s.node? p t) {i : Nat}
    (hi : i < s.nodes.size) : ∃ j ∈ slots, Relation.ReflTransGen s.Owns j i := by
  classical
  let weight (p : Nat) : Nat :=
    if ht : ∃ t, Reads s.node? p t then sizeOf ht.choose else 0
  have hweight {p : Nat} {t : Tree} (ht : Reads s.node? p t) : weight p = sizeOf t := by
    have hex : ∃ t, Reads s.node? p t := ⟨t, ht⟩
    simp only [weight, dif_pos hex, hex.choose_spec.unique ht]
  have hlt {p c : Nat} (hp : s.Owns p c) : weight c < weight p := by
    obtain ⟨n, hn, hc⟩ := hp
    obtain ⟨t, ht⟩ := hreads p n hn
    obtain ⟨t', ht', hsize⟩ := ht.part (node?_of_getElem? hn) hc
    rwa [hweight ht, hweight ht']
  let above := (Finset.range s.nodes.size).filter fun p => Relation.ReflTransGen s.Owns p i
  obtain ⟨top, htop, hmax⟩ := above.exists_max_image weight
    ⟨i, Finset.mem_filter.2 ⟨Finset.mem_range.2 hi, .refl⟩⟩
  obtain ⟨hsize, hway⟩ := Finset.mem_filter.1 htop
  by_contra hnone
  have hnot : top ∉ slots := fun hm => hnone ⟨top, hm, hway⟩
  obtain ⟨p, hp, howns⟩ := h.exists_owner (Finset.mem_range.1 hsize) hnot
  have hle := hmax p (Finset.mem_filter.2 ⟨Finset.mem_range.2 hp, .head howns hway⟩)
  exact Nat.not_lt_of_le hle (hlt howns)

end Partitioned

/-- The arena of a schema is the forest of the bodies of an assembled grammar, which begin at the
slots that `slot` gives. -/
structure Forest (s : Schema) (a : Assembled) (slot : DefinitionKey → Option Handle) : Prop where
  slots : ∀ k, (slot k).isSome ↔ a.Reaches k.grammar ∧ (a.definition? k).isSome
  apart : ∀ k k' h, slot k = some h → slot k' = some h → k = k'
  children : ∀ n ∈ s.nodes, ∀ h ∈ n.children, 0 ≤ h ∧ h < s.nodes.size
  bodies : ∀ k h, slot k = some h → (0 ≤ h ∧ h < s.nodes.size) ∧
    ∃ d t, a.definition? k = some d ∧ d.Bound a slot k.grammar t ∧ Reads s.node? h t
  reached : ∀ i < s.nodes.size,
    ∃! k, ∃ j : Nat, slot k = some ↑j ∧ Relation.ReflTransGen s.Owns j i
  owner : ∀ i < s.nodes.size, (∀ k, slot k ≠ some ↑i) → ∃! p, s.Owns p i
  once : ∀ n ∈ s.nodes, n.parts.Nodup
  referred : ∀ k h, slot k = some h → ∀ n ∈ s.nodes, h ∈ n.children → n.isReference

end Schema

theorem Arena.Owned.partitioned {s : Arena} {schema : Schema} (h : s.Owned [])
    (hn : s.nodes = schema.nodes.map some) : schema.Partitioned (s.slots.map Prod.snd) := by
  have hparts : s.parts = schema.nodes.toList.flatMap Node.parts := by
    rw [Arena.parts, hn, Array.toList_map, List.flatMap_map]
    rfl
  rw [Arena.Owned, List.append_nil, hparts, hn, Array.size_map] at h
  exact h

namespace Resolve.Finished

variable {a : Assembled} {s : Arena} {schema : Schema}

theorem mem_handles (hf : Finished a s) {i : Nat} :
    i ∈ s.slots.map Prod.snd ↔ ∃ k, s.slot? k = some ↑i := by
  constructor
  · intro hi
    obtain ⟨⟨k, j⟩, hm, rfl⟩ := List.mem_map.1 hi
    exact ⟨k, hf.slot?_of_mem hm⟩
  · rintro ⟨k, hk⟩
    obtain ⟨j, he, hm⟩ := mem_slots hk
    cases Int.ofNat.inj he
    exact List.mem_map.2 ⟨_, hm, rfl⟩

theorem slot_inside (hf : Finished a s) (hn : s.nodes = schema.nodes.map some) {k : DefinitionKey}
    {h : Handle} (hk : s.slot? k = some h) : 0 ≤ h ∧ h < schema.nodes.size := by
  obtain ⟨i, rfl, hm⟩ := mem_slots hk
  have hlt := hf.ready.inside _ hm
  rw [hn, Array.size_map] at hlt
  exact ⟨Int.natCast_nonneg i, Int.ofNat_lt.2 hlt⟩

theorem node?_of_schema (hn : s.nodes = schema.nodes.map some) {p : Nat} {n : Node}
    (hp : schema.nodes[p]? = some n) : s.node? p = some n :=
  node?_eq_some.2 ⟨p, rfl, by rw [hn, Array.getElem?_map, hp]; rfl⟩

/-- References lead to slots. -/
theorem target_slot (hf : Finished a s) (hn : s.nodes = schema.nodes.map some) {p : Nat}
    {n : Node} (hp : schema.nodes[p]? = some n) (href : n.isReference) {h : Handle}
    (hh : h ∈ n.children) : ∃ k, s.slot? k = some h := by
  have hnode := node?_of_schema hn hp
  obtain ⟨t, ht, hclosed⟩ := hf.ready.closed _ _ hnode
  exact hclosed h (ht.target hnode href hh)

/-- Children lie in the arena. -/
theorem child_inside (hf : Finished a s) (hn : s.nodes = schema.nodes.map some)
    (howned : s.Owned []) {n : Node} (hm : n ∈ schema.nodes) {h : Handle} (hh : h ∈ n.children) :
    0 ≤ h ∧ h < schema.nodes.size := by
  by_cases href : n.isReference
  · obtain ⟨p, hp⟩ := Array.mem_iff_getElem?.1 hm
    obtain ⟨k, hk⟩ := hf.target_slot hn hp href hh
    exact hf.slot_inside hn hk
  · obtain ⟨i, hi, rfl⟩ :=
      (howned.partitioned hn).inside_of_mem_parts hm (Node.mem_parts hh href)
    exact ⟨Int.natCast_nonneg i, Int.ofNat_lt.2 hi⟩

theorem exists_reads (hf : Finished a s) (hn : s.nodes = schema.nodes.map some) {p : Nat}
    {n : Node} (hp : schema.nodes[p]? = some n) : ∃ t, Reads schema.node? p t := by
  obtain ⟨t, ht, -⟩ := hf.ready.closed _ _ (node?_of_schema hn hp)
  exact ⟨t, ht.mono (Schema.keeps hn)⟩

theorem forest (ha : a.Nests) (hf : Finished a s) (hn : s.nodes = schema.nodes.map some)
    (howned : s.Owned []) : schema.Forest a s.slot? := by
  have hp := howned.partitioned hn
  refine
    { slots := fun k => (hf.belongs_iff k).trans (Assembled.belongs_iff_reaches ha k)
      apart := fun k k' i => hf.apart
      children := fun n hm h hh => hf.child_inside hn howned hm hh
      bodies := ?bodies, reached := ?reached, owner := ?owner
      once := fun n hm => hp.nodup_parts hm
      referred := ?referred }
  case bodies =>
    intro k h hk
    obtain ⟨i, rfl, hm⟩ := mem_slots hk
    obtain ⟨d, t, hholds⟩ := hf.holds _ hm
    exact ⟨hf.slot_inside hn hk, d, t, hholds.definition, hholds.bound,
      hholds.shows.reads.mono (Schema.keeps hn)⟩
  case reached =>
    intro i hi
    obtain ⟨j, hj, hway⟩ := hp.exists_root (fun p n => hf.exists_reads hn) hi
    obtain ⟨k, hk⟩ := hf.mem_handles.1 hj
    refine ⟨k, ⟨j, hk, hway⟩, fun k' ⟨j', hk', hway'⟩ => ?_⟩
    cases hp.root_unique (hf.mem_handles.2 ⟨k', hk'⟩) hj hway' hway
    exact hf.apart hk' hk
  case owner =>
    intro i hi hnot
    have hslot : i ∉ s.slots.map Prod.snd := fun hm =>
      (hf.mem_handles.1 hm).elim fun k hk => hnot k hk
    obtain ⟨p, -, howns⟩ := hp.exists_owner hi hslot
    exact ⟨p, howns, fun p' howns' => hp.owns_unique howns' howns⟩
  case referred =>
    intro k h hk n hm hh
    obtain ⟨i, rfl, -⟩ := mem_slots hk
    exact Node.isReference_of_target hh (hp.not_mem_parts (hf.mem_handles.2 ⟨k, hk⟩) hm)

end Resolve.Finished

/-- Every handle has its node in the end. -/
theorem resolve_ne_exhausted (a : Assembled) : a.resolve ≠ .error .exhausted := by
  intro h
  unfold Assembled.resolve at h
  split at h
  next e t hw =>
    cases h
    obtain ⟨_, _, he, -⟩ := Resolve.writeAll_failsOnly a _ _ _ hw
    cases he
  next start arena hw =>
    obtain ⟨nodes, hn⟩ := ((Resolve.writeAll_ends a).ok hw).1.exists_nodes
    rw [mapM_id_eq_some.2 hn] at h
    dsimp only at h
    split at h
    next => cases h
    next => cases h

/-- No handle of an arena is left without a node, and the arena of a schema is the forest of the
bodies of all definitions in the grammars of what is resolved. -/
theorem resolve_builds_forest {setup : Expand.Setup} {root : Surface.File} {key : Option Text}
    {s t : Fragments} {a : Assembled} (h : assemble setup root key s = .ok a t) :
    a.resolve ≠ .error .exhausted ∧
      ∀ schema, a.resolve = .ok schema → ∃ slot, schema.Forest a slot := by
  refine ⟨resolve_ne_exhausted a, fun schema hschema => ?_⟩
  obtain ⟨start, arena, hw, hn, -⟩ := Resolve.resolve_ok hschema
  obtain ⟨hf, -⟩ := (Resolve.writeAll_ends a).ok hw
  exact ⟨arena.slot?, hf.forest (assemble_nests h) hn ((Resolve.writeAll_owned a).ok hw)⟩

namespace Combined

/-! A definition with two sites, one of which holds a grammar that refers back to it. -/

open Surface

def here : Span := ⟨[], 1, 1, 0, 0⟩

/-- `start = x x |= text, empty x |= grammar { start = element * { parent x } }` -/
def root : File where
  path := "r"
  declarations := []
  components :=
    [.define .start .single (.ref "x" here) none here,
      .define (.named "x") .choice (.binary .group (.leaf .text here) (.leaf .empty here) here) none
        here,
      .define (.named "x") .choice
        (.grammar [.define .start .single
          (.named .element (.anyName none here) (.parentRef "x" here) here) none here] here) none
        here]
  isPattern := false

def setup : Expand.Setup := { catalog := (Mapping.ofList []).catalog, strict := true }

/-- The parts and the targets of all nodes. -/
def shape (s : Schema) : List (List Handle × List Handle) :=
  s.nodes.toList.map fun n => (n.parts, if n.isReference then n.children else [])

/-- The slots are 0, 1 and 5: the tree of `x` at 1 has the handles 2 to 4 and 6, and that of the
nested start at 5 has 7. -/
theorem resolve_builds_forest_combined :
    ∃ a t schema, assemble setup root none {} = .ok a t ∧ a.resolve = .ok schema ∧
      shape schema =
        [([], [1]), ([4, 6], []), ([], []), ([], []), ([2, 3], []), ([7], []), ([], [5]),
          ([], [1])] ∧
      ∃ slot, schema.Forest a slot := by
  have houtcome : (ended (assemble setup root none {}) >>= Assembled.resolve).toOption.map shape =
      some [([], [1]), ([4, 6], []), ([], []), ([], []), ([2, 3], []), ([7], []), ([], [5]),
        ([], [1])] := by decide +kernel
  obtain ⟨schema, hschema, hshape⟩ := exists_ok_of_map houtcome
  obtain ⟨a, hended, hresolve⟩ := ok_of_bind hschema
  obtain ⟨t, h⟩ := exists_ok_of_ended hended
  exact ⟨a, t, schema, h, hresolve, hshape, (resolve_builds_forest h).2 schema hresolve⟩

end Combined

end RelaxCompact
