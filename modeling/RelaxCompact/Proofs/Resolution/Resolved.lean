import RelaxCompact.Proofs.Resolution.Bodies

/-!
A resolved schema holds the body of every definition that belongs to it, at the slot to which all
references to the definition lead.
-/

namespace RelaxCompact

open Run Arena

theorem mapM_id_eq_some {α : Type} {xs : Array (Option α)} {ys : Array α} :
    xs.mapM id = some ys ↔ xs = ys.map some := by
  constructor
  · have hlist (l : List (Option α)) (m : List α) (h : l.mapM id = some m) : l = m.map some := by
      induction l generalizing m with
      | nil =>
        cases h
        rfl
      | cons x l ih =>
        rw [List.mapM_cons] at h
        obtain ⟨y, hy, h⟩ := Option.bind_eq_some_iff.1 h
        obtain ⟨m', hm, h⟩ := Option.bind_eq_some_iff.1 h
        cases h
        rw [List.map_cons, ← ih m' hm]
        exact congrArg (· :: l) hy
    intro h
    rw [Array.mapM_eq_mapM_toList, Option.map_eq_map, Option.map_eq_some_iff] at h
    obtain ⟨m, hm, rfl⟩ := h
    rw [← Array.toList_inj, hlist _ _ hm]
    simp
  · rintro rfl
    rw [Array.mapM_map]
    exact (Array.mapM_pure (m := Option) (f := id)).trans (by rw [Array.map_id]; rfl)

namespace Schema

def node? (s : Schema) (h : Handle) : Option Node := (s.node h).toOption

/-- The schema holds the bodies of the definitions that belong to an assembled grammar, in the
slots that `slot` gives: what is read back from a slot is the body and nothing else. -/
structure Resolves (s : Schema) (a : Assembled) (slot : DefinitionKey → Option Handle) : Prop where
  belongs : ∀ k, (slot k).isSome ↔ a.Belongs k
  apart : ∀ k k' h, slot k = some h → slot k' = some h → k = k'
  start : slot ⟨0, .start⟩ = some s.start
  defines : ∀ name, s.defines.get? name = slot ⟨0, .named name⟩
  bodies : ∀ k h, slot k = some h → ∃ d t, a.definition? k = some d ∧
    d.Bound a slot k.grammar t ∧ ∀ t', Reads s.node? h t' ↔ t' = t

end Schema

namespace Resolve.Finished

variable {a : Assembled} {s : Arena}

theorem mem_slots {k : DefinitionKey} {h : Handle} (hs : s.slot? k = some h) :
    ∃ i : Nat, h = i ∧ (k, i) ∈ s.slots := by
  obtain ⟨i, hi, rfl⟩ := Option.map_eq_some_iff.1 hs
  exact ⟨i, rfl, Table.mem_of_lookup hi⟩

theorem apart (hf : Finished a s) {k k' : DefinitionKey} {h : Handle} (hk : s.slot? k = some h)
    (hk' : s.slot? k' = some h) : k = k' := by
  obtain ⟨i, rfl, hm⟩ := mem_slots hk
  obtain ⟨j, hj, hm'⟩ := mem_slots hk'
  cases Int.ofNat.inj hj
  exact congrArg Prod.fst (List.inj_on_of_nodup_map hf.ready.handles hm hm' rfl)

/-- A definition has a slot exactly if it belongs to the schema. -/
theorem belongs_iff (hf : Finished a s) (k : DefinitionKey) :
    (s.slot? k).isSome ↔ a.Belongs k := by
  rw [Option.isSome_iff_exists]
  constructor
  · rintro ⟨h, hk⟩
    obtain ⟨i, -, hm⟩ := mem_slots hk
    exact hf.ready.belongs _ hm
  · intro hb
    induction hb with
    | root hd => exact hf.root _ hd
    | nested _ hr hd ih =>
      obtain ⟨h, hk⟩ := ih
      obtain ⟨i, -, hm⟩ := mem_slots hk
      obtain ⟨d, tree, hholds⟩ := hf.holds _ hm
      obtain ⟨d', hd', site, hs, hr⟩ := hr
      cases hholds.definition.symm.trans hd'
      exact hholds.covers site hs _ hr _ hd
    | referred _ hr hkey _ ih =>
      obtain ⟨h, hk⟩ := ih
      obtain ⟨i, -, hm⟩ := mem_slots hk
      obtain ⟨d, tree, hholds⟩ := hf.holds _ hm
      obtain ⟨d', hd', site, hs, hr⟩ := hr
      cases hholds.definition.symm.trans hd'
      obtain ⟨t, ht⟩ := hholds.bound.site hs
      obtain ⟨x, -, k', hkey', hx⟩ := exists_of_forall₂ (ht.targets true) hr
      cases hkey.symm.trans hkey'
      exact ⟨x, hx⟩

end Resolve.Finished

theorem Schema.node?_of_getElem? {s : Schema} {i : Nat} {n : Node} (h : s.nodes[i]? = some n) :
    s.node? i = some n := by
  obtain ⟨hi, -⟩ := Array.getElem?_eq_some_iff.1 h
  have hindex : s.index? i = some i := by
    rw [Schema.index?, if_pos ⟨Int.natCast_nonneg i, Int.ofNat_lt.2 hi⟩]
    rfl
  rw [Schema.node?, Schema.node, hindex, Option.bind_some, h]
  rfl

/-- The nodes that are found in an arena are found in the schema. -/
theorem Schema.keeps {s : Schema} {arena : Arena} (h : arena.nodes = s.nodes.map some) :
    Keeps arena.node? s.node? := by
  intro x n hn
  obtain ⟨i, rfl, hi⟩ := node?_eq_some.1 hn
  rw [h, Array.getElem?_map, Option.map_eq_some_iff] at hi
  obtain ⟨m, hm, he⟩ := hi
  cases he
  exact Schema.node?_of_getElem? hm

namespace Resolve

/-- The names of the root with their slots. -/
def rootSlot (slots : List (DefinitionKey × Nat)) : DefineName → Option (String × Handle)
  | .start => none
  | .named n => (Table.lookup ⟨0, .named n⟩ slots).map fun slot => (n, ↑slot)

theorem lookup_rootSlot (slots : List (DefinitionKey × Nat)) (names : List DefineName)
    (name : String) :
    Table.lookup name (names.filterMap (rootSlot slots)) =
      if .named name ∈ names then (Table.lookup ⟨0, .named name⟩ slots).map Int.ofNat
      else none := by
  induction names with
  | nil => rfl
  | cons n names ih =>
    rw [List.filterMap_cons]
    cases n with
    | start => simpa only [rootSlot, List.mem_cons, reduceCtorEq, false_or] using ih
    | named n =>
      by_cases hn : n = name
      · subst n
        rw [if_pos List.mem_cons_self, rootSlot]
        cases hl : Table.lookup ⟨0, .named name⟩ slots with
        | none => simp [ih, hl]
        | some slot => simp [Table.lookup]
      · have hmem : DefineName.named name ∈ .named n :: names ↔ .named name ∈ names := by
          simp [Ne.symm hn]
        rw [rootSlot]
        cases Table.lookup ⟨0, .named n⟩ slots with
        | none => simp [ih, hmem]
        | some slot => simp [Table.lookup, hn, ih, hmem]

/-- A schema is the finished arena, if there is no cycle. -/
theorem resolve_ok {a : Assembled} {schema : Schema} (h : a.resolve = .ok schema) :
    ∃ (start : Nat) (arena : Arena), writeAll a {} = .ok start arena ∧
      arena.nodes = schema.nodes.map some ∧ schema.start = start ∧
      schema.defines = ⟨a.root.definitions.keys.filterMap (rootSlot arena.slots)⟩ ∧
      (SlotGraph.ofNodes schema.nodes (arena.slots.map Prod.snd)).findCycle?.bind
        (cycleError a arena.slots) = none := by
  unfold Assembled.resolve at h
  split at h
  next => cases h
  next start arena hw =>
    split at h
    next => cases h
    next nodes hn =>
      dsimp only at h
      split at h
      next => cases h
      next hc =>
        cases h
        refine ⟨start, arena, hw, mapM_id_eq_some.1 hn, rfl, ?_, hc⟩
        refine congrArg (fun f => (⟨a.root.definitions.keys.filterMap f⟩ : Table String Handle))
          (funext fun name => ?_)
        cases name <;> rfl

end Resolve

/-- Reading the arena back from the slot of a definition gives the patterns of its sites, combined
from the left, with every reference bound to the slot of what it means. -/
theorem resolve_resolves {a : Assembled} {schema : Schema} (h : a.resolve = .ok schema) :
    ∃ slot, schema.Resolves a slot := by
  obtain ⟨start, arena, hw, hnodes, hstart, hdefines, -⟩ := Resolve.resolve_ok h
  obtain ⟨hf, hslot⟩ := (Resolve.writeAll_ends a).ok hw
  refine ⟨arena.slot?, hf.belongs_iff, fun k k' i => hf.apart, ?start, ?defines, ?bodies⟩
  case start =>
    rw [hslot, hstart]
  case defines =>
    intro name
    rw [hdefines]
    apply (Resolve.lookup_rootSlot _ _ name).trans
    split
    next => rfl
    next hnot =>
      refine (Option.not_isSome_iff_eq_none.1 fun hsome => hnot ?_).symm
      rw [Resolve.root_eq]
      exact Table.isSome_lookup.1 ((hf.belongs_iff _).1 hsome).isSome
  case bodies =>
    intro k i hk
    obtain ⟨j, rfl, hm⟩ := Resolve.Finished.mem_slots hk
    obtain ⟨d, t, hholds⟩ := hf.holds _ hm
    have hreads : Reads schema.node? j t := hholds.shows.reads.mono (Schema.keeps hnodes)
    refine ⟨d, t, hholds.definition, hholds.bound, fun t' => ⟨fun h' => h'.unique hreads, ?_⟩⟩
    rintro rfl
    exact hreads

namespace Nesting

/-! A nested grammar that refers back to the root. -/

def here : Span := ⟨[], 1, 1, 0, 0⟩

def site (operator : Assignment) (content : Content) : Site :=
  ⟨⟨[], []⟩, operator, none, here, [], content⟩

def triple : Content :=
  .binary .group (.binary .group (.leaf .text here) (.leaf .empty here) here) (.leaf .text here)
    here

/-- `start = x x |= text, empty, text x |= grammar { start = element * { parent x } }` -/
def assembled : Assembled where
  grammars :=
    [{ label := [], parent := none
       definitions := ⟨[(.start, { first := site .single (.ref "x" here) }),
        (.named "x",
          { first := site .choice triple, more := [site .choice (.grammar 1 here)] })]⟩ },
     { label := [], parent := some 0
       definitions := ⟨[(.start,
        { first := site .single
            (.named .element (.anyName none) (.parentRef "x" here) here) })]⟩ }]
  path := []
  environment := Environment.ofDeclarations []
  fragments := {}

/-- The start, the definitions and the children of all nodes. -/
def layout (s : Schema) : Handle × List (String × Handle) × List (List Handle) :=
  (s.start, s.defines.entries, s.nodes.toList.map Node.children)

/-- The body of `x`, at handle 1, is the choice of the group at 6 and the reference at 8; the nested
start, at 7, is an element whose content leads back to 1. -/
theorem resolve_resolves_nesting :
    ∃ schema, assembled.resolve = .ok schema ∧
      layout schema =
        (0, [("x", 1)], [[1], [6, 8], [], [], [], [2, 3], [5, 4], [9], [7], [1]]) ∧
      ∃ slot, schema.Resolves assembled slot := by
  have houtcome : assembled.resolve.toOption.map layout =
      some (0, [("x", 1)], [[1], [6, 8], [], [], [], [2, 3], [5, 4], [9], [7], [1]]) := by cbv
  obtain ⟨schema, h, hlayout⟩ := exists_ok_of_map houtcome
  exact ⟨schema, h, hlayout, resolve_resolves h⟩

end Nesting

end RelaxCompact
