import RelaxCompact.Proofs.Resolution.Bodies

/-!
Every handle of an arena has one owner: a definition whose slot it is, a node of which it is a part,
or the step that has just written it and not yet passed it on. Each step keeps this up.
-/

namespace RelaxCompact

open Run

/-- What is put in place of an entry that stands for nothing is all that is new. -/
theorem flatMap_set_perm {α β : Type} {f : α → List β} {l : List α} {i : Nat} {x : α}
    (hi : l[i]? = some x) (hx : f x = []) (y : α) :
    ((l.set i y).flatMap f).Perm (f y ++ l.flatMap f) := by
  induction l generalizing i with
  | nil => cases hi
  | cons z l ih =>
    cases i with
    | zero =>
      cases hi
      rw [List.set_cons_zero, List.flatMap_cons, List.flatMap_cons, hx, List.nil_append]
    | succ i =>
      rw [List.set_cons_succ, List.flatMap_cons, List.flatMap_cons]
      exact ((ih hi).append_left _).trans (List.perm_append_comm_assoc _ _ _)

namespace Arena

/-- The parts of all nodes that are written. -/
def parts (s : Arena) : List Handle := s.nodes.toList.flatMap fun n => (n.map Node.parts).getD []

/-- The slots, the handles in `loose` and the parts of nodes are all handles, each once. -/
def Owned (s : Arena) (loose : List Nat) : Prop :=
  ((s.slots.map Prod.snd ++ loose).map Int.ofNat ++ s.parts).Perm
    ((List.range s.nodes.size).map Int.ofNat)

/-- What is in the arena stays as it is. -/
def Appends (s t : Arena) : Prop := s.nodes.toList <+: t.nodes.toList

theorem Appends.refl (s : Arena) : Appends s s := List.prefix_rfl

theorem Appends.trans {s t u : Arena} (hst : Appends s t) (htu : Appends t u) : Appends s u :=
  List.IsPrefix.trans hst htu

theorem Appends.getElem? {s t : Arena} (hst : Appends s t) {i : Nat} {n : Option Node}
    (hi : s.nodes[i]? = some n) : t.nodes[i]? = some n := by
  rw [← Array.getElem?_toList] at hi ⊢
  obtain ⟨new, hnew⟩ := hst
  obtain ⟨hlt, -⟩ := List.getElem?_eq_some_iff.1 hi
  rw [← hnew, List.getElem?_append_left hlt, hi]

theorem push_appends (s : Arena) : Appends s s.push := by
  rw [Appends, push, Array.toList_push]
  exact List.prefix_append _ _

theorem parts_push (s : Arena) : s.push.parts = s.parts := by
  rw [parts, push, Array.toList_push, List.flatMap_append, List.flatMap_singleton]
  exact List.append_nil _

theorem parts_fill {s : Arena} {i : Nat} (hi : s.nodes[i]? = some none) (n : Node) :
    (s.fill i n).parts.Perm (n.parts ++ s.parts) := by
  rw [parts, fill, Array.toList_setIfInBounds]
  exact flatMap_set_perm (by rw [Array.getElem?_toList, hi]) rfl (some n)

variable {s : Arena} {loose loose' : List Nat}

theorem Owned.perm (h : s.Owned loose) (hl : loose'.Perm loose) : s.Owned loose' :=
  (((hl.append_left _).map _).append_right _).trans h

theorem Owned.push (h : s.Owned loose) : s.push.Owned (s.nodes.size :: loose) := by
  rw [Owned, parts_push, Arena.push, Array.size_push, List.range_succ, List.map_append,
    List.map_append, List.map_cons, List.append_assoc, List.cons_append]
  apply List.perm_middle.trans
  rw [← List.append_assoc, ← List.map_append]
  exact (h.cons _).trans (List.perm_append_singleton _ _).symm

/-- A node takes over its parts. -/
theorem Owned.fill {i : Nat} {n : Node} {taken : List Nat} (h : s.Owned (taken ++ loose))
    (hi : s.nodes[i]? = some none) (hn : n.parts = taken.map Int.ofNat) :
    (s.fill i n).Owned loose := by
  have hsize : (s.fill i n).nodes.size = s.nodes.size := Array.size_setIfInBounds
  rw [Owned, hsize]
  refine ((parts_fill hi n).append_left _).trans (List.Perm.trans ?_ h)
  rw [hn, ← List.append_assoc, ← List.map_append, Arena.fill]
  apply (List.Perm.map _ _).append_right
  rw [List.append_assoc]
  exact List.perm_append_comm.append_left _

/-- A handle becomes a slot. -/
theorem Owned.reserve {i : Nat} (h : s.Owned (i :: loose)) (k : DefinitionKey) :
    (s.reserve k i).Owned loose := by
  have hslots :
      (s.reserve k i).slots.map Prod.snd ++ loose = s.slots.map Prod.snd ++ i :: loose := by
    rw [Arena.reserve, List.map_append, List.append_assoc]
    rfl
  rw [Owned, hslots]
  exact h

end Arena

open Arena

namespace Resolve

/-- The handle that a step leaves to be passed on: none if it writes into a slot. -/
def left (slot : Option Nat) (i : Nat) : List Nat := if slot.isNone then [i] else []

section

variable {a : Assembled} {s : Arena} {loose : List Nat} {slot : Option Nat}

/-- Without a slot there is none to be open. -/
theorem open_of_none (s : Arena) (j : Nat) (hj : none = some j) : s.nodes[j]? = some none := by
  cases hj

theorem store_owned (slot : Option Nat) {n : Node} (taken : List Nat)
    (hopen : ∀ j, slot = some j → s.nodes[j]? = some none) (hn : n.parts = taken.map Int.ofNat)
    (h : s.Owned (taken ++ loose)) :
    Ends (store n slot) s False fun i t =>
      t.Owned (left slot i ++ loose) ∧ (slot = none → Appends s t) := by
  cases slot with
  | some j => exact ⟨h.fill (hopen j rfl) hn, nofun⟩
  | none =>
    refine (allocate_ends s).bind fun i t ⟨hi, ht⟩ => ?_
    subst i t
    have hnew : s.push.nodes[s.nodes.size]? = some none := by
      rw [push, Array.getElem?_push, if_pos rfl]
    have hpushed : s.push.Owned (taken ++ s.nodes.size :: loose) := h.push.perm List.perm_middle
    refine ⟨hpushed.fill hnew hn, fun _ => ?_⟩
    change s.nodes.toList <+: (s.push.nodes.setIfInBounds s.nodes.size (some n)).toList
    rw [push, Array.toList_setIfInBounds, Array.toList_push,
      List.set_append_right _ _ (Nat.le_of_eq Array.length_toList)]
    exact List.prefix_append _ _

theorem slotOf_owned (h : s.Owned loose) (k : DefinitionKey) :
    Ends (slotOf k) s False fun _ t => t.Owned loose ∧ Appends s t := by
  apply Ends.get
  cases Table.lookup k s.slots with
  | some i => exact ⟨h, .refl s⟩
  | none =>
    refine (allocate_ends s).bind fun i t ⟨hi, ht⟩ => ?_
    subst i t
    exact ⟨h.push.reserve k, s.push_appends⟩

theorem reserve_owned (h : s.Owned loose) (number : Nat) (g : Grammar) :
    Ends (reserve number g) s False fun _ t => t.Owned loose ∧ Appends s t := by
  unfold reserve
  induction g.definitions.keys generalizing s with
  | nil => exact ⟨h, .refl s⟩
  | cons name names ih =>
    rw [List.forM_eq_forM, List.forM_cons]
    have hone : Ends (do let _ ← slotOf ⟨number, name⟩) s False fun _ t =>
        t.Owned loose ∧ Appends s t := (slotOf_owned h _).bind fun _ _ ht => ht
    refine hone.bind fun _ t ⟨ht, hst⟩ => ?_
    exact (ih ht).mono id fun _ u ⟨hu, htu⟩ => ⟨hu, hst.trans htu⟩

theorem combine_owned {op : Connective} {first : Nat} {others : List Nat}
    (hopen : ∀ j, slot = some j → s.nodes[j]? = some none) (hne : others ≠ [])
    (h : s.Owned (first :: others ++ loose)) :
    Ends (combine op slot first others) s False fun i t =>
      t.Owned (left slot i ++ loose) ∧ (slot = none → Appends s t) := by
  induction others generalizing s first with
  | nil => exact absurd rfl hne
  | cons o others ih =>
    cases others with
    | nil => exact store_owned slot [first, o] hopen rfl h
    | cons o' others =>
      refine (store_owned none [first, o] (open_of_none s) rfl h).bind
        fun i t ⟨ht, hst⟩ => ?_
      have hst := hst rfl
      exact (ih (fun j hj => hst.getElem? (hopen j hj)) (List.cons_ne_nil _ _) ht).mono id
        fun _ u ⟨hu, htu⟩ => ⟨hu, fun hslot => hst.trans (htu hslot)⟩

theorem target_owned (number : Nat) (chain : List Nat) (name : String) (span : Span) :
    Ends (target a number chain name span) s False fun _ t => t = s :=
  (target_ends number chain name span).mono False.elim fun _ _ ht => ht.1

theorem parentTarget_owned (number : Nat) (name : String) (span : Span) :
    Ends (parentTarget a number name span) s False fun _ t => t = s :=
  (parentTarget_ends number name span).mono False.elim fun _ _ ht => ht.1

/-- A run from `s` to `t` has written a pattern and leaves its handles to be passed on. -/
structure Leaves (chain : Option Connective) (slot : Option Nat) (loose : List Nat) (s : Arena)
    (r : Nat × List Nat) (t : Arena) : Prop where
  owned : t.Owned (left slot r.1 ++ r.2 ++ loose)
  appends : slot = none → Appends s t
  alone : chain = none → r.2 = []

theorem Leaves.single {t : Arena} {r : Nat × List Nat} (h : Leaves none none loose s r t) :
    t.Owned (r.1 :: loose) := by
  have howned := h.owned
  rw [h.alone rfl] at howned
  exact howned

/-- A pattern is left behind when its node is stored. -/
theorem stored_leaves {t : Arena} {chain : Option Connective} {n : Node} (taken : List Nat)
    (hst : Appends s t) (hopen : ∀ j, slot = some j → s.nodes[j]? = some none)
    (hn : n.parts = taken.map Int.ofNat) (h : t.Owned (taken ++ loose)) :
    Ends (do return (← store n slot, [])) t False (Leaves chain slot loose s) := by
  have hopen' (j : Nat) (hj : slot = some j) : t.nodes[j]? = some none := hst.getElem? (hopen j hj)
  refine (store_owned slot taken hopen' hn h).bind fun i u ⟨hu, htu⟩ => ?_
  refine ⟨?_, fun hslot => hst.trans (htu hslot), fun _ => rfl⟩
  rw [List.append_nil]
  exact hu

theorem write_leaves (a : Assembled) (number : Nat) (scopes : List Nat) {chain : Option Connective}
    (hslot : chain ≠ none → slot = none) (hopen : ∀ j, slot = some j → s.nodes[j]? = some none)
    (h : s.Owned loose) (c : Content) :
    Ends (write a number scopes chain slot c) s False (Leaves chain slot loose s) := by
  refine write.induct_unfolding a number scopes
    (fun chain slot _ step => (chain ≠ none → slot = none) → ∀ (loose : List Nat) (s : Arena),
      (∀ j, slot = some j → s.nodes[j]? = some none) → s.Owned loose →
      Ends step s False (Leaves chain slot loose s))
    ?binary ?unary ?leaf ?named ?ref ?parentRef ?data ?dataExcept ?value ?noStart ?grammar
    chain slot c hslot loose s hopen h
  case binary =>
    intro chain slot op left right span ihLeft ihRight hslot loose s hopen h
    refine (ihLeft (fun _ => rfl) loose s (open_of_none s) h).bind fun r t ht => ?_
    obtain ⟨first, others⟩ := r
    refine (ihRight (fun _ => rfl) (first :: others ++ loose) t (open_of_none t) ht.owned).bind
      fun r u hu => ?_
    obtain ⟨last, rest⟩ := r
    have hsu : Appends s u := (ht.appends rfl).trans (hu.appends rfl)
    have howned : u.Owned (first :: (others ++ [last]) ++ loose) := by
      apply hu.single.perm
      rw [← List.cons_append, List.append_assoc, List.singleton_append]
      exact List.perm_middle
    dsimp only
    split
    next hchain =>
      have hs : slot = none := hslot (by rw [hchain]; exact Option.some_ne_none op)
      subst hs
      refine ⟨howned, fun _ => hsu, ?_⟩
      intro hnone
      rw [hchain] at hnone
      cases hnone
    next =>
      refine (combine_owned (fun j hj => hsu.getElem? (hopen j hj)) (by simp) howned).bind
        fun i v hv => ?_
      refine ⟨?_, fun hslot => hsu.trans (hv.2 hslot), fun _ => rfl⟩
      rw [List.append_nil]
      exact hv.1
  case unary =>
    intro chain slot modifier content span ih _ loose s hopen h
    refine (ih (fun _ => rfl) loose s (open_of_none s) h).bind fun r t ht => ?_
    exact stored_leaves [r.1] (ht.appends rfl) hopen rfl ht.single
  case leaf =>
    intro chain slot leaf span _ loose s hopen h
    exact stored_leaves [] (.refl s) hopen rfl h
  case named =>
    intro chain slot holder name content span ih _ loose s hopen h
    refine (ih (fun _ => rfl) loose s (open_of_none s) h).bind fun r t ht => ?_
    exact stored_leaves [r.1] (ht.appends rfl) hopen rfl ht.single
  case ref =>
    intro chain slot name span _ loose s hopen h
    refine (target_owned number scopes name span).bind fun k t ht => ?_
    subst ht
    refine (slotOf_owned h k).bind fun i u hu => ?_
    exact stored_leaves [] hu.2 hopen rfl hu.1
  case parentRef =>
    intro chain slot name span _ loose s hopen h
    refine (parentTarget_owned number name span).bind fun k t ht => ?_
    subst ht
    refine (slotOf_owned h k).bind fun i u hu => ?_
    exact stored_leaves [] hu.2 hopen rfl hu.1
  case data =>
    intro chain slot type library params span _ loose s hopen h
    exact stored_leaves [] (.refl s) hopen rfl h
  case dataExcept =>
    intro chain slot type library params except span ih _ loose s hopen h
    refine (ih (fun _ => rfl) loose s (open_of_none s) h).bind fun r t ht => ?_
    exact stored_leaves [r.1] (ht.appends rfl) hopen rfl ht.single
  case value =>
    intro chain slot literal type library span _ loose s hopen h
    exact stored_leaves [] (.refl s) hopen rfl h
  case noStart =>
    intro chain slot nested span g body hstart _ loose s hopen h
    exact Ends.throw not_false
  case grammar =>
    intro chain slot nested span g body hstart _ loose s hopen h
    refine (slotOf_owned h _).bind fun i t ht => ?_
    refine (reserve_owned ht.1 nested g).bind fun _ u hu => ?_
    exact stored_leaves [] (ht.2.trans hu.2) hopen rfl hu.1

theorem writeSite_owned (a : Assembled) (number : Nat) (slot : Option Nat)
    (hopen : ∀ j, slot = some j → s.nodes[j]? = some none) (h : s.Owned loose) (site : Site) :
    Ends (writeSite a number slot site) s False fun i t =>
      t.Owned (left slot i ++ loose) ∧ (slot = none → Appends s t) := by
  refine (write_leaves a number site.chain (fun hne => absurd rfl hne) hopen h site.content).bind
    fun r t ht => ?_
  have howned := ht.owned
  rw [ht.alone rfl, List.append_nil] at howned
  exact ⟨howned, ht.appends⟩

theorem writeSites_owned (a : Assembled) (number : Nat) (h : s.Owned loose) (sites : List Site) :
    Ends (sites.mapM (writeSite a number none)) s False fun is t =>
      t.Owned (is ++ loose) ∧ Appends s t ∧ is.length = sites.length := by
  induction sites generalizing s loose with
  | nil => exact ⟨h, .refl s, rfl⟩
  | cons site sites ih =>
    rw [List.mapM_cons]
    refine (writeSite_owned a number none (open_of_none s) h site).bind fun i t ⟨ht, hst⟩ => ?_
    refine (ih ht).bind fun is u ⟨hu, htu, hlength⟩ => ?_
    exact ⟨hu.perm List.perm_middle.symm, (hst rfl).trans htu, congrArg Nat.succ hlength⟩

/-- A body that goes into its slot leaves nothing to be passed on. -/
theorem writeBody_owned (a : Assembled) (k : DefinitionKey) {j : Nat}
    (hopen : s.nodes[j]? = some none) (h : s.Owned loose) :
    Ends (writeBody a k j) s False fun _ t => t.Owned loose := by
  have hopen' (t : Arena) (hst : Appends s t) (j' : Nat) (hj : some j = some j') :
      t.nodes[j']? = some none := by
    cases hj
    exact hst.getElem? hopen
  unfold writeBody
  cases (grammarAt a k.grammar).definitions.get? k.name with
  | none => exact h
  | some d =>
    dsimp only
    cases d.more with
    | nil =>
      have hfirst := writeSite_owned a k.grammar (some j) (hopen' s (.refl s)) h d.first
      exact hfirst.bind fun _ _ ht => ht.1
    | cons second more =>
      refine (writeSite_owned a _ none (open_of_none s) h d.first).bind fun i t ⟨ht, hst⟩ => ?_
      refine (writeSites_owned a _ ht (second :: more)).bind fun is u ⟨hu, htu, hlength⟩ => ?_
      have his : is ≠ [] := by
        rintro rfl
        cases hlength
      have hall : u.Owned (i :: is ++ loose) := hu.perm List.perm_middle.symm
      exact (combine_owned (hopen' u ((hst rfl).trans htu)) his hall).bind fun _ _ hv => hv.1

theorem drain_owned {done : List (DefinitionKey × Nat)} (hready : Ready a done [] s)
    (h : s.Owned []) (budget : Nat) : Ends (drain a budget) s False fun _ t => t.Owned [] := by
  induction budget generalizing s done with
  | zero => exact h
  | succ budget ih =>
    apply Ends.get
    cases hp : s.pending with
    | nil => exact h
    | cons p pending =>
      apply Ends.modify
      have hturn := hready.turn hp
      have hopen : s.nodes[p.2]? = some none := (hturn.opened p.2).2 List.mem_cons_self
      have hmem : p ∈ s.slots := by
        rw [hready.slots, hp]
        exact List.mem_append_right _ List.mem_cons_self
      have hwritten := (writeBody_ends (hready.belongs p hmem) hturn).mono False.elim
        fun _ _ ht => ht.1
      refine (hwritten.and (writeBody_owned a p.1 hopen h)).bind fun _ t ⟨ht, howned⟩ => ?_
      exact ih ht howned

/-- In the end all handles but the slots are parts, each of one node. -/
theorem writeAll_owned (a : Assembled) : Ends (writeAll a) {} False fun _ t => t.Owned [] := by
  have hstart : ({} : Arena).Owned [] := .refl _
  unfold writeAll
  split
  next => exact Ends.throw not_false
  next hsome =>
    have hsome : (a.definition? ⟨0, .start⟩).isSome := by
      rw [← start?_root]
      exact Option.isSome_iff_ne_none.2 fun he => hsome (Option.isNone_iff_eq_none.2 he)
    have hkeys (name : DefineName) (hname : name ∈ a.root.definitions.keys) :
        a.Belongs ⟨0, name⟩ := by
      rw [root_eq] at hname
      exact .root (Table.isSome_lookup.2 hname)
    refine ((slotOf_ends (start_ready a) (.root hsome)).and (slotOf_owned hstart _)).bind
      fun start t ⟨⟨ht, _, _⟩, howned, _⟩ => ?_
    refine ((reserve_ends ht hkeys).and (reserve_owned howned 0 a.root)).bind
      fun _ u ⟨⟨hu, _, _⟩, howned, _⟩ => ?_
    exact (drain_owned hu howned _).bind fun _ _ hv => hv

end

end Resolve

end RelaxCompact
