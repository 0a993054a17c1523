import RelaxCompact.Proofs.Resolution.Tree
import RelaxCompact.Proofs.Run
import RelaxCompact.Proofs.Table

/-!
The invariant of an arena in the making: which slots are open, and that all that is written reads
back as a tree whose references lead to slots. Each step that writes keeps it.
-/

namespace RelaxCompact

open Run

namespace Arena

def node? (s : Arena) (h : Handle) : Option Node :=
  if 0 ≤ h then s.nodes[h.toNat]?.join else none

def slot? (s : Arena) (k : DefinitionKey) : Option Handle :=
  (Table.lookup k s.slots).map Int.ofNat

/-- What is written stays, and what has a slot keeps it. -/
structure Extends (s t : Arena) : Prop where
  keeps : Keeps s.node? t.node?
  slots : s.slots <+: t.slots

theorem Extends.refl (s : Arena) : Extends s s := ⟨.refl _, List.prefix_rfl⟩

theorem Extends.trans {s t u : Arena} (hst : Extends s t) (htu : Extends t u) : Extends s u :=
  ⟨hst.keeps.trans htu.keeps, hst.slots.trans htu.slots⟩

theorem Extends.slot? {s t : Arena} (hst : Extends s t) {k : DefinitionKey} {h : Handle}
    (hs : s.slot? k = some h) : t.slot? k = some h := by
  obtain ⟨new, hnew⟩ := hst.slots
  obtain ⟨i, hi, rfl⟩ := Option.map_eq_some_iff.1 hs
  rw [Arena.slot?, ← hnew, Table.lookup_append, hi]
  rfl

/-- The targets of references in a tree are slots. -/
def Closed (s : Arena) (t : Tree) : Prop := ∀ x ∈ t.targets true, ∃ k, s.slot? k = some x

theorem Closed.extend {s t : Arena} {tree : Tree} (hc : s.Closed tree) (hst : Extends s t) :
    t.Closed tree := by
  intro x hx
  obtain ⟨k, hk⟩ := hc x hx
  exact ⟨k, hst.slot? hk⟩

/-- The tree below a handle, with references that lead to slots. -/
structure Shows (s : Arena) (i : Nat) (t : Tree) : Prop where
  reads : Reads s.node? i t
  closed : s.Closed t

theorem Shows.extend {s t : Arena} {i : Nat} {tree : Tree} (h : s.Shows i tree)
    (hst : Extends s t) : t.Shows i tree :=
  ⟨h.reads.mono hst.keeps, h.closed.extend hst⟩

/-- All definitions of the grammars that are nested in a pattern have slots. -/
def Covers (s : Arena) (a : Assembled) (c : Content) : Prop :=
  ∀ n, Reference.start n ∈ c.references true → ∀ name, (a.definition? ⟨n, name⟩).isSome →
    ∃ h, s.slot? ⟨n, name⟩ = some h

theorem Covers.of_not_mem {s : Arena} {a : Assembled} {c : Content}
    (h : ∀ n, Reference.start n ∉ c.references true) : s.Covers a c :=
  fun n hn => absurd hn (h n)

theorem Covers.extend {s t : Arena} {a : Assembled} {c : Content} (h : s.Covers a c)
    (hst : Extends s t) : t.Covers a c := by
  intro n hn name hd
  obtain ⟨i, hi⟩ := h n hn name hd
  exact ⟨i, hst.slot? hi⟩

/-- The state between two steps: the definitions in `done` have had their turn, and those pending
have not. Open are the slots of the latter and the handles in `extra`. -/
structure Ready (a : Assembled) (done : List (DefinitionKey × Nat)) (extra : List Nat)
    (s : Arena) : Prop where
  slots : s.slots = done ++ s.pending
  keys : (s.slots.map Prod.fst).Nodup
  handles : (s.slots.map Prod.snd).Nodup
  inside : ∀ p ∈ s.slots, p.2 < s.nodes.size
  opened : ∀ i, s.nodes[i]? = some none ↔ i ∈ extra ++ s.pending.map Prod.snd
  apart : (extra ++ s.pending.map Prod.snd).Nodup
  belongs : ∀ p ∈ s.slots, a.Belongs p.1
  closed : ∀ h n, s.node? h = some n → ∃ t, Reads s.node? h t ∧ s.Closed t

theorem node?_eq_some {s : Arena} {h : Handle} {n : Node} :
    s.node? h = some n ↔ ∃ i : Nat, h = i ∧ s.nodes[i]? = some (some n) := by
  unfold node?
  constructor
  · intro hn
    split at hn
    next hpos => exact ⟨h.toNat, (Int.toNat_of_nonneg hpos).symm, Option.join_eq_some_iff.1 hn⟩
    next => cases hn
  · rintro ⟨i, rfl, hi⟩
    rw [if_pos (Int.natCast_nonneg i), Int.toNat_natCast, hi]
    rfl

/-- A handle more, with nothing written. -/
def push (s : Arena) : Arena := { s with nodes := s.nodes.push none }

/-- A node written at a handle. -/
def fill (s : Arena) (i : Nat) (n : Node) : Arena :=
  { s with nodes := s.nodes.setIfInBounds i (some n) }

/-- A definition with a slot, whose turn is still to come. -/
def reserve (s : Arena) (k : DefinitionKey) (i : Nat) : Arena :=
  { s with slots := s.slots ++ [(k, i)], pending := s.pending ++ [(k, i)] }

theorem node?_push (s : Arena) : s.push.node? = s.node? := by
  funext h
  apply Option.ext
  intro n
  rw [node?_eq_some, node?_eq_some]
  refine exists_congr fun i => and_congr_right fun _ => ?_
  rw [push, Array.getElem?_push]
  split
  next hi => rw [hi, Array.getElem?_size]; simp
  next => rfl

theorem node?_fill {s : Arena} {i : Nat} {n : Node} (hi : s.nodes[i]? = some none) (h : Handle)
    (m : Node) : (s.fill i n).node? h = some m ↔ (h = i ∧ m = n) ∨ s.node? h = some m := by
  rw [node?_eq_some, node?_eq_some, fill]
  obtain ⟨hlt, -⟩ := Array.getElem?_eq_some_iff.1 hi
  constructor
  · rintro ⟨j, rfl, hj⟩
    rw [Array.getElem?_setIfInBounds] at hj
    split at hj
    next he =>
      cases hj
      exact .inl ⟨he ▸ rfl, rfl⟩
    next => exact .inr ⟨j, rfl, hj⟩
  · rintro (⟨rfl, rfl⟩ | ⟨j, rfl, hj⟩)
    · exact ⟨i, rfl, Array.getElem?_setIfInBounds_self_of_lt hlt⟩
    · refine ⟨j, rfl, ?_⟩
      rw [Array.getElem?_setIfInBounds_ne, hj]
      rintro rfl
      cases hi.symm.trans hj

theorem push_extends (s : Arena) : Extends s s.push :=
  ⟨by rw [node?_push]; exact .refl _, List.prefix_rfl⟩

theorem reserve_extends (s : Arena) (k : DefinitionKey) (i : Nat) : Extends s (s.reserve k i) :=
  ⟨.refl _, List.prefix_append _ _⟩

namespace Ready

variable {a : Assembled} {done : List (DefinitionKey × Nat)} {extra : List Nat} {s : Arena}

theorem lt_size (h : Ready a done extra s) {i : Nat} (hi : i ∈ extra ++ s.pending.map Prod.snd) :
    i < s.nodes.size :=
  (Array.getElem?_eq_some_iff.1 ((h.opened i).2 hi)).1

theorem push (h : Ready a done extra s) : Ready a done (s.nodes.size :: extra) s.push where
  slots := h.slots
  keys := h.keys
  handles := h.handles
  inside p hp := by
    rw [Arena.push, Array.size_push]
    exact Nat.lt_succ_of_lt (h.inside p hp)
  opened i := by
    rw [Arena.push, Array.getElem?_push, List.cons_append, List.mem_cons, ← h.opened]
    split
    next hi => simp only [hi, true_or]
    next hi => simp only [hi, false_or]
  apart := List.nodup_cons.2 ⟨fun hm => Nat.lt_irrefl _ (h.lt_size hm), h.apart⟩
  belongs := h.belongs
  closed i n hn := by
    rw [node?_push] at hn ⊢
    exact h.closed i n hn

theorem fill {i : Nat} (h : Ready a done (i :: extra) s) {n : Node} {t : Tree}
    (hread : ∀ node, Keeps s.node? node → node i = some n → Reads node i t) (ht : s.Closed t) :
    Ready a done extra (s.fill i n) ∧ Extends s (s.fill i n) ∧ Reads (s.fill i n).node? i t := by
  have hi : s.nodes[i]? = some none := (h.opened i).2 (List.mem_append_left _ List.mem_cons_self)
  have hnot := (List.nodup_cons.1 h.apart).1
  have hkeeps : Keeps s.node? (s.fill i n).node? := fun j m hm => (node?_fill hi j m).2 (.inr hm)
  have hreads : Reads (s.fill i n).node? i t :=
    hread _ hkeeps ((node?_fill hi i n).2 (.inl ⟨rfl, rfl⟩))
  refine ⟨{ h with inside := ?inside, opened := ?opened, apart := ?apart, closed := ?closed },
    ⟨hkeeps, List.prefix_rfl⟩, hreads⟩
  case inside =>
    intro p hp
    rw [Arena.fill, Array.size_setIfInBounds]
    exact h.inside p hp
  case opened =>
    intro j
    rw [Arena.fill, Array.getElem?_setIfInBounds]
    split
    next hj =>
      subst j
      rw [if_pos (Array.getElem?_eq_some_iff.1 hi).1]
      constructor
      · intro hn
        cases hn
      · intro hm
        exact absurd hm hnot
    next hj =>
      rw [h.opened, List.cons_append, List.mem_cons, or_iff_right (Ne.symm hj)]
  case apart => exact (List.nodup_cons.1 h.apart).2
  case closed =>
    intro j m hm
    rcases (node?_fill hi j m).1 hm with ⟨rfl, rfl⟩ | hm
    · exact ⟨t, hreads, ht⟩
    · obtain ⟨t', hr, hc⟩ := h.closed j m hm
      exact ⟨t', hr.mono hkeeps, hc⟩

theorem reserve {i : Nat} (h : Ready a done (i :: extra) s) {k : DefinitionKey}
    (hk : s.slot? k = none) (hi : i ∉ s.slots.map Prod.snd) (hb : a.Belongs k) :
    Ready a done extra (s.reserve k i) where
  slots := by rw [Arena.reserve, h.slots, List.append_assoc]
  keys := by
    rw [Arena.reserve, List.map_append, List.map_singleton, ← List.concat_eq_append]
    apply h.keys.concat
    intro hm
    rw [← Table.isSome_lookup, Option.isSome_iff_ne_none] at hm
    exact hm (Option.map_eq_none_iff.1 hk)
  handles := by
    rw [Arena.reserve, List.map_append, List.map_singleton, ← List.concat_eq_append]
    exact h.handles.concat hi
  inside p hp := by
    rcases List.mem_append.1 hp with hp | hp
    · exact h.inside p hp
    · rw [List.mem_singleton.1 hp]
      exact h.lt_size (List.mem_append_left _ List.mem_cons_self)
  opened j := by
    rw [Arena.reserve, h.opened, List.map_append, ← List.append_assoc]
    exact (List.perm_append_comm : ([i] ++ (extra ++ s.pending.map Prod.snd)).Perm _).mem_iff
  apart := by
    rw [Arena.reserve, List.map_append, ← List.append_assoc]
    exact List.nodup_append_comm.1 h.apart
  belongs p hp := by
    rcases List.mem_append.1 hp with hp | hp
    · exact h.belongs p hp
    · rw [List.mem_singleton.1 hp]
      exact hb
  closed j n hn := by
    obtain ⟨t, hr, hc⟩ := h.closed j n hn
    exact ⟨t, hr, hc.extend (s.reserve_extends k i)⟩

/-- The first pending definition has its turn. -/
theorem turn (h : Ready a done [] s) {p : DefinitionKey × Nat}
    {pending : List (DefinitionKey × Nat)}
    (hp : s.pending = p :: pending) : Ready a (done ++ [p]) [p.2] { s with pending } where
  slots := by rw [List.append_assoc, List.singleton_append, ← hp, h.slots]
  keys := h.keys
  handles := h.handles
  inside := h.inside
  opened i := by
    have hi := h.opened i
    rw [hp] at hi
    exact hi
  apart := by
    have hapart := h.apart
    rw [hp] at hapart
    exact hapart
  belongs := h.belongs
  closed := h.closed

end Ready

end Arena

end RelaxCompact
