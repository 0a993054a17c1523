import RelaxCompact.Proofs.Querying.Handles

/-!
The walk through an arena comes to every handle that can be reached, and to each once, in whatever
way nodes are shared or lead back.
-/

namespace RelaxCompact

/-- The children that have not been seen. -/
def Node.fresh (n : Node) (seen : List Handle) : List Handle :=
  (n.children.filter (· ∉ seen)).eraseDups

theorem Node.mem_fresh {n : Node} {seen : List Handle} {c : Handle} :
    c ∈ n.fresh seen ↔ c ∈ n.children ∧ c ∉ seen := by
  rw [fresh, List.mem_eraseDups, List.mem_filter, decide_eq_true_iff]

theorem Node.nodup_fresh (n : Node) (seen : List Handle) : (n.fresh seen).Nodup :=
  nodup_eraseDups _

namespace Schema

variable {s : Schema} {h : Handle} {n : Node} {seen stack order : List Handle}

theorem walkFrom_cons (hn : s.node? h = some n) (budget : Nat) (seen stack : List Handle) :
    s.walkFrom (budget + 1) seen (h :: stack) =
      (s.walkFrom budget (n.fresh seen ++ seen) (n.fresh seen ++ stack)).map (h :: ·) := by
  rw [walkFrom, children_of_node? hn]
  rfl

/-- What a walk gives that goes on from a stack: the handles on the stack, which have all been seen,
and those unseen that can be reached from there. -/
structure Yields (s : Schema) (seen stack order : List Handle) : Prop where
  first : order.head? = stack.head?
  nodup : order.Nodup
  stacked : stack ⊆ order
  unseen : ∀ x ∈ order, x ∈ stack ∨ x ∉ seen
  reached : ∀ x ∈ order, ∃ h ∈ stack, Relation.ReflTransGen s.Child h x
  followed : ∀ x ∈ order, ∀ c, s.Child x c → c ∈ seen ∨ c ∈ order

theorem Yields.nil (s : Schema) (seen : List Handle) : s.Yields seen [] [] :=
  ⟨rfl, List.nodup_nil, List.nil_subset _, nofun, nofun, nofun⟩

/-- A handle is visited, and its fresh children come onto the stack. -/
theorem Yields.visit (hn : s.node? h = some n) (hseen : h :: stack ⊆ seen)
    (hstack : (h :: stack).Nodup)
    (hy : s.Yields (n.fresh seen ++ seen) (n.fresh seen ++ stack) order) :
    s.Yields seen (h :: stack) (h :: order) := by
  obtain ⟨hh, hstack⟩ := List.nodup_cons.1 hstack
  obtain ⟨hhseen, hseen⟩ := List.cons_subset.1 hseen
  refine ⟨rfl, List.nodup_cons.2 ⟨fun hmem => ?again, hy.nodup⟩, ?stacked, ?unseen, ?reached,
    ?followed⟩
  case again =>
    rcases hy.unseen h hmem with hmem | hnot
    · rcases List.mem_append.1 hmem with hmem | hmem
      · exact (Node.mem_fresh.1 hmem).2 hhseen
      · exact hh hmem
    · exact hnot (List.mem_append_right _ hhseen)
  case stacked =>
    apply List.cons_subset_cons
    exact fun x hx => hy.stacked (List.mem_append_right _ hx)
  case unseen =>
    intro x hx
    rcases List.mem_cons.1 hx with rfl | hx
    · exact .inl List.mem_cons_self
    · rcases hy.unseen x hx with hx | hx
      · rcases List.mem_append.1 hx with hx | hx
        · exact .inr (Node.mem_fresh.1 hx).2
        · exact .inl (List.mem_cons_of_mem _ hx)
      · exact .inr fun hmem => hx (List.mem_append_right _ hmem)
  case reached =>
    intro x hx
    rcases List.mem_cons.1 hx with rfl | hx
    · exact ⟨x, List.mem_cons_self, .refl⟩
    · obtain ⟨g, hg, hway⟩ := hy.reached x hx
      rcases List.mem_append.1 hg with hg | hg
      · exact ⟨h, List.mem_cons_self, .head ⟨n, hn, (Node.mem_fresh.1 hg).1⟩ hway⟩
      · exact ⟨g, List.mem_cons_of_mem _ hg, hway⟩
  case followed =>
    have hfresh {c : Handle} (hc : c ∈ n.fresh seen) : c ∈ h :: order :=
      List.mem_cons_of_mem _ (hy.stacked (List.mem_append_left _ hc))
    intro x hx c hc
    rcases List.mem_cons.1 hx with rfl | hx
    · obtain ⟨m, hm, hc⟩ := hc
      cases hn.symm.trans hm
      by_cases hmem : c ∈ seen
      · exact .inl hmem
      · exact .inr (hfresh (Node.mem_fresh.2 ⟨hc, hmem⟩))
    · rcases hy.followed x hx c hc with hmem | hmem
      · rcases List.mem_append.1 hmem with hmem | hmem
        · exact .inr (hfresh hmem)
        · exact .inl hmem
      · exact .inr (List.mem_cons_of_mem _ hmem)

/-- The fresh children of a node on the stack take its place there. -/
theorem nodup_fresh_append (n : Node) (hseen : stack ⊆ seen) (hstack : stack.Nodup) :
    (n.fresh seen ++ stack).Nodup := by
  refine List.nodup_append.2 ⟨n.nodup_fresh seen, hstack, ?_⟩
  rintro x hx _ hy rfl
  exact (Node.mem_fresh.1 hx).2 (hseen hy)

/-- A walk goes on to its end, as long as the budget is that of all handles not yet seen. -/
theorem walkFrom_yields (hs : s.Closed) {budget : Nat} (hplaces : ∀ h ∈ stack, s.Addresses h)
    (hseen : stack ⊆ seen) (hstack : stack.Nodup)
    (hbudget : stack.length + unmet s.offspring seen ≤ budget) :
    ∃ order, s.walkFrom budget seen stack = .ok order ∧ s.Yields seen stack order := by
  induction budget generalizing seen stack with
  | zero =>
    cases stack with
    | nil => exact ⟨[], by rw [walkFrom], .nil s seen⟩
    | cons h stack => simp at hbudget
  | succ budget ih =>
    cases stack with
    | nil => exact ⟨[], by rw [walkFrom], .nil s seen⟩
    | cons h stack =>
      obtain ⟨n, hn⟩ := (hplaces h List.mem_cons_self).exists_node
      obtain ⟨hhseen, hrest⟩ := List.cons_subset.1 hseen
      have hunmet : unmet s.offspring (n.fresh seen ++ seen) + (n.fresh seen).length ≤
          unmet s.offspring seen :=
        unmet_append (n.nodup_fresh seen)
          (fun c hc => mem_offspring hn (Node.mem_fresh.1 hc).1) fun c hc => (Node.mem_fresh.1 hc).2
      have hplaces' : ∀ c ∈ n.fresh seen ++ stack, s.Addresses c := by
        intro c hc
        rcases List.mem_append.1 hc with hc | hc
        · exact hs.child hn (Node.mem_fresh.1 hc).1
        · exact hplaces c (List.mem_cons_of_mem _ hc)
      have hseen' : n.fresh seen ++ stack ⊆ n.fresh seen ++ seen :=
        List.append_subset.2 ⟨List.subset_append_left _ _,
          List.subset_append_of_subset_right _ hrest⟩
      have hbudget' : (n.fresh seen ++ stack).length + unmet s.offspring (n.fresh seen ++ seen) ≤
          budget := by
        rw [List.length_cons] at hbudget
        rw [List.length_append]
        omega
      obtain ⟨order, hwalk, hy⟩ := ih hplaces' hseen'
        (nodup_fresh_append n hrest (List.nodup_cons.1 hstack).2) hbudget'
      exact ⟨h :: order, by rw [walkFrom_cons hn, hwalk]; rfl, hy.visit hn hseen hstack⟩

theorem walk_yields (hs : s.Closed) (hh : s.Addresses h) :
    ∃ order, s.walk h = .ok order ∧ s.Yields [h] [h] order := by
  apply walkFrom_yields hs
  · intro x hx
    rw [List.mem_singleton.1 hx]
    exact hh
  · exact List.Subset.refl _
  · exact List.nodup_singleton h
  · have hle := unmet_le s.offspring [h]
    rw [length_offspring] at hle
    rw [List.length_singleton]
    omega

end Schema

/-- In an arena in which all children stand for places a walk ends. It begins with the handle it
starts from, and gives just those that can be reached through children, each once. -/
theorem walk_reaches {s : Schema} (hs : s.Closed) {h : Handle} (hh : s.Addresses h) :
    ∃ order, s.walk h = .ok order ∧ order.head? = some h ∧ order.Nodup ∧
      ∀ x, x ∈ order ↔ Relation.ReflTransGen s.Child h x := by
  obtain ⟨order, hwalk, hy⟩ := Schema.walk_yields hs hh
  refine ⟨order, hwalk, hy.first, hy.nodup, fun x => ⟨fun hx => ?reached, fun hway => ?complete⟩⟩
  case reached =>
    obtain ⟨g, hg, hway⟩ := hy.reached x hx
    cases List.mem_singleton.1 hg
    exact hway
  case complete =>
    have hstart : h ∈ order := hy.stacked (List.mem_singleton_self h)
    induction hway with
    | refl => exact hstart
    | tail _ hc ih =>
      rcases hy.followed _ ih _ hc with hmem | hmem
      · rwa [List.mem_singleton.1 hmem]
      · exact hmem

namespace Looped

/-- `0` is the choice of `1` and `2`, `1` refers back to `0`, and `2` is the group of itself and
`1`. -/
def looped : Schema where
  start := 0
  nodes := #[.binary .choice 1 2, .ref "x" 0, .binary .group 2 1, .leaf .text]

theorem walk_reaches_looped :
    looped.Closed ∧ looped.Addresses 0 ∧ looped.walk 0 = .ok [0, 1, 2] ∧
      ∀ x, x ∈ ([0, 1, 2] : List Handle) ↔ Relation.ReflTransGen looped.Child 0 x := by
  have hclosed : looped.Closed := by decide
  have hplace : looped.Addresses 0 := by decide
  have hwalk : looped.walk 0 = .ok [0, 1, 2] := by rfl
  obtain ⟨order, horder, -, -, hmem⟩ := walk_reaches hclosed hplace
  cases hwalk.symm.trans horder
  exact ⟨hclosed, hplace, hwalk, hmem⟩

end Looped

end RelaxCompact

/-! The order of a walk. Handles are marked when they come onto the stack, and one that waits there
may be overtaken by what a recursive search would visit after it. This needs a handle that is a
later child of one node and a child of another, and the schema of an assembled grammar has none:
there a walk goes in preorder. -/

namespace RelaxCompact

namespace Schema

/-- A recursive search through handles, one after another: what was visited before is passed over,
and any other handle is visited and then its children are searched. -/
inductive Preorder (s : Schema) : (visited handles after : List Handle) → Prop
  | nil {visited} : Preorder s visited [] visited
  | skip {visited h handles after} : h ∈ visited → Preorder s visited handles after →
    Preorder s visited (h :: handles) after
  | visit {visited h n handles below after} : h ∉ visited → s.node? h = some n →
    Preorder s (visited ++ [h]) n.children below → Preorder s below handles after →
    Preorder s visited (h :: handles) after

variable {s : Schema} {h : Handle} {n : Node} {visited handles after seen stack : List Handle}

namespace Preorder

theorem subset (hp : s.Preorder visited handles after) : visited ⊆ after := by
  induction hp with
  | nil => exact List.Subset.refl _
  | skip _ _ ih => exact ih
  | visit _ _ _ _ ihBelow ih =>
    exact List.Subset.trans (List.Subset.trans (List.subset_append_left _ _) ihBelow) ih

theorem unique {after' : List Handle} (hp : s.Preorder visited handles after)
    (hp' : s.Preorder visited handles after') : after = after' := by
  induction hp generalizing after' with
  | nil =>
    cases hp'
    rfl
  | skip hh _ ih =>
    cases hp' with
    | skip _ hp' => exact ih hp'
    | visit hnot => exact absurd hh hnot
  | visit hnot hn _ _ ihBelow ih =>
    cases hp' with
    | skip hh => exact absurd hh hnot
    | visit _ hn' hbelow hp' =>
      cases hn.symm.trans hn'
      cases ihBelow hbelow
      exact ih hp'

theorem split {first rest : List Handle} (hp : s.Preorder visited (first ++ rest) after) :
    ∃ between, s.Preorder visited first between ∧ s.Preorder between rest after := by
  induction first generalizing visited with
  | nil => exact ⟨visited, .nil, hp⟩
  | cons h first ih =>
    cases hp with
    | skip hh hp =>
      obtain ⟨between, hfirst, hrest⟩ := ih hp
      exact ⟨between, .skip hh hfirst, hrest⟩
    | visit hnot hn hbelow hp =>
      obtain ⟨between, hfirst, hrest⟩ := ih hp
      exact ⟨between, .visit hnot hn hbelow hfirst, hrest⟩

/-- Handles that were visited may as well stand among those to search. -/
theorem of_filter {first rest : List Handle}
    (hp : s.Preorder visited (first.filter (· ∉ seen) ++ rest) after)
    (hvisited : ∀ c ∈ first, c ∈ seen → c ∈ visited) :
    s.Preorder visited (first ++ rest) after := by
  induction first generalizing visited with
  | nil => exact hp
  | cons c first ih =>
    have htail : ∀ x ∈ first, x ∈ seen → x ∈ visited :=
      fun x hx => hvisited x (List.mem_cons_of_mem _ hx)
    by_cases hc : c ∈ seen
    · rw [List.filter_cons_of_neg (by simp [hc])] at hp
      exact .skip (hvisited c List.mem_cons_self hc) (ih hp htail)
    · rw [List.filter_cons_of_pos (by simp [hc])] at hp
      cases hp with
      | skip hmem hp => exact .skip hmem (ih hp htail)
      | visit hnot hn hbelow hp =>
        refine .visit hnot hn hbelow (ih hp fun x hx hseen => hbelow.subset ?_)
        exact List.mem_append_left _ (htail x hx hseen)

end Preorder

/-- Only the first child of a node may be a child elsewhere. -/
structure Branching (s : Schema) : Prop where
  inside : ∀ n ∈ s.nodes, ∀ c ∈ n.children, 0 ≤ c ∧ c < s.nodes.size
  nodup : ∀ n ∈ s.nodes, n.children.Nodup
  owned : ∀ (i j : Nat) n m, s.nodes[i]? = some n → s.nodes[j]? = some m →
    ∀ c ∈ n.children.tail, c ∈ m.children → i = j

theorem Branching.fresh_eq (hs : s.Branching) (hn : s.node? h = some n) (seen : List Handle) :
    n.fresh seen = n.children.filter (· ∉ seen) :=
  eraseDups_of_nodup ((hs.nodup n (mem_of_node? hn)).filter _)

theorem Branching.eq_of_tail (hs : s.Branching) (hh : 0 ≤ h) (hn : s.node? h = some n)
    {c p : Handle} (hc : c ∈ n.children.tail) (hp : 0 ≤ p) (hchild : s.Child p c) : p = h := by
  obtain ⟨m, hm, hcm⟩ := hchild
  have hplace := hs.owned _ _ n m (getElem?_of_node? hh hn) (getElem?_of_node? hp hm) c hc hcm
  rw [← Int.toNat_of_nonneg hp, ← Int.toNat_of_nonneg hh, hplace]

/-- A walk between two visits. All parents of what waits on the stack below its top have been
visited. -/
structure Underway (s : Schema) (visited stack seen : List Handle) : Prop where
  seen : ∀ x, x ∈ seen ↔ x ∈ visited ∨ x ∈ stack
  nodup : stack.Nodup
  apart : ∀ x ∈ stack, x ∉ visited
  places : ∀ x ∈ stack, 0 ≤ x ∧ x < s.nodes.size
  waiting : ∀ x ∈ stack.tail, ∀ p, 0 ≤ p → s.Child p x → p ∈ visited

namespace Underway

theorem start (hh : 0 ≤ h ∧ h < s.nodes.size) : s.Underway [] [h] [h] where
  seen x := by simp
  nodup := List.nodup_singleton h
  apart _ _ := List.not_mem_nil
  places x hx := by
    rw [List.mem_singleton.1 hx]
    exact hh
  waiting := nofun

/-- A child of the top that has been seen has been visited too: it does not wait. -/
theorem visited_of_seen (hu : s.Underway visited (h :: stack) seen) (hn : s.node? h = some n)
    {c : Handle} (hc : c ∈ n.children) (hseen : c ∈ seen) : c ∈ visited ++ [h] := by
  rcases (hu.seen c).1 hseen with hmem | hmem
  · exact List.mem_append_left _ hmem
  · rcases List.mem_cons.1 hmem with rfl | hmem
    · exact List.mem_append_right _ (List.mem_singleton_self c)
    · have hpos := (hu.places h List.mem_cons_self).1
      exact absurd (hu.waiting c hmem h hpos ⟨n, hn, hc⟩) (hu.apart h List.mem_cons_self)

theorem visit (hu : s.Underway visited (h :: stack) seen) (hs : s.Branching)
    (hn : s.node? h = some n) :
    s.Underway (visited ++ [h]) (n.fresh seen ++ stack) (n.fresh seen ++ seen) := by
  have hpos := (hu.places h List.mem_cons_self).1
  obtain ⟨hh, hstack⟩ := List.nodup_cons.1 hu.nodup
  have hstackSeen : stack ⊆ seen := fun x hx => (hu.seen x).2 (.inr (List.mem_cons_of_mem _ hx))
  have hwaiting : ∀ x ∈ stack, ∀ p, 0 ≤ p → s.Child p x → p ∈ visited ++ [h] :=
    fun x hx p hp hchild => List.mem_append_left _ (hu.waiting x hx p hp hchild)
  refine ⟨?seen, nodup_fresh_append n hstackSeen hstack, ?apart, ?places, ?waiting⟩
  case seen =>
    intro x
    simp only [List.mem_append, hu.seen x, List.mem_cons]
    tauto
  case apart =>
    intro x hx hmem
    have hseen : x ∈ seen := by
      rw [hu.seen]
      rcases List.mem_append.1 hmem with hmem | hmem
      · exact .inl hmem
      · exact .inr (List.mem_singleton.1 hmem ▸ List.mem_cons_self)
    rcases List.mem_append.1 hx with hx | hx
    · exact (Node.mem_fresh.1 hx).2 hseen
    · rcases List.mem_append.1 hmem with hmem | hmem
      · exact hu.apart x (List.mem_cons_of_mem _ hx) hmem
      · exact hh (List.mem_singleton.1 hmem ▸ hx)
  case places =>
    intro x hx
    rcases List.mem_append.1 hx with hx | hx
    · exact hs.inside n (mem_of_node? hn) x (Node.mem_fresh.1 hx).1
    · exact hu.places x (List.mem_cons_of_mem _ hx)
  case waiting =>
    intro x hx p hp hchild
    have hsub : (n.fresh seen).tail ⊆ n.children.tail := by
      rw [hs.fresh_eq hn]
      exact (List.filter_sublist.tail).subset
    cases hfresh : n.fresh seen with
    | nil =>
      rw [hfresh] at hx
      exact hwaiting x (List.mem_of_mem_tail hx) p hp hchild
    | cons c fresh =>
      rw [hfresh] at hx hsub
      rcases List.mem_append.1 hx with hx | hx
      · rw [hs.eq_of_tail hpos hn (hsub hx) hp hchild]
        exact List.mem_append_right _ (List.mem_singleton_self h)
      · exact hwaiting x hx p hp hchild

end Underway

theorem walkFrom_preorder (hs : s.Branching) {budget : Nat} {order : List Handle}
    (hu : s.Underway visited stack seen) (hwalk : s.walkFrom budget seen stack = .ok order) :
    s.Preorder visited stack (visited ++ order) := by
  induction budget generalizing visited stack seen order with
  | zero =>
    cases stack with
    | nil =>
      cases hwalk
      rw [List.append_nil]
      exact .nil
    | cons h stack => cases hwalk
  | succ budget ih =>
    cases stack with
    | nil =>
      cases hwalk
      rw [List.append_nil]
      exact .nil
    | cons h stack =>
      obtain ⟨hpos, hlt⟩ := hu.places h List.mem_cons_self
      obtain ⟨n, hn⟩ := Addresses.exists_node (s := s) (h := h) ⟨by lia, hlt⟩
      rw [walkFrom_cons hn] at hwalk
      cases hrest : s.walkFrom budget (n.fresh seen ++ seen) (n.fresh seen ++ stack) with
      | error e =>
        rw [hrest] at hwalk
        cases hwalk
      | ok rest =>
        rw [hrest] at hwalk
        cases hwalk
        have hp := ih (hu.visit hs hn) hrest
        rw [hs.fresh_eq hn] at hp
        obtain ⟨below, hbelow, hafter⟩ :=
          (hp.of_filter fun c hc hseen => hu.visited_of_seen hn hc hseen).split
        rw [List.append_cons]
        exact .visit (hu.apart h List.mem_cons_self) hn hbelow hafter

/-- Only the bodies of definitions are shared in a resolved schema, and references, which alone lead
to them, have one child. -/
theorem branching_of_resolve {a : Assembled} (ha : a.resolve = .ok s) : s.Branching := by
  obtain ⟨arena, hf, howned, hnodes, -⟩ := Resolve.exists_finished ha
  have hpartitioned := howned.partitioned hnodes
  have hsingle {n : Node} (href : n.isReference) : ∃ c, n.children = [c] := by
    cases n with
    | ref name target | parentRef name target => exact ⟨target, rfl⟩
    | _ => cases href
  refine ⟨fun n hn c => child_inside ha hn, ?nodup, ?owned⟩
  case nodup =>
    intro n hn
    by_cases href : n.isReference
    · obtain ⟨c, hc⟩ := hsingle href
      rw [hc]
      exact List.nodup_singleton c
    · have hparts := hpartitioned.nodup_parts hn
      rwa [Node.parts, if_neg href] at hparts
  case owned =>
    intro i j n m hi hj c hc hcm
    have hn := Array.mem_of_getElem? hi
    have href : ¬ n.isReference := by
      intro href
      obtain ⟨t, ht⟩ := hsingle href
      rw [ht] at hc
      cases hc
    have hpart : c ∈ n.parts := Node.mem_parts (List.mem_of_mem_tail hc) href
    obtain ⟨k, -, rfl⟩ := hpartitioned.inside_of_mem_parts hn hpart
    have hnot : ¬ m.isReference := by
      intro href
      have hslot := hf.mem_handles.2 (hf.target_slot hnodes hj href hcm)
      exact hpartitioned.not_mem_parts hslot hn hpart
    exact hpartitioned.owns_unique ⟨n, hi, hpart⟩ ⟨m, hj, Node.mem_parts hcm hnot⟩

end Schema

/-- In the schema of an assembled grammar a walk from any handle visits the handles in the order of
the recursive search, depth first and from left to right. -/
theorem walk_in_preorder {a : Assembled} {s : Schema} (ha : a.resolve = .ok s) {h : Handle}
    (hh : 0 ≤ h ∧ h < s.nodes.size) :
    ∃ order, s.walk h = .ok order ∧ ∀ order', s.Preorder [] [h] order' ↔ order' = order := by
  have hplace : s.Addresses h := ⟨by lia, hh.2⟩
  obtain ⟨order, hwalk, -⟩ := Schema.walk_yields (Schema.closed_of_resolve ha) hplace
  have hp : s.Preorder [] [h] order :=
    Schema.walkFrom_preorder (Schema.branching_of_resolve ha) (.start hh) hwalk
  refine ⟨order, hwalk, fun order' => ⟨fun hp' => hp'.unique hp, ?_⟩⟩
  rintro rfl
  exact hp

theorem Nesting.walk_in_preorder_nesting :
    ∃ schema, assembled.resolve = .ok schema ∧
      (0 ≤ (1 : Handle) ∧ (1 : Handle) < schema.nodes.size) ∧
      ∀ order, schema.Preorder [] [1] order ↔ order = [1, 6, 5, 2, 3, 4, 8, 7, 9] := by
  have hwalk : (assembled.resolve.map (·.walk 1)).toOption =
      some (.ok [1, 6, 5, 2, 3, 4, 8, 7, 9]) := by cbv
  obtain ⟨schema, hschema, hsize⟩ := exists_schema
  have hh : 0 ≤ (1 : Handle) ∧ (1 : Handle) < schema.nodes.size := by
    rw [hsize]
    decide
  rw [hschema] at hwalk
  obtain ⟨order, horder, hp⟩ := walk_in_preorder hschema hh
  cases (Option.some.inj hwalk).symm.trans horder
  exact ⟨schema, hschema, hh, hp⟩

/-- Where parts are shared a walk may leave preorder: `2` waits on the stack while `1`, its other
parent, is visited, and `3` overtakes it. -/
example :
    let s : Schema := { start := 0
                        nodes := #[.binary .choice 1 2, .binary .group 2 3, .leaf .text,
                          .leaf .empty] }
    s.walk 0 = .ok [0, 1, 3, 2] := by
  rfl

end RelaxCompact
