import RelaxCompact.Proofs.Resolution.Arena

/-!
How patterns get into the arena. Each step keeps the arena ready; a step that writes gives a handle
under which the tree of its pattern is read back.
-/

namespace RelaxCompact

open Run Arena

namespace Resolve

section

variable {a : Assembled} {done : List (DefinitionKey × Nat)} {extra : List Nat} {s : Arena}
  {P : Prop}

theorem allocate_ends (s : Arena) :
    Ends allocate s P fun i t => i = s.nodes.size ∧ t = s.push := ⟨rfl, rfl⟩

/-- A node is stored in an open slot, or else at a new handle. -/
theorem store_ends {slot : Option Nat} (h : Ready a done (slot.toList ++ extra) s) {n : Node}
    {tree : Tree}
    (hread : ∀ node (i : Nat), Keeps s.node? node → node i = some n → Reads node i tree)
    (htree : s.Closed tree) :
    Ends (store n slot) s P fun i t => Ready a done extra t ∧ Extends s t ∧ t.Shows i tree ∧
      ∀ j, slot = some j → i = j := by
  cases slot with
  | some j =>
    obtain ⟨ht, hst, hr⟩ := Ready.fill h (fun node => hread node j) htree
    refine ⟨ht, hst, ⟨hr, htree.extend hst⟩, ?_⟩
    rintro _ ⟨⟩
    rfl
  | none =>
    refine (allocate_ends s).bind fun i t ⟨hi, ht⟩ => ?_
    subst i t
    have hst := s.push_extends
    obtain ⟨hu, htu, hr⟩ := h.push.fill (fun node hk => hread node _ (hst.keeps.trans hk))
      (htree.extend hst)
    refine ⟨hu, hst.trans htu, ⟨hr, htree.extend (hst.trans htu)⟩, ?_⟩
    rintro _ ⟨⟩

theorem slotOf_ends (h : Ready a done extra s) {k : DefinitionKey} (hk : a.Belongs k) :
    Ends (slotOf k) s P fun i t => Ready a done extra t ∧ Extends s t ∧ t.slot? k = some ↑i := by
  apply Ends.get
  cases hl : Table.lookup k s.slots with
  | some i => exact ⟨h, .refl s, congrArg (Option.map Int.ofNat) hl⟩
  | none =>
    refine (allocate_ends s).bind fun i t ⟨hi, ht⟩ => ?_
    subst i t
    have hnone : s.push.slot? k = none := Option.map_eq_none_iff.2 hl
    have hnew : s.nodes.size ∉ s.push.slots.map Prod.snd := by
      intro hm
      obtain ⟨p, hp, he⟩ := List.mem_map.1 hm
      exact Nat.lt_irrefl _ (he ▸ h.inside p hp)
    refine ⟨h.push.reserve hnone hnew hk, s.push_extends.trans (s.push.reserve_extends _ _), ?_⟩
    change Option.map _ (Table.lookup k (s.slots ++ _)) = _
    rw [Table.lookup_append, hl, Table.lookup, if_pos rfl]
    rfl

/-- All definitions of a grammar that belong to the schema get slots. -/
theorem reserve_ends (h : Ready a done extra s) {number : Nat} {g : Grammar}
    (hg : ∀ name ∈ g.definitions.keys, a.Belongs ⟨number, name⟩) :
    Ends (reserve number g) s P fun _ t => Ready a done extra t ∧ Extends s t ∧
      ∀ name ∈ g.definitions.keys, ∃ i, t.slot? ⟨number, name⟩ = some i := by
  unfold reserve
  generalize g.definitions.keys = names at hg
  induction names generalizing s with
  | nil => exact ⟨h, .refl s, by simp⟩
  | cons name names ih =>
    rw [List.forM_eq_forM, List.forM_cons]
    have hone : Ends (do let _ ← slotOf ⟨number, name⟩) s P fun _ t =>
        Ready a done extra t ∧ Extends s t ∧ ∃ i, t.slot? ⟨number, name⟩ = some i :=
      (slotOf_ends h (hg name List.mem_cons_self)).bind fun i t ⟨ht, hst, hi⟩ => ⟨ht, hst, i, hi⟩
    refine hone.bind fun _ t ⟨ht, hst, i, hi⟩ => ?_
    refine (ih ht fun name' hm => hg name' (List.mem_cons_of_mem _ hm)).mono id
      fun _ u ⟨hu, htu, hall⟩ => ⟨hu, hst.trans htu, ?_⟩
    intro name' hm
    rcases List.mem_cons.1 hm with rfl | hm
    · exact ⟨_, htu.slot? hi⟩
    · exact hall name' hm

/-- Handles are combined as their trees are. -/
theorem combine_ends {op : Connective} {slot : Option Nat}
    (h : Ready a done (slot.toList ++ extra) s) {first : Nat} {others : List Nat}
    (hne : others ≠ []) {tree : Tree} {trees : List Tree} (hfirst : s.Shows first tree)
    (hothers : List.Forall₂ s.Shows others trees) :
    Ends (combine op slot first others) s P fun i t => Ready a done extra t ∧ Extends s t ∧
      t.Shows i (.fold op tree trees) ∧ ∀ j, slot = some j → i = j := by
  induction others generalizing s first tree trees with
  | nil => exact absurd rfl hne
  | cons o others ih =>
    cases hothers with
    | cons ho hothers =>
      rename_i t trees
      have hclosed : s.Closed (.binary op tree t) := by
        intro x hx
        rcases List.mem_append.1 hx with hx | hx
        · exact hfirst.closed x hx
        · exact ho.closed x hx
      have hread (node : Handle → Option Node) (i : Nat) (hk : Keeps s.node? node)
          (hi : node i = some (.binary op first o)) : Reads node i (.binary op tree t) :=
        .binary hi (hfirst.reads.mono hk) (ho.reads.mono hk)
      cases others with
      | nil =>
        cases hothers
        exact store_ends h hread hclosed
      | cons o' others =>
        have h' : Ready a done ((none : Option Nat).toList ++ (slot.toList ++ extra)) s := h
        refine (store_ends h' hread hclosed).bind fun i u ⟨hu, hsu, hi, _⟩ => ?_
        exact (ih hu (List.cons_ne_nil _ _) hi (hothers.imp fun _ _ hs => hs.extend hsu)).mono id
          fun i v ⟨hv, huv, hr⟩ => ⟨hv, hsu.trans huv, hr⟩

/-- A name seen from a scope of a grammar is the one that the grammar defines. -/
theorem lookup_eq (a : Assembled) (number : Nat) (chain : List Nat) (name : DefineName) :
    (grammarAt a number).lookup chain name = a.definition? ⟨number, name⟩ := by
  unfold Grammar.lookup Assembled.definition?
  dsimp only
  split
  next => rfl
  next hnot =>
    cases hd : (grammarAt a number).definitions.get? name with
    | none => rfl
    | some d => exact absurd (.inr (by rw [Table.contains, hd]; rfl)) hnot

theorem target_ends (number : Nat) (chain : List Nat) (name : String) (span : Span) :
    Ends (target a number chain name span) s (a.definition? ⟨number, .named name⟩).isSome
      fun k t => t = s ∧ k = ⟨number, .named name⟩ ∧ (a.definition? k).isSome := by
  unfold target
  rw [lookup_eq]
  cases hd : a.definition? ⟨number, .named name⟩ with
  | none => exact .throw (by simp)
  | some d => exact ⟨rfl, rfl, by rw [hd]; rfl⟩

theorem parentTarget_ends (number : Nat) (name : String) (span : Span) :
    Ends (parentTarget a number name span) s
      (∃ k, (Reference.parentRef name).key? a number = some k ∧ (a.definition? k).isSome)
      fun k t => t = s ∧ ∃ parent, (grammarAt a number).parent = some parent ∧
        k = ⟨parent, .named name⟩ ∧ (a.definition? k).isSome := by
  unfold parentTarget Reference.key?
  cases hp : (grammarAt a number).parent with
  | none => exact .throw (by simp)
  | some parent =>
    dsimp only
    rw [lookup_eq]
    cases hd : a.definition? ⟨parent, .named name⟩ with
    | none => exact .throw (by simp [hd])
    | some d => exact ⟨rfl, parent, rfl, rfl, by rw [hd]; rfl⟩

end

end Resolve

namespace Content

/-- All that a pattern refers to is defined. -/
def Defined (a : Assembled) (number : Nat) (c : Content) : Prop :=
  ∀ r ∈ c.references true, ∃ k, r.key? a number = some k ∧ (a.definition? k).isSome

/-- What a pattern refers to belongs to the schema, if it is defined. -/
structure Admitted (a : Assembled) (number : Nat) (c : Content) : Prop where
  referred : ∀ r ∈ c.references true, ∀ k, r.key? a number = some k → (a.definition? k).isSome →
    a.Belongs k
  nested : ∀ n, Reference.start n ∈ c.references true → ∀ name,
    (a.definition? ⟨n, name⟩).isSome → a.Belongs ⟨n, name⟩

theorem Defined.mono {a : Assembled} {number : Nat} {c c' : Content} (h : c.Defined a number)
    (hsub : c'.references true ⊆ c.references true) : c'.Defined a number :=
  fun r hr => h r (hsub hr)

theorem Admitted.mono {a : Assembled} {number : Nat} {c c' : Content} (h : c.Admitted a number)
    (hsub : c'.references true ⊆ c.references true) : c'.Admitted a number where
  referred r hr := h.referred r (hsub hr)
  nested n hn := h.nested n (hsub hn)

end Content

namespace Resolve

/-- A run from `s` to `t` has written a pattern. With a `chain` the handles may be those of the
operands. -/
structure Wrote (a : Assembled) (done : List (DefinitionKey × Nat)) (extra : List Nat)
    (number : Nat) (chain : Option Connective) (slot : Option Nat) (c : Content) (s : Arena)
    (r : Nat × List Nat) (t : Arena) : Prop where
  ready : Ready a done extra t
  grows : Extends s t
  covers : t.Covers a c
  shown : ∃ tree trees, t.Shows r.1 tree ∧ List.Forall₂ t.Shows r.2 trees ∧
    c.Bound a t.slot? number (.fold (chain.getD .choice) tree trees)
  alone : chain = none → r.2 = []
  place : ∀ j, slot = some j → r.1 = j

section

variable {a : Assembled} {done : List (DefinitionKey × Nat)} {extra : List Nat} {s t : Arena}
  {P : Prop} {number : Nat} {chain : Option Connective} {slot : Option Nat} {c : Content}

theorem Wrote.tree {r : Nat × List Nat} (h : Wrote a done extra number none slot c s r t) :
    ∃ tree, t.Shows r.1 tree ∧ c.Bound a t.slot? number tree := by
  obtain ⟨tree, trees, ht, hts, hb⟩ := h.shown
  rw [h.alone rfl] at hts
  cases hts
  exact ⟨tree, ht, hb⟩

/-- A pattern is written when its node is stored. -/
theorem stored (h : Ready a done (slot.toList ++ extra) t) (hst : Extends s t)
    (hcovers : t.Covers a c) {n : Node} {tree : Tree}
    (hread : ∀ node (i : Nat), Keeps t.node? node → node i = some n → Reads node i tree)
    (htree : t.Closed tree) (hb : c.Bound a t.slot? number tree) :
    Ends (do return (← store n slot, [])) t P (Wrote a done extra number chain slot c s) := by
  refine (store_ends h hread htree).bind fun i u ⟨hu, htu, hi, hj⟩ => ?_
  exact ⟨hu, hst.trans htu, hcovers.extend htu,
    ⟨tree, [], hi, .nil, hb.mono fun k h hk => htu.slot? hk⟩, fun _ => rfl, hj⟩

/-- A pattern is read back from where it was written. -/
theorem write_ends (scopes : List Nat) (hslot : chain ≠ none → slot = none)
    (hc : c.Admitted a number) (h : Ready a done (slot.toList ++ extra) s) :
    Ends (write a number scopes chain slot c) s (c.Defined a number)
      (Wrote a done extra number chain slot c s) := by
  refine write.induct_unfolding a number scopes
    (fun chain slot c step => (chain ≠ none → slot = none) → c.Admitted a number →
      ∀ (extra : List Nat) (s : Arena), Ready a done (slot.toList ++ extra) s →
      Ends step s (c.Defined a number) (Wrote a done extra number chain slot c s))
    ?binary ?unary ?leaf ?named ?ref ?parentRef ?data ?dataExcept ?value ?noStart ?grammar
    chain slot c hslot hc extra s h
  case binary =>
    intro chain slot op left right span ihLeft ihRight hslot hc extra s h
    have hleft : left.references true ⊆ (Content.binary op left right span).references true :=
      List.subset_append_left _ _
    have hright : right.references true ⊆ (Content.binary op left right span).references true :=
      List.subset_append_right _ _
    refine ((ihLeft (fun _ => rfl) (hc.mono hleft) _ s h).mono (·.mono hleft) fun _ _ hw => hw).bind
      fun ⟨first, others⟩ t ht => ?_
    refine ((ihRight (fun _ => rfl) (hc.mono hright) _ t ht.ready).mono (·.mono hright)
      fun _ _ hw => hw).bind fun ⟨last, _⟩ u hu => ?_
    obtain ⟨tree, trees, htree, htrees, hb⟩ := ht.shown
    obtain ⟨r, hr, hbr⟩ := hu.tree
    have htu := hu.grows
    have hothers : List.Forall₂ u.Shows (others ++ [last]) (trees ++ [r]) :=
      List.rel_append (htrees.imp fun _ _ hs => hs.extend htu) (.cons hr .nil)
    have hbound : (Content.binary op left right span).Bound a u.slot? number
        (.fold op tree (trees ++ [r])) := by
      rw [Tree.fold_concat]
      exact .binary (hb.mono fun _ _ hk => htu.slot? hk) hbr
    have hcovers : u.Covers a (.binary op left right span) := by
      intro n hn name hd
      rcases List.mem_append.1 hn with hn | hn
      · exact (ht.covers.extend htu) n hn name hd
      · exact hu.covers n hn name hd
    dsimp only
    split
    next hchain =>
      have hs : slot = none := hslot (by rw [hchain]; exact Option.some_ne_none op)
      subst hs
      refine ⟨hu.ready, ht.grows.trans htu, hcovers,
        ⟨tree, trees ++ [r], htree.extend htu, hothers, ?_⟩, ?_, by rintro _ ⟨⟩⟩
      · rw [hchain]
        exact hbound
      · rw [hchain]
        rintro ⟨⟩
    next =>
      refine (combine_ends hu.ready (by simp) (htree.extend htu) hothers).bind
        fun i v ⟨hv, huv, hi, hj⟩ => ?_
      exact ⟨hv, ht.grows.trans (htu.trans huv), hcovers.extend huv,
        ⟨_, [], hi, .nil, hbound.mono fun _ _ hk => huv.slot? hk⟩, fun _ => rfl, hj⟩
  case unary =>
    intro chain slot modifier content span ih _ hc extra s h
    refine ((ih (fun _ => rfl) ⟨hc.referred, hc.nested⟩ _ s h).mono id fun _ _ hw => hw).bind
      fun ⟨i, _⟩ t ht => ?_
    obtain ⟨tree, hi, hb⟩ := ht.tree
    exact stored (c := .unary modifier content span) ht.ready ht.grows ht.covers
      (fun _ _ hk hn => .unary hn (hi.reads.mono hk)) hi.closed (.unary hb)
  case leaf =>
    intro chain slot leaf span _ hc extra s h
    exact stored h (.refl s) (.of_not_mem (by simp [Content.references]))
      (fun _ _ _ hn => .leaf hn) (by simp [Closed, Tree.targets]) .leaf
  case named =>
    intro chain slot holder name content span ih _ hc extra s h
    refine ((ih (fun _ => rfl) ⟨hc.referred, hc.nested⟩ _ s h).mono id fun _ _ hw => hw).bind
      fun ⟨i, _⟩ t ht => ?_
    obtain ⟨tree, hi, hb⟩ := ht.tree
    exact stored (c := .named holder name content span) ht.ready ht.grows ht.covers
      (fun _ _ hk hn => .named hn (hi.reads.mono hk)) hi.closed (.named hb)
  case ref =>
    intro chain slot name span _ hc extra s h
    have hr : Reference.ref name ∈ (Content.ref name span).references true :=
      List.mem_singleton_self _
    refine ((target_ends number scopes name span).mono (fun hd => ?_) fun _ _ ht => ht).bind
      fun k t ⟨ht, hk, hd⟩ => ?_
    · obtain ⟨k, hk, hd⟩ := hd _ hr
      cases hk
      exact hd
    · subst ht hk
      refine (slotOf_ends h (hc.referred _ hr _ rfl hd)).bind fun i u ⟨hu, hsu, hi⟩ => ?_
      refine stored hu hsu (.of_not_mem (by simp [Content.references])) (fun _ _ _ hn => .ref hn)
        ?_ (.ref hi)
      intro x hx
      cases List.mem_singleton.1 hx
      exact ⟨_, hi⟩
  case parentRef =>
    intro chain slot name span _ hc extra s h
    have hr : Reference.parentRef name ∈ (Content.parentRef name span).references true :=
      List.mem_singleton_self _
    refine ((parentTarget_ends number name span).mono (fun hd => hd _ hr) fun _ _ ht => ht).bind
      fun k t ⟨ht, parent, hp, hk, hd⟩ => ?_
    subst ht hk
    have hkey : (Reference.parentRef name).key? a number = some ⟨parent, .named name⟩ :=
      congrArg (Option.map fun p => DefinitionKey.mk p (.named name)) hp
    refine (slotOf_ends h (hc.referred _ hr _ hkey hd)).bind fun i u ⟨hu, hsu, hi⟩ => ?_
    refine stored hu hsu (.of_not_mem (by simp [Content.references]))
      (fun _ _ _ hn => .parentRef hn) ?_ (.parentRef hp hi)
    intro x hx
    cases List.mem_singleton.1 hx
    exact ⟨_, hi⟩
  case data =>
    intro chain slot type library params span _ hc extra s h
    exact stored h (.refl s) (.of_not_mem (by simp [Content.references]))
      (fun _ _ _ hn => .data hn) (by simp [Closed, Tree.targets]) .data
  case dataExcept =>
    intro chain slot type library params except span ih _ hc extra s h
    refine ((ih (fun _ => rfl) ⟨hc.referred, hc.nested⟩ _ s h).mono id fun _ _ hw => hw).bind
      fun ⟨i, _⟩ t ht => ?_
    obtain ⟨tree, hi, hb⟩ := ht.tree
    exact stored (c := .data type library params (some except) span) ht.ready ht.grows ht.covers
      (fun _ _ hk hn => .dataExcept hn (hi.reads.mono hk)) hi.closed (.dataExcept hb)
  case value =>
    intro chain slot literal type library span _ hc extra s h
    exact stored h (.refl s) (.of_not_mem (by simp [Content.references]))
      (fun _ _ _ hn => .value hn) (by simp [Closed, Tree.targets]) .value
  case noStart =>
    intro chain slot nested span g body hstart _ hc extra s h
    apply Ends.throw
    intro hd
    obtain ⟨k, hk, hdef⟩ := hd (.start nested) (List.mem_singleton_self _)
    cases hk
    exact Option.not_isSome_iff_eq_none.2 (Option.isNone_iff_eq_none.1 hstart) hdef
  case grammar =>
    intro chain slot nested span g body hstart _ hc extra s h
    have hr : Reference.start nested ∈ (Content.grammar nested span).references true :=
      List.mem_singleton_self _
    have hdef (name : DefineName) (hname : name ∈ (grammarAt a nested).definitions.keys) :
        (a.definition? ⟨nested, name⟩).isSome := Table.isSome_lookup.2 hname
    have hsome : (a.definition? ⟨nested, .start⟩).isSome := by
      rw [Option.isSome_iff_ne_none]
      exact fun he => hstart (Option.isNone_iff_eq_none.2 he)
    refine (slotOf_ends h (hc.referred _ hr _ rfl hsome)).bind fun i t ⟨ht, hst, hi⟩ => ?_
    refine (reserve_ends ht fun name hname => hc.nested _ hr _ (hdef name hname)).bind
      fun _ u ⟨hu, htu, hall⟩ => ?_
    refine stored hu (hst.trans htu) ?_ (fun _ _ _ hn => .ref hn) ?_ (.grammar (htu.slot? hi))
    · intro n hn name hd
      cases List.mem_singleton.1 hn
      exact hall name (Table.isSome_lookup.1 hd)
    · intro x hx
      cases List.mem_singleton.1 hx
      exact ⟨_, htu.slot? hi⟩

end

end Resolve

end RelaxCompact
