import RelaxCompact.Proofs.Resolution.Writing

/-!
The bodies of definitions. Every definition that belongs to the schema has its turn once, and in
the end all handles are written.
-/

namespace RelaxCompact

open Run Arena

namespace Assembled

/-- Whatever the definitions of a schema refer to is there, and so is a start. -/
structure Complete (a : Assembled) : Prop where
  start : (a.definition? ⟨0, .start⟩).isSome
  defined : ∀ k, a.Belongs k → ∀ r, a.Contains true k r →
    ∃ k', r.key? a k.grammar = some k' ∧ (a.definition? k').isSome

/-- A definition is an entry of its grammar. -/
theorem mem_of_definition? {a : Assembled} {k : DefinitionKey} {d : Definition}
    (h : a.definition? k = some d) :
    ∃ g, (g, k.grammar) ∈ a.grammars.zipIdx ∧ (k.name, d) ∈ g.definitions.entries := by
  unfold definition? Resolve.grammarAt at h
  cases hg : a.grammars[k.grammar]? with
  | none =>
    rw [hg] at h
    cases h
  | some g =>
    rw [hg] at h
    exact ⟨g, List.mk_mem_zipIdx_iff_getElem?.2 hg, Table.mem_of_lookup h⟩

/-- It is enough to look at all references of all grammars. -/
theorem complete_of_forall {a : Assembled} (hstart : (a.definition? ⟨0, .start⟩).isSome)
    (h : ∀ g ∈ a.grammars.zipIdx, ∀ e ∈ g.1.definitions.entries, ∀ site ∈ e.2.sites,
      ∀ r ∈ site.content.references true, ((r.key? a g.2).bind a.definition?).isSome) :
    a.Complete where
  start := hstart
  defined k _ r hr := by
    obtain ⟨d, hd, site, hs, hr⟩ := hr
    obtain ⟨g, hg, he⟩ := mem_of_definition? hd
    obtain ⟨d', hd'⟩ := Option.isSome_iff_exists.1 (h _ hg _ he site hs r hr)
    obtain ⟨k', hk', hd'⟩ := Option.bind_eq_some_iff.1 hd'
    exact ⟨k', hk', by rw [hd']; rfl⟩

theorem Belongs.isSome {a : Assembled} {k : DefinitionKey} (h : a.Belongs k) :
    (a.definition? k).isSome := by
  cases h with
  | root hd => exact hd
  | nested _ _ hd => exact hd
  | referred _ _ _ hd => exact hd

/-- A site of a definition that belongs to a schema may be written. -/
theorem Belongs.admitted {a : Assembled} {k : DefinitionKey} (h : a.Belongs k) {d : Definition}
    (hd : a.definition? k = some d) {site : Site} (hs : site ∈ d.sites) :
    site.content.Admitted a k.grammar where
  referred _ hr _ hk' hdef := .referred h ⟨d, hd, site, hs, hr⟩ hk' hdef
  nested _ hn _ hdef := .nested h ⟨d, hd, site, hs, hn⟩ hdef

end Assembled

/-- The body of a definition is read back from a slot, and what it refers to has slots. -/
structure Arena.Holds (s : Arena) (a : Assembled) (k : DefinitionKey) (i : Nat) (d : Definition)
    (t : Tree) : Prop where
  definition : a.definition? k = some d
  shows : s.Shows i t
  bound : d.Bound a s.slot? k.grammar t
  covers : ∀ site ∈ d.sites, s.Covers a site.content

theorem Arena.Holds.extend {s t : Arena} {a : Assembled} {k : DefinitionKey} {i : Nat}
    {d : Definition} {tree : Tree} (h : s.Holds a k i d tree) (hst : Extends s t) :
    t.Holds a k i d tree where
  definition := h.definition
  shows := h.shows.extend hst
  bound := h.bound.mono fun _ _ hk => hst.slot? hk
  covers site hs := (h.covers site hs).extend hst

namespace Resolve

section

variable {a : Assembled} {done : List (DefinitionKey × Nat)} {extra : List Nat} {s t : Arena}
  {number : Nat}

theorem writeSite_ends (slot : Option Nat) {site : Site}
    (hsite : site.content.Admitted a number) (h : Ready a done (slot.toList ++ extra) s) :
    Ends (writeSite a number slot site) s (site.content.Defined a number) fun i t =>
      Ready a done extra t ∧ Extends s t ∧ t.Covers a site.content ∧
        (∃ tree, t.Shows i tree ∧ site.content.Bound a t.slot? number tree) ∧
        ∀ j, slot = some j → i = j :=
  (write_ends site.chain (fun hne => absurd rfl hne) hsite h).bind fun _ _ ht =>
    ⟨ht.ready, ht.grows, ht.covers, ht.tree, ht.place⟩

/-- Sites are written one after the other. -/
theorem writeSites_ends {sites : List Site}
    (hsites : ∀ site ∈ sites, site.content.Admitted a number) (h : Ready a done extra s) :
    Ends (sites.mapM (writeSite a number none)) s
      (∀ site ∈ sites, site.content.Defined a number) fun is t =>
        Ready a done extra t ∧ Extends s t ∧ (∀ site ∈ sites, t.Covers a site.content) ∧
          ∃ trees, List.Forall₂ t.Shows is trees ∧
            List.Forall₂ (fun (site : Site) tree => site.content.Bound a t.slot? number tree)
              sites trees := by
  induction sites generalizing s with
  | nil => exact ⟨h, .refl s, by simp, [], .nil, .nil⟩
  | cons site sites ih =>
    rw [List.mapM_cons]
    refine ((writeSite_ends none (hsites site List.mem_cons_self) h).mono
      (fun hd => hd site List.mem_cons_self) fun _ _ ht => ht).bind
      fun i t ⟨ht, hst, hc, ⟨tree, hi, hb⟩, _⟩ => ?_
    refine ((ih (fun site' hm => hsites site' (List.mem_cons_of_mem _ hm)) ht).mono
      (fun hd site' hm => hd site' (List.mem_cons_of_mem _ hm)) fun _ _ hu => hu).bind
      fun is u ⟨hu, htu, hcs, trees, his, hbs⟩ => ?_
    refine ⟨hu, hst.trans htu, ?_, tree :: trees, .cons (hi.extend htu) his,
      .cons (hb.mono fun _ _ hk => htu.slot? hk) hbs⟩
    intro site' hm
    rcases List.mem_cons.1 hm with rfl | hm
    · exact hc.extend htu
    · exact hcs site' hm

/-- The body of a definition goes into its slot. -/
theorem writeBody_ends {k : DefinitionKey} {slot : Nat} (hk : a.Belongs k)
    (h : Ready a done [slot] s) :
    Ends (writeBody a k slot) s
      (∀ r, a.Contains true k r → ∃ k', r.key? a k.grammar = some k' ∧ (a.definition? k').isSome)
      fun _ t => Ready a done [] t ∧ Extends s t ∧ ∃ d tree, t.Holds a k slot d tree := by
  obtain ⟨d, hd⟩ := Option.isSome_iff_exists.1 hk.isSome
  have hdefined (hall : ∀ r, a.Contains true k r →
      ∃ k', r.key? a k.grammar = some k' ∧ (a.definition? k').isSome)
      (site : Site) (hs : site ∈ d.sites) : site.content.Defined a k.grammar :=
    fun r hr => hall r ⟨d, hd, site, hs, hr⟩
  have hadmitted (site : Site) (hs : site ∈ d.sites) := hk.admitted hd hs
  unfold writeBody
  rw [show (grammarAt a k.grammar).definitions.get? k.name = some d from hd]
  dsimp only
  cases hmore : d.more with
  | nil =>
    have hfirst : d.first ∈ d.sites := List.mem_cons_self
    refine ((writeSite_ends (some slot) (hadmitted _ hfirst) h).mono
      (fun hall => hdefined hall _ hfirst) fun _ _ ht => ht).bind
      fun i t ⟨ht, hst, hc, ⟨tree, hi, hb⟩, hj⟩ => ?_
    rw [hj slot rfl] at hi
    refine ⟨ht, hst, d, tree, hd, hi, ⟨tree, [], hb, ?_, rfl⟩, fun site hs => ?_⟩
    · rw [hmore]
      exact .nil
    · have hsites : d.sites = [d.first] := congrArg (d.first :: ·) hmore
      rw [hsites, List.mem_singleton] at hs
      exact hs ▸ hc
  | cons second more =>
    have hsites : d.sites = d.first :: second :: more := congrArg (d.first :: ·) hmore
    have hfirst : d.first ∈ d.sites := List.mem_cons_self
    have hothers (site : Site) (hs : site ∈ second :: more) : site ∈ d.sites :=
      hsites ▸ List.mem_cons_of_mem _ hs
    refine ((writeSite_ends none (hadmitted _ hfirst) h).mono
      (fun hall => hdefined hall _ hfirst) fun _ _ ht => ht).bind
      fun i t ⟨ht, hst, hc, ⟨tree, hi, hb⟩, _⟩ => ?_
    refine ((writeSites_ends (fun site hs => hadmitted site (hothers site hs)) ht).mono
      (fun hall site hs => hdefined hall site (hothers site hs)) fun _ _ hu => hu).bind
      fun is u ⟨hu, htu, hcs, trees, his, hbs⟩ => ?_
    have hne : is ≠ [] := by
      rintro rfl
      cases his
      cases hbs
    refine (combine_ends hu hne (hi.extend htu) his).bind fun j v ⟨hv, huv, hj, hplace⟩ => ?_
    rw [hplace slot rfl] at hj
    have hbound : d.Bound a u.slot? k.grammar (.fold (connectiveOf d.operator) tree trees) :=
      ⟨tree, trees, hb.mono fun _ _ hk => htu.slot? hk, hmore ▸ hbs, rfl⟩
    have hcovers (site : Site) (hs : site ∈ d.sites) : u.Covers a site.content := by
      rw [hsites] at hs
      rcases List.mem_cons.1 hs with rfl | hs
      · exact hc.extend htu
      · exact hcs site hs
    exact ⟨hv, hst.trans (htu.trans huv), d, _, hd, hj, hbound.mono fun _ _ hk => huv.slot? hk,
      fun site hs => (hcovers site hs).extend huv⟩

/-- There are no more slots than definitions. -/
theorem slots_length_le (h : Ready a done extra s) : s.slots.length ≤ definitionCount a := by
  let keys := a.grammars.zipIdx.flatMap fun g => g.1.definitions.keys.map fun name =>
    (⟨g.2, name⟩ : DefinitionKey)
  have hsub : s.slots.map Prod.fst ⊆ keys := by
    intro k hk
    obtain ⟨p, hp, rfl⟩ := List.mem_map.1 hk
    obtain ⟨d, hd⟩ := Option.isSome_iff_exists.1 (h.belongs p hp).isSome
    obtain ⟨g, hg, he⟩ := Assembled.mem_of_definition? hd
    exact List.mem_flatMap.2 ⟨_, hg, List.mem_map.2
      ⟨p.1.name, List.mem_map.2 ⟨_, he, rfl⟩, rfl⟩⟩
  have hlength : keys.length = definitionCount a := by
    simp only [keys, definitionCount, List.length_flatMap, List.length_map]
    conv => rhs; rw [← List.zipIdx_map_fst 0 a.grammars, List.map_map]
    rfl
  rw [← hlength, ← List.length_map Prod.fst]
  exact (List.subperm_of_subset h.keys hsub).length_le

/-- Every pending definition has its turn, as long as the budget is that of all definitions. -/
theorem drain_ends {budget : Nat} (h : Ready a done [] s)
    (hdone : ∀ p ∈ done, ∃ d tree, s.Holds a p.1 p.2 d tree)
    (hbudget : definitionCount a ≤ done.length + budget) :
    Ends (drain a budget) s a.Complete fun _ t => Ready a t.slots [] t ∧ Extends s t ∧
      ∀ p ∈ t.slots, ∃ d tree, t.Holds a p.1 p.2 d tree := by
  induction budget generalizing s done with
  | zero =>
    have hlength := slots_length_le h
    rw [h.slots, List.length_append] at hlength
    have hpending : s.pending = [] := List.eq_nil_of_length_eq_zero (by omega)
    have hslots : s.slots = done := by rw [h.slots, hpending, List.append_nil]
    exact ⟨hslots ▸ h, .refl s, hslots ▸ hdone⟩
  | succ budget ih =>
    apply Ends.get
    cases hp : s.pending with
    | nil =>
      have hslots : s.slots = done := by rw [h.slots, hp, List.append_nil]
      exact ⟨hslots ▸ h, .refl s, hslots ▸ hdone⟩
    | cons p pending =>
      apply Ends.modify
      have hmem : p ∈ s.slots := by
        rw [h.slots, hp]
        exact List.mem_append_right _ List.mem_cons_self
      have hbelongs := h.belongs p hmem
      refine ((writeBody_ends hbelongs (h.turn hp)).mono (fun hc => hc.defined _ hbelongs)
        fun _ _ ht => ht).bind fun _ t ⟨ht, hst, d, tree, hholds⟩ => ?_
      have hst' : Extends s t := ⟨hst.keeps, hst.slots⟩
      refine (ih ht ?_ ?_).mono id fun _ u ⟨hu, htu, hall⟩ => ⟨hu, hst'.trans htu, hall⟩
      · intro q hq
        rcases List.mem_append.1 hq with hq | hq
        · obtain ⟨d', tree', hq⟩ := hdone q hq
          exact ⟨d', tree', hq.extend hst'⟩
        · rw [List.mem_singleton.1 hq]
          exact ⟨d, tree, hholds⟩
      · rw [List.length_append, List.length_singleton]
        omega

/-- In the end the slots are those of the definitions that belong to the schema, and each holds the
body of its definition. -/
structure Finished (a : Assembled) (s : Arena) : Prop where
  ready : Ready a s.slots [] s
  holds : ∀ p ∈ s.slots, ∃ d tree, s.Holds a p.1 p.2 d tree
  root : ∀ name, (a.definition? ⟨0, name⟩).isSome → ∃ h, s.slot? ⟨0, name⟩ = some h

theorem root_eq (a : Assembled) : a.root.definitions = (grammarAt a 0).definitions := by
  unfold Assembled.root grammarAt
  cases a.grammars <;> rfl

theorem start?_root (a : Assembled) : a.root.start? = a.definition? ⟨0, .start⟩ := by
  rw [Grammar.start?, root_eq]
  rfl

theorem start_ready (a : Assembled) : Ready a [] [] {} where
  slots := rfl
  keys := .nil
  handles := .nil
  inside := by simp
  opened := by simp
  apart := .nil
  belongs := by simp
  closed h n hn := by
    obtain ⟨i, -, hi⟩ := node?_eq_some.1 hn
    simp at hi

theorem writeAll_ends (a : Assembled) :
    Ends (writeAll a) {} a.Complete fun start t =>
      Finished a t ∧ t.slot? ⟨0, .start⟩ = some ↑start := by
  have hkeys (name : DefineName) :
      name ∈ a.root.definitions.keys ↔ (a.definition? ⟨0, name⟩).isSome := by
    rw [root_eq]
    exact Table.isSome_lookup.symm
  unfold writeAll
  rw [start?_root]
  split
  next hnone =>
    apply Ends.throw
    intro hc
    have hsome := hc.start
    rw [Option.isNone_iff_eq_none.1 hnone] at hsome
    cases hsome
  next hsome =>
    have hbelongs : a.Belongs ⟨0, .start⟩ :=
      .root (Option.isSome_iff_ne_none.2 fun he => hsome (Option.isNone_iff_eq_none.2 he))
    refine (slotOf_ends (start_ready a) hbelongs).bind fun start t ⟨ht, _, hslot⟩ => ?_
    refine (reserve_ends ht fun name hname => .root ((hkeys name).1 hname)).bind
      fun _ u ⟨hu, htu, hall⟩ => ?_
    refine (drain_ends hu (by simp) (by simp)).bind fun _ v ⟨hv, huv, hholds⟩ => ?_
    refine ⟨⟨hv, hholds, fun name hname => ?_⟩, huv.slot? (htu.slot? hslot)⟩
    obtain ⟨i, hi⟩ := hall name ((hkeys name).2 hname)
    exact ⟨i, huv.slot? hi⟩

end

end Resolve

end RelaxCompact
