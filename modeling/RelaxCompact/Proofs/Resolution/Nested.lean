import RelaxCompact.Proofs.Assembly.Sites
import RelaxCompact.Proofs.Resolution.Bodies

/-!
How the grammars of an assembled schema lie in one another. Assembly numbers a parent only for a
grammar that stands inside it, so references never lead out of the grammars that are reached from
the root through their patterns.
-/

namespace RelaxCompact

/-- A grammar in a pattern sees the grammar around it, or none. -/
theorem Lowers.nested {src : Sources} {origins : List Origin} {number : Nat} {l : Locus}
    {p : Surface.Pattern} {c : Content} (h : Lowers src origins number l p c) {n : Nat}
    (hn : Reference.start n ∈ c.references true) :
    ∃ o, origins[n]? = some o ∧ (o.parent = none ∨ o.parent = some number) := by
  induction h with
  | binary _ _ ihLeft ihRight =>
    rcases List.mem_append.1 hn with hn | hn
    · exact ihLeft hn
    · exact ihRight hn
  | unary _ ih | named _ _ ih | dataExcept _ _ ih => exact ih hn
  | leaf | data | value => cases hn
  | ref | parentRef => cases List.mem_singleton.1 hn
  | external _ ho =>
    cases List.mem_singleton.1 hn
    exact ⟨_, ho, .inl rfl⟩
  | grammar ho =>
    cases List.mem_singleton.1 hn
    exact ⟨_, ho, .inr rfl⟩

namespace Assembled

/-- The grammars of a schema: the root, and what is nested in the definitions of these, used or
not. -/
inductive Reaches (a : Assembled) : Nat → Prop
  | root : a.Reaches 0
  | nested {k n} : a.Reaches k.grammar → a.Contains true k (.start n) → a.Reaches n

/-- The root has no parent, and a nested grammar has none but the grammar that it stands in. -/
structure Nests (a : Assembled) : Prop where
  root : (Resolve.grammarAt a 0).parent = none
  nested : ∀ k n, a.Contains true k (.start n) →
    (Resolve.grammarAt a n).parent = none ∨ (Resolve.grammarAt a n).parent = some k.grammar

variable {a : Assembled}

theorem grammarAt_of_getElem? {n : Nat} {g : Grammar} (h : a.grammars[n]? = some g) :
    Resolve.grammarAt a n = g := by
  rw [Resolve.grammarAt, h]
  rfl

theorem exists_of_definition? {k : DefinitionKey} {d : Definition} (h : a.definition? k = some d) :
    ∃ g, a.grammars[k.grammar]? = some g ∧ g.definitions.get? k.name = some d := by
  unfold definition? Resolve.grammarAt at h
  cases hg : a.grammars[k.grammar]? with
  | none =>
    rw [hg] at h
    cases h
  | some g =>
    rw [hg] at h
    exact ⟨g, rfl, h⟩

theorem Reaches.parent (ha : a.Nests) {n p : Nat} (h : a.Reaches n)
    (hp : (Resolve.grammarAt a n).parent = some p) : a.Reaches p := by
  cases h with
  | root => cases ha.root.symm.trans hp
  | nested hk hn =>
    rcases ha.nested _ _ hn with hnone | hsome
    · cases hnone.symm.trans hp
    · cases hsome.symm.trans hp
      exact hk

/-- A schema consists of all definitions of its grammars. -/
theorem belongs_iff_reaches (ha : a.Nests) (k : DefinitionKey) :
    a.Belongs k ↔ a.Reaches k.grammar ∧ (a.definition? k).isSome := by
  constructor
  · intro h
    refine ⟨?_, h.isSome⟩
    induction h with
    | root => exact .root
    | nested _ hn _ ih => exact .nested ih hn
    | @referred k r _ _ hr hkey _ ih =>
      cases r with
      | ref name =>
        cases hkey
        exact ih
      | parentRef name =>
        obtain ⟨p, hp, rfl⟩ := Option.map_eq_some_iff.1 hkey
        exact ih.parent ha hp
      | start n =>
        cases hkey
        exact .nested ih hr
  · rintro ⟨h, hd⟩
    have hall (n : Nat) (h : a.Reaches n) (name : DefineName)
        (hd : (a.definition? ⟨n, name⟩).isSome) : a.Belongs ⟨n, name⟩ := by
      induction h generalizing name with
      | root => exact .root hd
      | nested _ hn ih =>
        obtain ⟨d, hk, -⟩ := id hn
        exact .nested (ih _ (by rw [hk]; rfl)) hn hd
    exact hall _ h k.name hd

end Assembled

/-- The grammars of an assembled schema lie in one another as they stand in the sources. -/
theorem assemble_nests {setup : Expand.Setup} {root : Surface.File} {key : Option Text}
    {s t : Fragments} {a : Assembled} (h : assemble setup root key s = .ok a t) : a.Nests := by
  obtain ⟨b, u, hb, ha, hroot, -⟩ := assemble_books h
  have hparent (n : Nat) (o : Origin) (ho : b.origins[n]? = some o) :
      (Resolve.grammarAt a n).parent = o.parent := by
    obtain ⟨account, haccount, rfl⟩ := Option.map_eq_some_iff.1 (List.getElem?_map.symm.trans ho)
    obtain ⟨hlt, -⟩ := List.getElem?_eq_some_iff.1 haccount
    obtain ⟨g, hg⟩ : ∃ g, u.grammars[n]? = some g := ⟨_, List.getElem?_eq_getElem (hb.length ▸ hlt)⟩
    rw [Assembled.grammarAt_of_getElem? (ha ▸ hg)]
    exact (hb.accounts n account g haccount hg).1
  refine ⟨hparent 0 _ hroot, fun k n hn => ?_⟩
  obtain ⟨d, hd, site, hs, hn⟩ := hn
  obtain ⟨g, hg, he⟩ := Assembled.exists_of_definition? hd
  obtain ⟨hlt, -⟩ := List.getElem?_eq_some_iff.1 hg
  obtain ⟨account, haccount⟩ : ∃ account, b[k.grammar]? = some account :=
    ⟨_, List.getElem?_eq_getElem (by rw [hb.length, ← ha]; exact hlt)⟩
  have hsites := (hb.accounts _ account g haccount (ha ▸ hg)).2.sites k.name
  have hsite : site ∈ g.sites k.name := by
    rw [Grammar.sites, he]
    exact hs
  obtain ⟨p, -, hp⟩ := exists_of_forall₂ hsites.flip hsite
  obtain ⟨o, ho, hor⟩ := hp.content.nested hn
  rw [hparent n o ho]
  exact hor

end RelaxCompact
