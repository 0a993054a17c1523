import RelaxCompact.Proofs.Ordering.Tracing

/-!
When the single steps of an assembly succeed, and the compound ones in terms of their parts.
-/

namespace RelaxCompact

/-- A run from a state ends with a value. -/
def Run.Succeeds {ε σ α : Type} (x : EStateM ε σ α) (s : σ) : Prop := ∃ a t, x s = .ok a t

theorem Run.Succeeds.bind {ε σ α β : Type} {x : EStateM ε σ α} {f : α → EStateM ε σ β} {s : σ}
    (h : Succeeds x s) (hf : ∀ a t, x s = .ok a t → Succeeds (f a) t) : Succeeds (x >>= f) s := by
  obtain ⟨a, t, hx⟩ := h
  obtain ⟨b, u, hb⟩ := hf a t hx
  exact ⟨b, u, (bind_of_ok hx).trans hb⟩

theorem Run.Succeeds.pure {ε σ α : Type} (a : α) (s : σ) :
    Succeeds (pure a : EStateM ε σ α) s :=
  ⟨a, s, rfl⟩

/-- A step that is made only under a condition, and what follows it. -/
theorem Run.Succeeds.cond {ε σ β : Type} {c : Bool} {x : EStateM ε σ Unit} {f : EStateM ε σ β}
    {s : σ} (hx : c = true → Succeeds x s)
    (hf : ∀ t, (c = true ∧ x s = .ok () t ∨ c = false ∧ t = s) → Succeeds f t) :
    Succeeds (if c = true then x >>= fun _ => f else f) s := by
  cases c with
  | true => exact (hx rfl).bind fun _ t h => hf t (.inl ⟨rfl, h⟩)
  | false => exact hf s (.inr ⟨rfl, rfl⟩)

namespace Expand

open Run Surface

section

variable {α : Type} {s : Expansion} {src : Sources}

theorem liftExcept_succeeds {r : Except Failure α} {a : α} (h : r = .ok a) :
    Succeeds (liftExcept r : Expand α) s := by
  rw [h]
  exact ⟨a, s, rfl⟩

theorem schema_succeeds {r : Except SchemaError α} {a : α} (h : r = .ok a) :
    Succeeds (schema r) s := by
  rw [h]
  exact ⟨a, s, rfl⟩

theorem report_succeeds (message : Text) (s : Expansion) : Succeeds (report message) s :=
  ⟨_, _, rfl⟩

theorem openScope_succeeds (place : Place) (kind : ScopeKind) (label : Text) (s : Expansion) :
    Succeeds (openScope place kind label) s :=
  ⟨_, _, rfl⟩

theorem pushFrame_succeeds (href : Text) (overrides : List Component) (s : Expansion) :
    Succeeds (pushFrame href overrides) s :=
  ⟨_, _, rfl⟩

theorem suppressed_succeeds (name : DefineName) (s : Expansion) : Succeeds (suppressed name) s :=
  ⟨_, _, rfl⟩

theorem claim_succeeds (grammar : Nat) (o : Occurrence) (s : Expansion) :
    Succeeds (claim grammar o) s := by
  refine Succeeds.bind ⟨s, s, rfl⟩ fun _ t h => ?_
  cases h
  dsimp only
  split
  · exact ⟨_, _, rfl⟩
  · exact ⟨_, _, rfl⟩

/-- A file that can be had is fetched, unless it is being expanded. -/
theorem fetch_succeeds {catalog : Catalog} {key href : Text} {span : Span} {file : File}
    (hfresh : key ∉ s.stack) (hfile : (s.source.sources catalog).file key = .ok file) :
    Succeeds (fetch catalog key href span) s := by
  have hattempt : ∃ result source,
      Fragments.attempt catalog key s.source = .ok result source := by
    unfold Fragments.attempt
    split
    · exact ⟨_, _, rfl⟩
    · exact ⟨_, _, rfl⟩
  obtain ⟨result, source, hattempt⟩ := hattempt
  have hresult : result = .ok file := (Fragments.attempt_ok hattempt).1.trans hfile
  refine Succeeds.bind ⟨s, s, rfl⟩ fun _ t h => ?_
  cases h
  dsimp only
  split
  next hmem => exact absurd (List.contains_iff_mem.1 hmem) hfresh
  next =>
    refine Succeeds.bind ⟨result, { s with source }, ?_⟩ fun r t h => ?_
    · unfold fetching
      rw [hattempt]
    · obtain ⟨source', hs, rfl⟩ := fetching_ok h
      cases hattempt.symm.trans hs
      rw [hresult]
      exact ⟨_, _, rfl⟩

theorem inheritedNamespace_succeeds {environment : Environment} {inherit : Option String}
    {ns : Text} (h : environment.Passes inherit ns) (span : Span) (s : Expansion) :
    Succeeds (inheritedNamespace environment inherit span) s := by
  cases inherit with
  | none => exact ⟨_, _, rfl⟩
  | some qualifier =>
    change environment.namespaces.get? qualifier = some ns at h
    refine schema_succeeds (a := ns) ?_
    unfold Environment.namespaceFor
    rw [h]

/-- An environment passes its check if it is the one noted, if any is. -/
theorem checkEnvironment_succeeds {grammar : Nat} {key : Text} {environment : Environment}
    (h : ∀ first, s.environments.get? (grammar, key) = some first → first.1 = environment)
    (href : Text) (span : Span) :
    Succeeds (checkEnvironment grammar key href span environment) s := by
  refine Succeeds.bind ⟨s, s, rfl⟩ fun _ t ht => ?_
  cases ht
  cases hk : s.environments.get? (grammar, key) with
  | none => exact ⟨_, _, rfl⟩
  | some first =>
    dsimp only
    rw [if_neg (Classical.not_not.2 (h first hk))]
    exact ⟨_, _, rfl⟩

/-- A site can be added if it combines with the first one of its name. -/
theorem addSite_succeeds {place : Place} {name : DefineName} {site : Site} {g : Grammar}
    (hg : s.grammars[place.grammar]? = some g)
    (h : ∀ d, g.definitions.get? name = some d →
      Definition.conflict? d.operator site.operator = none) :
    Succeeds (addSite place name site) s := by
  refine Succeeds.bind ⟨g, s, ?_⟩ fun g' t ht => ?_
  · change EStateM.Result.ok ((s.grammars[place.grammar]?).getD _) s = _
    rw [hg, Option.getD_some]
  · change EStateM.Result.ok ((s.grammars[place.grammar]?).getD _) s = _ at ht
    rw [hg, Option.getD_some] at ht
    cases ht
    cases hd : g.definitions.get? name with
    | none => exact ⟨_, _, rfl⟩
    | some d =>
      have hadd : d.add name site = .ok { d with more := d.more ++ [site] } := by
        unfold Definition.add
        rw [h d hd]
      exact (schema_succeeds hadd).bind fun _ _ _ => ⟨_, _, rfl⟩

theorem ensuring_succeeds {step : Expand α} (h : Succeeds step s)
    (cleanup : Expansion → Expansion) : Succeeds (ensuring step cleanup) s := by
  obtain ⟨a, t, ht⟩ := h
  refine ⟨a, cleanup t, ?_⟩
  unfold ensuring
  rw [ht]

theorem isolated_succeeds {label : Text} {parent : Option Nat} {body : Nat → Expand Unit}
    (h : Succeeds (body s.grammars.length)
      { s with grammars := s.grammars ++ [{ label, parent }], frames := [] }) :
    Succeeds (isolated label parent body) s :=
  Succeeds.bind ⟨s.grammars.length, _, rfl⟩ fun _ _ ho => by
    cases ho
    exact (ensuring_succeeds h _).bind fun _ _ _ => ⟨_, _, rfl⟩

/-- A block passes its check if it has suppressed every name that it defines. -/
theorem checkOverrides_succeeds {f : OverrideFrame}
    (h : ∀ name, f.spans.contains name = true → name ∈ f.hits) (s : Expansion) :
    Succeeds (checkOverrides f) s := by
  have hnone : (f.spans.entries.find? fun entry => entry.1 ∉ f.hits) = none := by
    rw [List.find?_eq_none]
    intro entry hm
    have hhit := h entry.1 (Table.contains_iff.2 (List.mem_map_of_mem hm))
    simpa using hhit
  unfold checkOverrides
  rw [hnone]
  exact ⟨_, _, rfl⟩

end

end Expand

end RelaxCompact
