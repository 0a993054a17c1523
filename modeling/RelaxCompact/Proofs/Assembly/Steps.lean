import RelaxCompact.Proofs.Assembly.Ledger

/-!
What the single steps of an assembly do when they succeed.
-/

namespace RelaxCompact

/-- A site joins a definition behind those that it has. -/
theorem Definition.sites_add {d d' : Definition} {name : DefineName} {site : Site}
    (h : d.add name site = .ok d') : d'.sites = d.sites ++ [site] := by
  unfold Definition.add at h
  split at h
  · cases h
  · cases h
    rfl

/-- A grammar with a definition for a name, which a chain of scopes leads to. -/
def Grammar.define (chain : List Nat) (name : DefineName) (d : Definition) (g : Grammar) :
    Grammar :=
  { g with
    definitions := g.definitions.insert name d
    scopes :=
      match chain with
      | [] => g.scopes
      | innermost :: _ => g.scopes.modify innermost (·.define name) }

namespace Grammar

variable {src : Sources} {origins : List Origin} {number : Nat} {g : Grammar} {ps : List Passage}

/-- The definition that a name of the grammar has with one more site. -/
def Joins (g : Grammar) (name : DefineName) (site : Site) (d : Definition) : Prop :=
  match g.definitions.get? name with
  | none => d = { first := site }
  | some first => first.add name site = .ok d

theorem Joins.sites {name : DefineName} {site : Site} {d : Definition} (h : g.Joins name site d) :
    d.sites = g.sites name ++ [site] := by
  unfold Joins at h
  rw [Grammar.sites]
  cases hd : g.definitions.get? name with
  | none =>
    rw [hd] at h
    rw [h]
    rfl
  | some first =>
    rw [hd] at h
    exact Definition.sites_add h

theorem sites_define (chain : List Nat) (name : DefineName) (d : Definition) (g : Grammar)
    (other : DefineName) :
    (g.define chain name d).sites other = if other = name then d.sites else g.sites other := by
  change (((g.definitions.insert name d).get? other).map Definition.sites).getD [] = _
  by_cases h : other = name
  · rw [if_pos h, h, Table.get?_insert_self]
    rfl
  · rw [if_neg h, Table.get?_insert_of_ne _ h]
    rfl

/-- A passage is taken by adding a site that records it. -/
theorem Accounts.define (h : g.Accounts src origins number ps) {p : Passage} {site : Site}
    (hr : p.Recorded src origins number site) {d : Definition}
    (hd : d.sites = g.sites p.name ++ [site]) (chain : List Nat) :
    (g.define chain p.name d).Accounts src origins number (ps ++ [p]) where
  names := by
    change (g.definitions.insert p.name d).keys = _
    rw [Table.keys_insert, List.map_append, List.map_singleton, eraseDups_concat, h.names]
    simp only [List.mem_eraseDups]
  sites name := by
    rw [sites_define, List.filter_append]
    by_cases hn : name = p.name
    · subst name
      rw [if_pos rfl, hd, List.filter_singleton, decide_eq_true rfl]
      exact List.rel_append (h.sites p.name) (.cons hr .nil)
    · have hne : ¬ p.name = name := fun he => hn he.symm
      rw [if_neg hn, List.filter_singleton, decide_eq_false hne]
      simpa only [cond_false, List.append_nil] using h.sites name

/-- Further scopes do not matter to what a grammar holds. -/
theorem Accounts.scopes (h : g.Accounts src origins number ps) (scopes : List Scope) :
    Grammar.Accounts src origins number { g with scopes } ps :=
  ⟨h.names, h.sites⟩

end Grammar

namespace Expand

open Surface

variable {s t : Expansion}

theorem fetching_ok {α : Type} {step : Fetch α} {a : α} (h : fetching step s = .ok a t) :
    ∃ source, step s.source = .ok a source ∧ t = { s with source } := by
  unfold fetching at h
  cases hs : step s.source with
  | ok b source =>
    rw [hs] at h
    cases h
    exact ⟨source, rfl, rfl⟩
  | error e source =>
    rw [hs] at h
    cases h

theorem schema_ok {α : Type} {result : Except SchemaError α} {a : α}
    (h : schema result s = .ok a t) : result = .ok a ∧ t = s := by
  obtain ⟨hr, ht⟩ := Run.liftExcept_ok h
  cases result with
  | ok b => exact ⟨congrArg _ (Except.ok.inj hr), ht⟩
  | error e => cases hr

theorem ensuring_ok {α : Type} {step : Expand α} {cleanup : Expansion → Expansion} {a : α}
    (h : ensuring step cleanup s = .ok a t) : ∃ u, step s = .ok a u ∧ t = cleanup u := by
  unfold ensuring at h
  cases hs : step s with
  | ok b u =>
    rw [hs] at h
    cases h
    exact ⟨u, rfl, rfl⟩
  | error e u =>
    rw [hs] at h
    cases h

/-- Nothing changes but what was fetched and checked on the way. -/
structure Quiet (catalog : Catalog) (s t : Expansion) : Prop where
  source : Fragments.Agree catalog s.source t.source
  stack : t.stack = s.stack
  frames : t.frames = s.frames
  registered : t.registered = s.registered
  grammars : t.grammars = s.grammars

namespace Quiet

variable {catalog : Catalog} {u : Expansion}

theorem refl (s : Expansion) : Quiet catalog s s := ⟨.refl _ _, rfl, rfl, rfl, rfl⟩

theorem trans (hst : Quiet catalog s t) (htu : Quiet catalog t u) : Quiet catalog s u where
  source := hst.source.trans htu.source
  stack := htu.stack.trans hst.stack
  frames := htu.frames.trans hst.frames
  registered := htu.registered.trans hst.registered
  grammars := htu.grammars.trans hst.grammars

theorem steady (h : Quiet catalog s t) : Steady s t := ⟨h.stack, by rw [h.frames]⟩

theorem sources (h : Quiet catalog s t) :
    t.source.sources catalog = s.source.sources catalog := by
  simp only [Fragments.sources, Sources.mk.injEq, true_and]
  funext key
  exact h.source key

theorem books (h : Quiet catalog s t) {src : Sources} {b : Ledger}
    (hb : Books catalog src b s) : Books catalog src b t :=
  hb.quiet h.sources h.grammars h.registered

end Quiet

theorem report_ok {catalog : Catalog} {message : Text} (h : report message s = .ok () t) :
    Quiet catalog s t := by
  obtain ⟨source, hs, rfl⟩ := fetching_ok h
  exact ⟨Fragments.report_agree hs, rfl, rfl, rfl, rfl⟩

/-- A fetched file is the one that its key stands for, and is not being expanded. -/
theorem fetch_ok {catalog : Catalog} {key href : Text} {span : Span} {file : File}
    (h : fetch catalog key href span s = .ok file t) :
    key ∉ s.stack ∧ (s.source.sources catalog).file key = .ok file ∧ Quiet catalog s t := by
  obtain ⟨_, _, hget, h⟩ := Run.bind_ok h
  cases hget
  dsimp only at h
  split at h
  · obtain ⟨_, _, hr, _⟩ := Run.bind_ok h
    exact (Run.not_throw_ok hr).elim
  · rename_i hc
    obtain ⟨result, u, hf, h⟩ := Run.bind_ok h
    obtain ⟨source, hs, rfl⟩ := fetching_ok hf
    obtain ⟨hr, ha⟩ := Fragments.attempt_ok hs
    refine ⟨fun hk => hc (List.contains_iff_mem.2 hk), ?_⟩
    split at h
    · obtain ⟨_, u, hm, h⟩ := Run.bind_ok h
      cases hm
      cases h
      exact ⟨hr.symm, ha, rfl, rfl, rfl, rfl⟩
    · exact (Run.not_throw_ok h).elim
    · exact (Run.not_throw_ok h).elim

theorem inheritedNamespace_ok {environment : Environment} {inherit : Option String} {span : Span}
    {ns : Text} (h : inheritedNamespace environment inherit span s = .ok ns t) :
    environment.Passes inherit ns ∧ t = s := by
  cases inherit with
  | none => exact Run.pure_ok h
  | some qualifier =>
    obtain ⟨hq, ht⟩ := schema_ok h
    refine ⟨?_, ht⟩
    unfold Environment.namespaceFor at hq
    split at hq
    · rename_i hget
      cases hq
      exact hget
    · cases hq

theorem checkEnvironment_ok {catalog : Catalog} {grammar : Nat} {key href : Text} {span : Span}
    {environment : Environment}
    (h : checkEnvironment grammar key href span environment s = .ok () t) :
    Quiet catalog s t := by
  obtain ⟨_, _, hget, h⟩ := Run.bind_ok h
  cases hget
  cases hk : s.environments.get? (grammar, key) with
  | none =>
    simp only [hk] at h
    cases h
    exact ⟨.refl _ _, rfl, rfl, rfl, rfl⟩
  | some first =>
    simp only [hk] at h
    split at h
    · exact (Run.not_throw_ok h).elim
    · cases h
      exact .refl _

/-- A scope is opened in the grammar of its place. -/
theorem openScope_ok {place inner : Place} {kind : ScopeKind} {label : Text}
    (h : openScope place kind label s = .ok inner t) :
    ∃ number, inner = { place with chain := number :: place.chain } ∧
      t = { s with
        grammars := s.grammars.modify place.grammar fun g =>
          { g with scopes := g.scopes ++ [{ kind, label }] } } := by
  obtain ⟨g, u, hg, h⟩ := Run.bind_ok h
  cases hg
  obtain ⟨_, u, hm, h⟩ := Run.bind_ok h
  cases hm
  cases h
  exact ⟨_, rfl, rfl⟩

theorem isolated_ok {label : Text} {parent : Option Nat} {body : Nat → Expand Unit} {number : Nat}
    (h : isolated label parent body s = .ok number t) :
    number = s.grammars.length ∧
      ∃ u, body number { s with grammars := s.grammars ++ [{ label, parent }], frames := [] } =
          .ok () u ∧
        t = { u with frames := s.frames } := by
  obtain ⟨n, u, ho, h⟩ := Run.bind_ok h
  obtain ⟨_, _, hget, ho⟩ := Run.bind_ok ho
  cases hget
  obtain ⟨_, _, hm, ho⟩ := Run.bind_ok ho
  cases hm
  cases ho
  obtain ⟨_, _, hget, h⟩ := Run.bind_ok h
  cases hget
  obtain ⟨_, _, hm, h⟩ := Run.bind_ok h
  cases hm
  obtain ⟨_, v, hb, h⟩ := Run.bind_ok h
  obtain ⟨w, hw, rfl⟩ := ensuring_ok hb
  cases h
  exact ⟨rfl, w, hw, rfl⟩

/-- A definition is suppressed if a block in effect defines its name. -/
theorem suppressed_ok {name : DefineName} {r : Bool} (h : suppressed name s = .ok r t) :
    r = (s.frames.any fun f => f.spans.contains name) ∧
      ∃ hit : OverrideFrame → OverrideFrame, (∀ f, (hit f).spans = f.spans) ∧
        t = { s with frames := s.frames.map hit } := by
  obtain ⟨_, _, hget, h⟩ := Run.bind_ok h
  cases hget
  obtain ⟨_, _, hm, h⟩ := Run.bind_ok h
  cases hm
  cases h
  refine ⟨rfl, _, fun f => ?_, rfl⟩
  split <;> rfl

theorem claim_ok {grammar : Nat} {o : Occurrence} {r : Bool} (h : claim grammar o s = .ok r t) :
    (r = true ∧ (grammar, o) ∈ s.registered ∧ t = s) ∨
      (r = false ∧ (grammar, o) ∉ s.registered ∧
        t = { s with registered := (grammar, o) :: s.registered }) := by
  obtain ⟨_, _, hget, h⟩ := Run.bind_ok h
  cases hget
  by_cases hm : (grammar, o) ∈ s.registered
  · refine .inl ?_
    simp only [hm, decide_true] at h
    cases h
    exact ⟨rfl, hm, rfl⟩
  · refine .inr ?_
    simp only [hm, decide_false] at h
    cases h
    exact ⟨rfl, hm, rfl⟩

/-- A site is added to the definition of its name, which is new if the name is. -/
theorem addSite_joins {place : Place} {name : DefineName} {site : Site}
    (h : addSite place name site s = .ok () t) :
    ∃ d : Definition,
      ((s.grammars[place.grammar]?).getD { label := [], parent := none }).Joins name site d ∧
      t = { s with
        grammars := s.grammars.modify place.grammar (·.define place.chain name d) } := by
  obtain ⟨g, u, hget, h⟩ := Run.bind_ok h
  cases hget
  generalize (s.grammars[place.grammar]?).getD { label := [], parent := none } = g at h ⊢
  unfold Grammar.Joins
  cases hd : g.definitions.get? name with
  | none =>
    simp only [hd] at h
    obtain ⟨d, u, hp, hm⟩ := Run.bind_ok h
    cases hp
    injection hm with _ ht
    exact ⟨{ first := site }, rfl, ht.symm⟩
  | some first =>
    simp only [hd] at h
    obtain ⟨d, u, ha, hm⟩ := Run.bind_ok h
    obtain ⟨hadd, rfl⟩ := schema_ok ha
    injection hm with _ ht
    exact ⟨d, hadd, ht.symm⟩

theorem addSite_ok {place : Place} {name : DefineName} {site : Site}
    (h : addSite place name site s = .ok () t) {g : Grammar}
    (hg : s.grammars[place.grammar]? = some g) :
    ∃ d : Definition, d.sites = g.sites name ++ [site] ∧
      t = { s with
        grammars := s.grammars.modify place.grammar (·.define place.chain name d) } := by
  obtain ⟨d, hd, ht⟩ := addSite_joins h
  rw [hg, Option.getD_some] at hd
  exact ⟨d, hd.sites, ht⟩

theorem pushFrame_ok {href : Text} {overrides : List Component}
    (h : pushFrame href overrides s = .ok () t) :
    ∃ f : OverrideFrame, (∀ name, f.spans.contains name = true ↔ name ∈ definedNames overrides) ∧
      f.hits = [] ∧ t = { s with frames := f :: s.frames } := by
  cases h
  refine ⟨_, fun name => ?_, rfl, rfl⟩
  rw [Table.contains_ofList, definedNames, List.map_map]
  rfl

/-- A block that passes its check has suppressed every name that it defines. -/
theorem checkOverrides_ok {f : OverrideFrame} (h : checkOverrides f s = .ok () t) :
    t = s ∧ ∀ name, f.spans.contains name = true → name ∈ f.hits := by
  unfold checkOverrides at h
  cases hf : f.spans.entries.find? fun entry => entry.1 ∉ f.hits with
  | none =>
    rw [hf] at h
    refine ⟨(Run.pure_ok h).2, fun name hname => ?_⟩
    obtain ⟨entry, hm, rfl⟩ := List.mem_map.1 (Table.contains_iff.1 hname)
    simpa using List.find?_eq_none.1 hf entry hm
  | some entry =>
    rw [hf] at h
    exact (Run.not_throw_ok h).elim

/-- The fragment of an include is expanded at a place of its own, with the override block in effect
and its key on the stack of files; both are taken back afterwards. If blocks are strict, the block
has suppressed what it defines. -/
theorem includeFragment_ok {setup : Setup} {descend : Descend} {place : Place} {file : File}
    {key href : Text} {inherit : Option String} {overrides : List Component} {span : Span}
    (h : includeFragment setup descend place file key href inherit overrides span s = .ok () t) :
    ∃ (u u' v w : Expansion) (ns : Text) (inner : Place),
      (overrides.isEmpty = false ∧ pushFrame href overrides s = .ok () u ∨
        overrides.isEmpty = true ∧ u = s) ∧
      report ("Including " ++ key ++ " from " ++ place.file) u = .ok () u' ∧
      place.environment.Passes inherit ns ∧
      checkEnvironment place.grammar key href span
          (Environment.ofDeclarations file.declarations ns) u' =
        .ok () v ∧
      openScope
          { place with
            environment := Environment.ofDeclarations file.declarations ns
            file := key
            address := [] }
          .fragment key v = .ok inner w ∧
      ∃ x, descend inner file.components { w with stack := key :: w.stack } = .ok () x ∧
        t = { x with
          stack := x.stack.tail
          frames := if overrides.isEmpty then x.frames else x.frames.tail } ∧
        (overrides.isEmpty = false → setup.strict = true → ∀ f, x.frames.head? = some f →
          ∀ name, f.spans.contains name = true → name ∈ f.hits) := by
  obtain ⟨u, hpush, h₁⟩ := Run.cond_ok h
  obtain ⟨_, u₁, hreport, h₂⟩ := Run.bind_ok h₁
  obtain ⟨ns, u₂, hinherit, h₃⟩ := Run.bind_ok h₂
  obtain ⟨hns, hu⟩ := inheritedNamespace_ok hinherit
  subst u₂
  obtain ⟨_, v, hcheck, h₄⟩ := Run.bind_ok h₃
  obtain ⟨inner, w, hopen, h₅⟩ := Run.bind_ok h₄
  obtain ⟨_, w', henter, h₆⟩ := Run.bind_ok h₅
  cases henter
  obtain ⟨frame, y, hbody, h₇⟩ := Run.bind_ok h₆
  obtain ⟨x, hx, rfl⟩ := ensuring_ok hbody
  obtain ⟨_, x', hdescend, hget⟩ := Run.bind_ok hx
  cases hget
  refine ⟨u, u₁, v, w, ns, inner, ?_, hreport, hns, hcheck, hopen, x, hdescend, ?_⟩
  · simpa only [Bool.not_eq_true', Bool.not_eq_false'] using hpush
  · have hchecked : t = { x with
          stack := x.stack.tail
          frames := if (!overrides.isEmpty) = true then x.frames.tail else x.frames } ∧
        ((!overrides.isEmpty && setup.strict) = true → ∀ f, x.frames.head? = some f →
          ∀ name, f.spans.contains name = true → name ∈ f.hits) := by
      split at h₇
      next =>
        cases hf : x.frames.head? with
        | none =>
          rw [hf] at h₇
          exact ⟨(Run.pure_ok h₇).2, fun _ => nofun⟩
        | some f =>
          rw [hf] at h₇
          obtain ⟨ht, hhits⟩ := checkOverrides_ok h₇
          refine ⟨ht, fun _ f' hf' => ?_⟩
          cases hf'
          exact hhits
      next hno => exact ⟨(Run.pure_ok h₇).2, fun hyes => absurd hyes hno⟩
    obtain ⟨ht, hhits⟩ := hchecked
    refine ⟨?_, fun hsome hstrict => hhits (by rw [hsome, hstrict]; rfl)⟩
    rw [ht]
    cases overrides.isEmpty <;> rfl

end Expand

end RelaxCompact
