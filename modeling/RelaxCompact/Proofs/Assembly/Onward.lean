import RelaxCompact.Proofs.Assembly.Steps

/-!
Where a successful run of an assembly gets. Files stand for what they stood for, the stack of files
is as it was, noted environments stay, and definitions that combine go on combining.
-/

namespace RelaxCompact

/-- Operators of the sites of one name that combine: there is one site, or all use one operator,
which is not `=`. -/
def Compatible (operators : List Assignment) : Prop :=
  operators.length = 1 ∨
    2 ≤ operators.length ∧ ((∀ o ∈ operators, o = .choice) ∨ ∀ o ∈ operators, o = .interleave)

/-- Where operators combine and are not all one, there is but one. -/
theorem Compatible.length_eq_one {operators : List Assignment} (h : Compatible operators)
    (hchoice : ¬ ∀ o ∈ operators, o = .choice)
    (hinterleave : ¬ ∀ o ∈ operators, o = .interleave) : operators.length = 1 := by
  rcases h with hone | ⟨-, hall | hall⟩
  · exact hone
  · exact absurd hall hchoice
  · exact absurd hall hinterleave

namespace Definition

/-- All sites combine with one another. -/
def Combined (d : Definition) : Prop := Compatible (d.sites.map Site.operator)

theorem combined_single (site : Site) : Combined { first := site } := .inl rfl

/-- Two operators do not conflict if both are the same one and it is not `=`. -/
theorem conflict?_eq_none {first second : Assignment} :
    conflict? first second = none ↔
      first = .choice ∧ second = .choice ∨ first = .interleave ∧ second = .interleave := by
  cases first <;> cases second <;> simp [conflict?]

/-- A site is compared with the first one only, which stands for all the others. -/
theorem Combined.add {d d' : Definition} {name : DefineName} {site : Site} (hd : d.Combined)
    (h : d.add name site = .ok d') : d'.Combined := by
  have hsites := sites_add h
  have hlength : d.sites.length = d.more.length + 1 := rfl
  unfold Definition.add at h
  split at h
  · cases h
  next hnone =>
    -- The sites that are there all have the operator of the first.
    have hall (o : Assignment) (hne : o ≠ .single) (hfirst : d.operator = o) :
        ∀ o' ∈ d.sites.map Site.operator, o' = o := by
      rcases hd with hone | ⟨-, hall | hall⟩
      · rw [List.length_map, hlength] at hone
        have hmore : d.more = [] := List.eq_nil_of_length_eq_zero (by omega)
        intro o' ho'
        rw [Definition.sites, hmore] at ho'
        rw [List.mem_singleton.1 ho']
        exact hfirst
      · have := hall d.operator (List.mem_map_of_mem List.mem_cons_self)
        rwa [← hfirst, this]
      · have := hall d.operator (List.mem_map_of_mem List.mem_cons_self)
        rwa [← hfirst, this]
    unfold Combined
    rw [hsites, List.map_append]
    refine .inr ⟨by simp [hlength], ?_⟩
    rcases conflict?_eq_none.1 hnone with ⟨hfirst, hsecond⟩ | ⟨hfirst, hsecond⟩
    · exact .inl (List.forall_mem_append.2 ⟨hall _ nofun hfirst, by simpa using hsecond⟩)
    · exact .inr (List.forall_mem_append.2 ⟨hall _ nofun hfirst, by simpa using hsecond⟩)

end Definition

/-- Every definition of a grammar combines its sites. -/
def Grammar.Combined (g : Grammar) : Prop :=
  ∀ name d, g.definitions.get? name = some d → d.Combined

theorem Grammar.Combined.define {g : Grammar} (hg : g.Combined) (chain : List Nat)
    {name : DefineName} {d : Definition} (hd : d.Combined) : (g.define chain name d).Combined := by
  intro other d' h
  change (g.definitions.insert name d).get? other = some d' at h
  by_cases he : other = name
  · rw [he, Table.get?_insert_self] at h
    cases h
    exact hd
  · rw [Table.get?_insert_of_ne _ he] at h
    exact hg other d' h

theorem Grammar.Combined.joins {g : Grammar} (hg : g.Combined) {name : DefineName} {site : Site}
    {d : Definition} (h : g.Joins name site d) : d.Combined := by
  unfold Joins at h
  cases hd : g.definitions.get? name with
  | none =>
    rw [hd] at h
    rw [h]
    exact Definition.combined_single site
  | some first =>
    rw [hd] at h
    exact (hg name first hd).add h

/-- What holds of all entries holds of them when one of them is changed. -/
theorem forall_mem_modify {α : Type} {P : α → Prop} {l : List α} (h : ∀ a ∈ l, P a) {f : α → α}
    (hf : ∀ a, P a → P (f a)) (n : Nat) : ∀ a ∈ l.modify n f, P a := by
  intro a ha
  obtain ⟨i, hi⟩ := List.mem_iff_getElem?.1 ha
  rw [List.getElem?_modify, Option.map_eq_map, Option.map_eq_some_iff] at hi
  obtain ⟨b, hb, rfl⟩ := hi
  have hP := h b (List.mem_of_getElem? hb)
  split
  · exact hf b hP
  · exact hP

namespace Expand

open Surface

/-- What a step of an assembly from `s` to `t` leaves as it is. -/
structure Onward (catalog : Catalog) (s t : Expansion) : Prop where
  source : Fragments.Agree catalog s.source t.source
  stack : t.stack = s.stack
  environments : ∀ k v, s.environments.get? k = some v → t.environments.get? k = some v
  combined : (∀ g ∈ s.grammars, g.Combined) → ∀ g ∈ t.grammars, g.Combined

/-- Every successful run of a step leads onward. -/
def Advances {α : Type} (catalog : Catalog) (x : Expand α) : Prop :=
  ∀ s a t, x s = .ok a t → Onward catalog s t

section

variable {catalog : Catalog} {α β : Type} {x : Expand α} {f : α → Expand β} {s t u : Expansion}

theorem Onward.refl (s : Expansion) : Onward catalog s s := ⟨.refl _ _, rfl, fun _ _ => id, id⟩

theorem Onward.trans (hst : Onward catalog s t) (htu : Onward catalog t u) :
    Onward catalog s u where
  source := hst.source.trans htu.source
  stack := htu.stack.trans hst.stack
  environments k v h := htu.environments k v (hst.environments k v h)
  combined h := htu.combined (hst.combined h)

theorem Onward.sources (h : Onward catalog s t) :
    t.source.sources catalog = s.source.sources catalog :=
  h.source.sources

/-- Nothing is done to environments, and to grammars at most what leaves definitions alone. -/
theorem Onward.of_grammars (hsource : Fragments.Agree catalog s.source t.source)
    (hstack : t.stack = s.stack) (henv : t.environments = s.environments)
    (hgrammars : (∀ g ∈ s.grammars, g.Combined) → ∀ g ∈ t.grammars, g.Combined) :
    Onward catalog s t :=
  ⟨hsource, hstack, fun _ _ h => henv ▸ h, hgrammars⟩

theorem Advances.bind (hx : Advances catalog x) (hf : ∀ a, Advances catalog (f a)) :
    Advances catalog (x >>= f) := by
  intro s b t h
  obtain ⟨a, u, hxs, hfu⟩ := Run.bind_ok h
  exact (hx s a u hxs).trans (hf a u b t hfu)

theorem Advances.pure (a : α) : Advances catalog (pure a) := by
  intro s b t h
  cases h
  exact .refl s

theorem Advances.throw (e : Failure) : Advances catalog (throw e : Expand α) :=
  fun _ _ _ h => (Run.not_throw_ok h).elim

theorem Advances.get : Advances catalog (get : Expand Expansion) := by
  intro s a t h
  cases h
  exact .refl s

theorem Advances.modify {g : Expansion → Expansion} (h : ∀ s, Onward catalog s (g s)) :
    Advances catalog (modify g) := by
  intro s a t hs
  cases hs
  exact h s

theorem Advances.ite {c : Prop} [Decidable c] {y : Expand α} (hx : Advances catalog x)
    (hy : Advances catalog y) : Advances catalog (if c then x else y) := by
  split
  · exact hx
  · exact hy

theorem Advances.liftExcept (r : Except Failure α) : Advances catalog (liftExcept r) := by
  intro s a t h
  rw [(Run.liftExcept_ok h).2]
  exact .refl s

theorem Advances.schema (r : Except SchemaError α) : Advances catalog (schema r) := by
  intro s a t h
  rw [(schema_ok h).2]
  exact .refl s

/-! The single steps -/

theorem report_advances (message : Text) : Advances catalog (report message) := by
  intro s a t h
  obtain ⟨source, hs, rfl⟩ := fetching_ok h
  exact .of_grammars (Fragments.report_agree hs) rfl rfl id

theorem openGrammar_advances (label : Text) (parent : Option Nat) :
    Advances catalog (openGrammar label parent) := by
  refine Advances.get.bind fun _ => Advances.bind (.modify fun s => ?_) fun _ => .pure _
  refine .of_grammars (.refl _ _) rfl rfl fun h => List.forall_mem_append.2 ⟨h, ?_⟩
  intro g hg
  cases List.mem_singleton.1 hg
  intro name d hd
  cases hd

/-- A change of one grammar that keeps definitions combined. -/
theorem modifyGrammar_advances (number : Nat) {f : Grammar → Grammar}
    (hf : ∀ g : Grammar, g.Combined → (f g).Combined) :
    Advances catalog (modifyGrammar number f) := by
  exact .modify fun s => .of_grammars (.refl _ _) rfl rfl fun h => forall_mem_modify h hf number

theorem openScope_advances (place : Place) (kind : ScopeKind) (label : Text) :
    Advances catalog (openScope place kind label) := by
  refine Advances.bind (Advances.get.bind fun _ => .pure _) fun g => ?_
  refine Advances.bind (modifyGrammar_advances _ fun g hg => ?_) fun _ => .pure _
  exact hg

theorem fetch_advances (key href : Text) (span : Span) :
    Advances catalog (fetch catalog key href span) := by
  intro s file t h
  obtain ⟨_, _, hget, h⟩ := Run.bind_ok h
  cases hget
  dsimp only at h
  split at h
  · obtain ⟨_, _, hr, _⟩ := Run.bind_ok h
    exact (Run.not_throw_ok hr).elim
  · obtain ⟨result, u, hf, h⟩ := Run.bind_ok h
    obtain ⟨source, hs, rfl⟩ := fetching_ok hf
    have ha := (Fragments.attempt_ok hs).2
    split at h
    · obtain ⟨_, u, hm, h⟩ := Run.bind_ok h
      cases hm
      cases h
      exact .of_grammars ha rfl rfl id
    · exact (Run.not_throw_ok h).elim
    · exact (Run.not_throw_ok h).elim

theorem inheritedNamespace_advances (environment : Environment) (inherit : Option String)
    (span : Span) : Advances catalog (inheritedNamespace environment inherit span) := by
  cases inherit with
  | none => exact .pure _
  | some qualifier => exact .schema _

variable (catalog) in
/-- Once it is checked, the environment of a fragment is the one noted for it. -/
theorem checkEnvironment_notes {grammar : Nat} {key href : Text} {span : Span}
    {environment : Environment}
    (h : checkEnvironment grammar key href span environment s = .ok () t) :
    Onward catalog s t ∧
      ∃ first, t.environments.get? (grammar, key) = some (environment, first) := by
  obtain ⟨_, _, hget, h⟩ := Run.bind_ok h
  cases hget
  cases hk : s.environments.get? (grammar, key) with
  | none =>
    simp only [hk] at h
    cases h
    refine ⟨⟨.refl _ _, rfl, fun k v hv => ?_, id⟩, span, Table.get?_insert_self _ _ _⟩
    have hne : k ≠ (grammar, key) := by
      rintro rfl
      cases hk.symm.trans hv
    exact (Table.get?_insert_of_ne _ hne _).trans hv
  | some first =>
    simp only [hk] at h
    split at h
    · exact (Run.not_throw_ok h).elim
    next hsame =>
      cases h
      refine ⟨.refl _, first.2, ?_⟩
      rw [hk, ← Classical.not_not.1 hsame]

theorem suppressed_advances (name : DefineName) : Advances catalog (suppressed name) := by
  refine Advances.get.bind fun _ => Advances.bind (.modify fun s => ?_) fun _ => .pure _
  exact .of_grammars (.refl _ _) rfl rfl id

theorem claim_advances (grammar : Nat) (occurrence : Occurrence) :
    Advances catalog (claim grammar occurrence) := by
  intro s seen t h
  rcases claim_ok h with ⟨-, -, rfl⟩ | ⟨-, -, rfl⟩
  · exact .refl _
  · exact .of_grammars (.refl _ _) rfl rfl id

theorem addSite_advances (place : Place) (name : DefineName) (site : Site) :
    Advances catalog (addSite place name site) := by
  intro s a t h
  obtain ⟨d, hd, rfl⟩ := addSite_joins h
  refine .of_grammars (.refl _ _) rfl rfl fun hall => ?_
  have hcombined :
      ((s.grammars[place.grammar]?).getD { label := [], parent := none }).Combined := by
    cases hn : s.grammars[place.grammar]? with
    | none => exact fun _ _ hd => nomatch hd
    | some g => exact hall g (List.mem_of_getElem? hn)
  exact forall_mem_modify hall (fun g hg => hg.define _ (hcombined.joins hd)) _

theorem register_advances (place : Place) (d : Define) {lower : Expand Content}
    (h : Advances catalog lower) : Advances catalog (register place d lower) := by
  refine (suppressed_advances _).bind fun _ => .ite (report_advances _) ?_
  refine (claim_advances _ _).bind fun _ => .ite (.pure _) ?_
  exact h.bind fun _ => addSite_advances _ _ _

theorem isolated_advances (label : Text) (parent : Option Nat) {body : Nat → Expand Unit}
    (h : ∀ number, Advances catalog (body number)) :
    Advances catalog (isolated label parent body) := by
  refine (openGrammar_advances _ _).bind fun number => Advances.get.bind fun saved => ?_
  refine Advances.bind (.modify fun s => .of_grammars (.refl _ _) rfl rfl id) fun _ => ?_
  refine Advances.bind (fun s a t hs => ?_) fun _ => .pure _
  obtain ⟨u, hu, rfl⟩ := ensuring_ok hs
  exact (h number s a u hu).trans (.of_grammars (.refl _ _) rfl rfl id)

variable {setup : Setup} {descend : Descend}

/-- A file that is entered is left again. -/
theorem entered_onward {key : Text} {cleaned : Expansion}
    (h : Onward catalog { s with stack := key :: s.stack } u) (hsource : cleaned.source = u.source)
    (hstack : cleaned.stack = u.stack.tail) (henv : cleaned.environments = u.environments)
    (hgrammars : cleaned.grammars = u.grammars) : Onward catalog s cleaned where
  source := by
    rw [hsource]
    exact h.source
  stack := by
    rw [hstack, h.stack]
    rfl
  environments k v hk := by
    rw [henv]
    exact h.environments k v hk
  combined hall := by
    rw [hgrammars]
    exact h.combined hall

theorem external_advances (hd : ∀ place cs, Advances setup.catalog (descend place cs))
    (place : Place) (href : Text) (inherit : Option String) (span : Span) :
    Advances setup.catalog (external setup descend place href inherit span) := by
  refine (Advances.liftExcept _).bind fun key => (fetch_advances _ _ _).bind fun file => ?_
  refine (inheritedNamespace_advances _ _ _).bind fun inherited => ?_
  intro s number t h
  obtain ⟨_, v, henter, h⟩ := Run.bind_ok h
  cases henter
  obtain ⟨u, hu, rfl⟩ := ensuring_ok h
  exact entered_onward (isolated_advances _ _ (fun _ => hd _ _) _ _ _ hu) rfl rfl rfl rfl

theorem pushFrame_advances (href : Text) (overrides : List Component) :
    Advances catalog (pushFrame href overrides) :=
  .modify fun _ => .of_grammars (.refl _ _) rfl rfl id

/-- The fragment of an include is expanded after its environment is noted, with its key on the stack
of files. -/
theorem includeFragment_onward (hd : ∀ place cs, Advances setup.catalog (descend place cs))
    {place : Place} {file : File} {key href : Text} {inherit : Option String}
    {overrides : List Component} {span : Span}
    (h : includeFragment setup descend place file key href inherit overrides span s = .ok () t) :
    ∃ (ns : Text) (inner : Place) (w x : Expansion),
      place.environment.Passes inherit ns ∧
      inner.locus = ⟨Environment.ofDeclarations file.declarations ns, key, []⟩ ∧
      inner.grammar = place.grammar ∧
      (∃ first, w.environments.get? (place.grammar, key) =
        some (Environment.ofDeclarations file.declarations ns, first)) ∧
      descend inner file.components { w with stack := key :: w.stack } = .ok () x ∧
      t.environments = x.environments ∧
      Onward setup.catalog s w ∧ Onward setup.catalog w t := by
  obtain ⟨u, u', v, w, ns, inner, hpush, hreport, hns, hcheck, hopen, x, hx, rfl, -⟩ :=
    includeFragment_ok h
  have hsu : Onward setup.catalog s u := by
    rcases hpush with ⟨-, hpush⟩ | ⟨-, rfl⟩
    · exact pushFrame_advances _ _ _ _ _ hpush
    · exact .refl _
  obtain ⟨hchecked, first, hfirst⟩ := checkEnvironment_notes setup.catalog hcheck
  have hvw : Onward setup.catalog v w := openScope_advances _ _ _ _ _ _ hopen
  have hsv : Onward setup.catalog s v :=
    (hsu.trans (report_advances _ _ _ _ hreport)).trans hchecked
  obtain ⟨number, hinner, -⟩ := openScope_ok hopen
  refine ⟨ns, inner, w, x, hns, by rw [hinner]; rfl, by rw [hinner],
    ⟨first, hvw.environments _ _ hfirst⟩, hx, rfl, hsv.trans hvw, ?_⟩
  exact entered_onward (hd _ _ _ _ _ hx) rfl rfl rfl rfl

theorem includeFragment_advances (hd : ∀ place cs, Advances setup.catalog (descend place cs))
    (place : Place) (file : File) (key href : Text) (inherit : Option String)
    (overrides : List Component) (span : Span) : Advances setup.catalog
      (includeFragment setup descend place file key href inherit overrides span) := by
  intro s a t h
  obtain ⟨_, _, _, _, _, _, _, _, _, _, hsw, hwt⟩ := includeFragment_onward hd h
  exact hsw.trans hwt

/-- The expansion of one file leads onward if that of other files does. -/
theorem expansion_advances (hd : ∀ place cs, Advances setup.catalog (descend place cs)) :
    (∀ place p, Advances setup.catalog (lower setup descend place p)) ∧
      (∀ place i cs, Advances setup.catalog (expandAll setup descend place i cs)) ∧
      ∀ place c, Advances setup.catalog (expand setup descend place c) := by
  refine lower.mutual_induct_unfolding setup descend
    (fun _ _ step => Advances setup.catalog step) (fun _ _ _ step => Advances setup.catalog step)
    (fun _ _ step => Advances setup.catalog step)
    ?binary ?unary ?leaf ?named ?ref ?parentRef ?data ?dataExcept ?value ?external ?grammar
    ?define ?div ?incl ?nil ?cons
  case binary =>
    exact fun _ _ _ _ _ ihLeft ihRight => ihLeft.bind fun _ => ihRight.bind fun _ => .pure _
  case unary => exact fun _ _ _ _ ih => ih.bind fun _ => .pure _
  case leaf => exact fun _ _ _ => .pure _
  case named =>
    exact fun _ _ _ _ _ ih => (Advances.schema _).bind fun _ => ih.bind fun _ => .pure _
  case ref => exact fun _ _ _ => .pure _
  case parentRef => exact fun _ _ _ => .pure _
  case data => exact fun _ _ _ _ => (Advances.schema _).bind fun _ => .pure _
  case dataExcept =>
    exact fun _ _ _ _ _ ih => (Advances.schema _).bind fun _ => ih.bind fun _ => .pure _
  case value => exact fun _ _ _ _ => (Advances.schema _).bind fun _ => .pure _
  case external => exact fun _ _ _ _ => (external_advances hd _ _ _ _).bind fun _ => .pure _
  case grammar => exact fun _ _ _ ih => (isolated_advances _ _ ih).bind fun _ => .pure _
  case define => exact fun _ _ _ _ _ _ ih => register_advances _ _ ih
  case div => exact fun _ _ _ ih => (openScope_advances _ _ _).bind ih
  case incl =>
    intro place href inherit overrides span ih
    refine (Advances.liftExcept _).bind fun key => (fetch_advances _ _ _).bind fun file => ?_
    refine .ite ((Advances.throw _).bind fun _ => ?_) ?_
    all_goals
      refine (openScope_advances _ _ _).bind fun inner => (ih inner).bind fun _ => ?_
      exact includeFragment_advances hd _ _ _ _ _ _ _
  case nil => exact fun _ _ => .pure _
  case cons => exact fun _ _ _ _ ihFirst ihRest => ihFirst.bind fun _ => ihRest

/-- Files lead onward, to any depth. -/
theorem expandFile_advances (setup : Setup) (budget : Nat) (place : Place) (cs : List Component) :
    Advances setup.catalog (expandFile setup budget place cs) := by
  induction budget generalizing place cs with
  | zero => exact .throw _
  | succ budget ih => exact (expansion_advances ih).2.1 place 0 cs

end

end Expand

end RelaxCompact
