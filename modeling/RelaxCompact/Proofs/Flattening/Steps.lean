import RelaxCompact.Proofs.Flattening.Sides

/-!
The steps of two assemblies side by side, one by one.
-/

namespace RelaxCompact

/-- Trying a key gives its outcome, and changes none. -/
theorem Fragments.exists_attempt (catalog : Catalog) (key : Text) (s : Fragments) :
    ∃ t, attempt catalog key s = .ok (outcome catalog s key) t ∧ Agree catalog s t := by
  cases h : attempt catalog key s with
  | ok result t =>
    obtain ⟨rfl, hagree⟩ := attempt_ok h
    exact ⟨t, rfl, hagree⟩
  | error e t =>
    unfold attempt at h
    split at h <;> cases h

theorem Definition.add_bare {d d' : Definition} {site site' : Site} (hd : d'.bare = d.bare)
    (hsite : site'.bare = site.bare) (name : DefineName) :
    (∃ e, d.add name site = .error e ∧ d'.add name site' = .error e) ∨
      ∃ f f', d.add name site = .ok f ∧ d'.add name site' = .ok f' ∧ f'.bare = f.bare := by
  have hfirst : d'.first.bare = d.first.bare := congrArg Definition.first hd
  have hmore : d'.more.map Site.bare = d.more.map Site.bare := congrArg Definition.more hd
  have hoperator : d'.operator = d.operator := (Site.mk.inj hfirst).2.1
  have hoperator' : site'.operator = site.operator := (Site.mk.inj hsite).2.1
  have hspan : d'.first.span = d.first.span := (Site.mk.inj hfirst).2.2.2.1
  have hspan' : site'.span = site.span := (Site.mk.inj hsite).2.2.2.1
  rw [add, add, hoperator, hoperator', hspan, hspan']
  cases conflict? d.operator site.operator with
  | some fault => exact .inl ⟨_, rfl, rfl⟩
  | none =>
    refine .inr ⟨_, _, rfl, rfl, ?_⟩
    rw [bare, bare, List.map_append, List.map_append, hfirst, hmore, List.map_singleton, hsite,
      List.map_singleton]

theorem map_bare_modify {gs hs : List Grammar} (h : hs.map Grammar.bare = gs.map Grammar.bare)
    {f f' : Grammar → Grammar} (hf : ∀ g g', g'.bare = g.bare → (f' g').bare = (f g).bare)
    (n : Nat) : (hs.modify n f').map Grammar.bare = (gs.modify n f).map Grammar.bare := by
  induction gs generalizing hs n with
  | nil =>
    cases List.map_eq_nil_iff.mp h
    cases n <;> rfl
  | cons g gs ih =>
    cases hs with
    | nil => cases h
    | cons g' hs =>
      obtain ⟨hg, hgs⟩ := List.cons_eq_cons.mp h
      cases n with
      | zero => exact List.cons_eq_cons.mpr ⟨hf g g' hg, hgs⟩
      | succ n => exact List.cons_eq_cons.mpr ⟨hg, ih hgs n⟩

namespace Expand

open Run Surface Fragments

theorem SameFrames.any_contains {idle : List Bool} {fs gs : List OverrideFrame}
    (h : SameFrames idle fs gs) (name : DefineName) :
    (gs.any (·.spans.contains name)) = fs.any (·.spans.contains name) := by
  induction h with
  | nil => rfl
  | both f _ ih => rw [List.any_cons, List.any_cons, ih]
  | @idle _ f _ _ hf _ ih =>
    have hempty : f.spans.contains name = false := by
      rw [Table.contains, Table.get?, hf]
      rfl
    rw [List.any_cons, hempty, Bool.false_or, ih]

theorem SameFrames.map {idle : List Bool} {fs gs : List OverrideFrame} (h : SameFrames idle fs gs)
    {tell : OverrideFrame → OverrideFrame} (htell : ∀ f, (tell f).spans = f.spans) :
    SameFrames idle (fs.map tell) (gs.map tell) := by
  induction h with
  | nil => exact .nil
  | both f _ ih => exact .both (tell f) ih
  | @idle _ f _ _ hf _ ih => exact .idle ((congrArg Table.entries (htell f)).trans hf) ih

section

variable {α : Type} {supply : Supply} {charts : List Chart} {before after standing : Standing}

theorem schema_matched (r : Except SchemaError α) :
    Matched supply charts standing standing (fun a b => b = a) (schema r) (schema r) :=
  (Matched.liftExcept _).mono fun _ _ h => h.1

/-- What is reported has no part in the assembly. -/
theorem report_matched (message message' : Text) :
    Matched supply charts standing standing (fun _ _ => True) (report message)
      (report message') := by
  refine .of_ok fun s u hsu => ⟨(), _, (), _, rfl, rfl, trivial, [], ?_⟩
  rw [List.append_nil]
  exact { hsu with
    source := fun key => (agree_of_entries rfl key).trans (hsu.source key)
    source' := fun key => (agree_of_entries rfl key).trans (hsu.source' key) }

theorem attempt_matched (key : Text) :
    Matched supply charts standing standing
      (fun r r' => r = supply.files key ∧ r' = (supply.files key).map File.flatten)
      (fetching (attempt supply.catalog key)) (fetching (attempt supply.catalog' key)) := by
  refine .of_ok fun s u hsu => ?_
  obtain ⟨t, ht, hst⟩ := exists_attempt supply.catalog key s.source
  obtain ⟨v, hv, huv⟩ := exists_attempt supply.catalog' key u.source
  refine ⟨_, { s with source := t }, _, { u with source := v }, ?_, ?_,
    ⟨hsu.source key, hsu.source' key⟩, [], ?_⟩
  · rw [fetching, ht]
  · rw [fetching, hv]
  · rw [List.append_nil]
    exact { hsu with
      source := fun key => (hst key).trans (hsu.source key)
      source' := fun key => (huv key).trans (hsu.source' key) }

/-- A file that is fetched is not being expanded, and is what its key stands for. -/
theorem fetch_matched (key href : Text) (span : Span) :
    Matched supply charts standing standing
      (fun f g => g = f.flatten ∧ key ∉ standing.stack ∧ supply.files key = .ok f)
      (fetch supply.catalog key href span) (fetch supply.catalog' key href span) := by
  refine Matched.get fun s u hsu => ?_
  rw [hsu.stack, hsu.stack']
  refine Matched.ite Iff.rfl (fun _ => .throw _) fun hnot => ?_
  have hkey : key ∉ standing.stack := fun hm => hnot (List.contains_iff_mem.2 hm)
  refine (attempt_matched key).bind fun opened r r' ⟨hr, hr'⟩ => ?_
  subst hr hr'
  cases hfile : supply.files key with
  | ok file =>
    refine (Matched.modify fun s u hsu => ?_).bind fun _ _ _ _ => .pure ⟨rfl, hkey, rfl⟩
    exact { hsu with }
  | error e =>
    cases e with
    | schema cause => cases cause <;> exact .throw _
    | _ => exact .throw _

theorem inheritedNamespace_matched (environment : Environment) (inherit : Option String)
    (span : Span) :
    Matched supply charts standing standing (fun a b => b = a)
      (inheritedNamespace environment inherit span)
      (inheritedNamespace environment inherit span) := by
  cases inherit with
  | none => exact .pure rfl
  | some qualifier => exact schema_matched _

theorem checkEnvironment_matched (grammar : Nat) (key href : Text) (span : Span)
    (environment : Environment) :
    Matched supply charts standing standing (fun _ _ => True)
      (checkEnvironment grammar key href span environment)
      (checkEnvironment grammar key href span environment) := by
  refine Matched.get fun s u hsu => ?_
  rw [hsu.environments]
  cases s.environments.get? (grammar, key) with
  | none =>
    exact Matched.modify fun s u hsu => { hsu with
      environments := congrArg (·.insert (grammar, key) (environment, span)) hsu.environments }
  | some first => exact Matched.ite Iff.rfl (fun _ => .throw _) fun _ => .pure trivial

/-- A scope that is opened makes no difference to a grammar without scopes. -/
theorem map_bare_scopes (gs : List Grammar) (n : Nat) (f : List Scope → List Scope) :
    (gs.modify n fun g => { g with scopes := f g.scopes }).map Grammar.bare =
      gs.map Grammar.bare := by
  have hmodify : (gs.modify n fun g => { g with scopes := f g.scopes }).map Grammar.bare =
      (gs.modify n id).map Grammar.bare :=
    @map_bare_modify gs gs rfl id (fun g => { g with scopes := f g.scopes }) (fun _ _ hg => hg) n
  rwa [List.modify_id] at hmodify

theorem openScope_matched (place place' : Place) (kind : ScopeKind) (label : Text) :
    Matched supply charts standing standing
      (fun p p' => ∃ n n', p = { place with chain := n :: place.chain } ∧
        p' = { place' with chain := n' :: place'.chain })
      (openScope place kind label) (openScope place' kind label) := by
  refine .of_ok fun s u hsu => ⟨_, _, _, _, rfl, rfl, ⟨_, _, rfl, rfl⟩, [], ?_⟩
  rw [List.append_nil]
  exact { hsu with
    grammars := (map_bare_scopes _ _ (· ++ [{ kind, label }])).trans
      (hsu.grammars.trans (map_bare_scopes _ _ (· ++ [{ kind, label }])).symm)
    length := hsu.length.trans (List.length_modify _ _ _).symm }

/-- A scope that is opened on the first side only. -/
theorem openScope_matched_left {γ δ : Type} {W : γ → δ → Prop} {place : Place} {kind : ScopeKind}
    {label : Text} {f : Place → Expand γ} {y : Expand δ}
    (h : ∀ chain, Matched supply charts before after W (f { place with chain }) y) :
    Matched supply charts before after W (openScope place kind label >>= f) y := by
  intro s u hsu
  refine h _ _ u { hsu with
    grammars := hsu.grammars.trans (map_bare_scopes _ _ (· ++ [{ kind, label }])).symm
    length := hsu.length.trans (List.length_modify _ _ _).symm }

/-! Definitions -/

theorem suppressed_matched (name : DefineName) :
    Matched supply charts standing standing (fun a b => b = a) (suppressed name)
      (suppressed name) := by
  refine .of_ok fun s u hsu => ⟨_, _, _, _, rfl, rfl, hsu.frames.any_contains name, [], ?_⟩
  rw [List.append_nil]
  refine { hsu with frames := hsu.frames.map fun f => ?_ }
  split <;> rfl

theorem getElem?_append_of_some {C : Chart} {n : Nat} (h : charts[n]? = some C)
    (opened : List Chart) : (charts ++ opened)[n]? = some C := by
  rw [List.getElem?_append_left (List.getElem?_eq_some_iff.mp h).1, h]

/-- A definition was taken before on both sides or on neither. -/
theorem mem_registered_iff {n : Nat} {C : Chart} (hC : charts[n]? = some C) (hone : OneToOne C)
    {x y : Occurrence} (hxy : C x y) {rs rs' : List (Nat × Occurrence)}
    (h : List.Forall₂ (fun e e' => e'.1 = e.1 ∧ ∃ C, charts[e.1]? = some C ∧ C e.2 e'.2) rs rs') :
    (n, y) ∈ rs' ↔ (n, x) ∈ rs := by
  induction h with
  | nil => exact iff_of_false nofun nofun
  | @cons e e' rs rs' he _ ih =>
    obtain ⟨m, x'⟩ := e
    obtain ⟨m', y'⟩ := e'
    obtain ⟨rfl, C', hC', hxy'⟩ := he
    rw [List.mem_cons, List.mem_cons, ih]
    refine or_congr_left ?_
    rw [Prod.mk.injEq, Prod.mk.injEq]
    refine and_congr_right fun hn => ?_
    change n = m' at hn
    subst hn
    rw [hC] at hC'
    cases hC'
    exact (hone _ _ _ _ hxy hxy').symm

theorem claim_matched {n : Nat} {C : Chart} (hC : charts[n]? = some C) {x y : Occurrence}
    (hxy : C x y) :
    Matched supply charts standing standing (fun a b => b = a) (claim n x) (claim n y) := by
  refine Matched.get fun s u hsu => ?_
  have hone := hsu.oneToOne C (List.mem_of_getElem? hC)
  have hseen := mem_registered_iff hC hone hxy hsu.registered
  dsimp only
  refine Matched.ite hseen (fun _ => .pure ?_) fun _ => ?_
  · rw [decide_eq_decide]
    exact hseen
  · refine Matched.bind (Matched.modify fun s u hsu => ?_) fun _ _ _ _ => .pure ?_
    · exact { hsu with registered := .cons ⟨rfl, C, hC, hxy⟩ hsu.registered }
    · rw [decide_eq_decide]
      exact hseen

theorem grammar_matched (number : Nat) :
    Matched supply charts standing standing (fun g g' => g'.bare = g.bare) (grammar number)
      (grammar number) := by
  refine Matched.get fun s u hsu => .pure ?_
  have hget := congrArg (·[number]?) hsu.grammars
  rw [List.getElem?_map, List.getElem?_map] at hget
  cases hg : s.grammars[number]? with
  | none =>
    rw [hg] at hget
    rw [Option.map_eq_none_iff.mp hget]
  | some g =>
    rw [hg] at hget
    obtain ⟨g', hg', hbare⟩ := Option.map_eq_some_iff.mp hget
    rw [hg']
    exact hbare

theorem modifyGrammar_matched (number : Nat) {f f' : Grammar → Grammar}
    (hf : ∀ g g', g'.bare = g.bare → (f' g').bare = (f g).bare) :
    Matched supply charts standing standing (fun _ _ => True) (modifyGrammar number f)
      (modifyGrammar number f') :=
  Matched.modify fun _ _ hsu => { hsu with
    grammars := map_bare_modify hsu.grammars hf number
    length := hsu.length.trans (List.length_modify _ _ _).symm }

theorem addSite_matched {place place' : Place} (hgrammar : place'.grammar = place.grammar)
    (name : DefineName) {site site' : Site} (hsite : site'.bare = site.bare) :
    Matched supply charts standing standing (fun _ _ => True) (addSite place name site)
      (addSite place' name site') := by
  have hmodify (charts : List Chart) (d d' : Definition) (hd : d'.bare = d.bare)
      (f f' : Grammar → List Scope) :
      Matched supply charts standing standing (fun _ _ => True)
        (modifyGrammar place.grammar fun g =>
          { g with definitions := g.definitions.insert name d, scopes := f g })
        (modifyGrammar place.grammar fun g =>
          { g with definitions := g.definitions.insert name d', scopes := f' g }) := by
    refine modifyGrammar_matched _ fun g g' hg => ?_
    obtain ⟨hlabel, hparent, hdefinitions, -⟩ := Grammar.mk.inj hg
    simp only [Grammar.bare, Table.map_insert, hlabel, hparent, hdefinitions, hd]
  have hfirst : (Definition.mk site' []).bare = (Definition.mk site []).bare :=
    congrArg (Definition.mk · []) hsite
  unfold addSite
  rw [hgrammar]
  refine (grammar_matched _).bind fun opened g g' hg => ?_
  have hget := congrArg (·.get? name) (Grammar.mk.inj hg).2.2.1
  rw [Table.get?_map, Table.get?_map] at hget
  cases hd : g.definitions.get? name with
  | none =>
    rw [hd] at hget
    rw [Option.map_eq_none_iff.mp hget]
    exact hmodify _ ⟨site, []⟩ ⟨site', []⟩ hfirst _ _
  | some d =>
    rw [hd] at hget
    obtain ⟨d', hd', hbare⟩ := Option.map_eq_some_iff.mp hget
    rw [hd']
    suffices hadd : Matched supply (charts ++ opened) standing standing
        (fun f f' => f'.bare = f.bare) (schema (d.add name site)) (schema (d'.add name site')) from
      Matched.bind hadd fun opened f f' hf => hmodify _ f f' hf _ _
    rcases Definition.add_bare hbare hsite name with ⟨e, he, he'⟩ | ⟨f, f', hf, hf', hadded⟩
    · rw [he, he']
      exact .throw _
    · rw [hf, hf']
      exact .pure hadded

/-- Definitions that the chart of their grammar takes to be one are taken alike. -/
theorem register_matched {place place' : Place} (hgrammar : place'.grammar = place.grammar)
    (hfile : place'.file = place.file) {C : Chart} (hC : charts[place.grammar]? = some C)
    (hplace : C ⟨place.file, place.address⟩ ⟨place'.file, place'.address⟩) (d : Define)
    {lower lower' : Expand Content}
    (h : ∀ opened,
      Matched supply (charts ++ opened) standing standing (fun a b => b = a) lower lower') :
    Matched supply charts standing standing (fun _ _ => True) (register place d lower)
      (register place' d.flatten lower') := by
  unfold register
  refine (suppressed_matched d.name).bind fun opened covered _ he => ?_
  subst he
  refine Matched.ite Iff.rfl (fun _ => report_matched _ _) fun _ => ?_
  rw [hgrammar]
  refine (claim_matched (getElem?_append_of_some hC opened) hplace).bind fun opened' seen _ he => ?_
  subst he
  refine Matched.ite Iff.rfl (fun _ => .pure trivial) fun _ => ?_
  rw [List.append_assoc]
  refine (h _).bind fun _ content _ he => ?_
  subst he
  refine addSite_matched hgrammar d.name ?_
  rw [Site.bare, Site.bare, hfile]
  rfl

/-! Grammars and files -/

theorem isolated_eq (label : Text) (parent : Option Nat) (body : Nat → Expand Unit)
    (s : Expansion) :
    isolated label parent body s =
      match body s.grammars.length
        { s with grammars := s.grammars ++ [{ label, parent }], frames := [] } with
      | .ok _ t => .ok s.grammars.length { t with frames := s.frames }
      | .error e t => .error e { t with frames := s.frames } := by
  change EStateM.bind (ensuring (body s.grammars.length) _) _ _ = _
  unfold EStateM.bind ensuring
  cases body s.grammars.length
    { s with grammars := s.grammars ++ [{ label, parent }], frames := [] } <;> rfl

theorem isolated_matched {stack : List Text} {idle : List Bool} {C : Chart} (hC : OneToOne C)
    (label : Text) (parent : Option Nat) {body body' : Nat → Expand Unit}
    (h : Matched supply (charts ++ [C]) ⟨stack, []⟩ ⟨stack, []⟩ (fun _ _ => True)
      (body charts.length) (body' charts.length)) :
    Matched supply charts ⟨stack, idle⟩ ⟨stack, idle⟩ (fun a b => b = a)
      (isolated label parent body) (isolated label parent body') := by
  intro s u hsu
  have hlength : u.grammars.length = s.grammars.length := by
    have hmap := congrArg List.length hsu.grammars
    rwa [List.length_map, List.length_map] at hmap
  have hopened : Sides supply (charts ++ [C]) ⟨stack, []⟩
      { s with grammars := s.grammars ++ [{ label, parent }], frames := [] }
      { u with grammars := u.grammars ++ [{ label, parent }], frames := [] } := { hsu with
    frames := .nil
    grammars := by
      rw [List.map_append, List.map_append, hsu.grammars]
    length := by rw [List.length_append, List.length_append, hsu.length]; rfl
    oneToOne := fun C' hC' => (List.mem_append.mp hC').elim (hsu.oneToOne C')
      fun hm => List.mem_singleton.mp hm ▸ hC
    registered := hsu.registered.imp fun _ _ ⟨hn, C', hC', hxy⟩ =>
      ⟨hn, C', getElem?_append_of_some hC' _, hxy⟩ }
  have hbody := h _ _ hopened
  rw [isolated_eq, isolated_eq, hlength, ← hsu.length]
  generalize body charts.length _ = x at hbody ⊢
  generalize body' charts.length _ = y at hbody ⊢
  cases x <;> cases y
  · obtain ⟨-, opened, hsides⟩ := hbody
    rw [List.append_assoc] at hsides
    exact ⟨rfl, [C] ++ opened, { hsides with frames := hsu.frames }⟩
  · exact hbody
  · exact hbody
  · exact hbody

theorem enter_matched (key : Text) (stack : List Text) (idle : List Bool) :
    Matched supply charts ⟨stack, idle⟩ ⟨key :: stack, idle⟩ (fun _ _ => True) (enter key)
      (enter key) :=
  Matched.modify fun _ _ hsu => { hsu with
    stack := congrArg (key :: ·) hsu.stack
    stack' := congrArg (key :: ·) hsu.stack' }

theorem checkOverrides_matched (frame : OverrideFrame) :
    Matched supply charts standing standing (fun _ _ => True) (checkOverrides frame)
      (checkOverrides frame) := by
  unfold checkOverrides
  split
  next => exact .throw _
  next => exact .pure trivial

end

end Expand

end RelaxCompact
