import RelaxCompact.Proofs.Assembly.Scopes
import RelaxCompact.Proofs.Assembly.Steps

/-!
The grammars of an assembly as scopes that refer to one another. Grammars do not say in which of
their scopes another one was opened; a layout adds that.
-/

namespace RelaxCompact

/-- A scope of a grammar by its number, or the grammar itself. -/
structure ScopeRef where
  grammar : Nat
  scope : Option Nat
  deriving DecidableEq

namespace ScopeRef

/-- The first scope of a chain in a grammar. -/
def innermost (n : Nat) (chain : List Nat) : ScopeRef := ⟨n, chain.head?⟩

/-- The scopes of a chain in a grammar, and the grammar at its end. -/
def along (n : Nat) : List Nat → List ScopeRef
  | [] => [⟨n, none⟩]
  | i :: chain => ⟨n, some i⟩ :: along n chain

end ScopeRef

/-- A definition of a grammar by its name. -/
abbrev DefinitionRef := Nat × DefineName

def Grammar.toObject (n : Nat) (g : Grammar) : ScopeObject ScopeRef DefinitionRef where
  kind := none
  label := g.label
  parent := none
  grammar := ⟨n, none⟩
  outer := g.parent.map (⟨·, none⟩)
  defines name := (g.definitions.get? name).map fun _ => (n, name)

/-- A scope of a grammar, opened inside another one or directly in the grammar. -/
def Scope.toObject (n : Nat) (around : Option Nat) (s : Scope) :
    ScopeObject ScopeRef DefinitionRef where
  kind := some s.kind
  label := s.label
  parent := some ⟨n, around⟩
  grammar := ⟨n, none⟩
  outer := none
  defines name := if name ∈ s.names then some (n, name) else none

/-! Where a name is defined once more -/

theorem Definition.conflict_of_add {d d' : Definition} {name : DefineName} {site : Site}
    (h : d.add name site = .ok d') : conflict? d.operator site.operator = none := by
  unfold add at h
  split at h
  next => cases h
  next hnone => exact hnone

/-- Along any chain, a name leads to the definition in the grammar's own table. -/
theorem Grammar.lookup_eq (g : Grammar) (chain : List Nat) (name : DefineName) :
    g.lookup chain name = g.definitions.get? name := by
  unfold lookup
  dsimp only
  split
  next => rfl
  next hnot =>
    cases hd : g.definitions.get? name with
    | none => rfl
    | some d => exact absurd (.inr (by rw [Table.contains, hd]; rfl)) hnot

theorem Grammar.toObject_defines (n : Nat) (g : Grammar) (name : DefineName) :
    (g.toObject n).defines name = (g.definitions.get? name).map fun _ => (n, name) := rfl

theorem Grammar.toObject_define (n : Nat) (chain : List Nat) (name : DefineName) (d : Definition)
    (g : Grammar) : (g.define chain name d).toObject n =
      { g.toObject n with
        defines := Function.update (g.toObject n).defines name (some (n, name)) } := by
  apply ScopeObject.ext
  case defines =>
    funext other
    by_cases h : other = name
    · simp [toObject, define, h]
    · simp [toObject, define, h]
  all_goals rfl

@[simp] theorem Scope.define_kind (name : DefineName) (s : Scope) :
    (s.define name).kind = s.kind := by
  unfold define
  split <;> rfl

@[simp] theorem Scope.define_label (name : DefineName) (s : Scope) :
    (s.define name).label = s.label := by
  unfold define
  split <;> rfl

@[simp] theorem Scope.mem_define {name other : DefineName} {s : Scope} :
    other ∈ (s.define name).names ↔ other = name ∨ other ∈ s.names := by
  unfold define
  by_cases h : name ∈ s.names
  · rw [if_pos h]
    constructor
    · exact .inr
    · rintro (rfl | hother)
      · exact h
      · exact hother
  · simp [h, or_comm]

theorem Scope.toObject_define (n : Nat) (around : Option Nat) (name : DefineName) (s : Scope) :
    (s.define name).toObject n around =
      { s.toObject n around with
        defines := Function.update (s.toObject n around).defines name (some (n, name)) } := by
  apply ScopeObject.ext
  case kind => exact congrArg some (s.define_kind name)
  case label => exact s.define_label name
  case defines =>
    funext other
    by_cases h : other = name
    · simp [toObject, h]
    · simp [toObject, h]
  all_goals rfl

def Site.toObject (n : Nat) (s : Site) : SiteObject ScopeRef where
  scope := .innermost n s.chain
  occurrence := s.occurrence
  operator := s.operator
  documentation := s.documentation
  span := s.span
  content := s.content

/-- Grammars, with the scope around each scope of each of them. -/
structure Layout where
  around : Nat → Nat → Option Nat
  grammars : List Grammar

namespace Layout

/-- The objects of a layout. -/
def store (l : Layout) : Store ScopeRef DefinitionRef where
  scopes
    | ⟨n, none⟩ => (l.grammars[n]?).map (·.toObject n)
    | ⟨n, some i⟩ =>
      (l.grammars[n]?).bind fun g => (g.scopes[i]?).map (·.toObject n (l.around n i))
  definitions d :=
    (l.grammars[d.1]?).bind fun g => (g.definitions.get? d.2).map (·.sites.map (·.toObject d.1))

variable {l l' l'' : Layout} {n : Nat} {chain : List Nat} {g : Grammar}

theorem scopes_grammar (l : Layout) (n : Nat) :
    l.store.scopes ⟨n, none⟩ = (l.grammars[n]?).map (·.toObject n) := rfl

theorem scopes_scope (l : Layout) (n i : Nat) :
    l.store.scopes ⟨n, some i⟩ =
      (l.grammars[n]?).bind fun g => (g.scopes[i]?).map (·.toObject n (l.around n i)) := rfl

theorem definitions_eq (l : Layout) (n : Nat) (name : DefineName) :
    l.store.definitions (n, name) =
      (l.grammars[n]?).bind fun g => (g.definitions.get? name).map (·.sites.map (·.toObject n)) :=
  rfl

/-- A scope is one of a grammar. -/
theorem exists_grammar {r : ScopeRef} {o : ScopeObject ScopeRef DefinitionRef}
    (h : l.store.scopes r = some o) :
    ∃ g, l.grammars[r.grammar]? = some g ∧ o.grammar = ⟨r.grammar, none⟩ := by
  obtain ⟨n, scope⟩ := r
  cases scope with
  | none =>
    obtain ⟨g, hg, rfl⟩ := Option.map_eq_some_iff.1 h
    exact ⟨g, hg, rfl⟩
  | some i =>
    obtain ⟨g, hg, hi⟩ := Option.bind_eq_some_iff.1 h
    obtain ⟨s, -, rfl⟩ := Option.map_eq_some_iff.1 hi
    exact ⟨g, hg, rfl⟩

/-- The scopes around one another in a grammar are those of a chain. -/
def Stands (l : Layout) (n : Nat) (chain : List Nat) : Prop :=
  l.store.Chain (.innermost n chain) (ScopeRef.along n chain)

theorem Stands.exists_object (h : l.Stands n chain) :
    ∃ o, l.store.scopes (.innermost n chain) = some o ∧ o.grammar = ⟨n, none⟩ := by
  obtain ⟨o, ho⟩ := Store.Chain.exists_object h
  obtain ⟨-, -, hgrammar⟩ := exists_grammar ho
  exact ⟨o, ho, hgrammar⟩

theorem Stands.exists_grammar (h : l.Stands n chain) : ∃ g, l.grammars[n]? = some g := by
  obtain ⟨o, ho⟩ := Store.Chain.exists_object h
  obtain ⟨g, hg, -⟩ := Layout.exists_grammar ho
  exact ⟨g, hg⟩

/-- Every site stands in the scopes of its chain. -/
def Located (l : Layout) : Prop :=
  ∀ n g name, l.grammars[n]? = some g → ∀ site ∈ g.sites name, l.Stands n site.chain

/-- A layout after steps of an assembly. -/
structure Redrawn (l l' : Layout) : Prop where
  grows : Store.Grows l.store l'.store
  located : l.Located → l'.Located

theorem Redrawn.refl (l : Layout) : l.Redrawn l := ⟨.refl, id⟩

theorem Redrawn.trans (h : l.Redrawn l') (h' : l'.Redrawn l'') : l.Redrawn l'' :=
  ⟨Relation.ReflTransGen.trans h.grows h'.grows, h'.located ∘ h.located⟩

theorem Redrawn.stands (h : l.Redrawn l') (hs : l.Stands n chain) : l'.Stands n chain :=
  hs.keeps h.grows.keeps

/-! What an assembly does to its grammars -/

theorem getElem?_concat {α : Type} (as : List α) (a : α) (i : Nat) :
    (as ++ [a])[i]? = if i = as.length then some a else as[i]? := by
  by_cases h : i = as.length
  · simp [h]
  · rw [if_neg h]
    rcases Nat.lt_or_gt_of_ne h with h | h
    · exact List.getElem?_append_left h
    · rw [List.getElem?_eq_none (Nat.le_of_lt h), List.getElem?_eq_none]
      rwa [List.length_append, List.length_singleton]

def openGrammar (l : Layout) (label : Text) (parent : Option Nat) : Layout :=
  { l with grammars := l.grammars ++ [{ label, parent }] }

/-- A scope is opened in the first one of a chain. -/
def openScope (l : Layout) (n : Nat) (chain : List Nat) (kind : ScopeKind) (label : Text) :
    Layout where
  around m i :=
    if m = n ∧ (l.grammars[n]?).any (·.scopes.length = i) then chain.head? else l.around m i
  grammars := l.grammars.modify n fun g => { g with scopes := g.scopes ++ [{ kind, label }] }

def define (l : Layout) (n : Nat) (chain : List Nat) (name : DefineName) (d : Definition) :
    Layout :=
  { l with grammars := l.grammars.modify n (·.define chain name d) }

theorem store_openGrammar (l : Layout) (label : Text) (parent : Option Nat) :
    (l.openGrammar label parent).store = l.store.put ⟨l.grammars.length, none⟩
      ⟨none, label, none, ⟨l.grammars.length, none⟩, parent.map (⟨·, none⟩), fun _ => none⟩ := by
  have hgrammar (m : Nat) : (l.openGrammar label parent).grammars[m]? =
      if m = l.grammars.length then some { label, parent } else l.grammars[m]? :=
    getElem?_concat _ _ m
  have haround : (l.openGrammar label parent).around = l.around := rfl
  apply Store.ext
  · funext q
    obtain ⟨m, scope⟩ := q
    by_cases hm : m = l.grammars.length
    · cases scope with
      | none =>
        simp [scopes_grammar, Store.put, hgrammar, hm, Grammar.toObject, Table.get?, Table.lookup]
      | some i => simp [scopes_scope, Store.put, hgrammar, hm]
    · cases scope with
      | none => simp [scopes_grammar, Store.put, hgrammar, hm]
      | some i => simp [scopes_scope, Store.put, hgrammar, hm, haround]
  · funext d
    obtain ⟨m, name⟩ := d
    by_cases hm : m = l.grammars.length
    · simp [definitions_eq, Store.put, hgrammar, hm, Table.get?, Table.lookup]
    · simp [definitions_eq, Store.put, hgrammar, hm]

theorem getElem?_modify_of_some (hg : l.grammars[n]? = some g) (f : Grammar → Grammar) (m : Nat) :
    (l.grammars.modify n f)[m]? = if m = n then some (f g) else l.grammars[m]? := by
  rw [List.getElem?_modify]
  by_cases hm : m = n
  · simp [hm, hg]
  · simp [hm, Ne.symm hm]

theorem store_openScope (hg : l.grammars[n]? = some g) (chain : List Nat) (kind : ScopeKind)
    (label : Text) :
    (l.openScope n chain kind label).store = l.store.put ⟨n, some g.scopes.length⟩
      ⟨some kind, label, some (.innermost n chain), ⟨n, none⟩, none, fun _ => none⟩ := by
  have hgrammar (m : Nat) : (l.openScope n chain kind label).grammars[m]? =
      if m = n then some { g with scopes := g.scopes ++ [{ kind, label }] } else l.grammars[m]? :=
    getElem?_modify_of_some hg _ m
  have haround (m i : Nat) : (l.openScope n chain kind label).around m i =
      if m = n ∧ i = g.scopes.length then chain.head? else l.around m i := by
    simp [openScope, hg, eq_comm]
  apply Store.ext
  · funext q
    obtain ⟨m, scope⟩ := q
    by_cases hm : m = n
    · subst hm
      cases scope with
      | none => simp [scopes_grammar, Store.put, hgrammar, hg, Grammar.toObject]
      | some i =>
        by_cases hi : i = g.scopes.length
        · simp [scopes_scope, Store.put, hgrammar, haround, hi, Scope.toObject,
            ScopeRef.innermost]
        · simp [scopes_scope, Store.put, hgrammar, haround, getElem?_concat, hg, hi]
    · cases scope with
      | none => simp [scopes_grammar, Store.put, hgrammar, hm]
      | some i => simp [scopes_scope, Store.put, hgrammar, haround, hm]
  · funext d
    obtain ⟨m, name⟩ := d
    by_cases hm : m = n
    · subst hm
      simp [definitions_eq, Store.put, hgrammar, hg]
    · simp [definitions_eq, Store.put, hgrammar, hm]

theorem store_define (hg : l.grammars[n]? = some g) (chain : List Nat) (name : DefineName)
    (d : Definition) :
    (l.define n chain name d).store = l.store.register (.innermost n chain) ⟨n, none⟩ name (n, name)
      (d.sites.map (·.toObject n)) := by
  have hgrammar (m : Nat) : (l.define n chain name d).grammars[m]? =
      if m = n then some (g.define chain name d) else l.grammars[m]? :=
    getElem?_modify_of_some hg _ m
  have haround : (l.define n chain name d).around = l.around := rfl
  have hother {q : ScopeRef} (hchain : q ≠ .innermost n chain) (hn : q ≠ ⟨n, none⟩) :
      Store.noted (.innermost n chain) ⟨n, none⟩ name (n, name) q = id :=
    Store.noted_of_ne hchain hn
  apply Store.ext
  · funext q
    obtain ⟨m, scope⟩ := q
    rw [Store.register_scopes]
    by_cases hm : m = n
    · subst hm
      cases scope with
      | none =>
        rw [scopes_grammar, scopes_grammar, hgrammar, if_pos rfl, hg, Option.map_some,
          Option.map_some, Option.map_some, Grammar.toObject_define, Store.noted_of_eq (.inr rfl)]
      | some i =>
        rw [scopes_scope, scopes_scope, hgrammar, if_pos rfl, hg, Option.bind_some,
          Option.bind_some, haround, Option.map_map]
        cases chain with
        | nil =>
          rw [hother (q := ⟨m, some i⟩) (by simp [ScopeRef.innermost]) (by simp)]
          rfl
        | cons j chain =>
          have hscope : (g.define (j :: chain) name d).scopes[i]? =
              (fun s => if j = i then s.define name else s) <$> g.scopes[i]? :=
            List.getElem?_modify _ _ _ _
          rw [hscope]
          by_cases hi : j = i
          · subst hi
            simp [Scope.toObject_define, ScopeRef.innermost, Store.noted_of_eq, Function.comp_def]
          · rw [hother (q := ⟨m, some i⟩) (by simp [ScopeRef.innermost, Ne.symm hi]) (by simp)]
            simp [hi]
    · have hne (chain : List Nat) : (⟨m, scope⟩ : ScopeRef) ≠ .innermost n chain :=
        fun he => hm (congrArg ScopeRef.grammar he)
      rw [hother (hne chain) (hne []), Option.map_id]
      cases scope with
      | none => simp [scopes_grammar, hgrammar, hm]
      | some i => simp [scopes_scope, hgrammar, hm, haround]
  · funext d'
    obtain ⟨m, other⟩ := d'
    rw [Store.register_definitions, definitions_eq, definitions_eq, hgrammar]
    by_cases hm : m = n
    · subst hm
      by_cases hname : other = name
      · simp [hname, Grammar.define]
      · simp [hg, hname, Grammar.define]
    · simp [hm]

theorem redrawn_openGrammar (l : Layout) (label : Text) (parent : Option Nat) :
    l.Redrawn (l.openGrammar label parent) := by
  have hact : Store.Act l.store (l.openGrammar label parent).store := by
    rw [store_openGrammar]
    apply Store.Act.openGrammar
    rw [scopes_grammar, List.getElem?_eq_none (Nat.le_refl _)]
    rfl
  refine ⟨.single hact, fun h n g name hg site hsite => ?_⟩
  rw [openGrammar, getElem?_concat] at hg
  by_cases hn : n = l.grammars.length
  · rw [if_pos hn] at hg
    cases hg
    cases hsite
  · rw [if_neg hn] at hg
    exact (h n g name hg site hsite).keeps hact.keeps

theorem stands_openGrammar (l : Layout) (label : Text) (parent : Option Nat) :
    (l.openGrammar label parent).Stands l.grammars.length [] := by
  have hobject : (l.openGrammar label parent).store.scopes ⟨l.grammars.length, none⟩ =
      some (Grammar.toObject l.grammars.length { label, parent }) := by
    rw [scopes_grammar, openGrammar, List.getElem?_concat_length]
    rfl
  exact .outermost hobject rfl

theorem redrawn_openScope (hs : l.Stands n chain) (hg : l.grammars[n]? = some g)
    (kind : ScopeKind) (label : Text) : l.Redrawn (l.openScope n chain kind label) := by
  obtain ⟨o, ho, hgrammar⟩ := hs.exists_object
  have hact : Store.Act l.store (l.openScope n chain kind label).store := by
    rw [store_openScope hg, ← hgrammar]
    apply Store.Act.openScope kind label ho
    rw [scopes_scope, hg, Option.bind_some, List.getElem?_eq_none (Nat.le_refl _)]
    rfl
  refine ⟨.single hact, fun h m g' name hm site hsite => ?_⟩
  have hstands : l.Stands m site.chain := by
    rw [openScope, getElem?_modify_of_some hg] at hm
    by_cases hn : m = n
    · rw [if_pos hn] at hm
      cases hm
      exact h m g name (hn ▸ hg) site hsite
    · rw [if_neg hn] at hm
      exact h m g' name hm site hsite
  exact hstands.keeps hact.keeps

theorem stands_openScope (hs : l.Stands n chain) (hg : l.grammars[n]? = some g)
    (kind : ScopeKind) (label : Text) :
    (l.openScope n chain kind label).Stands n (g.scopes.length :: chain) := by
  have hobject : (l.openScope n chain kind label).store.scopes ⟨n, some g.scopes.length⟩ =
      some ⟨some kind, label, some (.innermost n chain), ⟨n, none⟩, none, fun _ => none⟩ := by
    rw [store_openScope hg]
    exact Function.update_self _ _ _
  exact .inside hobject rfl ((redrawn_openScope hs hg kind label).stands hs)

/-- A site in a scope joins the definition of its grammar. -/
theorem redrawn_define {name : DefineName} {site : Site} {d : Definition}
    (hs : l.Stands n site.chain) (hg : l.grammars[n]? = some g) (hd : g.Joins name site d) :
    l.Redrawn (l.define n site.chain name d) := by
  obtain ⟨o, ho, hgrammar⟩ := hs.exists_object
  have hobject : l.store.scopes o.grammar = some (g.toObject n) := by
    rw [hgrammar, scopes_grammar, hg]
    rfl
  have hact : Store.Act l.store (l.define n site.chain name d).store := by
    rw [store_define hg, ← hgrammar]
    unfold Grammar.Joins at hd
    cases hfirst : g.definitions.get? name with
    | none =>
      rw [hfirst] at hd
      subst hd
      apply Store.Act.registerFirst ho hobject
      · rw [Grammar.toObject_defines, hfirst]
        rfl
      · rw [definitions_eq, hg, Option.bind_some, hfirst]
        rfl
    | some first =>
      rw [hfirst] at hd
      rw [Definition.sites_add hd, List.map_append]
      apply Store.Act.registerMore ho hobject
      · rw [Grammar.toObject_defines, hfirst]
        rfl
      · rw [definitions_eq, hg, Option.bind_some, hfirst]
        rfl
      · exact Definition.conflict_of_add hd
  refine ⟨.single hact, fun h m g' other hm site' hsite => ?_⟩
  have hstands : l.Stands m site'.chain := by
    rw [define, getElem?_modify_of_some hg] at hm
    by_cases hn : m = n
    · subst hn
      rw [if_pos rfl] at hm
      cases hm
      rw [Grammar.sites_define] at hsite
      by_cases hname : other = name
      · rw [if_pos hname, hd.sites] at hsite
        rcases List.mem_append.1 hsite with hsite | hsite
        · exact h m g name hg site' hsite
        · rw [List.mem_singleton.1 hsite]
          exact hs
      · rw [if_neg hname] at hsite
        exact h m g other hg site' hsite
    · rw [if_neg hn] at hm
      exact h m g' other hm site' hsite
  exact hstands.keeps hact.keeps

end Layout

end RelaxCompact
