import Mathlib.Logic.Function.Basic
import Mathlib.Logic.Relation
import RelaxCompact.Grammar

/-!
Scopes as objects that refer to one another. A scope refers to the one around it and to that of its
grammar, and by names to definitions; the sites of a definition refer to the scopes that they stand
in. A site is registered in two tables: that of its scope, and that of its grammar.
-/

namespace RelaxCompact

/-- A site of a definition, at a scope. -/
structure SiteObject (A : Type) where
  scope : A
  occurrence : Occurrence
  operator : Assignment
  documentation : Option String
  span : Span
  content : Content

/-- A scope, or the outermost scope of a grammar if it has no kind. `outer` is the grammar around a
grammar, if its references may leave it. -/
@[ext]
structure ScopeObject (A D : Type) where
  kind : Option ScopeKind
  label : Text
  parent : Option A
  grammar : A
  outer : Option A
  defines : DefineName → Option D

/-- The objects of an assembly: scopes, and definitions with their sites. -/
@[ext]
structure Store (A D : Type) where
  scopes : A → Option (ScopeObject A D)
  definitions : D → Option (List (SiteObject A))

namespace Store

variable {A D : Type}

/-- The scopes from one to the outermost around it. -/
inductive Chain (store : Store A D) : A → List A → Prop
  | outermost {r : A} {o : ScopeObject A D} (hr : store.scopes r = some o) (ho : o.parent = none) :
    Chain store r [r]
  | inside {r p : A} {o : ScopeObject A D} {c : List A} (hr : store.scopes r = some o)
      (ho : o.parent = some p) (hp : Chain store p c) : Chain store r (r :: c)

/-- What the first of the scopes that has the name holds under it. -/
def lookup (store : Store A D) (c : List A) (name : DefineName) : Option D :=
  c.findSome? fun r => (store.scopes r).bind (·.defines name)

theorem Chain.exists_object {store : Store A D} {r : A} {c : List A} (h : store.Chain r c) :
    ∃ o, store.scopes r = some o := by
  cases h with
  | outermost hr => exact ⟨_, hr⟩
  | inside hr => exact ⟨_, hr⟩

/-! What an assembly does to its objects -/

variable [DecidableEq A] [DecidableEq D]

/-- A scope is allocated. -/
def put (store : Store A D) (r : A) (o : ScopeObject A D) : Store A D :=
  { store with scopes := Function.update store.scopes r (some o) }

/-- A definition is allocated, or gets other sites. -/
def record (store : Store A D) (d : D) (sites : List (SiteObject A)) : Store A D :=
  { store with definitions := Function.update store.definitions d (some sites) }

/-- A definition is written to the table of a scope. -/
def note (store : Store A D) (r : A) (name : DefineName) (d : D) : Store A D :=
  { store with
    scopes := fun q =>
      if q = r then
        (store.scopes q).map fun o => { o with defines := Function.update o.defines name (some d) }
      else store.scopes q }

/-- A definition gets its sites, and is written to the table of a scope and to that of a grammar. -/
def register (store : Store A D) (r g : A) (name : DefineName) (d : D)
    (sites : List (SiteObject A)) : Store A D :=
  ((store.record d sites).note r name d).note g name d

/-- A step of an assembly. A site joins the definition that the grammar of its scope has under the
name, or else a new one. -/
inductive Act : Store A D → Store A D → Prop
  | openGrammar {store : Store A D} (label : Text) (outer : Option A) {r : A}
      (fresh : store.scopes r = none) :
    Act store (store.put r ⟨none, label, none, r, outer, fun _ => none⟩)
  | openScope {store : Store A D} (kind : ScopeKind) (label : Text) {p r : A}
      {o : ScopeObject A D} (hp : store.scopes p = some o) (fresh : store.scopes r = none) :
    Act store (store.put r ⟨some kind, label, some p, o.grammar, none, fun _ => none⟩)
  | registerFirst {store : Store A D} {name : DefineName} {site : SiteObject A}
      {o g : ScopeObject A D} {d : D} (ho : store.scopes site.scope = some o)
      (hg : store.scopes o.grammar = some g) (hname : g.defines name = none)
      (fresh : store.definitions d = none) :
    Act store (store.register site.scope o.grammar name d [site])
  | registerMore {store : Store A D} {name : DefineName} {site first : SiteObject A}
      {more : List (SiteObject A)} {o g : ScopeObject A D} {d : D}
      (ho : store.scopes site.scope = some o) (hg : store.scopes o.grammar = some g)
      (hname : g.defines name = some d) (hd : store.definitions d = some (first :: more))
      (hjoins : Definition.conflict? first.operator site.operator = none) :
    Act store (store.register site.scope o.grammar name d (first :: more ++ [site]))

/-- The objects that an assembly begins with: the scope of one grammar. -/
def initial (r : A) (label : Text) : Store A D where
  scopes := Function.update (fun _ => none) r
    (some ⟨none, label, none, r, none, fun _ => none⟩)
  definitions _ := none

/-- The objects that come of others by steps of an assembly. -/
def Grows : Store A D → Store A D → Prop := Relation.ReflTransGen Act

/-! What is never changed -/

/-- Every scope is still there, with the same references to other scopes. -/
def Keeps (store store' : Store A D) : Prop :=
  ∀ r o, store.scopes r = some o → ∃ o', store'.scopes r = some o' ∧ o'.kind = o.kind ∧
    o'.parent = o.parent ∧ o'.grammar = o.grammar

/-- A scope is one of a grammar. -/
def Belongs (store : Store A D) (r g : A) : Prop :=
  ∃ o, store.scopes r = some o ∧ o.grammar = g

variable {store store' store'' : Store A D}

omit [DecidableEq A] [DecidableEq D] in
theorem Keeps.refl (store : Store A D) : store.Keeps store := fun _ o ho => ⟨o, ho, rfl, rfl, rfl⟩

omit [DecidableEq A] [DecidableEq D] in
theorem Keeps.trans (h : store.Keeps store') (h' : store'.Keeps store'') :
    store.Keeps store'' := by
  intro r o ho
  obtain ⟨o', ho', hkind, hparent, hgrammar⟩ := h r o ho
  obtain ⟨o'', ho'', hkind', hparent', hgrammar'⟩ := h' r o' ho'
  exact ⟨o'', ho'', hkind'.trans hkind, hparent'.trans hparent, hgrammar'.trans hgrammar⟩

omit [DecidableEq A] [DecidableEq D] in
theorem Belongs.keeps (hk : store.Keeps store') {r g : A} (h : store.Belongs r g) :
    store'.Belongs r g := by
  obtain ⟨o, ho, hgrammar⟩ := h
  obtain ⟨o', ho', -, -, hsame⟩ := hk r o ho
  exact ⟨o', ho', hsame.trans hgrammar⟩

omit [DecidableEq A] [DecidableEq D] in
/-- The scopes around a scope stay around it. -/
theorem Chain.keeps (hk : store.Keeps store') {r : A} {c : List A} (h : store.Chain r c) :
    store'.Chain r c := by
  induction h with
  | outermost hr ho =>
    obtain ⟨o', hr', -, hparent, -⟩ := hk _ _ hr
    exact .outermost hr' (hparent.trans ho)
  | inside hr ho _ ih =>
    obtain ⟨o', hr', -, hparent, -⟩ := hk _ _ hr
    exact .inside hr' (hparent.trans ho) ih

section

variable {r g : A} {name : DefineName} {d : D} {sites : List (SiteObject A)}

omit [DecidableEq D] in
theorem put_of_some {q : A} {o o' : ScopeObject A D} (fresh : store.scopes r = none)
    (hq : store.scopes q = some o') : (store.put r o).scopes q = some o' := by
  have hne : q ≠ r := by
    intro he
    rw [he, fresh] at hq
    cases hq
  exact (Function.update_of_ne hne _ _).trans hq

omit [DecidableEq D] in
theorem put_eq_some {q : A} {o o' : ScopeObject A D} :
    (store.put r o).scopes q = some o' ↔ q = r ∧ o' = o ∨ q ≠ r ∧ store.scopes q = some o' := by
  by_cases hq : q = r
  · simp [put, hq, eq_comm]
  · simp [put, hq]

omit [DecidableEq D] in
theorem keeps_put (fresh : store.scopes r = none) (o : ScopeObject A D) :
    store.Keeps (store.put r o) :=
  fun _ o' hq => ⟨o', put_of_some fresh hq, rfl, rfl, rfl⟩

/-- An object at an address whose table has one more entry if the address is one of two. -/
def noted (r g : A) (name : DefineName) (d : D) (q : A) (o : ScopeObject A D) : ScopeObject A D :=
  if q = r ∨ q = g then { o with defines := Function.update o.defines name (some d) } else o

omit [DecidableEq D] in
theorem noted_of_eq {q : A} (h : q = r ∨ q = g) (o : ScopeObject A D) :
    noted r g name d q o = { o with defines := Function.update o.defines name (some d) } :=
  if_pos h

omit [DecidableEq D] in
theorem noted_of_ne {q : A} (hr : q ≠ r) (hg : q ≠ g) : noted r g name d q = id :=
  funext fun _ => if_neg (not_or.2 ⟨hr, hg⟩)

omit [DecidableEq D] in
@[simp] theorem noted_kind (q : A) (o : ScopeObject A D) :
    (noted r g name d q o).kind = o.kind := by
  unfold noted
  split <;> rfl

omit [DecidableEq D] in
@[simp] theorem noted_parent (q : A) (o : ScopeObject A D) :
    (noted r g name d q o).parent = o.parent := by
  unfold noted
  split <;> rfl

omit [DecidableEq D] in
@[simp] theorem noted_grammar (q : A) (o : ScopeObject A D) :
    (noted r g name d q o).grammar = o.grammar := by
  unfold noted
  split <;> rfl

omit [DecidableEq D] in
theorem noted_defines (q : A) (o : ScopeObject A D) (other : DefineName) :
    (noted r g name d q o).defines other =
      if (q = r ∨ q = g) ∧ other = name then some d else o.defines other := by
  unfold noted
  by_cases hq : q = r ∨ q = g
  · by_cases hn : other = name
    · simp [hq, hn]
    · simp [hq, hn]
  · simp [hq]

@[simp] theorem register_scopes (q : A) :
    (store.register r g name d sites).scopes q = (store.scopes q).map (noted r g name d q) := by
  cases ho : store.scopes q with
  | none => simp [register, note, record, ho]
  | some o =>
    by_cases hr : q = r
    · by_cases hg : q = g
      · simp [register, note, record, noted, ← hr, ← hg, ho]
      · simp [register, note, record, noted, ← hr, hg, ho]
    · by_cases hg : q = g
      · simp [register, note, record, noted, hr, ← hg, ho]
      · simp [register, note, record, noted, hr, hg, ho]

theorem exists_of_register {q : A} {p' : ScopeObject A D}
    (h : (store.register r g name d sites).scopes q = some p') :
    ∃ p, store.scopes q = some p ∧ noted r g name d q p = p' :=
  Option.map_eq_some_iff.1 ((register_scopes q).symm.trans h)

theorem register_definitions (d' : D) :
    (store.register r g name d sites).definitions d' =
      if d' = d then some sites else store.definitions d' :=
  Function.update_apply _ _ _ _

theorem keeps_register : store.Keeps (store.register r g name d sites) := by
  intro q o hq
  exact ⟨noted r g name d q o, by rw [register_scopes, hq]; rfl, noted_kind q o,
    noted_parent q o, noted_grammar q o⟩

end

theorem Act.keeps (h : Act store store') : store.Keeps store' := by
  cases h with
  | openGrammar label outer fresh => exact keeps_put fresh _
  | openScope kind label hp fresh => exact keeps_put fresh _
  | registerFirst => exact keeps_register
  | registerMore => exact keeps_register

theorem Grows.keeps (h : Grows store store') : store.Keeps store' := by
  induction h with
  | refl => exact .refl store
  | tail _ hact ih => exact ih.trans hact.keeps

/-! What holds of all objects -/

/-- Every scope is inside others of its grammar, up to the scope of the grammar itself, which has
every entry of its table; and the sites of the definitions in a grammar's table are in scopes of
that grammar. -/
structure Sound (store : Store A D) : Prop where
  outermost : ∀ r o, store.scopes r = some o → o.parent = none → o.kind = none ∧ o.grammar = r
  inside : ∀ r o p, store.scopes r = some o → o.parent = some p →
    o.kind ≠ none ∧ store.Belongs p o.grammar
  finite : ∀ r o, store.scopes r = some o → ∃ c, store.Chain r c
  entries : ∀ r o g name d, store.scopes r = some o → store.scopes o.grammar = some g →
    o.defines name = some d → g.defines name = some d
  sites : ∀ r g name d, store.scopes r = some g → g.grammar = r → g.defines name = some d →
    ∃ first more, store.definitions d = some (first :: more) ∧
      ∀ site ∈ first :: more, store.Belongs site.scope r

namespace Sound

omit [DecidableEq A] [DecidableEq D] in
/-- The scopes around a scope are of its grammar, and the last of them is that of the grammar. -/
theorem chain (h : store.Sound) {r : A} {o : ScopeObject A D} {c : List A}
    (hr : store.scopes r = some o) (hc : store.Chain r c) :
    c.getLast? = some o.grammar ∧
      (∃ g, store.scopes o.grammar = some g ∧ g.kind = none ∧ g.grammar = o.grammar) ∧
      ∀ q ∈ c, store.Belongs q o.grammar := by
  induction hc generalizing o with
  | @outermost r o hr' ho =>
    cases hr.symm.trans hr'
    obtain ⟨hkind, hgrammar⟩ := h.outermost _ _ hr ho
    refine ⟨congrArg some hgrammar.symm, ⟨o, hgrammar.symm ▸ hr, hkind, rfl⟩, ?_⟩
    intro q hq
    rw [List.mem_singleton.1 hq]
    exact ⟨o, hr, rfl⟩
  | @inside r p o c hr' ho hp ih =>
    cases hr.symm.trans hr'
    obtain ⟨-, q, hq, hsame⟩ := h.inside _ _ _ hr ho
    obtain ⟨hlast, hgrammar, hall⟩ := ih hq
    rw [hsame] at hlast hgrammar hall
    refine ⟨?_, hgrammar, ?_⟩
    · rw [List.getLast?_cons, hlast]
      rfl
    · intro q hq
      rcases List.mem_cons.1 hq with rfl | hq
      · exact ⟨o, hr, rfl⟩
      · exact hall q hq

omit [DecidableEq A] [DecidableEq D] in
theorem exists_grammar (h : store.Sound) {r : A} {o : ScopeObject A D}
    (hr : store.scopes r = some o) :
    ∃ g, store.scopes o.grammar = some g ∧ g.kind = none ∧ g.grammar = o.grammar := by
  obtain ⟨c, hc⟩ := h.finite r o hr
  exact (h.chain hr hc).2.1

omit [DecidableEq A] [DecidableEq D] in
/-- Seen from any scope, a name is what the grammar has under it. -/
theorem lookup_eq (h : store.Sound) {r : A} {o g : ScopeObject A D} {c : List A}
    (hr : store.scopes r = some o) (hg : store.scopes o.grammar = some g)
    (hc : store.Chain r c) (name : DefineName) : store.lookup c name = g.defines name := by
  induction hc generalizing o with
  | @outermost r o hr' ho =>
    cases hr.symm.trans hr'
    obtain ⟨-, hgrammar⟩ := h.outermost _ _ hr ho
    rw [hgrammar] at hg
    cases hr.symm.trans hg
    simp [lookup, hr]
  | @inside r p o c hr' ho hp ih =>
    cases hr.symm.trans hr'
    obtain ⟨-, q, hq, hsame⟩ := h.inside _ _ _ hr ho
    have hrest := ih hq (hsame ▸ hg)
    cases hd : o.defines name with
    | none => simpa [lookup, hr, hd] using hrest
    | some d => simp [lookup, hr, hd, h.entries _ _ _ _ _ hr hg hd]

omit [DecidableEq D] in
theorem initial (r : A) (label : Text) : (Store.initial r label : Store A D).Sound := by
  have hobject {q : A} {o : ScopeObject A D}
      (ho : (Store.initial r label : Store A D).scopes q = some o) :
      q = r ∧ o = ⟨none, label, none, r, none, fun _ => none⟩ := by
    by_cases hq : q = r
    · simp [Store.initial, hq] at ho
      exact ⟨hq, ho.symm⟩
    · simp [Store.initial, hq] at ho
  constructor
  case outermost =>
    intro q o hq _
    obtain ⟨rfl, rfl⟩ := hobject hq
    exact ⟨rfl, rfl⟩
  case inside =>
    intro q o p hq hp
    obtain ⟨rfl, rfl⟩ := hobject hq
    cases hp
  case finite =>
    intro q o hq
    obtain ⟨rfl, rfl⟩ := hobject hq
    exact ⟨[q], .outermost hq rfl⟩
  case entries =>
    intro q o g name d hq _ hd
    obtain ⟨rfl, rfl⟩ := hobject hq
    cases hd
  case sites =>
    intro q g name d hq _ hd
    obtain ⟨rfl, rfl⟩ := hobject hq
    cases hd

omit [DecidableEq D] in
/-- A scope with an empty table is put in a grammar, or on its own. -/
theorem put (h : store.Sound) {r : A} {o : ScopeObject A D} (fresh : store.scopes r = none)
    (hplace : o.parent = none ∧ o.kind = none ∧ o.grammar = r ∨
      ∃ p q, o.parent = some p ∧ o.kind ≠ none ∧ store.scopes p = some q ∧ q.grammar = o.grammar)
    (hempty : ∀ name, o.defines name = none) : (store.put r o).Sound := by
  constructor
  case outermost =>
    intro q o' hq hnone
    rcases put_eq_some.1 hq with ⟨rfl, rfl⟩ | ⟨-, hq⟩
    · rcases hplace with ⟨-, hkind, hgrammar⟩ | ⟨p, q, hp, -⟩
      · exact ⟨hkind, hgrammar⟩
      · cases hnone.symm.trans hp
    · exact h.outermost q o' hq hnone
  case inside =>
    intro q o' p hq hp
    rcases put_eq_some.1 hq with ⟨rfl, rfl⟩ | ⟨-, hq⟩
    · rcases hplace with ⟨hnone, -⟩ | ⟨p', q, hp', hkind, hq', hsame⟩
      · cases hnone.symm.trans hp
      · cases hp'.symm.trans hp
        exact ⟨hkind, q, put_of_some fresh hq', hsame⟩
    · obtain ⟨hkind, q', hq', hsame⟩ := h.inside q o' p hq hp
      exact ⟨hkind, q', put_of_some fresh hq', hsame⟩
  case finite =>
    intro q o' hq
    rcases put_eq_some.1 hq with ⟨rfl, rfl⟩ | ⟨-, hq'⟩
    · rcases hplace with ⟨hnone, -⟩ | ⟨p, q', hp, -, hq', -⟩
      · exact ⟨[q], .outermost hq hnone⟩
      · obtain ⟨c, hc⟩ := h.finite p q' hq'
        exact ⟨q :: c, .inside hq hp (hc.keeps (keeps_put fresh _))⟩
    · obtain ⟨c, hc⟩ := h.finite q o' hq'
      exact ⟨c, hc.keeps (keeps_put fresh _)⟩
  case entries =>
    intro q o' g name d hq hg hd
    rcases put_eq_some.1 hq with ⟨rfl, rfl⟩ | ⟨-, hq⟩
    · cases (hempty name).symm.trans hd
    · obtain ⟨g', hg', -⟩ := h.exists_grammar hq
      cases hg.symm.trans (put_of_some fresh hg')
      exact h.entries q o' g name d hq hg' hd
  case sites =>
    intro q g name d hq hself hd
    rcases put_eq_some.1 hq with ⟨rfl, rfl⟩ | ⟨-, hq⟩
    · cases (hempty name).symm.trans hd
    · obtain ⟨first, more, hsites, hall⟩ := h.sites q g name d hq hself hd
      exact ⟨first, more, hsites, fun site hsite => (hall site hsite).keeps (keeps_put fresh _)⟩

section

variable {r : A} {o g : ScopeObject A D} {name : DefineName} {d : D} {first : SiteObject A}
  {more : List (SiteObject A)}

omit [DecidableEq A] [DecidableEq D] in
/-- The two scopes that a definition is written to are of one grammar. -/
theorem target (h : store.Sound) (hr : store.scopes r = some o) {q : A} {p : ScopeObject A D}
    (hp : store.scopes q = some p) (hq : q = r ∨ q = o.grammar) : p.grammar = o.grammar := by
  rcases hq with rfl | rfl
  · cases hr.symm.trans hp
    rfl
  · obtain ⟨g, hg, -, hself⟩ := h.exists_grammar hr
    cases hp.symm.trans hg
    exact hself

theorem entries_register (h : store.Sound) (hr : store.scopes r = some o)
    (hg : store.scopes o.grammar = some g) (hentry : ∀ d', g.defines name = some d' → d' = d)
    {sites : List (SiteObject A)} {q : A} {p' k' : ScopeObject A D} {other : DefineName} {d' : D}
    (hp' : (store.register r o.grammar name d sites).scopes q = some p')
    (hk' : (store.register r o.grammar name d sites).scopes p'.grammar = some k')
    (hd' : p'.defines other = some d') : k'.defines other = some d' := by
  obtain ⟨p, hp, rfl⟩ := exists_of_register hp'
  obtain ⟨k, hk, rfl⟩ := exists_of_register hk'
  rw [noted_grammar] at hk ⊢
  rw [noted_defines] at hd' ⊢
  by_cases hnew : (q = r ∨ q = o.grammar) ∧ other = name
  · rw [if_pos hnew] at hd'
    rw [if_pos ⟨.inr (h.target hr hp hnew.1), hnew.2⟩, hd']
  · rw [if_neg hnew] at hd'
    have hold := h.entries q p k other d' hp hk hd'
    by_cases hgrammar : (p.grammar = r ∨ p.grammar = o.grammar) ∧ other = name
    · -- The grammar has the definition under the name already.
      obtain ⟨k₁, hk₁, -, hself⟩ := h.exists_grammar hp
      cases hk.symm.trans hk₁
      have hsame := (h.target hr hk hgrammar.1).symm.trans hself
      rw [← hsame] at hk
      cases hg.symm.trans hk
      rw [if_pos hgrammar, hentry d' (hgrammar.2 ▸ hold)]
    · rw [if_neg hgrammar, hold]

theorem sites_register (h : store.Sound) (hr : store.scopes r = some o)
    (howner : ∀ q p other, store.scopes q = some p → p.grammar = q → p.defines other = some d →
      q = o.grammar)
    (hsites : ∀ site ∈ first :: more, store.Belongs site.scope o.grammar) {q : A}
    {k' : ScopeObject A D} {other : DefineName} {d' : D}
    (hk' : (store.register r o.grammar name d (first :: more)).scopes q = some k')
    (hself : k'.grammar = q) (hd' : k'.defines other = some d') :
    ∃ first' more', (store.register r o.grammar name d (first :: more)).definitions d' =
        some (first' :: more') ∧
      ∀ site ∈ first' :: more',
        (store.register r o.grammar name d (first :: more)).Belongs site.scope q := by
  obtain ⟨k, hk, rfl⟩ := exists_of_register hk'
  rw [noted_grammar] at hself
  rw [noted_defines] at hd'
  by_cases hnew : (q = r ∨ q = o.grammar) ∧ other = name
  · rw [if_pos hnew] at hd'
    cases hd'
    refine ⟨first, more, (register_definitions d).trans (if_pos rfl), fun site hsite => ?_⟩
    rw [← hself, h.target hr hk hnew.1]
    exact (hsites site hsite).keeps keeps_register
  · rw [if_neg hnew] at hd'
    by_cases hd : d' = d
    · subst hd
      cases howner q k other hk hself hd'
      exact ⟨first, more, (register_definitions d').trans (if_pos rfl),
        fun site hsite => (hsites site hsite).keeps keeps_register⟩
    · obtain ⟨first', more', hold, hall⟩ := h.sites q k other d' hk hself hd'
      exact ⟨first', more', (register_definitions d').trans ((if_neg hd).trans hold),
        fun site hsite => (hall site hsite).keeps keeps_register⟩

/-- A definition with all its sites in a grammar is written to the tables of a scope of that grammar
and of the grammar itself, which has no other one under the name. -/
theorem register (h : store.Sound) (hr : store.scopes r = some o)
    (hg : store.scopes o.grammar = some g) (hentry : ∀ d', g.defines name = some d' → d' = d)
    (howner : ∀ q p other, store.scopes q = some p → p.grammar = q → p.defines other = some d →
      q = o.grammar)
    (hsites : ∀ site ∈ first :: more, store.Belongs site.scope o.grammar) :
    (store.register r o.grammar name d (first :: more)).Sound where
  outermost q p' hp' hnone := by
    obtain ⟨p, hp, rfl⟩ := exists_of_register hp'
    simpa using h.outermost q p hp (by simpa using hnone)
  inside q p' s hp' hs := by
    obtain ⟨p, hp, rfl⟩ := exists_of_register hp'
    obtain ⟨hkind, hsame⟩ := h.inside q p s hp (by simpa using hs)
    rw [noted_kind, noted_grammar]
    exact ⟨hkind, Belongs.keeps keeps_register hsame⟩
  finite q p' hp' := by
    obtain ⟨p, hp, rfl⟩ := exists_of_register hp'
    obtain ⟨c, hc⟩ := h.finite q p hp
    exact ⟨c, hc.keeps keeps_register⟩
  entries _ _ _ _ _ := h.entries_register hr hg hentry
  sites _ _ _ _ := h.sites_register hr howner hsites

end

theorem act (h : store.Sound) (hact : Act store store') : store'.Sound := by
  cases hact with
  | openGrammar label outer fresh => exact h.put fresh (.inl ⟨rfl, rfl, rfl⟩) fun _ => rfl
  | openScope kind label hp fresh =>
    exact h.put fresh (.inr ⟨_, _, rfl, nofun, hp, rfl⟩) fun _ => rfl
  | registerFirst ho hg hname fresh =>
    apply h.register ho hg
    · intro d' hd'
      cases hname.symm.trans hd'
    · intro q p other hp hself hd
      obtain ⟨_, _, hsites, -⟩ := h.sites q p other _ hp hself hd
      cases fresh.symm.trans hsites
    · intro site hsite
      cases List.mem_singleton.1 hsite
      exact ⟨_, ho, rfl⟩
  | @registerMore name site first more o g d ho hg hname hd hjoins =>
    obtain ⟨g', hg', -, hself⟩ := h.exists_grammar ho
    cases hg.symm.trans hg'
    obtain ⟨_, _, hsites, hall⟩ := h.sites _ g name d hg hself hname
    cases hd.symm.trans hsites
    apply h.register ho hg
    · intro d' hd'
      exact Option.some.inj (hd'.symm.trans hname)
    · intro q p other hp hq hd'
      obtain ⟨_, _, hsites', hall'⟩ := h.sites q p other d hp hq hd'
      cases hd.symm.trans hsites'
      obtain ⟨k, hk, hgrammar⟩ := hall first List.mem_cons_self
      obtain ⟨k', hk', hgrammar'⟩ := hall' first List.mem_cons_self
      cases hk.symm.trans hk'
      exact hgrammar'.symm.trans hgrammar
    · intro other hother
      change other ∈ first :: more ++ [site] at hother
      rcases List.mem_append.1 hother with hother | hother
      · exact hall other hother
      · cases List.mem_singleton.1 hother
        exact ⟨o, ho, rfl⟩

theorem grows (h : store.Sound) (hgrows : Grows store store') : store'.Sound := by
  induction hgrows with
  | refl => exact h
  | tail _ hact ih => exact ih.act hact

omit [DecidableEq A] [DecidableEq D] in
/-- What a scope is in, what it has entries for, and where a name seen from it leads. -/
theorem reads (h : store.Sound) {r : A} {o : ScopeObject A D} (hr : store.scopes r = some o) :
    ∃ c g, store.Chain r c ∧ c.getLast? = some o.grammar ∧ store.scopes o.grammar = some g ∧
      g.kind = none ∧ (∀ q ∈ c, store.Belongs q o.grammar) ∧
      (∀ name d, o.defines name = some d → g.defines name = some d) ∧
      (∀ name, store.lookup c name = g.defines name) ∧
      ∀ name d, g.defines name = some d → ∃ sites, store.definitions d = some sites ∧
        sites ≠ [] ∧ ∀ site ∈ sites, store.Belongs site.scope o.grammar := by
  obtain ⟨c, hc⟩ := h.finite r o hr
  obtain ⟨hlast, ⟨g, hg, hkind, hself⟩, hall⟩ := h.chain hr hc
  refine ⟨c, g, hc, hlast, hg, hkind, hall, fun name d => h.entries r o g name d hr hg,
    h.lookup_eq hr hg hc, fun name d hd => ?_⟩
  obtain ⟨first, more, hsites, hin⟩ := h.sites o.grammar g name d hg hself hd
  exact ⟨first :: more, hsites, List.cons_ne_nil _ _, hin⟩

end Sound

end Store

end RelaxCompact
