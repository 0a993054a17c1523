import RelaxCompact.Proofs.Assembly.Steps
import RelaxCompact.Proofs.Fragments
import RelaxCompact.Proofs.Resolution.Writing
import RelaxCompact.Proofs.Table
import RelaxCompact.Surface.File

/-!
Two assemblies side by side, one of trees and one of the trees without divisions. They are apart in
scopes, in addresses, and in override blocks that hold nothing but divisions. A chart for each
grammar tells which definition of the one side is which of the other; it is settled when the grammar
is opened.
-/

/-! What resolution makes of an assembled grammar does not depend on where in their files and scopes
its definitions stand: assembled grammars that are the same but for that have the same schema. -/

namespace RelaxCompact

/-- A site without its address and its scopes. -/
def Site.bare (s : Site) : Site := { s with occurrence := ⟨s.occurrence.file, []⟩, chain := [] }

def Definition.bare (d : Definition) : Definition := ⟨d.first.bare, d.more.map Site.bare⟩

/-- A grammar without addresses and scopes. -/
def Grammar.bare (g : Grammar) : Grammar :=
  { g with definitions := g.definitions.map Definition.bare, scopes := [] }

def Assembled.bare (a : Assembled) : Assembled :=
  { a with grammars := a.grammars.map Grammar.bare, fragments := {} }

theorem Definition.sites_bare (d : Definition) : d.bare.sites = d.sites.map Site.bare := rfl

theorem Definition.documentation_bare (d : Definition) :
    d.bare.documentation = d.documentation := by
  have htexts : (d.bare.sites.filterMap fun s => s.documentation.filter (!·.isEmpty)) =
      d.sites.filterMap fun s => s.documentation.filter (!·.isEmpty) := by
    rw [sites_bare, List.filterMap_map]
    rfl
  rw [documentation, documentation, htexts]

namespace Assembled

open Resolve

variable (a : Assembled)

theorem grammarAt_bare (number : Nat) : grammarAt a.bare number = (grammarAt a number).bare := by
  change ((a.grammars.map Grammar.bare)[number]?).getD _ = _
  rw [List.getElem?_map, grammarAt]
  cases a.grammars[number]? <;> rfl

theorem root_bare : a.bare.root = a.root.bare := by
  change ((a.grammars.map Grammar.bare).head?).getD _ = _
  rw [List.head?_map, root]
  cases a.grammars.head? <;> rfl

theorem definition?_bare (k : DefinitionKey) :
    a.bare.definition? k = (a.definition? k).map Definition.bare := by
  rw [definition?, grammarAt_bare]
  exact Table.get?_map _ _ _

theorem documentation_bare : a.bare.documentation = a.documentation := by
  rw [documentation, root_bare, documentation]
  change Table.ofList ((a.root.definitions.entries.map fun e => (e.1, e.2.bare)).filterMap _) = _
  rw [List.filterMap_map]
  congr 2
  funext e
  change ((e.2.bare.documentation).filter _).map _ = _
  rw [Definition.documentation_bare]

end Assembled

namespace Resolve

open Assembled

variable (a : Assembled)

theorem target_bare (number : Nat) (chain chain' : List Nat) (name : String) (span : Span) :
    target a.bare number chain' name span = target a number chain name span := by
  rw [target, target, lookup_eq, lookup_eq, definition?_bare]
  cases a.definition? ⟨number, .named name⟩ <;> rfl

theorem parentTarget_bare (number : Nat) (name : String) (span : Span) :
    parentTarget a.bare number name span = parentTarget a number name span := by
  have hparent : (grammarAt a.bare number).parent = (grammarAt a number).parent := by
    rw [grammarAt_bare]
    rfl
  rw [parentTarget, parentTarget, hparent]
  cases (grammarAt a number).parent with
  | none => rfl
  | some parent =>
    dsimp only
    rw [lookup_eq, lookup_eq, definition?_bare]
    cases a.definition? ⟨parent, .named name⟩ <;> rfl

theorem start?_bare (g : Grammar) : g.bare.start?.isNone = g.start?.isNone := by
  rw [Grammar.start?, Grammar.bare, Table.get?_map, Grammar.start?, Option.isNone_map]

theorem reserve_bare (number : Nat) (g : Grammar) : reserve number g.bare = reserve number g := by
  rw [reserve, reserve, Grammar.bare, Table.keys_map]

theorem write_bare (number : Nat) (scopes scopes' : List Nat) (chain : Option Connective)
    (slot : Option Nat) (c : Content) :
    write a.bare number scopes' chain slot c = write a number scopes chain slot c := by
  induction chain, slot, c using write.induct (a := a) with
  | case1 chain slot op left right span ihLeft ihRight => simp only [write, ihLeft, ihRight]
  | case2 chain slot modifier content span ih => simp only [write, ih]
  | case3 => simp only [write]
  | case4 chain slot holder name content span ih => simp only [write, ih]
  | case5 chain slot name span => simp only [write, target_bare a number scopes scopes']
  | case6 chain slot name span => simp only [write, parentTarget_bare]
  | case7 => simp only [write]
  | case8 chain slot type library params e span ih => simp only [write, ih]
  | case9 => simp only [write]
  | case10 chain slot nested span _ =>
    simp only [write, grammarAt_bare, start?_bare, reserve_bare]
  | case11 chain slot nested span _ =>
    simp only [write, grammarAt_bare, start?_bare, reserve_bare]

theorem writeSite_bare (number : Nat) (slot : Option Nat) (site : Site) :
    writeSite a.bare number slot site.bare = writeSite a number slot site := by
  rw [writeSite, writeSite, ← write_bare a number site.chain site.bare.chain]
  rfl

theorem writeBody_bare (key : DefinitionKey) (slot : Nat) :
    writeBody a.bare key slot = writeBody a key slot := by
  have hdefinition := definition?_bare a key
  unfold definition? at hdefinition
  rw [writeBody, writeBody, hdefinition]
  cases (grammarAt a key.grammar).definitions.get? key.name with
  | none => rfl
  | some d =>
    obtain ⟨first, more⟩ := d
    cases more with
    | nil =>
      change (writeSite a.bare key.grammar (some slot) first.bare >>= fun _ => pure ()) = _
      rw [writeSite_bare]
    | cons second more =>
      have hmore : (List.map Site.bare (second :: more)).mapM (writeSite a.bare key.grammar none) =
          (second :: more).mapM (writeSite a key.grammar none) := by
        rw [List.mapM_map]
        congr 1
        funext site
        exact writeSite_bare a key.grammar none site
      change (writeSite a.bare key.grammar none first.bare >>= fun first' =>
        (List.map Site.bare (second :: more)).mapM (writeSite a.bare key.grammar none) >>= _) = _
      rw [writeSite_bare, hmore]
      rfl

theorem drain_bare (budget : Nat) : drain a.bare budget = drain a budget := by
  induction budget with
  | zero => rfl
  | succ budget ih => simp only [drain, writeBody_bare, ih]

theorem definitionCount_bare : definitionCount a.bare = definitionCount a := by
  have hkeys (g : Grammar) : g.bare.definitions.keys = g.definitions.keys := Table.keys_map _ _
  rw [definitionCount, definitionCount]
  change ((a.grammars.map Grammar.bare).flatMap _).length = _
  rw [List.flatMap_map]
  simp only [hkeys]

theorem writeAll_bare : writeAll a.bare = writeAll a := by
  simp only [writeAll, root_bare, start?_bare, reserve_bare, drain_bare, definitionCount_bare]
  rfl

theorem cycleError_bare (slots : List (DefinitionKey × Nat)) (cycle : List Nat) :
    cycleError a.bare slots cycle = cycleError a slots cycle := by
  unfold cycleError
  dsimp only
  cases cycle.head?.bind fun slot => (slots.find? (·.2 = slot)).map Prod.fst with
  | none => rfl
  | some first =>
    have hdefinition := definition?_bare a first
    unfold definition? at hdefinition
    simp only [Option.bind_eq_bind, Option.bind_some]
    rw [hdefinition]
    cases (grammarAt a first.grammar).definitions.get? first.name <;> rfl

end Resolve

/-- Addresses and scopes have no part in the schema. -/
theorem Assembled.resolve_bare (a : Assembled) : a.bare.resolve = a.resolve := by
  have hkeys : a.bare.root.definitions.keys = a.root.definitions.keys := by
    rw [root_bare]
    exact Table.keys_map _ _
  unfold Assembled.resolve
  simp only [Resolve.writeAll_bare, Resolve.cycleError_bare, hkeys, documentation_bare]
  rfl

end RelaxCompact

/-! Trees without divisions: the components of every division stand in its place, also in override
blocks and nested grammars. Where a definition stands changes with it, but no two definitions come
to stand in one place. -/

namespace RelaxCompact.Surface

mutual

/-- A pattern without divisions in its nested grammars. -/
def Pattern.flatten : Pattern → Pattern
  | .binary op left right span => .binary op left.flatten right.flatten span
  | .unary modifier content span => .unary modifier content.flatten span
  | .leaf leaf span => .leaf leaf span
  | .named holder name content span => .named holder name content.flatten span
  | .ref name span => .ref name span
  | .parentRef name span => .parentRef name span
  | .data type params none span => .data type params none span
  | .data type params (some e) span => .data type params (some e.flatten) span
  | .value literal type span => .value literal type span
  | .external href inherit span => .external href inherit span
  | .grammar components span => .grammar (Component.flattenAll components) span

/-- The components that stand in the place of a component. -/
def Component.flatten : Component → List Component
  | .define name operator pattern documentation span =>
    [.define name operator pattern.flatten documentation span]
  | .div components _ => Component.flattenAll components
  | .incl href inherit overrides span =>
    [.incl href inherit (Component.flattenAll overrides) span]

def Component.flattenAll : List Component → List Component
  | [] => []
  | c :: cs => c.flatten ++ Component.flattenAll cs

end

/-- A file without divisions. -/
def File.flatten (f : File) : File := { f with components := Component.flattenAll f.components }

/-- A definition without divisions in its pattern. -/
def Define.flatten (d : Define) : Define := { d with pattern := d.pattern.flatten }

namespace Component

theorem allDefines_append (cs ds : List Component) :
    allDefines (cs ++ ds) = allDefines cs ++ allDefines ds := by
  induction cs with
  | nil => rfl
  | cons c cs ih => rw [List.cons_append, allDefines, allDefines, ih, List.append_assoc]

mutual

/-- The definitions of a component are those that stand in its place. -/
theorem allDefines_flatten (c : Component) :
    allDefines c.flatten = c.defines.map Define.flatten := by
  cases c with
  | define name operator pattern documentation span => rfl
  | div components span =>
    rw [flatten, defines]
    exact allDefines_flattenAll components
  | incl href inherit overrides span =>
    rw [flatten, defines, allDefines, allDefines, defines, List.append_nil]
    exact allDefines_flattenAll overrides

theorem allDefines_flattenAll (cs : List Component) :
    allDefines (flattenAll cs) = (allDefines cs).map Define.flatten := by
  cases cs with
  | nil => rfl
  | cons c cs =>
    rw [flattenAll, allDefines_append, allDefines, List.map_append, allDefines_flatten c,
      allDefines_flattenAll cs]

end

/-! Addresses -/

mutual

/-- The addresses of the definitions at the grammar level of a component, each with the address of
the definition that stands in its place. The component stands at `a`, what stands in its place is
number `j` and those that follow below `b`. -/
def addresses (a b : List Nat) (j : Nat) : Component → List (List Nat × List Nat)
  | .define _ _ _ _ _ => [(a, j :: b)]
  | .div components _ => allAddresses a b 0 j components
  | .incl _ _ overrides _ => allAddresses a (j :: b) 0 0 overrides

def allAddresses (a b : List Nat) (i j : Nat) : List Component → List (List Nat × List Nat)
  | [] => []
  | c :: cs => addresses (i :: a) b j c ++ allAddresses a b (i + 1) (j + c.flatten.length) cs

end

mutual

theorem mem_addresses {a b x y : List Nat} {j : Nat} {c : Component}
    (h : (x, y) ∈ addresses a b j c) :
    (∃ l, x = l ++ a) ∧ ∃ l k, y = l ++ k :: b ∧ j ≤ k ∧ k < j + c.flatten.length := by
  cases c with
  | define name operator pattern documentation span =>
    cases List.mem_singleton.mp h
    exact ⟨⟨[], rfl⟩, [], j, rfl, Nat.le_refl j, Nat.lt_succ_self j⟩
  | div components span =>
    obtain ⟨⟨l, k, hx, -⟩, hy⟩ := mem_allAddresses h
    exact ⟨⟨l ++ [k], by rw [hx, List.append_assoc, List.singleton_append]⟩, hy⟩
  | incl href inherit overrides span =>
    obtain ⟨⟨l, k, hx, -⟩, l', k', hy, -⟩ := mem_allAddresses h
    refine ⟨⟨l ++ [k], by rw [hx, List.append_assoc, List.singleton_append]⟩, l' ++ [k'], j, ?_,
      Nat.le_refl j, Nat.lt_succ_self j⟩
    rw [hy, List.append_assoc, List.singleton_append]

theorem mem_allAddresses {a b x y : List Nat} {i j : Nat} {cs : List Component}
    (h : (x, y) ∈ allAddresses a b i j cs) :
    (∃ l k, x = l ++ k :: a ∧ i ≤ k) ∧
      ∃ l k, y = l ++ k :: b ∧ j ≤ k ∧ k < j + (flattenAll cs).length := by
  cases cs with
  | nil => cases h
  | cons c cs =>
    have hlength : (flattenAll (c :: cs)).length = c.flatten.length + (flattenAll cs).length :=
      List.length_append
    rcases List.mem_append.mp h with h | h
    · obtain ⟨⟨l, hx⟩, l', k, hy, hj, hk⟩ := mem_addresses h
      exact ⟨⟨l, i, hx, Nat.le_refl i⟩, l', k, hy, hj, by omega⟩
    · obtain ⟨⟨l, k, hx, hi⟩, l', k', hy, hj, hk⟩ := mem_allAddresses h
      exact ⟨⟨l, k, hx, by omega⟩, l', k', hy, by omega, by omega⟩

end

/-- Addresses that go different ways from one place on are different. -/
theorem eq_of_append_cons {a l l' : List Nat} {i k : Nat} (h : l ++ i :: a = l' ++ k :: a) :
    i = k :=
  (List.cons_eq_cons.mp (List.append_inj' h rfl).2).1

end Component

/-- No value on one side belongs to two on the other. -/
def OneToOne {α : Type} (R : α → α → Prop) : Prop :=
  ∀ x y x' y', R x y → R x' y' → (x = x' ↔ y = y')

namespace Component

mutual

theorem oneToOne_addresses (a b : List Nat) (j : Nat) (c : Component) :
    OneToOne fun x y => (x, y) ∈ addresses a b j c := by
  cases c with
  | define name operator pattern documentation span =>
    intro x y x' y' h h'
    cases List.mem_singleton.mp h
    cases List.mem_singleton.mp h'
    exact iff_of_true rfl rfl
  | div components span => exact oneToOne_allAddresses a b 0 j components
  | incl href inherit overrides span => exact oneToOne_allAddresses a (j :: b) 0 0 overrides

/-- Different definitions come to stand in different places. -/
theorem oneToOne_allAddresses (a b : List Nat) (i j : Nat) (cs : List Component) :
    OneToOne fun x y => (x, y) ∈ allAddresses a b i j cs := by
  cases cs with
  | nil => exact nofun
  | cons c cs =>
    have hapart {x y x' y' : List Nat} (h : (x, y) ∈ addresses (i :: a) b j c)
        (h' : (x', y') ∈ allAddresses a b (i + 1) (j + c.flatten.length) cs) :
        x ≠ x' ∧ y ≠ y' := by
      obtain ⟨⟨l, hx⟩, m, k, hy, -, hk⟩ := mem_addresses h
      obtain ⟨⟨l', n, hx', hn⟩, m', k', hy', hk', -⟩ := mem_allAddresses h'
      constructor
      · intro he
        have hin : i = n := eq_of_append_cons (hx ▸ hx' ▸ he)
        omega
      · intro he
        have hkk : k = k' := eq_of_append_cons (hy ▸ hy' ▸ he)
        omega
    intro x y x' y' h h'
    rcases List.mem_append.mp h with h | h <;> rcases List.mem_append.mp h' with h' | h'
    · exact oneToOne_addresses (i :: a) b j c x y x' y' h h'
    · exact iff_of_false (hapart h h').1 (hapart h h').2
    · exact iff_of_false (hapart h' h).1.symm (hapart h' h).2.symm
    · exact oneToOne_allAddresses a b (i + 1) (j + c.flatten.length) cs x y x' y' h h'

end

end Component

end RelaxCompact.Surface

/-! The two sides -/

namespace RelaxCompact

namespace Expand

open Run Surface Fragments

/-- Which definition of a grammar on one side is which on the other. -/
abbrev Chart := Occurrence → Occurrence → Prop

/-- The same override blocks are in effect on both sides, but for those of the first side that hold
no definition. -/
inductive SameFrames : (idle : List Bool) → List OverrideFrame → List OverrideFrame → Prop
  | nil : SameFrames [] [] []
  | both {idle : List Bool} {fs gs : List OverrideFrame} (f : OverrideFrame) :
    SameFrames idle fs gs → SameFrames (false :: idle) (f :: fs) (f :: gs)
  | idle {idle : List Bool} {f : OverrideFrame} {fs gs : List OverrideFrame} :
    f.spans.entries = [] → SameFrames idle fs gs → SameFrames (true :: idle) (f :: fs) gs

/-- Where the files of two assemblies come from. A key stands for one file on the first side, and
for the file without divisions on the second. -/
structure Supply where
  catalog : Catalog
  catalog' : Catalog
  files : Text → Except Failure File
  canonicalize : catalog'.canonicalize = catalog.canonicalize

/-- Where two assemblies are that are side by side: the files being expanded, and which of the
override blocks in effect are missing on the second side. -/
structure Standing where
  stack : List Text
  idle : List Bool

/-- Two assemblies side by side. -/
structure Sides (supply : Supply) (charts : List Chart) (standing : Standing) (s u : Expansion) :
    Prop where
  stack : s.stack = standing.stack
  stack' : u.stack = standing.stack
  frames : SameFrames standing.idle s.frames u.frames
  environments : u.environments = s.environments
  grammars : u.grammars.map Grammar.bare = s.grammars.map Grammar.bare
  length : charts.length = s.grammars.length
  oneToOne : ∀ C ∈ charts, OneToOne C
  registered : List.Forall₂
    (fun e e' => e'.1 = e.1 ∧ ∃ C, charts[e.1]? = some C ∧ C e.2 e'.2) s.registered u.registered
  source : ∀ key, outcome supply.catalog s.source key = supply.files key
  source' : ∀ key, outcome supply.catalog' u.source key = (supply.files key).map File.flatten

/-- Two steps that take assemblies that are side by side from one standing to another, with values
related by `V`, or to the same failure. Grammars may be opened on the way. -/
def Matched {α β : Type} (supply : Supply) (charts : List Chart) (before after : Standing)
    (V : α → β → Prop) (x : Expand α) (y : Expand β) : Prop :=
  ∀ s u, Sides supply charts before s u →
    match x s, y u with
    | .ok a t, .ok b v =>
      V a b ∧ ∃ opened, Sides supply (charts ++ opened) after t v
    | .error e _, .error f _ => f = e
    | _, _ => False

section

variable {α β γ δ : Type} {supply : Supply} {charts : List Chart}
  {before inner after standing : Standing} {V : α → β → Prop} {W : γ → δ → Prop} {x : Expand α}
  {y : Expand β} {s u t v : Expansion}

/-! Rules -/

theorem Matched.of_ok (h : ∀ s u, Sides supply charts before s u →
    ∃ a t b v, x s = .ok a t ∧ y u = .ok b v ∧ V a b ∧
      ∃ opened, Sides supply (charts ++ opened) after t v) :
    Matched supply charts before after V x y := by
  intro s u hsu
  obtain ⟨a, t, b, v, hx, hy, hend⟩ := h s u hsu
  rw [hx, hy]
  exact hend

/-- How two matched steps end. -/
theorem Matched.ends (h : Matched supply charts before after V x y)
    (hsu : Sides supply charts before s u) :
    (∃ e t v, x s = .error e t ∧ y u = .error e v) ∨
      ∃ a t b v, x s = .ok a t ∧ y u = .ok b v ∧ V a b ∧
        ∃ opened, Sides supply (charts ++ opened) after t v := by
  have hend := h s u hsu
  cases hx : x s <;> cases hy : y u <;> rw [hx, hy] at hend
  · exact .inr ⟨_, _, _, _, rfl, rfl, hend⟩
  · exact hend.elim
  · exact hend.elim
  · subst hend
    exact .inl ⟨_, _, _, rfl, rfl⟩

theorem Matched.pure {a : α} {b : β} (h : V a b) :
    Matched supply charts standing standing V (pure a) (pure b) :=
  .of_ok fun s u hsu => ⟨a, s, b, u, rfl, rfl, h, [], (List.append_nil charts).symm ▸ hsu⟩

theorem Matched.throw (e : Failure) :
    Matched supply charts before after V (throw e) (throw e) :=
  fun _ _ _ => rfl

theorem Matched.mono {V' : α → β → Prop} (h : Matched supply charts before after V x y)
    (hV : ∀ a b, V a b → V' a b) : Matched supply charts before after V' x y := by
  intro s u hsu
  rcases h.ends hsu with ⟨e, t, v, hx, hy⟩ | ⟨a, t, b, v, hx, hy, hab, hend⟩
  · rw [hx, hy]
  · rw [hx, hy]
    exact ⟨hV a b hab, hend⟩

theorem Matched.bind {f : α → Expand γ} {g : β → Expand δ}
    (h : Matched supply charts before inner V x y)
    (hf : ∀ opened a b, V a b →
      Matched supply (charts ++ opened) inner after W (f a) (g b)) :
    Matched supply charts before after W (x >>= f) (y >>= g) := by
  intro s u hsu
  rcases h.ends hsu with ⟨e, t, v, hx, hy⟩ | ⟨a, t, b, v, hx, hy, hab, opened, htv⟩
  · rw [bind_of_error hx, bind_of_error hy]
  · rw [bind_of_ok hx, bind_of_ok hy]
    rcases (hf opened a b hab).ends htv with ⟨e, t', v', hx', hy'⟩ |
      ⟨c, t', d, v', hx', hy', hcd, opened', hend⟩
    · rw [hx', hy']
    · rw [hx', hy']
      rw [List.append_assoc] at hend
      exact ⟨hcd, opened ++ opened', hend⟩

theorem Matched.get {f : Expansion → Expand γ} {g : Expansion → Expand δ}
    (h : ∀ s u, Sides supply charts before s u →
      Matched supply charts before after W (f s) (g u)) :
    Matched supply charts before after W (get >>= f) (get >>= g) :=
  fun s u hsu => h s u hsu s u hsu

theorem Matched.modify {f g : Expansion → Expansion}
    (h : ∀ s u, Sides supply charts before s u →
      Sides supply charts after (f s) (g u)) :
    Matched supply charts before after (fun _ _ => True) (modify f) (modify g) :=
  .of_ok fun s u hsu =>
    ⟨(), f s, (), g u, rfl, rfl, trivial, [], (List.append_nil charts).symm ▸ h s u hsu⟩

theorem Matched.ite {p p' : Prop} [Decidable p] [Decidable p'] (hp : p' ↔ p) {x' : Expand α}
    {y' : Expand β} (h : p → Matched supply charts before after V x y)
    (h' : ¬ p → Matched supply charts before after V x' y') :
    Matched supply charts before after V (if p then x else x')
      (if p' then y else y') := by
  by_cases hc : p
  · rw [if_pos hc, if_pos (hp.mpr hc)]
    exact h hc
  · rw [if_neg hc, if_neg (mt hp.mp hc)]
    exact h' hc

theorem Matched.liftExcept (r : Except Failure α) :
    Matched supply charts standing standing (fun a b => b = a ∧ r = .ok a)
      (liftExcept r) (liftExcept r) := by
  cases r with
  | ok a => exact .pure ⟨rfl, rfl⟩
  | error e => exact .throw e

theorem Matched.ensuring {c c' : Expansion → Expansion}
    (h : Matched supply charts before inner V x y)
    (hc : ∀ charts s u, Sides supply charts inner s u →
      Sides supply charts after (c s) (c' u)) :
    Matched supply charts before after V (ensuring x c) (ensuring y c') := by
  intro s u hsu
  unfold Expand.ensuring
  rcases h.ends hsu with ⟨e, t, v, hx, hy⟩ | ⟨a, t, b, v, hx, hy, hab, opened, htv⟩
  · rw [hx, hy]
  · rw [hx, hy]
    exact ⟨hab, opened, hc _ t v htv⟩

end

end Expand

end RelaxCompact
