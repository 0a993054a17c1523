import Mathlib
import RelaxCompact.Proofs.Lists
import RelaxCompact.Resolution

/-!
What an arena has to hold for an assembled grammar. The nodes below a handle are read back as a
tree, in which references stop, and this tree has to be the body of a definition with its
references bound.
-/

namespace RelaxCompact

/-- A pattern read back from an arena. -/
inductive Tree
  | binary (op : Connective) (left right : Tree)
  | unary (modifier : Modifier) (content : Tree)
  | leaf (leaf : Leaf)
  | named (holder : Holder) (name : NameClass) (content : Tree)
  | ref (name : String) (target : Handle)
  | parentRef (name : String) (target : Handle)
  | data (library : Text) (name : String) (params : List (String × Text))
  | dataExcept (library : Text) (name : String) (params : List (String × Text)) (except : Tree)
  | value (literal : Text) (library : Text) (type : String)

namespace Tree

/-- Trees combined from the left. -/
def fold (op : Connective) (first : Tree) (more : List Tree) : Tree := more.foldl (binary op) first

/-- The targets of references; with `inside`, also of those in elements and attributes. -/
def targets (inside : Bool) : Tree → List Handle
  | binary _ left right => left.targets inside ++ right.targets inside
  | unary _ content => content.targets inside
  | leaf _ => []
  | named _ _ content => if inside then content.targets inside else []
  | ref _ target => [target]
  | parentRef _ target => [target]
  | data _ _ _ => []
  | dataExcept _ _ _ except => except.targets inside
  | value _ _ _ => []

theorem fold_concat (op : Connective) (first : Tree) (more : List Tree) (last : Tree) :
    fold op first (more ++ [last]) = binary op (fold op first more) last := by
  rw [fold, List.foldl_append]
  rfl

theorem targets_fold (op : Connective) (first : Tree) (more : List Tree) (inside : Bool) :
    (fold op first more).targets inside =
      first.targets inside ++ more.flatMap (targets inside) := by
  unfold fold
  induction more generalizing first with
  | nil => simp
  | cons t more ih =>
    rw [List.foldl_cons, ih, List.flatMap_cons, ← List.append_assoc]
    rfl

theorem targets_subset (t : Tree) : t.targets false ⊆ t.targets true := by
  induction t with
  | binary _ _ _ ihLeft ihRight =>
    exact List.append_subset.2 ⟨List.subset_append_of_subset_left _ ihLeft,
      List.subset_append_of_subset_right _ ihRight⟩
  | unary _ _ ih | dataExcept _ _ _ _ ih => exact ih
  | leaf | ref | parentRef | data | value => exact List.Subset.refl _
  | named => exact List.nil_subset _

end Tree

/-- The tree below a handle, where `node` finds nodes. -/
inductive Reads (node : Handle → Option Node) : Handle → Tree → Prop
  | binary {h op left right l r} : node h = some (.binary op left right) →
    Reads node left l → Reads node right r → Reads node h (.binary op l r)
  | unary {h modifier content c} : node h = some (.unary modifier content) →
    Reads node content c → Reads node h (.unary modifier c)
  | leaf {h leaf} : node h = some (.leaf leaf) → Reads node h (.leaf leaf)
  | named {h holder name content c} : node h = some (.named holder name content) →
    Reads node content c → Reads node h (.named holder name c)
  | ref {h name target} : node h = some (.ref name target) → Reads node h (.ref name target)
  | parentRef {h name target} : node h = some (.parentRef name target) →
    Reads node h (.parentRef name target)
  | data {h library name params} : node h = some (.data library name params none) →
    Reads node h (.data library name params)
  | dataExcept {h library name params except e} :
    node h = some (.data library name params (some except)) → Reads node except e →
    Reads node h (.dataExcept library name params e)
  | value {h literal library type} : node h = some (.value literal library type) →
    Reads node h (.value literal library type)

/-- What is found under `node` is found under `node'` too. -/
def Keeps (node node' : Handle → Option Node) : Prop :=
  ∀ h n, node h = some n → node' h = some n

theorem Keeps.refl (node : Handle → Option Node) : Keeps node node := fun _ _ h => h

theorem Keeps.trans {node node' node'' : Handle → Option Node} (h : Keeps node node')
    (h' : Keeps node' node'') : Keeps node node'' :=
  fun i n hn => h' i n (h i n hn)

theorem Reads.mono {node node' : Handle → Option Node} {h : Handle} {t : Tree}
    (hr : Reads node h t) (hk : Keeps node node') : Reads node' h t := by
  induction hr with
  | binary hn _ _ ihLeft ihRight => exact .binary (hk _ _ hn) ihLeft ihRight
  | unary hn _ ih => exact .unary (hk _ _ hn) ih
  | leaf hn => exact .leaf (hk _ _ hn)
  | named hn _ ih => exact .named (hk _ _ hn) ih
  | ref hn => exact .ref (hk _ _ hn)
  | parentRef hn => exact .parentRef (hk _ _ hn)
  | data hn => exact .data (hk _ _ hn)
  | dataExcept hn _ ih => exact .dataExcept (hk _ _ hn) ih
  | value hn => exact .value (hk _ _ hn)

/-- Handles of one node have one tree. -/
theorem Reads.congr {node : Handle → Option Node} {h i : Handle} {t : Tree} (hr : Reads node i t)
    (he : node h = node i) : Reads node h t := by
  cases hr with
  | binary hn hl hr => exact .binary (he.trans hn) hl hr
  | unary hn hc => exact .unary (he.trans hn) hc
  | leaf hn => exact .leaf (he.trans hn)
  | named hn hc => exact .named (he.trans hn) hc
  | ref hn => exact .ref (he.trans hn)
  | parentRef hn => exact .parentRef (he.trans hn)
  | data hn => exact .data (he.trans hn)
  | dataExcept hn hc => exact .dataExcept (he.trans hn) hc
  | value hn => exact .value (he.trans hn)

/-- There is at most one tree below a handle. -/
theorem Reads.unique {node : Handle → Option Node} {h : Handle} {t t' : Tree}
    (hr : Reads node h t) (hr' : Reads node h t') : t = t' := by
  induction hr generalizing t' with
  | binary hn _ _ ihLeft ihRight =>
    cases hr' with
    | binary hn' hl hr => cases hn.symm.trans hn'; rw [ihLeft hl, ihRight hr]
    | _ hn' => cases hn.symm.trans hn'
  | unary hn _ ih =>
    cases hr' with
    | unary hn' hc => cases hn.symm.trans hn'; rw [ih hc]
    | _ hn' => cases hn.symm.trans hn'
  | named hn _ ih =>
    cases hr' with
    | named hn' hc => cases hn.symm.trans hn'; rw [ih hc]
    | _ hn' => cases hn.symm.trans hn'
  | dataExcept hn _ ih =>
    cases hr' with
    | dataExcept hn' hc => cases hn.symm.trans hn'; rw [ih hc]
    | _ hn' => cases hn.symm.trans hn'
  | leaf hn =>
    cases hr' with
    | leaf hn' => cases hn.symm.trans hn'; rfl
    | _ hn' => cases hn.symm.trans hn'
  | ref hn =>
    cases hr' with
    | ref hn' => cases hn.symm.trans hn'; rfl
    | _ hn' => cases hn.symm.trans hn'
  | parentRef hn =>
    cases hr' with
    | parentRef hn' => cases hn.symm.trans hn'; rfl
    | _ hn' => cases hn.symm.trans hn'
  | data hn =>
    cases hr' with
    | data hn' => cases hn.symm.trans hn'; rfl
    | _ hn' => cases hn.symm.trans hn'
  | value hn =>
    cases hr' with
    | value hn' => cases hn.symm.trans hn'; rfl
    | _ hn' => cases hn.symm.trans hn'

/-! References -/

/-- What a pattern refers to. -/
inductive Reference
  | ref (name : String)
  | parentRef (name : String)
  /-- The start of a nested grammar. -/
  | start (nested : Nat)

/-- The definition that a reference in grammar number `number` means. -/
def Reference.key? (a : Assembled) (number : Nat) : Reference → Option DefinitionKey
  | ref name => some ⟨number, .named name⟩
  | parentRef name => (Resolve.grammarAt a number).parent.map fun parent => ⟨parent, .named name⟩
  | start nested => some ⟨nested, .start⟩

namespace Content

/-- The references of a pattern; with `inside`, also those in elements and attributes. -/
def references (inside : Bool) : Content → List Reference
  | binary _ left right _ => left.references inside ++ right.references inside
  | unary _ content _ => content.references inside
  | leaf _ _ => []
  | named _ _ content _ => if inside then content.references inside else []
  | ref name _ => [.ref name]
  | parentRef name _ => [.parentRef name]
  | data _ _ _ none _ => []
  | data _ _ _ (some except) _ => except.references inside
  | value _ _ _ _ => []
  | grammar nested _ => [.start nested]

/-- A pattern of grammar number `number` with its references bound to the slots of their
definitions. -/
inductive Bound (a : Assembled) (slot : DefinitionKey → Option Handle) (number : Nat) :
    Content → Tree → Prop
  | binary {op left right span l r} : Bound a slot number left l → Bound a slot number right r →
    Bound a slot number (.binary op left right span) (.binary op l r)
  | unary {modifier content span c} : Bound a slot number content c →
    Bound a slot number (.unary modifier content span) (.unary modifier c)
  | leaf {leaf span} : Bound a slot number (.leaf leaf span) (.leaf leaf)
  | named {holder name content span c} : Bound a slot number content c →
    Bound a slot number (.named holder name content span) (.named holder name c)
  | ref {name span target} : slot ⟨number, .named name⟩ = some target →
    Bound a slot number (.ref name span) (.ref name target)
  | parentRef {name span parent target} :
    (Resolve.grammarAt a number).parent = some parent →
    slot ⟨parent, .named name⟩ = some target →
    Bound a slot number (.parentRef name span) (.parentRef name target)
  | data {type library params span} :
    Bound a slot number (.data type library params none span)
      (.data library type.localName params)
  | dataExcept {type library params except span e} : Bound a slot number except e →
    Bound a slot number (.data type library params (some except) span)
      (.dataExcept library type.localName params e)
  | value {literal type library span} :
    Bound a slot number (.value literal type library span) (.value literal library type.localName)
  | grammar {nested span target} : slot ⟨nested, .start⟩ = some target →
    Bound a slot number (.grammar nested span) (.ref "start" target)

theorem Bound.mono {a : Assembled} {slot slot' : DefinitionKey → Option Handle} {number : Nat}
    {c : Content} {t : Tree} (hb : Bound a slot number c t)
    (hs : ∀ k h, slot k = some h → slot' k = some h) : Bound a slot' number c t := by
  induction hb with
  | binary _ _ ihLeft ihRight => exact .binary ihLeft ihRight
  | unary _ ih => exact .unary ih
  | leaf => exact .leaf
  | named _ ih => exact .named ih
  | ref ht => exact .ref (hs _ _ ht)
  | parentRef hp ht => exact .parentRef hp (hs _ _ ht)
  | data => exact .data
  | dataExcept _ ih => exact .dataExcept ih
  | value => exact .value
  | grammar ht => exact .grammar (hs _ _ ht)

/-- The targets in a tree are the slots of what the pattern refers to. -/
theorem Bound.targets {a : Assembled} {slot : DefinitionKey → Option Handle} {number : Nat}
    {c : Content} {t : Tree} (hb : Bound a slot number c t) (inside : Bool) :
    List.Forall₂
      (fun (r : Reference) target => ∃ k, r.key? a number = some k ∧ slot k = some target)
      (c.references inside) (t.targets inside) := by
  induction hb with
  | binary _ _ ihLeft ihRight => exact List.rel_append ihLeft ihRight
  | unary _ ih => exact ih
  | leaf | data | value => exact .nil
  | named _ ih =>
    cases inside with
    | true => exact ih
    | false => exact .nil
  | ref ht => exact .cons ⟨_, rfl, ht⟩ .nil
  | parentRef hp ht => exact .cons ⟨_, by rw [Reference.key?, hp]; rfl, ht⟩ .nil
  | dataExcept _ ih => exact ih
  | grammar ht => exact .cons ⟨_, rfl, ht⟩ .nil

end Content

/-- The body of a definition: the patterns of its sites, combined from the left. -/
def Definition.Bound (a : Assembled) (slot : DefinitionKey → Option Handle) (number : Nat)
    (d : Definition) (t : Tree) : Prop :=
  ∃ first more, d.first.content.Bound a slot number first ∧
    List.Forall₂ (fun (site : Site) s => site.content.Bound a slot number s) d.more more ∧
    t = .fold (Resolve.connectiveOf d.operator) first more

theorem Definition.Bound.mono {a : Assembled} {slot slot' : DefinitionKey → Option Handle}
    {number : Nat} {d : Definition} {t : Tree} (hb : d.Bound a slot number t)
    (hs : ∀ k h, slot k = some h → slot' k = some h) : d.Bound a slot' number t := by
  obtain ⟨first, more, hf, hm, ht⟩ := hb
  exact ⟨first, more, hf.mono hs, hm.imp fun _ _ hb => hb.mono hs, ht⟩

/-- The targets in a body are the slots of what the patterns of the sites refer to. -/
theorem Definition.Bound.targets {a : Assembled} {slot : DefinitionKey → Option Handle}
    {number : Nat} {d : Definition} {t : Tree} (hb : d.Bound a slot number t) (inside : Bool) :
    List.Forall₂
      (fun (r : Reference) target => ∃ k, r.key? a number = some k ∧ slot k = some target)
      (d.sites.flatMap fun site => site.content.references inside) (t.targets inside) := by
  obtain ⟨first, more, hf, hm, rfl⟩ := hb
  rw [Tree.targets_fold, Definition.sites, List.flatMap_cons]
  exact List.rel_append (hf.targets inside) (List.rel_flatMap hm fun _ _ hb => hb.targets inside)

/-- The pattern of a site is part of the body. -/
theorem Definition.Bound.site {a : Assembled} {slot : DefinitionKey → Option Handle}
    {number : Nat} {d : Definition} {t : Tree} (hb : d.Bound a slot number t) {site : Site}
    (hs : site ∈ d.sites) : ∃ s, site.content.Bound a slot number s := by
  obtain ⟨first, more, hf, hm, -⟩ := hb
  rcases List.mem_cons.1 hs with rfl | hs
  · exact ⟨first, hf⟩
  · obtain ⟨s, -, hs⟩ := exists_of_forall₂ hm hs
    exact ⟨s, hs⟩

namespace Assembled

def definition? (a : Assembled) (k : DefinitionKey) : Option Definition :=
  (Resolve.grammarAt a k.grammar).definitions.get? k.name

/-- A reference in the patterns of a definition; with `inside`, also in elements and attributes. -/
def Contains (a : Assembled) (inside : Bool) (k : DefinitionKey) (r : Reference) : Prop :=
  ∃ d, a.definition? k = some d ∧ ∃ site ∈ d.sites, r ∈ site.content.references inside

/-- The definitions that belong to a schema: all of the root and of the grammars nested in it, and
what these refer to. -/
inductive Belongs (a : Assembled) : DefinitionKey → Prop
  | root {name} : (a.definition? ⟨0, name⟩).isSome → Belongs a ⟨0, name⟩
  | nested {k nested name} : Belongs a k → a.Contains true k (.start nested) →
    (a.definition? ⟨nested, name⟩).isSome → Belongs a ⟨nested, name⟩
  | referred {k r k'} : Belongs a k → a.Contains true k r → r.key? a k.grammar = some k' →
    (a.definition? k').isSome → Belongs a k'

end Assembled

end RelaxCompact
