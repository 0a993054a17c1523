import RelaxCompact.Proofs.Resolution.Nested
import RelaxCompact.Proofs.Resolution.Resolved

/-!
A schema is refused for an undefined name exactly if the root has no start or a definition of one of
its grammars, used or not, refers to something that is not there.
-/

namespace RelaxCompact

open Run Arena

/-- A schema is refused for a name without a definition. -/
def Failure.Undefined (f : Failure) : Prop :=
  ∃ e name, f = .schema e ∧ e.diagnostic.category = .undefined name

/-- A reference in grammar number `number` that leads nowhere: to a name that its own grammar lacks,
out of a grammar that has no parent, to a name that the parent lacks, or to the start of a grammar
without one. -/
def Reference.Dangling (a : Assembled) (number : Nat) : Reference → Prop
  | ref name => a.definition? ⟨number, .named name⟩ = none
  | parentRef name =>
    (Resolve.grammarAt a number).parent = none ∨
      ∃ parent, (Resolve.grammarAt a number).parent = some parent ∧
        a.definition? ⟨parent, .named name⟩ = none
  | start nested => a.definition? ⟨nested, .start⟩ = none

theorem Reference.not_dangling {a : Assembled} {number : Nat} {r : Reference} :
    ¬ r.Dangling a number ↔ ∃ k, r.key? a number = some k ∧ (a.definition? k).isSome := by
  cases r with
  | ref name | start nested =>
    simp only [Dangling, key?, Option.some.injEq, exists_eq_left', Option.isSome_iff_ne_none, ne_eq]
  | parentRef name =>
    cases hp : (Resolve.grammarAt a number).parent with
    | none => simp [Dangling, key?, hp]
    | some parent => simp [Dangling, key?, hp, Option.isSome_iff_ne_none]

namespace Resolve

/-! The steps that write an arena fail for undefined names only. -/

theorem allocate_failsOnly {E : Failure → Prop} : FailsOnly E allocate :=
  FailsOnly.get.bind fun _ => (FailsOnly.modify _).bind fun _ => .pure _

theorem store_failsOnly {E : Failure → Prop} (n : Node) (slot : Option Nat) :
    FailsOnly E (store n slot) := by
  cases slot with
  | some h => exact (FailsOnly.modify _).bind fun _ => .pure _
  | none => exact allocate_failsOnly.bind fun _ => (FailsOnly.modify _).bind fun _ => .pure _

theorem slotOf_failsOnly {E : Failure → Prop} (k : DefinitionKey) : FailsOnly E (slotOf k) := by
  refine FailsOnly.get.bind fun s => ?_
  cases Table.lookup k s.slots with
  | some h => exact .pure _
  | none => exact allocate_failsOnly.bind fun _ => (FailsOnly.modify _).bind fun _ => .pure _

theorem reserve_failsOnly {E : Failure → Prop} (number : Nat) (g : Grammar) :
    FailsOnly E (reserve number g) :=
  .forM (fun _ => (slotOf_failsOnly _).bind fun _ => .pure _) _

theorem combine_failsOnly {E : Failure → Prop} (op : Connective) (slot : Option Nat) (first : Nat)
    (others : List Nat) : FailsOnly E (combine op slot first others) := by
  fun_induction combine op slot first others with
  | case1 first => exact .pure _
  | case2 first last => exact store_failsOnly _ _
  | case3 first h more _ ih => exact (store_failsOnly _ _).bind ih

theorem target_failsOnly (a : Assembled) (number : Nat) (chain : List Nat) (name : String)
    (span : Span) : FailsOnly Failure.Undefined (target a number chain name span) := by
  unfold target
  split
  · exact .pure _
  · exact .throw ⟨_, _, rfl, rfl⟩

theorem parentTarget_failsOnly (a : Assembled) (number : Nat) (name : String) (span : Span) :
    FailsOnly Failure.Undefined (parentTarget a number name span) := by
  unfold parentTarget
  split
  · exact .throw ⟨_, _, rfl, rfl⟩
  · split
    · exact .pure _
    · exact .throw ⟨_, _, rfl, rfl⟩

theorem write_failsOnly (a : Assembled) (number : Nat) (scopes : List Nat)
    (chain : Option Connective) (slot : Option Nat) (c : Content) :
    FailsOnly Failure.Undefined (write a number scopes chain slot c) := by
  refine write.induct_unfolding a number scopes
    (fun _ _ _ step => FailsOnly Failure.Undefined step)
    ?binary ?unary ?leaf ?named ?ref ?parentRef ?data ?dataExcept ?value ?noStart ?grammar
    chain slot c
  case binary =>
    intro chain slot op left right span ihLeft ihRight
    refine ihLeft.bind fun first => ihRight.bind fun last => ?_
    dsimp only
    split
    · exact .pure _
    · exact (combine_failsOnly _ _ _ _).bind fun _ => .pure _
  case unary =>
    intro chain slot modifier content span ih
    exact ih.bind fun _ => (store_failsOnly _ _).bind fun _ => .pure _
  case leaf =>
    intro chain slot leaf span
    exact (store_failsOnly _ _).bind fun _ => .pure _
  case named =>
    intro chain slot holder name content span ih
    exact ih.bind fun _ => (store_failsOnly _ _).bind fun _ => .pure _
  case ref =>
    intro chain slot name span
    exact (target_failsOnly _ _ _ _ _).bind fun _ => (slotOf_failsOnly _).bind fun _ =>
      (store_failsOnly _ _).bind fun _ => .pure _
  case parentRef =>
    intro chain slot name span
    exact (parentTarget_failsOnly _ _ _ _).bind fun _ => (slotOf_failsOnly _).bind fun _ =>
      (store_failsOnly _ _).bind fun _ => .pure _
  case data =>
    intro chain slot type library params span
    exact (store_failsOnly _ _).bind fun _ => .pure _
  case dataExcept =>
    intro chain slot type library params except span ih
    exact ih.bind fun _ => (store_failsOnly _ _).bind fun _ => .pure _
  case value =>
    intro chain slot literal type library span
    exact (store_failsOnly _ _).bind fun _ => .pure _
  case noStart =>
    intro chain slot nested span g body hstart
    exact .throw ⟨_, _, rfl, rfl⟩
  case grammar =>
    intro chain slot nested span g body hstart
    exact (slotOf_failsOnly _).bind fun _ => (reserve_failsOnly _ _).bind fun _ =>
      (store_failsOnly _ _).bind fun _ => .pure _

theorem writeSite_failsOnly (a : Assembled) (number : Nat) (slot : Option Nat) (site : Site) :
    FailsOnly Failure.Undefined (writeSite a number slot site) :=
  (write_failsOnly _ _ _ _ _ _).bind fun _ => .pure _

theorem writeBody_failsOnly (a : Assembled) (k : DefinitionKey) (slot : Nat) :
    FailsOnly Failure.Undefined (writeBody a k slot) := by
  unfold writeBody
  split
  · exact .pure _
  · split
    · exact (writeSite_failsOnly _ _ _ _).bind fun _ => .pure _
    · exact (writeSite_failsOnly _ _ _ _).bind fun _ =>
        (FailsOnly.mapM (fun _ => writeSite_failsOnly _ _ _ _) _).bind fun _ =>
          (combine_failsOnly _ _ _ _).bind fun _ => .pure _

theorem drain_failsOnly (a : Assembled) (budget : Nat) :
    FailsOnly Failure.Undefined (drain a budget) := by
  induction budget with
  | zero => exact .pure _
  | succ budget ih =>
    refine FailsOnly.get.bind fun s => ?_
    cases s.pending with
    | nil => exact .pure _
    | cons p pending =>
      exact (FailsOnly.modify _).bind fun _ => (writeBody_failsOnly _ _ _).bind fun _ => ih

theorem writeAll_failsOnly (a : Assembled) : FailsOnly Failure.Undefined (writeAll a) := by
  unfold writeAll
  split
  · exact .throw ⟨_, _, rfl, rfl⟩
  · exact (slotOf_failsOnly _).bind fun _ => (reserve_failsOnly _ _).bind fun _ =>
      (drain_failsOnly _ _).bind fun _ => .pure _

/-- What a finished arena is written for is complete. -/
theorem Finished.complete {a : Assembled} {s : Arena} (hf : Finished a s) {i : Handle}
    (hstart : s.slot? ⟨0, .start⟩ = some i) : a.Complete := by
  have hbelongs {k : DefinitionKey} {h : Handle} (hk : s.slot? k = some h) : a.Belongs k :=
    (hf.belongs_iff k).1 (by rw [hk]; rfl)
  refine ⟨(hbelongs hstart).isSome, fun k hk r hr => ?_⟩
  obtain ⟨h, hslot⟩ := Option.isSome_iff_exists.1 ((hf.belongs_iff k).2 hk)
  obtain ⟨j, -, hm⟩ := mem_slots hslot
  obtain ⟨d, tree, hholds⟩ := hf.holds _ hm
  obtain ⟨d', hd', site, hs, hr⟩ := hr
  cases hholds.definition.symm.trans hd'
  obtain ⟨t, ht⟩ := hholds.bound.site hs
  obtain ⟨x, -, k', hkey, hx⟩ := exists_of_forall₂ (ht.targets true) hr
  exact ⟨k', hkey, (hbelongs hx).isSome⟩

end Resolve

theorem cycleError_ne_undefined {a : Assembled} {slots : List (DefinitionKey × Nat)}
    {cycle : List Nat} {e : SchemaError} (h : cycleError a slots cycle = some e)
    {name : Option Text} : e.diagnostic.category ≠ .undefined name := by
  unfold cycleError at h
  obtain ⟨first, -, h⟩ := Option.bind_eq_some_iff.1 h
  obtain ⟨d, -, h⟩ := Option.bind_eq_some_iff.1 h
  cases h
  exact nofun

namespace Assembled

variable {a : Assembled}

/-- Undefined names are all that keeps an arena from being written. -/
theorem resolve_undefined_iff (a : Assembled) :
    (∃ e, a.resolve = .error e ∧ e.Undefined) ↔ ¬ a.Complete := by
  cases hw : Resolve.writeAll a {} with
  | error e t =>
    have hresolve : a.resolve = .error e := by
      unfold resolve
      rw [hw]
    constructor
    · intro _ hc
      obtain ⟨start, arena, hok, -⟩ := (Resolve.writeAll_ends a).exists_ok hc
      cases hw.symm.trans hok
    · intro _
      exact ⟨e, hresolve, Resolve.writeAll_failsOnly a _ _ _ hw⟩
  | ok start arena =>
    obtain ⟨hf, hslot⟩ := (Resolve.writeAll_ends a).ok hw
    refine iff_of_false ?_ (not_not_intro (hf.complete hslot))
    rintro ⟨e, he, cause, name, rfl, hcategory⟩
    unfold resolve at he
    rw [hw] at he
    dsimp only at he
    split at he
    next => cases he
    next nodes hn =>
      split at he
      next e' hcycle =>
        cases he
        obtain ⟨cycle, -, hcause⟩ := Option.bind_eq_some_iff.1 hcycle
        exact (cycleError_ne_undefined hcause) hcategory
      next => cases he

/-- A schema is complete if it has a start and no reference in its grammars dangles. -/
theorem complete_iff (ha : a.Nests) :
    a.Complete ↔ a.root.start? ≠ none ∧
      ∀ k r, a.Reaches k.grammar → a.Contains true k r → ¬ r.Dangling a k.grammar := by
  rw [Resolve.start?_root]
  constructor
  · intro hc
    refine ⟨Option.isSome_iff_ne_none.1 hc.start, fun k r hk hr => Reference.not_dangling.2 ?_⟩
    obtain ⟨d, hd, -⟩ := id hr
    exact hc.defined k ((belongs_iff_reaches ha k).2 ⟨hk, by rw [hd]; rfl⟩) r hr
  · rintro ⟨hstart, hall⟩
    refine ⟨Option.isSome_iff_ne_none.2 hstart, fun k hk r hr => Reference.not_dangling.1 ?_⟩
    exact hall k r ((belongs_iff_reaches ha k).1 hk).1 hr

end Assembled

/-- Every definition of the grammars of an assembled schema, used or not, has a body of its own, and
every reference in it leads to the body of the definition that it means: one of the same grammar, of
the parent, or the start of a nested grammar. -/
structure Schema.Binds (s : Schema) (a : Assembled) (slot : DefinitionKey → Option Handle) :
    Prop where
  apart : ∀ k k' h, slot k = some h → slot k' = some h → k = k'
  bodies : ∀ k d, a.Reaches k.grammar → a.definition? k = some d →
    ∃ h t, slot k = some h ∧ Reads s.node? h t ∧
      List.Forall₂
        (fun (r : Reference) target => ∃ k', r.key? a k.grammar = some k' ∧
          (a.definition? k').isSome ∧ slot k' = some target)
        (d.sites.flatMap fun site => site.content.references true) (t.targets true)

/-- An assembled schema is refused for an undefined name exactly if its root has no start or a
reference in one of its grammars dangles, in a definition that is used or in one that is not. If it
is not refused, every reference is bound, and in its own grammar unless it is a `parent`. -/
theorem resolve_refuses_undefined {setup : Expand.Setup} {root : Surface.File} {key : Option Text}
    {s t : Fragments} {a : Assembled} (h : assemble setup root key s = .ok a t) :
    ((∃ e, a.resolve = .error e ∧ e.Undefined) ↔
      a.root.start? = none ∨
        ∃ k r, a.Reaches k.grammar ∧ a.Contains true k r ∧ r.Dangling a k.grammar) ∧
    ∀ schema, a.resolve = .ok schema → ∃ slot, schema.Binds a slot := by
  have ha := assemble_nests h
  constructor
  · rw [Assembled.resolve_undefined_iff, Assembled.complete_iff ha]
    simp only [not_and_or, not_not, not_forall, exists_prop]
  · intro schema hschema
    obtain ⟨start, arena, hw, hnodes, -⟩ := Resolve.resolve_ok hschema
    obtain ⟨hf, -⟩ := (Resolve.writeAll_ends a).ok hw
    refine ⟨arena.slot?, fun k k' i => hf.apart, fun k d hk hd => ?_⟩
    have hbelongs := (Assembled.belongs_iff_reaches ha k).2 ⟨hk, by rw [hd]; rfl⟩
    obtain ⟨i, hi⟩ := Option.isSome_iff_exists.1 ((hf.belongs_iff k).2 hbelongs)
    obtain ⟨j, rfl, hm⟩ := Resolve.Finished.mem_slots hi
    obtain ⟨d', tree, hholds⟩ := hf.holds _ hm
    cases hholds.definition.symm.trans hd
    refine ⟨j, tree, hi, hholds.shows.reads.mono (Schema.keeps hnodes),
      (hholds.bound.targets true).imp fun r target ⟨k', hkey, hslot⟩ => ⟨k', hkey, ?_, hslot⟩⟩
    exact ((hf.belongs_iff k').1 (by rw [hslot]; rfl)).isSome

namespace Unused

/-! A nested grammar in a definition that nothing refers to. -/

open Surface

def here : Span := ⟨[], 1, 1, 0, 0⟩

def element (content : Pattern) : Pattern := .named .element (.anyName none here) content here

/-- `start = text x = text y = grammar { start = element * { x } }`, or with `parent x` for `x` -/
def root (inner : Pattern) : File where
  path := "r"
  declarations := []
  components :=
    [.define .start .single (.leaf .text here) none here,
      .define (.named "x") .single (.leaf .text here) none here,
      .define (.named "y") .single
        (.grammar [.define .start .single (element inner) none here] here) none here]
  isPattern := false

def setup : Expand.Setup := { catalog := (Mapping.ofList []).catalog, strict := true }

/-- The cause for which the assembled schema is refused. -/
def cause (inner : Pattern) : Option (Option Failure) :=
  (ended (assemble setup (root inner) none {})).toOption.map fun a => failure? a.resolve

/-- The `x` of the root does not help the one in the nested grammar, though nothing uses it. -/
theorem resolve_refuses_undefined_unused :
    ∃ a t, assemble setup (root (.ref "x" here)) none {} = .ok a t ∧
      a.resolve = .error (.schema (.undefinedReference "x" here)) ∧
      (a.root.start? = none ∨
        ∃ k r, a.Reaches k.grammar ∧ a.Contains true k r ∧ r.Dangling a k.grammar) := by
  have hcause : cause (.ref "x" here) = some (some (.schema (.undefinedReference "x" here))) := by
    decide +kernel
  obtain ⟨a, t, h, hfailure⟩ := exists_ended_of_map hcause
  have hresolve := eq_error_of_failure? hfailure
  exact ⟨a, t, h, hresolve, (resolve_refuses_undefined h).1.1 ⟨_, hresolve, _, _, rfl, rfl⟩⟩

example : cause (.parentRef "x" here) = some none := by decide +kernel

end Unused

end RelaxCompact
