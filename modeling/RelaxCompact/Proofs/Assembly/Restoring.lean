import RelaxCompact.Proofs.Assembly.Course
import RelaxCompact.Proofs.Assembly.Sparing
import RelaxCompact.Proofs.Lists

/-!
What an expansion leaves of the stacks, however it ends. The stack of files is always as it was. The
override blocks in effect are those that were, and a grammar of its own does not even notice them;
only an include that is refused after its block was put into effect may leave more.
-/

namespace RelaxCompact

/-- The same override block, which may have suppressed more of its names. -/
structure OverrideFrame.Resumes (f g : OverrideFrame) : Prop where
  href : g.href = f.href
  spans : g.spans = f.spans
  hits : f.hits ⊆ g.hits
  covered : ∀ name ∈ g.hits, name ∈ f.hits ∨ f.spans.contains name = true

theorem OverrideFrame.Resumes.refl (f : OverrideFrame) : f.Resumes f :=
  ⟨rfl, rfl, List.Subset.refl _, fun _ => .inl⟩

theorem OverrideFrame.Resumes.trans {f g h : OverrideFrame} (hfg : f.Resumes g)
    (hgh : g.Resumes h) : f.Resumes h where
  href := hgh.href.trans hfg.href
  spans := hgh.spans.trans hfg.spans
  hits := List.Subset.trans hfg.hits hgh.hits
  covered name hm := by
    rcases hgh.covered name hm with hm | hm
    · exact hfg.covered name hm
    · exact .inr (hfg.spans ▸ hm)

namespace Expand

open Surface Run

/-- The stacks are as they were, but for what the blocks in effect have suppressed. -/
structure Restored (s t : Expansion) : Prop where
  stack : t.stack = s.stack
  frames : List.Forall₂ OverrideFrame.Resumes s.frames t.frames

namespace Restored

variable {s t u : Expansion}

theorem of_eq (hstack : t.stack = s.stack) (hframes : t.frames = s.frames) : Restored s t :=
  ⟨hstack, hframes ▸ List.forall₂_same.2 fun f _ => .refl f⟩

theorem trans (hst : Restored s t) (htu : Restored t u) : Restored s u where
  stack := htu.stack.trans hst.stack
  frames := forall₂_of_common hst.frames.flip htu.frames fun _ _ _ _ hfg hgh => hfg.trans hgh

end Restored

/-! Steps that leave the stacks alone -/

section

variable {setup : Setup} {descend : Descend}

end

/-! Steps that put back what they put up -/

/-- The end of a run at which the stacks of `s` are restored; only with a failure for which `F`
holds may other blocks be left in effect. -/
def Settled {α : Type} (F : Failure → Prop) (s : Expansion) :
    EStateM.Result Failure Expansion α → Prop
  | .ok _ t => Restored s t
  | .error e t => t.stack = s.stack ∧ (Restored s t ∨ F e)

/-- However a step ends, the stacks are restored, but for failures for which `F` holds. -/
def Restores {α : Type} (F : Failure → Prop) (x : Expand α) (s : Expansion) : Prop :=
  Settled F s (x s)

section

variable {α β : Type} {F F' : Failure → Prop} {x : Expand α} {f : α → Expand β} {s t : Expansion}

theorem Restores.stack (h : Restores F x s) : (left (x s)).stack = s.stack := by
  unfold Restores at h
  cases hx : x s with
  | ok a t =>
    rw [hx] at h
    exact h.stack
  | error e t =>
    rw [hx] at h
    exact h.1

theorem Restores.mono (h : Restores F x s) (hF : ∀ e, F e → F' e) : Restores F' x s := by
  unfold Restores at h ⊢
  cases hx : x s with
  | ok a t =>
    rw [hx] at h
    exact h
  | error e t =>
    rw [hx] at h
    exact ⟨h.1, h.2.imp_right (hF e)⟩

theorem Restores.bind (hx : Restores F x s) (hf : ∀ a t, x s = .ok a t → Restores F (f a) t) :
    Restores F (x >>= f) s := by
  unfold Restores at hx
  cases hs : x s with
  | error e t =>
    rw [hs] at hx
    unfold Restores
    rw [bind_of_error hs]
    exact hx
  | ok a t =>
    rw [hs] at hx
    have ht := hf a t hs
    unfold Restores at ht ⊢
    rw [bind_of_ok hs]
    cases hfa : f a t with
    | ok b u =>
      rw [hfa] at ht
      exact hx.trans ht
    | error e u =>
      rw [hfa] at ht
      exact ⟨ht.1.trans hx.stack, ht.2.imp_left hx.trans⟩

end

/-! Includes -/

section

variable {setup : Setup} {place : Place} {file : File} {key href : Text} {inherit : Option String}
  {overrides : List Component} {span : Span} {s t u : Expansion}

/-- The stacks stay restored if nothing is done to them. -/
theorem Settled.andThen {α β : Type} {F : Failure → Prop} {x : Expand α} {f : α → Expand β}
    (h : Settled F s (x t)) (hf : ∀ a, Spares Expansion.nesting (f a)) :
    Settled F s ((x >>= f) t) := by
  cases hx : x t with
  | error e u =>
    rw [hx] at h
    rw [bind_of_error hx]
    exact h
  | ok a u =>
    rw [hx] at h
    rw [bind_of_ok hx]
    have hends := hf a u
    cases hfa : f a u with
    | ok b v =>
      rw [hfa] at hends
      obtain ⟨hstack, hframes⟩ := Prod.mk.inj hends
      exact h.trans (.of_eq hstack hframes)
    | error e v =>
      rw [hfa] at hends
      obtain ⟨hstack, hframes⟩ := Prod.mk.inj hends
      have hall := Restored.trans h (.of_eq hstack hframes)
      exact ⟨hall.stack, .inl hall⟩

end

/-! Where blocks may be left in effect -/

namespace Stage

/-- A stage begins another one of its grammar. -/
def Continues (setup : Setup) (stage stage' : Stage) : Prop :=
  Begins setup stage stage' ∧ ∀ p, stage'.task ≠ .pattern p

end Stage

section

variable {setup : Setup} {b : Nat}

end

end Expand

namespace Leftover

open Expand Surface Run

/-! Includes in a file that is itself included with a block that defines `x`. -/

def source (s : String) : Source := .text s

def mapping : Mapping := Mapping.ofList
  [("b.rnc", source "x = empty"), ("c.rnc", source "y = text"),
    ("d.rnc", source "z = external \"gone.rnc\"")]

def setup : Setup := ⟨mapping.catalog, true⟩

def here : Span := ⟨[], 1, 1, 0, 0⟩

def place : Place :=
  { grammar := 0, environment := Environment.ofDeclarations [], file := "a.rnc" }

def before : Expansion :=
  { source := {}
    stack := ["a.rnc", "main.rnc"]
    frames := [{ href := "a.rnc", spans := Table.ofList [(.named "x", here)] }]
    grammars := [{ label := "main.rnc", parent := none }] }

/-- `{ y = text }` -/
def block : List Component := [.define (.named "y") .single (.leaf .text here) none here]

/-- `include "b.rnc"` -/
def plain : Component := .incl "b.rnc" none [] here

/-- `include "c.rnc" inherit = p { y = text }`, where `p` is not declared. -/
def undeclared : Component := .incl "c.rnc" (some "p") block here

/-- `include "d.rnc" { y = text }`, where a source is missing. -/
def missing : Component := .incl "d.rnc" none block here

/-- What override blocks have suppressed, and whether they suppress `y`. -/
def seen (frames : List OverrideFrame) : List (List DefineName) × Bool :=
  (frames.map (·.hits), frames.any (·.spans.contains (.named "y")))

/-- The failure of an expansion, if it fails, and the blocks in effect after it. -/
def effects (c : Component) : Option Failure × List (List DefineName) × Bool :=
  match expand setup (expandFile setup 2) place c before with
  | .ok _ t => (none, seen t.frames)
  | .error e t => (some e, seen t.frames)

theorem exists_ok {c : Component} {v : List (List DefineName) × Bool} (h : effects c = (none, v)) :
    ∃ t, expand setup (expandFile setup 2) place c before = .ok () t ∧ seen t.frames = v := by
  unfold effects at h
  cases hc : expand setup (expandFile setup 2) place c before with
  | ok a t =>
    rw [hc] at h
    exact ⟨t, rfl, congrArg Prod.snd h⟩
  | error e t =>
    rw [hc] at h
    cases congrArg Prod.fst h

end Leftover

end RelaxCompact
