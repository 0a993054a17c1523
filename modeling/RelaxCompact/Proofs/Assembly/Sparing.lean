import RelaxCompact.Proofs.Alike
import RelaxCompact.Proofs.Assembly.Failing

/-!
What steps of an assembly leave alone, however they end.
-/

namespace RelaxCompact

namespace Expansion

/-- The files that are being expanded, and the override blocks in effect. -/
def nesting (s : Expansion) : List Text × List OverrideFrame := (s.stack, s.frames)

/-- What decides how an expansion goes on: the stacks, and the grammars so far. -/
def outline (s : Expansion) : List Text × List OverrideFrame × List Grammar :=
  (s.stack, s.frames, s.grammars)

end Expansion

namespace Expand

open Surface Run

section

variable {α β γ : Type} {x : Expand α} {f : α → Expand β} {s t : Expansion}

/-- The state that two steps leave is left by the second one, if there is one. -/
theorem left_bind_ok {a : α} (h : x s = .ok a t) : left ((x >>= f) s) = left (f a t) :=
  congrArg left (bind_of_ok h)

theorem left_bind_error {e : Failure} (h : x s = .error e t) : left ((x >>= f) s) = t :=
  congrArg left (bind_of_error h)

theorem left_ensuring (x : Expand α) (cleanup : Expansion → Expansion) (s : Expansion) :
    left (ensuring x cleanup s) = cleanup (left (x s)) := by
  unfold ensuring
  cases x s <;> rfl

/-- However a step ends, what is seen of the state is as before. -/
def Spares (view : Expansion → γ) (x : Expand α) : Prop := ∀ s, view (left (x s)) = view s

variable {view : Expansion → γ} {y : Expand α}

theorem Spares.bind (hx : Spares view x) (hf : ∀ a, Spares view (f a)) : Spares view (x >>= f) := by
  intro s
  have hs := hx s
  cases h : x s with
  | ok a t =>
    rw [h] at hs
    rw [left_bind_ok h]
    exact (hf a t).trans hs
  | error e t =>
    rw [h] at hs
    rw [left_bind_error h]
    exact hs

theorem Spares.pure (a : α) : Spares view (pure a : Expand α) := fun _ => rfl

theorem Spares.throw (e : Failure) : Spares view (throw e : Expand α) := fun _ => rfl

theorem Spares.get : Spares view (get : Expand Expansion) := fun _ => rfl

theorem Spares.modify {g : Expansion → Expansion} (h : ∀ s, view (g s) = view s) :
    Spares view (modify g) := h

theorem Spares.ite {c : Prop} [Decidable c] (hx : Spares view x) (hy : Spares view y) :
    Spares view (if c then x else y) := by
  split
  · exact hx
  · exact hy

theorem Spares.liftExcept (r : Except Failure α) : Spares view (liftExcept r : Expand α) := by
  intro s
  cases r <;> rfl

theorem Spares.schema (r : Except SchemaError α) : Spares view (schema r) := .liftExcept _

/-- Who sees less, sees nothing else change either. -/
theorem Spares.nesting (h : Spares Expansion.outline x) : Spares Expansion.nesting x :=
  fun s => congrArg (fun v => (v.1, v.2.1)) (h s)

theorem Spares.grammars (h : Spares Expansion.outline x) : Spares Expansion.grammars x :=
  fun s => congrArg (fun v => v.2.2) (h s)

theorem fetching_spares (step : Fetch α) : Spares Expansion.outline (fetching step) := by
  intro s
  unfold fetching
  cases step s.source <;> rfl

end

theorem report_spares (message : Text) : Spares Expansion.outline (report message) :=
  fetching_spares _

theorem fetch_spares (catalog : Catalog) (key href : Text) (span : Span) :
    Spares Expansion.outline (fetch catalog key href span) := by
  apply Spares.get.bind
  intro s
  have hinsert (file : File) : Spares Expansion.outline (do
      modify fun s => { s with fragments := s.fragments.insert key file }
      return file : Expand File) :=
    Spares.bind (.modify fun _ => rfl) fun _ => .pure _
  apply Spares.ite
  · apply (Spares.throw _).bind
    intro _
    apply (fetching_spares _).bind
    intro result
    split
    · exact hinsert _
    · exact .throw _
    · exact .throw _
  · apply (fetching_spares _).bind
    intro result
    split
    · exact hinsert _
    · exact .throw _
    · exact .throw _

theorem inheritedNamespace_spares (environment : Environment) (inherit : Option String)
    (span : Span) : Spares Expansion.outline (inheritedNamespace environment inherit span) := by
  cases inherit with
  | none => exact .pure _
  | some qualifier => exact .schema _

theorem checkEnvironment_spares (number : Nat) (key href : Text) (span : Span)
    (environment : Environment) :
    Spares Expansion.outline (checkEnvironment number key href span environment) := by
  apply Spares.get.bind
  intro s
  split
  · exact .modify fun _ => rfl
  · exact .ite (.throw _) (.pure _)

theorem claim_spares (number : Nat) (occurrence : Occurrence) :
    Spares Expansion.outline (claim number occurrence) := by
  apply Spares.get.bind
  intro s
  apply Spares.ite
  · exact .pure _
  · exact Spares.bind (.modify fun _ => rfl) fun _ => .pure _

theorem checkOverrides_spares (frame : OverrideFrame) :
    Spares Expansion.outline (checkOverrides frame) := by
  unfold checkOverrides
  split
  · exact .throw _
  · exact .pure _

end Expand

end RelaxCompact
