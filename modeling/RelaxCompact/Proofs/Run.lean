import RelaxCompact.Error

/-!
Runs of steps that carry a state. What a successful run of a compound step says of its parts, how
runs that need a condition to succeed are put together, and what holds of the state that a run
leaves.
-/

namespace RelaxCompact.Run

variable {ε σ α β : Type}

theorem bind_ok {x : EStateM ε σ α} {f : α → EStateM ε σ β} {s t : σ} {b : β}
    (h : (x >>= f) s = .ok b t) : ∃ a u, x s = .ok a u ∧ f a u = .ok b t := by
  change EStateM.bind x f s = .ok b t at h
  unfold EStateM.bind at h
  cases hx : x s with
  | ok a u =>
    rw [hx] at h
    exact ⟨a, u, rfl, h⟩
  | error e u =>
    rw [hx] at h
    cases h

theorem bind_of_ok {x : EStateM ε σ α} {f : α → EStateM ε σ β} {s t : σ} {a : α}
    (h : x s = .ok a t) : (x >>= f) s = f a t := by
  change EStateM.bind x f s = _
  unfold EStateM.bind
  rw [h]

theorem bind_of_error {x : EStateM ε σ α} {f : α → EStateM ε σ β} {s t : σ} {e : ε}
    (h : x s = .error e t) : (x >>= f) s = .error e t := by
  change EStateM.bind x f s = _
  unfold EStateM.bind
  rw [h]

/-- Runs that end alike go on alike. -/
theorem bind_congr {x y : EStateM ε σ α} {f : α → EStateM ε σ β} {s u : σ} (h : x s = y u) :
    (x >>= f) s = (y >>= f) u := by
  change EStateM.bind x f s = EStateM.bind y f u
  unfold EStateM.bind
  rw [h]

theorem pure_ok {a b : α} {s t : σ} (h : (pure a : EStateM ε σ α) s = .ok b t) :
    b = a ∧ t = s := by
  cases h
  exact ⟨rfl, rfl⟩

theorem not_throw_ok {e : ε} {a : α} {s t : σ} (h : (throw e : EStateM ε σ α) s = .ok a t) :
    False := by
  cases h

/-- A step that is made only under a condition, and what follows it. -/
theorem cond_ok {c : Bool} {x : EStateM ε σ Unit} {f : EStateM ε σ β} {s t : σ} {b : β}
    (h : (if c = true then x >>= fun _ => f else f) s = .ok b t) :
    ∃ u, (c = true ∧ x s = .ok () u ∨ c = false ∧ u = s) ∧ f u = .ok b t := by
  cases c with
  | true =>
    obtain ⟨_, u, hx, hf⟩ := bind_ok h
    exact ⟨u, .inl ⟨rfl, hx⟩, hf⟩
  | false => exact ⟨s, .inr ⟨rfl, rfl⟩, h⟩

/-- Lifting a result keeps the state, and succeeds exactly if the result is there. -/
theorem liftExcept_ok {x : Except ε α} {a : α} {s t : σ}
    (h : (liftExcept x : EStateM ε σ α) s = .ok a t) : x = .ok a ∧ t = s := by
  cases x with
  | ok b =>
    obtain ⟨ha, ht⟩ := pure_ok (ε := ε) h
    exact ⟨congrArg _ ha.symm, ht⟩
  | error e => exact (not_throw_ok (ε := ε) h).elim

/-- Of two results in a row the first fails, or the second that follows it. -/
theorem error_of_bind {x : Except ε α} {f : α → Except ε β} {e : ε} (h : x >>= f = .error e) :
    x = .error e ∨ ∃ a, x = .ok a ∧ f a = .error e := by
  cases x with
  | error e' =>
    cases h
    exact .inl rfl
  | ok a => exact .inr ⟨a, rfl, h⟩

/-- Of two results in a row both are there. -/
theorem ok_of_bind {x : Except ε α} {f : α → Except ε β} {b : β} (h : x >>= f = .ok b) :
    ∃ a, x = .ok a ∧ f a = .ok b := by
  cases x with
  | error e => cases h
  | ok a => exact ⟨a, rfl, h⟩

/-- A run that fails only if `P` does not hold, and that otherwise ends as `Q` says. -/
def Ends (x : EStateM ε σ α) (s : σ) (P : Prop) (Q : α → σ → Prop) : Prop :=
  match x s with
  | .ok a t => Q a t
  | .error _ _ => ¬ P

section

variable {x : EStateM ε σ α} {f : α → EStateM ε σ β} {s t : σ} {P P' : Prop}
  {Q Q' : α → σ → Prop} {R : β → σ → Prop}

theorem Ends.ok (h : Ends x s P Q) {a : α} (hx : x s = .ok a t) : Q a t := by
  unfold Ends at h
  rw [hx] at h
  exact h

theorem Ends.exists_ok (h : Ends x s P Q) (hP : P) : ∃ a t, x s = .ok a t ∧ Q a t := by
  unfold Ends at h
  cases hx : x s with
  | ok a t =>
    rw [hx] at h
    exact ⟨a, t, rfl, h⟩
  | error e t =>
    rw [hx] at h
    exact absurd hP h

theorem Ends.mono (h : Ends x s P Q) (hP : P' → P) (hQ : ∀ a t, Q a t → Q' a t) :
    Ends x s P' Q' := by
  unfold Ends at h ⊢
  cases hx : x s with
  | ok a t =>
    rw [hx] at h
    exact hQ a t h
  | error e t =>
    rw [hx] at h
    exact fun hP' => h (hP hP')

/-- Two things that a run says of its end hold together. -/
theorem Ends.and (h : Ends x s P Q) (h' : Ends x s P Q') :
    Ends x s P fun a t => Q a t ∧ Q' a t := by
  unfold Ends at h h' ⊢
  cases hx : x s with
  | ok a t =>
    rw [hx] at h h'
    exact ⟨h, h'⟩
  | error e t =>
    rw [hx] at h
    exact h

theorem Ends.bind (h : Ends x s P Q) (hf : ∀ a t, Q a t → Ends (f a) t P R) :
    Ends (x >>= f) s P R := by
  change match EStateM.bind x f s with
    | .ok b t => R b t
    | .error _ _ => ¬ P
  unfold EStateM.bind
  unfold Ends at h
  cases hx : x s with
  | ok a t =>
    rw [hx] at h
    exact hf a t h
  | error e t =>
    rw [hx] at h
    exact h

theorem Ends.pure {a : α} (h : Q a s) : Ends (pure a : EStateM ε σ α) s P Q := h

theorem Ends.throw {e : ε} (h : ¬ P) : Ends (throw e : EStateM ε σ α) s P Q := h

theorem Ends.get {f : σ → EStateM ε σ β} (h : Ends (f s) s P R) :
    Ends (get >>= f) s P R := h

theorem Ends.modify {g : σ → σ} {f : Unit → EStateM ε σ β} (h : Ends (f ()) (g s) P R) :
    Ends (modify g >>= f) s P R := h

end

/-- A step that fails, if it does, only as `E` says. -/
def FailsOnly (E : ε → Prop) (x : EStateM ε σ α) : Prop := ∀ s e t, x s = .error e t → E e

section

variable {E : ε → Prop} {x : EStateM ε σ α} {f : α → EStateM ε σ β}

theorem FailsOnly.bind (hx : FailsOnly E x) (hf : ∀ a, FailsOnly E (f a)) :
    FailsOnly E (x >>= f) := by
  intro s e t h
  change EStateM.bind x f s = .error e t at h
  unfold EStateM.bind at h
  cases hs : x s with
  | ok a u =>
    rw [hs] at h
    exact hf a u e t h
  | error e' u =>
    rw [hs] at h
    cases h
    exact hx s _ _ hs

theorem FailsOnly.pure (a : α) : FailsOnly E (pure a : EStateM ε σ α) := by
  intro s e t h
  cases h

theorem FailsOnly.throw {e : ε} (he : E e) : FailsOnly E (throw e : EStateM ε σ α) := by
  intro s e' t h
  cases h
  exact he

theorem FailsOnly.get : FailsOnly E (get : EStateM ε σ σ) := by
  intro s e t h
  cases h

theorem FailsOnly.modify (g : σ → σ) : FailsOnly E (modify g : EStateM ε σ PUnit) := by
  intro s e t h
  cases h

theorem FailsOnly.liftExcept {r : Except ε α} (h : ∀ e, r = .error e → E e) :
    FailsOnly E (liftExcept r : EStateM ε σ α) := by
  cases r with
  | ok a => exact .pure a
  | error e => exact .throw (h e rfl)

theorem FailsOnly.ite {c : Prop} [Decidable c] {y : EStateM ε σ α} (hx : FailsOnly E x)
    (hy : FailsOnly E y) : FailsOnly E (if c then x else y) := by
  split
  · exact hx
  · exact hy

theorem FailsOnly.mapM {g : β → EStateM ε σ α} (hg : ∀ b, FailsOnly E (g b)) (bs : List β) :
    FailsOnly E (bs.mapM g) := by
  induction bs with
  | nil => exact .pure _
  | cons b bs ih =>
    rw [List.mapM_cons]
    exact (hg b).bind fun _ => ih.bind fun _ => .pure _

theorem FailsOnly.forM {g : β → EStateM ε σ PUnit} (hg : ∀ b, FailsOnly E (g b)) (bs : List β) :
    FailsOnly E (bs.forM g) := by
  induction bs with
  | nil => exact .pure _
  | cons b bs ih => exact (hg b).bind fun _ => ih

end

/-- From a state, a step fails with a failure. -/
def Fails (x : EStateM ε σ α) (s : σ) (e : ε) : Prop := ∃ t, x s = .error e t

section

variable {E : ε → Prop} {x : EStateM ε σ α} {f : α → EStateM ε σ β} {s : σ} {e : ε}

/-- Two steps in a row fail if the first fails, or the second from where the first ends. -/
theorem fails_bind :
    Fails (x >>= f) s e ↔ Fails x s e ∨ ∃ a t, x s = .ok a t ∧ Fails (f a) t e := by
  cases hx : x s with
  | ok a t =>
    have hfails : ¬ Fails x s e := fun ⟨u, hu⟩ => nomatch hx.symm.trans hu
    unfold Fails at hfails ⊢
    rw [bind_of_ok hx]
    constructor
    · intro h
      exact .inr ⟨a, t, rfl, h⟩
    · rintro (h | ⟨b, u, hb, h⟩)
      · exact absurd h hfails
      · cases hb
        exact h
  | error e' t =>
    unfold Fails
    rw [bind_of_error hx, hx]
    constructor
    · rintro ⟨u, hu⟩
      cases hu
      exact .inl ⟨t, rfl⟩
    · rintro (⟨u, hu⟩ | ⟨b, u, hb, -⟩)
      · cases hu
        exact ⟨t, rfl⟩
      · cases hb

theorem fails_pure {a : α} : ¬ Fails (pure a : EStateM ε σ α) s e := nofun

theorem fails_throw {e' : ε} : Fails (throw e' : EStateM ε σ α) s e ↔ e = e' := by
  constructor
  · rintro ⟨t, h⟩
    cases h
    rfl
  · rintro rfl
    exact ⟨s, rfl⟩

/-- A step that cannot fail so leaves it to what follows. -/
theorem FailsOnly.fails_bind (hx : FailsOnly E x) (he : ¬ E e) :
    Fails (x >>= f) s e ↔ ∃ a t, x s = .ok a t ∧ Fails (f a) t e := by
  rw [Run.fails_bind]
  exact or_iff_right fun ⟨t, ht⟩ => he (hx s e t ht)

/-- What follows cannot fail so. -/
theorem FailsOnly.fails_before (hf : ∀ a, FailsOnly E (f a)) (he : ¬ E e) :
    Fails (x >>= f) s e ↔ Fails x s e := by
  rw [Run.fails_bind]
  exact or_iff_left fun ⟨a, t, _, u, hu⟩ => he (hf a t e u hu)

end

/-- The value or the failure that a run ends with, without the state. -/
def ended (r : EStateM.Result ε σ α) : Except ε α :=
  match r with
  | .ok a _ => .ok a
  | .error e _ => .error e

/-- What ends with a failure fails. -/
theorem fails_of_ended {x : EStateM ε σ α} {s : σ} {e : ε} (h : ended (x s) = .error e) :
    Fails x s e := by
  cases hx : x s with
  | ok a t =>
    rw [hx] at h
    cases h
  | error e' t =>
    rw [hx] at h
    cases h
    exact ⟨t, hx⟩

theorem exists_ok_of_ended {r : EStateM.Result ε σ α} {a : α} (h : ended r = .ok a) :
    ∃ t, r = .ok a t := by
  cases r with
  | ok b t =>
    cases h
    exact ⟨t, rfl⟩
  | error e t => cases h

theorem exists_ok_of_isOk {r : Except ε α} (h : r.isOk = true) : ∃ a, r = .ok a := by
  cases r with
  | ok a => exact ⟨a, rfl⟩
  | error e => cases h

/-- What is shown of the value of a result is shown of a value that is there. -/
theorem exists_ok_of_map {r : Except ε α} {f : α → β} {b : β}
    (h : r.toOption.map f = some b) : ∃ a, r = .ok a ∧ f a = b := by
  cases r with
  | ok a => exact ⟨a, rfl, Option.some.inj h⟩
  | error e => cases h

/-- What is shown of the value that a run ends with is shown of a run that succeeds. -/
theorem exists_ended_of_map {r : EStateM.Result ε σ α} {f : α → β} {b : β}
    (h : (ended r).toOption.map f = some b) : ∃ a t, r = .ok a t ∧ f a = b := by
  obtain ⟨a, hended, hf⟩ := exists_ok_of_map h
  obtain ⟨t, hr⟩ := exists_ok_of_ended hended
  exact ⟨a, t, hr, hf⟩

/-- The failure of a result, if it is one. -/
def failure? (r : Except ε α) : Option ε :=
  match r with
  | .ok _ => none
  | .error e => some e

theorem eq_error_of_failure? {r : Except ε α} {e : ε} (h : failure? r = some e) :
    r = .error e := by
  cases r with
  | ok a => cases h
  | error e' =>
    cases h
    rfl

/-- The state that a run leaves, whether it ends with a value or a failure. -/
def left (r : EStateM.Result ε σ α) : σ :=
  match r with
  | .ok _ t => t
  | .error _ t => t

section

variable {I : σ → Prop}

/-- What holds of a state still holds after a step, however that ends. -/
def Maintains (I : σ → Prop) (x : EStateM ε σ α) : Prop := ∀ s, I s → I (left (x s))

namespace Maintains

variable {x : EStateM ε σ α} {f : α → EStateM ε σ β}

theorem pure (a : α) : Maintains I (pure a : EStateM ε σ α) := fun _ hs => hs

theorem throw (e : ε) : Maintains I (throw e : EStateM ε σ α) := fun _ hs => hs

theorem bind (hx : Maintains I x) (hf : ∀ a, Maintains I (f a)) : Maintains I (x >>= f) := by
  intro s hs
  have ht := hx s hs
  cases hxs : x s with
  | ok a t =>
    rw [hxs] at ht
    rw [bind_of_ok hxs]
    exact hf a t ht
  | error e t =>
    rw [hxs] at ht
    rw [bind_of_error hxs]
    exact ht

theorem get {f : σ → EStateM ε σ β} (hf : ∀ s, Maintains I (f s)) :
    Maintains I (get >>= f) :=
  fun s hs => hf s s hs

/-- What follows a lifted result is done only if it is there. -/
theorem lifted {r : Except ε α} (hf : ∀ a, r = .ok a → Maintains I (f a)) :
    Maintains I (liftExcept r >>= f) := by
  cases r with
  | ok a => exact hf a rfl
  | error e => exact throw e

theorem liftExcept (r : Except ε α) : Maintains I (liftExcept r : EStateM ε σ α) := by
  cases r with
  | ok a => exact pure a
  | error e => exact throw e

theorem ite {c : Prop} [Decidable c] {y : EStateM ε σ α} (hx : Maintains I x)
    (hy : Maintains I y) : Maintains I (if c then x else y) := by
  split
  · exact hx
  · exact hy

theorem mapM {f : β → EStateM ε σ α} {bs : List β} (hf : ∀ b ∈ bs, Maintains I (f b)) :
    Maintains I (bs.mapM f) := by
  induction bs with
  | nil => exact pure []
  | cons b bs ih =>
    rw [List.mapM_cons]
    refine (hf b List.mem_cons_self).bind fun a => ?_
    exact (ih fun b hb => hf b (List.mem_cons_of_mem _ hb)).bind fun as => pure _

end Maintains

end

end RelaxCompact.Run
