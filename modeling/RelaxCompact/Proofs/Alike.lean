import RelaxCompact.Proofs.Run

/-!
Two runs side by side. Runs are alike if from related states they come to the same value or the same
failure, and to related states again.
-/

namespace RelaxCompact.Run

variable {ε σ α β : Type}

/-- From states related by `I`, two steps end with one value, for which `P` holds, in states related
by `J`, or with one failure in states related by `E`. -/
def Alike (E : ε → σ → σ → Prop) (I J : σ → σ → Prop) (P : α → Prop) (x y : EStateM ε σ α) :
    Prop :=
  ∀ s u, I s u →
    match x s, y u with
    | .ok a t, .ok b v => b = a ∧ P a ∧ J t v
    | .error e t, .error f v => f = e ∧ E e t v
    | _, _ => False

namespace Alike

variable {E : ε → σ → σ → Prop} {I J K : σ → σ → Prop} {P P' : α → Prop} {Q : β → Prop}
  {x y : EStateM ε σ α}

theorem ok (h : Alike E I J P x y) {s u t : σ} (hI : I s u) {a : α} (hx : x s = .ok a t) :
    ∃ v, y u = .ok a v ∧ P a ∧ J t v := by
  have hs := h s u hI
  rw [hx] at hs
  cases hy : y u with
  | ok b v =>
    rw [hy] at hs
    obtain ⟨rfl, hP, hJ⟩ := hs
    exact ⟨v, rfl, hP, hJ⟩
  | error f v =>
    rw [hy] at hs
    exact hs.elim

theorem error (h : Alike E I J P x y) {s u t : σ} (hI : I s u) {e : ε} (hx : x s = .error e t) :
    ∃ v, y u = .error e v ∧ E e t v := by
  have hs := h s u hI
  rw [hx] at hs
  cases hy : y u with
  | ok b v =>
    rw [hy] at hs
    exact hs.elim
  | error f v =>
    rw [hy] at hs
    obtain ⟨rfl, hE⟩ := hs
    exact ⟨v, rfl, hE⟩

theorem ended_eq (h : Alike E I J P x y) {s u : σ} (hI : I s u) : ended (x s) = ended (y u) := by
  cases hx : x s with
  | ok a t =>
    obtain ⟨v, hy, -⟩ := h.ok hI hx
    rw [hy]
    rfl
  | error e t =>
    obtain ⟨v, hy, -⟩ := h.error hI hx
    rw [hy]
    rfl

/-- Steps are alike if a run of one side that ends in some way has such a run on the other. -/
theorem intro
    (hok : ∀ s u a t, I s u → x s = .ok a t → ∃ v, y u = .ok a v ∧ P a ∧ J t v)
    (herror : ∀ s u e t, I s u → x s = .error e t → ∃ v, y u = .error e v ∧ E e t v) :
    Alike E I J P x y := by
  intro s u hI
  cases hx : x s with
  | ok a t =>
    obtain ⟨v, hy, hP, hJ⟩ := hok s u a t hI hx
    rw [hy]
    exact ⟨rfl, hP, hJ⟩
  | error e t =>
    obtain ⟨v, hy, hE⟩ := herror s u e t hI hx
    rw [hy]
    exact ⟨rfl, hE⟩

theorem mono {I' J' : σ → σ → Prop} {E' : ε → σ → σ → Prop} (h : Alike E I J P x y)
    (hI : ∀ s u, I' s u → I s u) (hJ : ∀ s u, J s u → J' s u) (hP : ∀ a, P a → P' a)
    (hE : ∀ e s u, E e s u → E' e s u) : Alike E' I' J' P' x y := by
  apply intro
  · intro s u a t hs hx
    obtain ⟨v, hy, ha, hv⟩ := h.ok (hI s u hs) hx
    exact ⟨v, hy, hP a ha, hJ t v hv⟩
  · intro s u e t hs hx
    obtain ⟨v, hy, hv⟩ := h.error (hI s u hs) hx
    exact ⟨v, hy, hE e t v hv⟩

theorem weaken (h : Alike E I J P x y) (hP : ∀ a, P a → P' a) : Alike E I J P' x y :=
  h.mono (fun _ _ => id) (fun _ _ => id) hP fun _ _ _ => id

theorem pure {a : α} (ha : P a) : Alike E I I P (pure a) (pure a) :=
  fun _ _ hI => ⟨rfl, ha, hI⟩

theorem throw {e : ε} (he : ∀ s u, I s u → E e s u) : Alike E I J P (throw e) (throw e) :=
  fun s u hI => ⟨rfl, he s u hI⟩

theorem modify {f g : σ → σ} (h : ∀ s u, I s u → J (f s) (g u)) :
    Alike E I J (fun _ => True) (modify f) (modify g) :=
  fun s u hI => ⟨rfl, trivial, h s u hI⟩

theorem bind {f g : α → EStateM ε σ β} (hx : Alike E I J P x y)
    (hf : ∀ a, P a → Alike E J K Q (f a) (g a)) : Alike E I K Q (x >>= f) (y >>= g) := by
  intro s u hI
  change match EStateM.bind x f s, EStateM.bind y g u with
    | .ok a t, .ok b v => b = a ∧ Q a ∧ K t v
    | .error e t, .error f v => f = e ∧ E e t v
    | _, _ => False
  unfold EStateM.bind
  cases hxs : x s with
  | ok a t =>
    obtain ⟨v, hy, ha, hJ⟩ := hx.ok hI hxs
    rw [hy]
    exact hf a ha t v hJ
  | error e t =>
    obtain ⟨v, hy, hE⟩ := hx.error hI hxs
    rw [hy]
    exact ⟨rfl, hE⟩

theorem get {f g : σ → EStateM ε σ β}
    (h : ∀ s u, I s u → Alike E I K Q (f s) (g u)) :
    Alike E I K Q (get >>= f) (get >>= g) :=
  fun s u hI => h s u hI s u hI

theorem liftExcept {r : Except ε α} (he : ∀ e, r = .error e → ∀ s u, I s u → E e s u) :
    Alike E I I (fun a => r = .ok a) (liftExcept r) (liftExcept r) := by
  cases r with
  | ok a => exact pure rfl
  | error e => exact throw (he e rfl)

theorem ite {c : Prop} [Decidable c] {x' y' : EStateM ε σ α} (h : c → Alike E I J P x y)
    (h' : ¬ c → Alike E I J P x' y') :
    Alike E I J P (if c then x else x') (if c then y else y') := by
  by_cases hc : c
  · rw [if_pos hc, if_pos hc]
    exact h hc
  · rw [if_neg hc, if_neg hc]
    exact h' hc

/-- A step that is made only under a condition, and what follows it. -/
theorem cond {c : Bool} {x y : EStateM ε σ Unit} {f g : EStateM ε σ β}
    (hx : Alike E I I (fun _ => True) x y) (hf : Alike E I K Q f g) :
    Alike E I K Q (if c = true then x >>= fun _ => f else f)
      (if c = true then y >>= fun _ => g else g) :=
  ite (fun _ => hx.bind fun _ _ => hf) fun _ => hf

theorem mapM {f g : β → EStateM ε σ α} {F : β → α}
    (h : ∀ b, Alike E I I (· = F b) (f b) (g b)) (bs : List β) :
    Alike E I I (· = bs.map F) (bs.mapM f) (bs.mapM g) := by
  induction bs with
  | nil => exact pure rfl
  | cons b bs ih =>
    rw [List.mapM_cons, List.mapM_cons]
    refine (h b).bind fun a ha => ih.bind fun as has => pure ?_
    rw [ha, has, List.map_cons]

end Alike

end RelaxCompact.Run
