import RelaxCompact.Proofs.Completing.Basic

/-!
Loops that have as many turns as there are tokens. A parser that goes forward in each turn never
runs out of them, so that a loop is one turn and the loop again.
-/

namespace RelaxCompact.Parser

open Surface Run

variable {α β σ : Type}

/-- A parser that does not go back. -/
def Forward (p : Parser α) : Prop := ∀ s, (left (p s)).rest.length ≤ s.rest.length

theorem Plain.forward {p : Parser α} (h : Plain p) : Forward p := fun s => (h s).rest.length_le

theorem Forward.length_le {p : Parser α} (hp : Forward p) {s t : Progress} {a : α}
    (h : p s = .ok a t) : t.rest.length ≤ s.rest.length := by
  have ht := hp s
  rwa [h] at ht

/-- What two parsers go on with only matters where what they have in common ends. -/
theorem bind_later {p : Parser α} {f g : α → Parser β} {s : Progress}
    (h : ∀ a t, p s = .ok a t → f a t = g a t) : (p >>= f) s = (p >>= g) s := by
  cases hrun : p s with
  | ok a t =>
    rw [bind_of_ok hrun, bind_of_ok hrun]
    exact h a t hrun
  | error e t => rw [bind_of_error hrun, bind_of_error hrun]

theorem accept_later {g g' : Bool → Parser β} {type : TokenType} {s : Progress}
    (htrue : ∀ t, t.rest.length < s.rest.length → g true t = g' true t)
    (hfalse : g false s = g' false s) : (accept type >>= g) s = (accept type >>= g') s := by
  obtain hno | ⟨t, rest, hrest, ht⟩ := notAt_or type s.rest
  · rw [bind_of_ok (accept_of_not_at hno), bind_of_ok (accept_of_not_at hno), hfalse]
  · rw [bind_of_ok (accept_of_at hrest ht), bind_of_ok (accept_of_at hrest ht)]
    refine htrue _ ?_
    rw [hrest]
    exact Nat.lt_succ_self _

/-- A loop, with a turn more than there are tokens. -/
def loop (go : Nat → σ → Parser β) (x : σ) : Parser β := remaining >>= fun n => go (n + 1) x

section

variable {go : Nat → σ → Parser β} {step : σ → (σ → Parser β) → Parser β}
  (hsucc : ∀ n x, go (n + 1) x = step x (go n))
  (hstep : ∀ x next next' s, (∀ y t, t.rest.length < s.rest.length → next y t = next' y t) →
    step x next s = step x next' s)

include hsucc hstep

theorem go_eq {n m : Nat} {s : Progress} (x : σ) (hn : s.rest.length < n)
    (hm : s.rest.length < m) : go n x s = go m x s := by
  induction n generalizing m x s with
  | zero => exact absurd hn (Nat.not_lt_zero _)
  | succ n ih =>
    cases m with
    | zero => exact absurd hm (Nat.not_lt_zero _)
    | succ m =>
      rw [hsucc, hsucc]
      exact hstep x _ _ s fun y t ht => ih y (by omega) (by omega)

/-- No loop runs out of turns: it is one turn and the loop again. -/
theorem loop_eq (x : σ) : loop go x = step x (loop go) := by
  funext s
  change go (s.rest.length + 1) x s = _
  rw [hsucc]
  refine hstep x _ _ s fun y t ht => ?_
  exact go_eq hsucc hstep y ht (Nat.lt_succ_self _)

/-- The last turn makes no difference, if it makes none where no token is left. -/
theorem turns_eq (hzero : ∀ x next s, s.rest = [] → go 0 x s = step x next s) (x : σ) :
    (remaining >>= fun n => go n x) = loop go x := by
  have hlast (n : Nat) : ∀ x s, s.rest.length ≤ n → go n x s = go (n + 1) x s := by
    induction n with
    | zero =>
      intro x s hs
      rw [hsucc]
      exact hzero x _ s (List.eq_nil_of_length_eq_zero (Nat.le_zero.mp hs))
    | succ n ih =>
      intro x s hs
      rw [hsucc, hsucc (n + 1)]
      exact hstep x _ _ s fun y t ht => ih y t (Nat.le_of_lt_succ (Nat.lt_of_lt_of_le ht hs))
  funext s
  exact hlast s.rest.length x s (Nat.le_refl _)

end

/-- A loop that carries nothing from turn to turn. -/
theorem turns_unit_eq {go : Nat → Parser β} {step : Parser β → Parser β}
    (hsucc : ∀ n, go (n + 1) = step (go n))
    (hstep : ∀ next next' s, (∀ t, t.rest.length < s.rest.length → next t = next' t) →
      step next s = step next' s)
    (hzero : ∀ next s, s.rest = [] → go 0 s = step next s) :
    (remaining >>= go) = step (remaining >>= go) := by
  have hlater (_ : Unit) (next next' : Unit → Parser β) (s : Progress)
      (h : ∀ y t, t.rest.length < s.rest.length → next y t = next' y t) :
      step (next ()) s = step (next' ()) s :=
    hstep _ _ s (h ())
  have hturns : (remaining >>= go) = loop (fun n (_ : Unit) => go n) () :=
    @turns_eq β Unit (fun n _ => go n) (fun _ next => step (next ())) (fun n _ => hsucc n) hlater
      (fun _ _ s hs => hzero _ s hs) ()
  rw [hturns]
  exact @loop_eq β Unit (fun n _ => go n) (fun _ next => step (next ())) (fun n _ => hsucc n) hlater
    ()

/-! Loops behind a token of one type -/

/-- A loop that goes on where a token of the type stands, with an operand that it combines with what
it has so far. -/
structure Folds (type : TokenType) (operand : Parser α) (combine : σ → α → σ)
    (go : Nat → σ → Parser σ) : Prop where
  zero (x : σ) : go 0 x = pure x
  succ (n : Nat) (x : σ) : go (n + 1) x = accept type >>= fun b =>
    if b = true then operand >>= fun y => go n (combine x y) else pure x

section

variable {type : TokenType} {operand : Parser α} {combine : σ → α → σ} {go : Nat → σ → Parser σ}
  (hgo : Folds type operand combine go) (hoperand : Forward operand)

include hoperand in
theorem fold_later (x : σ) (next next' : σ → Parser σ) (s : Progress)
    (h : ∀ y t, t.rest.length < s.rest.length → next y t = next' y t) :
    (accept type >>= fun b =>
      if b = true then operand >>= fun y => next (combine x y) else pure x) s =
    (accept type >>= fun b =>
      if b = true then operand >>= fun y => next' (combine x y) else pure x) s := by
  refine accept_later (fun t ht => ?_) rfl
  exact bind_later fun y u hu => h _ u (Nat.lt_of_le_of_lt (hoperand.length_le hu) ht)

include hgo hoperand

theorem Folds.loop_eq (x : σ) : loop go x = (accept type >>= fun b =>
    if b = true then operand >>= fun y => loop go (combine x y) else pure x) :=
  Parser.loop_eq hgo.succ (fold_later hoperand) x

theorem Folds.turns_eq (x : σ) : (remaining >>= fun n => go n x) = loop go x := by
  refine Parser.turns_eq hgo.succ (fold_later hoperand) (fun x next s hs => ?_) x
  have hno : NotAt type s.rest := by
    rw [hs]
    rfl
  rw [hgo.zero, bind_of_ok (accept_of_not_at hno)]
  rfl

theorem Folds.accepts (x : σ) {r : List Token} (hr : NotAt type r) : Accepts (loop go x) r r := by
  rw [hgo.loop_eq hoperand]
  exact .refuse hr (accepts_pure x r)

theorem Folds.completable {k : Nat} {P : List Token → Prop} {L G : List Token → List Token → Prop}
    (h : Completable k operand P L G) (hP : ∀ r, P r → NotAt type r)
    (hL : ∀ r r', NotAt type r → L r r' → NotAt type r')
    (htype : ∀ t r r', t.is type = true → L (t :: r) (t :: r')) (x : σ) :
    Completable k (loop go x) P L L := by
  induction k using Nat.strongRecOn generalizing x with
  | ind k ih =>
    rw [hgo.loop_eq hoperand]
    refine .accept (M := G) (fun hpos => ?_) (fun t r r' ht _ => htype t r r' ht)
      (completable_pure x) fun r r' hr hrr' => ⟨hrr', hL r r' hr hrr'⟩
    have hbelow := h.le (Nat.sub_le k 1)
    exact hbelow.bind (x := []) (fun y => ih (k - 1) (Nat.sub_one_lt_of_lt hpos) hbelow _)
      fun r hr => ⟨hr, fun y => hgo.accepts hoperand _ (hP r hr)⟩

end

/-! Operands with an operator between them -/

section

variable {op : Symbol} {operand : Parser α} {combine : α → α → α} (hoperand : Forward operand)

theorem chain_folds : Folds (.symbol op) operand combine (chain.go op operand combine) :=
  ⟨fun _ => rfl, fun _ _ => rfl⟩

include hoperand

theorem chain_eq : chain op operand combine = operand >>= loop (chain.go op operand combine) :=
  congrArg (operand >>= ·) (funext (chain_folds.turns_eq hoperand))

theorem accepts_chain {ts r : List Token} (h : Accepts operand ts r) (hr : NotAt (.symbol op) r) :
    Accepts (chain op operand combine) ts r := by
  rw [chain_eq hoperand]
  exact h.bind fun x => chain_folds.accepts hoperand x hr

theorem completable_chain {k : Nat} {P : List Token → Prop} {L G : List Token → List Token → Prop}
    (h : Completable k operand P L G) (hP : ∀ r, P r → NotAt (.symbol op) r)
    (hL : ∀ r r', NotAt (.symbol op) r → L r r' → NotAt (.symbol op) r')
    (hop : ∀ t r r', t.is (.symbol op) = true → L (t :: r) (t :: r')) :
    Completable k (chain op operand combine) P L G := by
  rw [chain_eq hoperand]
  exact h.bind (x := []) (chain_folds.completable hoperand h hP hL hop)
    fun r hr => ⟨hr, fun x => chain_folds.accepts hoperand x (hP r hr)⟩

end

end RelaxCompact.Parser
