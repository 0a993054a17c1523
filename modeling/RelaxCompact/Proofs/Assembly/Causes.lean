import RelaxCompact.Proofs.Assembly.Failing

/-!
What an assembly fails for: an error of the schema language, a fragment that cannot be had, an href
without a key, or a budget that has run out.
-/

namespace RelaxCompact

open Run Surface

/-- What can make an assembly fail whose fragments are known as `o`. -/
inductive Fragments.Cause (catalog : Catalog) (o : Fragments) : Failure → Prop
  | refused (e : SchemaError) : Cause catalog o (.schema e)
  | fragment {key e} : outcome catalog o key = .error e → Cause catalog o e
  | href {href base e} : catalog.canonicalize href base = .error e → Cause catalog o e
  | exhausted : Cause catalog o .exhausted

namespace Expand

/-- From states that know what `o` knows, a step goes on to such states, or has a cause to fail. -/
def Blames {α : Type} (catalog : Catalog) (o : Fragments) (x : Expand α) : Prop :=
  ∀ s, Fragments.Agree catalog o s.source →
    (∀ a t, x s = .ok a t → Fragments.Agree catalog o t.source) ∧
    ∀ e t, x s = .error e t → Fragments.Cause catalog o e

section

variable {α β : Type} {catalog : Catalog} {o : Fragments} {x : Expand α} {f : α → Expand β}

theorem Blames.pure (a : α) : Blames catalog o (pure a : Expand α) := by
  intro s hs
  refine ⟨fun b t h => ?_, fun e t h => nomatch h⟩
  cases h
  exact hs

theorem Blames.throw {e : Failure} (he : Fragments.Cause catalog o e) :
    Blames catalog o (throw e : Expand α) := by
  intro s hs
  refine ⟨fun a t h => (not_throw_ok h).elim, fun e' t h => ?_⟩
  cases h
  exact he

theorem Blames.modify {g : Expansion → Expansion} (hg : ∀ s, (g s).source = s.source) :
    Blames catalog o (modify g) := by
  intro s hs
  refine ⟨fun a t h => ?_, fun e t h => nomatch h⟩
  cases h
  rw [hg]
  exact hs

theorem Blames.get {f : Expansion → Expand β} (h : ∀ s, Blames catalog o (f s)) :
    Blames catalog o (get >>= f) :=
  fun s hs => h s s hs

theorem Blames.bind (hx : Blames catalog o x) (hf : ∀ a, Blames catalog o (f a)) :
    Blames catalog o (x >>= f) := by
  intro s hs
  obtain ⟨hok, herror⟩ := hx s hs
  refine ⟨fun b t h => ?_, fun e t h => ?_⟩
  · obtain ⟨a, u, hu, h⟩ := bind_ok h
    exact (hf a u (hok a u hu)).1 b t h
  · rcases fails_bind.1 ⟨t, h⟩ with ⟨u, hu⟩ | ⟨a, u, hu, v, h⟩
    · exact herror e u hu
    · exact (hf a u (hok a u hu)).2 e v h

theorem Blames.ite {c : Prop} [Decidable c] {y : Expand α} (hx : Blames catalog o x)
    (hy : Blames catalog o y) : Blames catalog o (if c then x else y) := by
  split
  · exact hx
  · exact hy

/-- A step that leads onward and fails with plain failures only. -/
theorem Blames.of_plain (hadvances : Advances catalog x) (hplain : FailsOnly Failure.Plain x) :
    Blames catalog o x := by
  intro s hs
  refine ⟨fun a t h => hs.trans (hadvances s a t h).source, fun e t h => ?_⟩
  obtain ⟨cause, rfl⟩ := (hplain s e t h).exists_cause
  exact .refused cause

theorem Blames.ensuring {c : Expansion → Expansion} (h : Blames catalog o x)
    (hc : ∀ s, (c s).source = s.source) : Blames catalog o (ensuring x c) := by
  intro s hs
  refine ⟨fun a t ht => ?_, fun e t ht => ?_⟩
  · obtain ⟨u, hu, rfl⟩ := ensuring_ok ht
    rw [hc]
    exact (h s hs).1 a u hu
  · obtain ⟨u, hu⟩ := ensuring_fails.1 ⟨t, ht⟩
    exact (h s hs).2 e u hu

/-! The steps of an assembly -/

theorem schema_blames (r : Except SchemaError α) : Blames catalog o (schema r) := by
  cases r with
  | ok a => exact .pure a
  | error e => exact .throw (.refused e)

theorem canonicalize_blames (href base : Text) :
    Blames catalog o (liftExcept (catalog.canonicalize href base)) := by
  cases h : catalog.canonicalize href base with
  | ok key => exact .pure key
  | error e => exact .throw (.href h)

theorem openScope_blames (place : Place) (kind : ScopeKind) (label : Text) :
    Blames catalog o (openScope place kind label) :=
  .of_plain (openScope_advances _ _ _) (openScope_plain _ _ _)

theorem inheritedNamespace_blames (environment : Environment) (inherit : Option String)
    (span : Span) : Blames catalog o (inheritedNamespace environment inherit span) :=
  .of_plain (inheritedNamespace_advances _ _ _) (inheritedNamespace_plain _ _ _)

theorem report_blames (message : Text) : Blames catalog o (report message) :=
  .of_plain (report_advances _) (report_plain _)

/-- A file that cannot be had is blamed. -/
theorem fetch_blames (key href : Text) (span : Span) :
    Blames catalog o (fetch catalog key href span) := by
  intro s hs
  refine ⟨fun file t h => hs.trans (fetch_advances _ _ _ _ _ _ h).source, ?_⟩
  have hattempt : FailsOnly (fun _ => False) (fetching (Fragments.attempt catalog key)) := by
    refine fetching_failsOnly fun s e t h => ?_
    unfold Fragments.attempt at h
    split at h <;> cases h
  intro e t h
  rcases fails_bind.1 ⟨t, h⟩ with ⟨_, hget⟩ | ⟨_, _, hget, u, h⟩
  · cases hget
  cases hget
  dsimp only at h
  split at h
  · rcases fails_bind.1 ⟨u, h⟩ with hrefuse | ⟨_, _, hrefuse, -⟩
    · rw [fails_throw.1 hrefuse]
      exact .refused _
    · exact (not_throw_ok hrefuse).elim
  · obtain ⟨result, v, hv, w, h⟩ := (hattempt.fails_bind id).1 ⟨u, h⟩
    obtain ⟨source, hsource, rfl⟩ := fetching_ok hv
    have hresult := (Fragments.attempt_ok hsource).1
    split at h
    · rcases fails_bind.1 ⟨w, h⟩ with ⟨_, hmodify⟩ | ⟨_, _, _, hpure⟩
      · cases hmodify
      · exact (fails_pure hpure).elim
    · rw [fails_throw.1 ⟨w, h⟩]
      exact .refused _
    · rw [fails_throw.1 ⟨w, h⟩]
      exact .fragment ((hs key).symm.trans hresult.symm)

theorem isolated_blames (label : Text) (parent : Option Nat) {body : Nat → Expand Unit}
    (h : ∀ number, Blames catalog o (body number)) :
    Blames catalog o (isolated label parent body) := by
  have hopen : Blames catalog o (openGrammar label parent) :=
    .get fun _ => Blames.bind (.modify fun _ => rfl) fun _ => .pure _
  refine hopen.bind fun number => .get fun saved => ?_
  refine Blames.bind (.modify fun _ => rfl) fun _ => ?_
  exact Blames.bind (Blames.ensuring (h number) fun _ => rfl) fun _ => .pure _

theorem register_blames (place : Place) (d : Define) {lower : Expand Content}
    (h : Blames catalog o lower) : Blames catalog o (register place d lower) := by
  refine Blames.bind (.of_plain (suppressed_advances _) (suppressed_plain _)) fun _ => ?_
  refine .ite (report_blames _) ?_
  refine Blames.bind (.of_plain (claim_advances _ _) (claim_plain _ _)) fun _ => ?_
  refine .ite (.pure _) (h.bind fun content => ?_)
  exact .of_plain (addSite_advances _ _ _) (addSite_plain _ _ _)

variable {setup : Setup} {descend : Descend}

section

variable (hd : ∀ place cs, Blames setup.catalog o (descend place cs))
include hd

theorem external_blames (place : Place) (href : Text) (inherit : Option String) (span : Span) :
    Blames setup.catalog o (external setup descend place href inherit span) := by
  refine (canonicalize_blames _ _).bind fun key => (fetch_blames _ _ _).bind fun file => ?_
  refine (inheritedNamespace_blames _ _ _).bind fun inherited => ?_
  refine Blames.bind (.modify fun _ => rfl) fun _ => ?_
  exact (isolated_blames _ _ fun _ => hd _ _).ensuring fun _ => rfl

theorem includeFragment_blames (place : Place) (file : File) (key href : Text)
    (inherit : Option String) (overrides : List Component) (span : Span) :
    Blames setup.catalog o
      (includeFragment setup descend place file key href inherit overrides span) := by
  rw [includeFragment_eq]
  refine Blames.bind ?opening fun inner => Blames.bind ?inside fun frame => ?checking
  case opening =>
    have hrest : Blames setup.catalog o (do
        report ("Including " ++ key ++ " from " ++ place.file)
        let inherited ← inheritedNamespace place.environment inherit span
        let environment := Environment.ofDeclarations file.declarations inherited
        checkEnvironment place.grammar key href span environment
        let inner ← openScope { place with environment, file := key, address := [] } .fragment key
        enter key
        return inner) := by
      refine (report_blames _).bind fun _ => (inheritedNamespace_blames _ _ _).bind fun _ => ?_
      refine Blames.bind (.of_plain (fun s _ t h => ?_) (checkEnvironment_plain _ _ _ _ _))
        fun _ => ?_
      · exact (checkEnvironment_notes _ h).1
      · exact (openScope_blames _ _ _).bind fun _ =>
          Blames.bind (.modify fun _ => rfl) fun _ => .pure _
    exact .ite (Blames.bind (.modify fun _ => rfl) fun _ => hrest) hrest
  case inside =>
    refine Blames.ensuring (Blames.bind (hd _ _) fun _ => .get fun _ => .pure _) fun _ => rfl
  case checking =>
    refine .ite ?_ (.pure _)
    cases frame with
    | none => exact .pure _
    | some frame =>
      refine .of_plain (fun s _ t h => ?_) (checkOverrides_plain frame)
      rw [(checkOverrides_ok h).1]
      exact .refl s

/-- The components of one file blame what the files they go into blame. -/
theorem expandAll_blames (place : Place) (i : Nat) (cs : List Component) :
    Blames setup.catalog o (expandAll setup descend place i cs) := by
  refine expandAll.induct_unfolding setup descend
    (fun _ _ step => Blames setup.catalog o step)
    (fun _ _ _ step => Blames setup.catalog o step)
    (fun _ _ step => Blames setup.catalog o step)
    ?binary ?unary ?leaf ?named ?ref ?parentRef ?data ?dataExcept ?value ?external ?grammar
    ?define ?div ?incl ?nil ?cons place i cs
  case binary =>
    intro place op left right span ihLeft ihRight
    exact ihLeft.bind fun _ => ihRight.bind fun _ => .pure _
  case unary =>
    intro place modifier content span ih
    exact ih.bind fun _ => .pure _
  case leaf | ref | parentRef =>
    intros
    exact .pure _
  case named =>
    intro place holder name content span ih
    exact (schema_blames _).bind fun _ => ih.bind fun _ => .pure _
  case data =>
    intro place type params span
    exact (schema_blames _).bind fun _ => .pure _
  case dataExcept =>
    intro place type params except span ih
    exact (schema_blames _).bind fun _ => ih.bind fun _ => .pure _
  case value =>
    intro place literal type span
    exact (schema_blames _).bind fun _ => .pure _
  case external =>
    intro place href inherit span
    exact (external_blames hd _ _ _ _).bind fun _ => .pure _
  case grammar =>
    intro place components span ih
    exact (isolated_blames _ _ ih).bind fun _ => .pure _
  case define =>
    intro place name operator pattern documentation span ih
    exact register_blames _ _ ih
  case div =>
    intro place components span ih
    exact (openScope_blames _ _ _).bind fun inner => ih inner
  case incl =>
    intro place href inherit overrides span ih
    refine (canonicalize_blames _ _).bind fun key => (fetch_blames _ _ _).bind fun file => ?_
    refine .ite (Blames.bind (.throw (.refused _)) fun _ => ?_) ?_
    all_goals
      refine (openScope_blames _ _ _).bind fun inner => (ih inner).bind fun _ => ?_
      exact includeFragment_blames hd _ _ _ _ _ _ _
  case nil =>
    intros
    exact .pure _
  case cons =>
    intro place i c cs ihFirst ihRest
    exact ihFirst.bind fun _ => ihRest

end

theorem expandFile_blames (setup : Setup) (o : Fragments) (budget : Nat) (place : Place)
    (cs : List Component) : Blames setup.catalog o (expandFile setup budget place cs) := by
  induction budget generalizing place cs with
  | zero => exact .throw .exhausted
  | succ budget ih => exact expandAll_blames ih place 0 cs

end

end Expand

/-- An assembly fails for a cause in the fragments that it starts with. -/
theorem assemble_cause {setup : Expand.Setup} {root : File} {key : Option Text}
    {s t : Fragments} {e : Failure} (h : assemble setup root key s = .error e t) :
    Fragments.Cause setup.catalog s e := by
  unfold assemble at h
  dsimp only at h
  split at h
  next hexpand =>
    cases h
    exact (Expand.expandFile_blames setup s _ _ _ _ (.refl _ s)).2 _ _ hexpand
  next => cases h

end RelaxCompact
