import RelaxCompact.Proofs.Assembly.Cycles
import RelaxCompact.Proofs.Assembly.Layout
import RelaxCompact.Proofs.Assembly.Sparing

/-!
The scopes of an assembly at all times. Whatever is expanded, and however this ends, the scopes and
definitions of the grammars are those before, with scopes opened and sites registered one after the
other. So at every stage a scope is inside others of its grammar up to the grammar itself, and has
no entry but those of the grammar: a name has one definition in a grammar, from wherever it is
looked up.
-/

namespace RelaxCompact

/-- The chain of a place is one of scopes around one another. -/
def Place.Fits (place : Place) (l : Layout) : Prop := l.Stands place.grammar place.chain

theorem Layout.Redrawn.fits {l l' : Layout} (h : l.Redrawn l') {place : Place}
    (hp : place.Fits l) : place.Fits l' :=
  h.stands hp

namespace Expand

open Surface Run

section

variable {α β : Type} {x : Expand α} {f : α → Expand β} {around : Nat → Nat → Option Nat}
  {s t : Expansion} {P : α → Layout → Prop} {Q : β → Layout → Prop}

/-- However a step ends, its grammars come of those before; if it ends well, with what it returns
something holds of them. -/
def Draws (x : Expand α) (around : Nat → Nat → Option Nat) (s : Expansion)
    (P : α → Layout → Prop) : Prop :=
  ∃ around', Layout.Redrawn ⟨around, s.grammars⟩ ⟨around', (left (x s)).grammars⟩ ∧
    ∀ a t, x s = .ok a t → P a ⟨around', t.grammars⟩

theorem Draws.bind (hx : Draws x around s P)
    (hf : ∀ a t around', x s = .ok a t →
      Layout.Redrawn ⟨around, s.grammars⟩ ⟨around', t.grammars⟩ → P a ⟨around', t.grammars⟩ →
      Draws (f a) around' t Q) : Draws (x >>= f) around s Q := by
  obtain ⟨around', hredrawn, hP⟩ := hx
  unfold Draws
  cases h : x s with
  | error e t =>
    rw [h] at hredrawn
    rw [bind_of_error h]
    refine ⟨around', hredrawn, fun a t h => ?_⟩
    cases h
  | ok a t =>
    rw [h] at hredrawn
    rw [bind_of_ok h]
    obtain ⟨around'', hredrawn', hQ⟩ := hf a t around' h hredrawn (hP a t h)
    exact ⟨around'', hredrawn.trans hredrawn', hQ⟩

theorem Draws.pure {b : β} (h : Q b ⟨around, s.grammars⟩) : Draws (pure b) around s Q := by
  refine ⟨around, .refl _, fun b' t hb => ?_⟩
  cases hb
  exact h

/-- A step that ends well. -/
theorem Draws.ok (hx : Draws x around s P) {a : α} (h : x s = .ok a t) :
    ∃ around', Layout.Redrawn ⟨around, s.grammars⟩ ⟨around', t.grammars⟩ ∧
      P a ⟨around', t.grammars⟩ := by
  obtain ⟨around', hredrawn, hP⟩ := hx
  rw [h] at hredrawn
  exact ⟨around', hredrawn, hP a t h⟩

theorem Draws.ite {c : Prop} [Decidable c] {y : Expand α} (hx : Draws x around s P)
    (hy : Draws y around s P) : Draws (if c then x else y) around s P := by
  split
  · exact hx
  · exact hy

/-- What a step returns does not matter. -/
abbrev Draws.Plain (x : Expand α) (around : Nat → Nat → Option Nat) (s : Expansion) : Prop :=
  Draws x around s fun _ _ => True

theorem Spares.draws (h : Spares Expansion.grammars x) (around : Nat → Nat → Option Nat)
    (s : Expansion) : Draws.Plain x around s := by
  refine ⟨around, ?_, fun _ _ _ => trivial⟩
  rw [h s]
  exact .refl _

/-- What follows a step that spares the grammars. -/
theorem Spares.andThen (h : Spares Expansion.grammars x)
    (hf : ∀ a t around', Layout.Redrawn ⟨around, s.grammars⟩ ⟨around', t.grammars⟩ →
      Draws (f a) around' t Q) : Draws (x >>= f) around s Q :=
  (h.draws around s).bind fun a t around' _ ht _ => hf a t around' ht

theorem Draws.ensuring (hx : Draws x around s P) {cleanup : Expansion → Expansion}
    (h : ∀ t, (cleanup t).grammars = t.grammars) : Draws.Plain (ensuring x cleanup) around s := by
  obtain ⟨around', hredrawn, -⟩ := hx
  refine ⟨around', ?_, fun _ _ _ => trivial⟩
  rw [left_ensuring, h]
  exact hredrawn

end

section

variable {around : Nat → Nat → Option Nat} {s : Expansion} {place : Place} {setup : Setup}
  {descend : Descend}

/-! Single steps -/

theorem suppressed_spares (name : DefineName) : Spares Expansion.grammars (suppressed name) :=
  Spares.get.bind fun _ => Spares.bind (.modify fun _ => rfl) fun _ => .pure _

theorem enter_spares (key : Text) : Spares Expansion.grammars (enter key) :=
  .modify fun _ => rfl

theorem pushFrame_spares (href : Text) (overrides : List Component) :
    Spares Expansion.grammars (pushFrame href overrides) :=
  .modify fun _ => rfl

/-- Blocks are put aside. -/
theorem aside_spares :
    Spares Expansion.grammars (modify fun s => { s with frames := [] } : Expand Unit) :=
  .modify fun _ => rfl

theorem openGrammar_draws (label : Text) (parent : Option Nat) (around : Nat → Nat → Option Nat)
    (s : Expansion) : Draws (openGrammar label parent) around s fun n l => l.Stands n [] := by
  refine ⟨around, Layout.redrawn_openGrammar ⟨around, s.grammars⟩ label parent, fun n t h => ?_⟩
  cases h
  exact Layout.stands_openGrammar ⟨around, s.grammars⟩ label parent

theorem openScope_draws (h : place.Fits ⟨around, s.grammars⟩) (kind : ScopeKind) (label : Text) :
    Draws (openScope place kind label) around s Place.Fits := by
  obtain ⟨g, hg⟩ := h.exists_grammar
  have hrun : openScope place kind label s =
      .ok { place with
          chain := ((s.grammars[place.grammar]?).getD { label := [], parent := none }).scopes.length
            :: place.chain }
        { s with
          grammars := s.grammars.modify place.grammar fun g =>
            { g with scopes := g.scopes ++ [{ kind, label }] } } := rfl
  rw [hg, Option.getD_some] at hrun
  refine ⟨_, Layout.redrawn_openScope h hg kind label, fun inner t ht => ?_⟩
  cases hrun.symm.trans ht
  exact Layout.stands_openScope h hg kind label

/-- A site that cannot join those of its name is not added. -/
theorem addSite_error {name : DefineName} {site : Site} {e : Failure} {t : Expansion}
    (h : addSite place name site s = .error e t) : t = s := by
  have hget : grammar place.grammar s =
      .ok ((s.grammars[place.grammar]?).getD { label := [], parent := none }) s := rfl
  rw [addSite, bind_of_ok hget] at h
  generalize (s.grammars[place.grammar]?).getD { label := [], parent := none } = g at h
  cases hd : g.definitions.get? name with
  | none =>
    simp only [hd] at h
    cases h
  | some first =>
    simp only [hd] at h
    cases hadd : first.add name site with
    | ok d =>
      rw [hadd] at h
      cases h
    | error e' =>
      rw [hadd] at h
      cases h
      rfl

theorem addSite_draws {site : Site} (h : place.Fits ⟨around, s.grammars⟩)
    (hchain : site.chain = place.chain) (name : DefineName) :
    Draws.Plain (addSite place name site) around s := by
  obtain ⟨g, hg⟩ := h.exists_grammar
  refine ⟨around, ?_, fun _ _ _ => trivial⟩
  cases ht : addSite place name site s with
  | error e t =>
    cases addSite_error ht
    exact .refl _
  | ok _ t =>
    obtain ⟨d, hd, rfl⟩ := addSite_joins ht
    rw [hg, Option.getD_some] at hd
    unfold Place.Fits at h
    rw [← hchain] at h ⊢
    exact Layout.redrawn_define h hg hd

theorem register_draws (h : place.Fits ⟨around, s.grammars⟩) (d : Define) {lower : Expand Content}
    (hlower : ∀ around t, place.Fits ⟨around, t.grammars⟩ → Draws.Plain lower around t) :
    Draws.Plain (register place d lower) around s := by
  apply (suppressed_spares d.name).andThen
  intro covered t _ ht
  apply Draws.ite ((report_spares _).grammars.draws _ t)
  apply (claim_spares _ _).grammars.andThen
  intro seen u _ hu
  apply Draws.ite (.pure trivial)
  have hfits := (ht.trans hu).fits h
  apply (hlower _ u hfits).bind
  intro content v _ _ hv _
  exact addSite_draws (hv.fits hfits) rfl d.name

/-- What is done with the file that a directive names. -/
theorem fetched_draws {α : Type} {P : α → Layout → Prop} {href : Text} {span : Span}
    {f : Text → File → Expand α}
    (hf : ∀ key file around' t, Layout.Redrawn ⟨around, s.grammars⟩ ⟨around', t.grammars⟩ →
      Draws (f key file) around' t P) :
    Draws (do
      let key ← liftExcept (setup.catalog.canonicalize href place.file)
      let file ← fetch setup.catalog key href span
      f key file) around s P := by
  apply (Spares.liftExcept _).andThen
  intro key t _ ht
  apply (fetch_spares _ _ _ _).grammars.andThen
  intro file u around' hu
  exact hf key file around' u (ht.trans hu)

/-! Grammars of their own -/

theorem isolated_draws (label : Text) (parent : Option Nat) {body : Nat → Expand Unit}
    (hbody : ∀ n around t, Layout.Stands ⟨around, t.grammars⟩ n [] →
      Draws.Plain (body n) around t)
    (around : Nat → Nat → Option Nat) (s : Expansion) :
    Draws.Plain (isolated label parent body) around s := by
  apply (openGrammar_draws label parent around s).bind
  intro n t _ _ _ hn
  apply Spares.get.andThen
  intro saved u _ hu
  apply aside_spares.andThen
  intro _ v _ hv
  apply Draws.bind (P := fun _ _ => True)
  · apply Draws.ensuring (P := fun _ _ => True)
    · exact hbody n _ v ((hu.trans hv).stands hn)
    · exact fun _ => rfl
  · intro _ w _ _ _ _
    exact .pure trivial

theorem external_draws
    (hd : ∀ place cs around s, place.Fits ⟨around, s.grammars⟩ →
      Draws.Plain (descend place cs) around s)
    (place : Place) (href : Text) (inherit : Option String) (span : Span)
    (around : Nat → Nat → Option Nat) (s : Expansion) :
    Draws.Plain (external setup descend place href inherit span) around s := by
  apply fetched_draws
  intro key file _ t _
  apply (inheritedNamespace_spares _ _ _).grammars.andThen
  intro inherited u _ _
  apply (enter_spares key).andThen
  intro _ v _ _
  apply Draws.ensuring (P := fun _ _ => True)
  · apply isolated_draws
    intro n around t hn
    exact hd _ _ around t hn
  · exact fun _ => rfl

/-! Stages that are begun -/

theorem openIsolated_draws (label : Text) (parent : Option Nat)
    (around : Nat → Nat → Option Nat) (s : Expansion) :
    Draws (openIsolated label parent) around s fun n l => l.Stands n [] := by
  apply (openGrammar_draws label parent around s).bind
  intro n t _ _ _ hn
  apply aside_spares.andThen
  intro _ u _ hu
  exact .pure (hu.stands hn)

theorem openExternal_draws (setup : Setup) (place : Place) (href : Text)
    (inherit : Option String) (span : Span) (around : Nat → Nat → Option Nat) (s : Expansion) :
    Draws (openExternal setup place href inherit span) around s fun r l => r.1.Fits l := by
  apply fetched_draws
  intro key file _ t _
  apply (inheritedNamespace_spares _ _ _).grammars.andThen
  intro inherited u _ _
  apply (enter_spares key).andThen
  intro _ v _ _
  apply (openIsolated_draws key none _ v).bind
  intro n w _ _ _ hn
  exact .pure hn

theorem openInclude_draws (h : place.Fits ⟨around, s.grammars⟩) (setup : Setup) (href : Text)
    (span : Span) : Draws (openInclude setup place href span) around s fun r l => r.1.Fits l := by
  apply fetched_draws
  intro key file around' t ht
  have hopen (around : Nat → Nat → Option Nat) (u : Expansion)
      (h : place.Fits ⟨around, u.grammars⟩) : Draws (do
        let inner ← openScope place .incl href
        return (inner, key, file) : Expand (Place × Text × File)) around u
        fun r l => r.1.Fits l := by
    apply (openScope_draws h .incl href).bind
    intro inner v _ _ _ hinner
    exact .pure hinner
  apply Draws.ite
  · apply (Spares.throw _).andThen
    intro _ u _ hu
    exact hopen _ u ((ht.trans hu).fits h)
  · exact hopen _ t (ht.fits h)

theorem openFragment_draws (h : place.Fits ⟨around, s.grammars⟩) (file : File) (key href : Text)
    (inherit : Option String) (overrides : List Component) (span : Span) :
    Draws (openFragment place file key href inherit overrides span) around s Place.Fits := by
  have hrest (around : Nat → Nat → Option Nat) (s : Expansion)
      (h : place.Fits ⟨around, s.grammars⟩) : Draws (do
        report ("Including " ++ key ++ " from " ++ place.file)
        let inherited ← inheritedNamespace place.environment inherit span
        let environment := Environment.ofDeclarations file.declarations inherited
        checkEnvironment place.grammar key href span environment
        let inner ← openScope { place with environment, file := key, address := [] } .fragment key
        enter key
        return inner) around s Place.Fits := by
    apply (report_spares _).grammars.andThen
    intro _ t _ ht
    apply (inheritedNamespace_spares _ _ _).grammars.andThen
    intro inherited u _ hu
    apply (checkEnvironment_spares _ _ _ _ _).grammars.andThen
    intro _ v around' hv
    apply Draws.bind (P := Place.Fits)
    · apply openScope_draws
      exact ((ht.trans hu).trans hv).fits h
    · intro inner w _ _ _ hinner
      apply (enter_spares key).andThen
      intro _ x _ hx
      exact .pure (hx.fits hinner)
  apply Draws.ite
  · apply (pushFrame_spares href overrides).andThen
    intro _ t _ ht
    exact hrest _ t (ht.fits h)
  · exact hrest around s h

theorem insideFragment_draws {run : Expand Unit} (h : Draws.Plain run around s) (setup : Setup)
    (overrides : List Component) :
    Draws.Plain (insideFragment setup overrides run) around s := by
  apply Draws.bind (P := fun _ _ => True)
  · apply Draws.ensuring (P := fun _ _ => True)
    · apply h.bind
      intro _ t _ _ _ _
      apply Spares.get.andThen
      intro _ u _ _
      exact .pure trivial
    · exact fun _ => rfl
  · intro frame t _ _ _ _
    apply Spares.draws
    apply Spares.ite
    · cases frame with
      | none => exact .pure _
      | some frame => exact (checkOverrides_spares frame).grammars
    · exact .pure _

/-! All that is expanded -/

/-- Lowering patterns and expanding components of one file leave grammars so if expanding other
files does. -/
theorem expansion_draws (setup : Setup)
    (hd : ∀ place cs around s, place.Fits ⟨around, s.grammars⟩ →
      Draws.Plain (descend place cs) around s) :
    (∀ place p around s, place.Fits ⟨around, s.grammars⟩ →
      Draws.Plain (lower setup descend place p) around s) ∧
    (∀ place i cs around s, place.Fits ⟨around, s.grammars⟩ →
      Draws.Plain (expandAll setup descend place i cs) around s) ∧
    ∀ place c around s, place.Fits ⟨around, s.grammars⟩ →
      Draws.Plain (expand setup descend place c) around s := by
  refine lower.mutual_induct_unfolding setup descend
    (fun place _ step => ∀ around s, place.Fits ⟨around, s.grammars⟩ → Draws.Plain step around s)
    (fun place _ _ step => ∀ around s, place.Fits ⟨around, s.grammars⟩ → Draws.Plain step around s)
    (fun place _ step => ∀ around s, place.Fits ⟨around, s.grammars⟩ → Draws.Plain step around s)
    ?binary ?unary ?leaf ?named ?ref ?parentRef ?data ?dataExcept ?value ?external ?grammar
    ?define ?div ?incl ?nil ?cons
  case binary =>
    intro place op left right span ihLeft ihRight around s h
    apply (ihLeft around s h).bind
    intro content t _ _ ht _
    apply (ihRight _ t (ht.fits h)).bind
    intro content' u _ _ _ _
    exact .pure trivial
  case unary =>
    intro place modifier content span ih around s h
    apply (ih around s h).bind
    intro content' t _ _ _ _
    exact .pure trivial
  case leaf => exact fun _ _ _ _ _ _ => .pure trivial
  case named =>
    intro place holder name content span ih around s h
    apply (Spares.schema _).andThen
    intro name' t _ ht
    apply (ih _ t (ht.fits h)).bind
    intro content' u _ _ _ _
    exact .pure trivial
  case ref => exact fun _ _ _ _ _ _ => .pure trivial
  case parentRef => exact fun _ _ _ _ _ _ => .pure trivial
  case data =>
    intro place type params span around s h
    apply (Spares.schema _).andThen
    intro library t _ _
    exact .pure trivial
  case dataExcept =>
    intro place type params except span ih around s h
    apply (Spares.schema _).andThen
    intro library t _ ht
    apply (ih _ t (ht.fits h)).bind
    intro content' u _ _ _ _
    exact .pure trivial
  case value =>
    intro place literal type span around s h
    apply (Spares.schema _).andThen
    intro library t _ _
    exact .pure trivial
  case external =>
    intro place href inherit span around s h
    apply (external_draws hd place href inherit span around s).bind
    intro n t _ _ _ _
    exact .pure trivial
  case grammar =>
    intro place components span ih around s h
    apply Draws.bind (P := fun _ _ => True)
    · apply isolated_draws
      intro n around t hn
      exact ih n around t hn
    · intro n t _ _ _ _
      exact .pure trivial
  case define =>
    intro place name operator pattern documentation span ih around s h
    exact register_draws h _ ih
  case div =>
    intro place components span ih around s h
    apply (openScope_draws h .div "div").bind
    intro inner t _ _ _ hinner
    exact ih inner _ t hinner
  case incl =>
    intro place href inherit overrides span ih around s h
    have hparts := expand_incl_eq setup descend place href inherit overrides span
    rw [expand] at hparts
    rw [hparts]
    apply (openInclude_draws h setup href span).bind
    rintro ⟨inner, key, file⟩ t _ _ _ hinner
    apply (ih inner _ t hinner).bind
    intro _ u _ _ hu _
    rw [includeFragment_eq]
    apply (openFragment_draws (hu.fits hinner) file key href inherit overrides span).bind
    intro innermost v _ _ _ hinnermost
    exact insideFragment_draws (hd innermost file.components _ v hinnermost) setup overrides
  case nil => exact fun _ _ _ _ _ => .pure trivial
  case cons =>
    intro place i c cs ihFirst ihRest around s h
    apply (ihFirst around s h).bind
    intro _ t _ _ ht _
    exact ihRest _ t (ht.fits h)

/-- Files leave grammars so, to any depth. -/
theorem expandFile_draws (setup : Setup) (b : Nat) (place : Place) (cs : List Component)
    (around : Nat → Nat → Option Nat) (s : Expansion) (h : place.Fits ⟨around, s.grammars⟩) :
    Draws.Plain (expandFile setup b place cs) around s := by
  induction b generalizing place cs around s with
  | zero => exact (Spares.throw _).draws around s
  | succ b ih => exact (expansion_draws setup ih).2.1 place 0 cs around s h

end

end Expand

end RelaxCompact

/-! Stages -/

namespace RelaxCompact

open Expand Surface Run

/-- The one grammar that an assembly begins with. -/
def Layout.first (label : Text) : Layout := ⟨fun _ _ => none, [{ label, parent := none }]⟩

theorem Layout.store_first (label : Text) :
    (Layout.first label).store = Store.initial ⟨0, none⟩ label := by
  apply Store.ext
  · funext q
    obtain ⟨n, scope⟩ := q
    cases n with
    | zero =>
      cases scope with
      | none => rfl
      | some i => rfl
    | succ n =>
      cases scope with
      | none => rfl
      | some i => rfl
  · funext d
    obtain ⟨n, name⟩ := d
    cases n with
    | zero => rfl
    | succ n => rfl

theorem Layout.stands_first (label : Text) : (Layout.first label).Stands 0 [] :=
  .outermost rfl rfl

theorem Layout.located_first (label : Text) : (Layout.first label).Located := by
  intro n g name hg site hsite
  cases n with
  | zero =>
    cases hg
    cases hsite
  | succ n => cases hg

namespace Expand

variable {setup : Setup} {stage stage' : Stage} {l : Layout}

namespace Stage

/-- The state that a stage leaves when it is done, however this ends. -/
def leaves (setup : Setup) : Stage → Expansion
  | ⟨b, place, .file cs, s⟩ => left (expandFile setup b place cs s)
  | ⟨b, place, .components i cs, s⟩ => left (expandAll setup (expandFile setup b) place i cs s)
  | ⟨b, place, .component c, s⟩ => left (expand setup (expandFile setup b) place c s)
  | ⟨b, place, .pattern p, s⟩ => left (lower setup (expandFile setup b) place p s)

/-- The grammars at a stage come of those of a layout, and its place is in them. -/
def Drawn (l : Layout) (stage : Stage) : Prop :=
  ∃ around, l.Redrawn ⟨around, stage.state.grammars⟩ ∧
    stage.place.Fits ⟨around, stage.state.grammars⟩

/-- A stage is begun with a step from the state of another one. -/
theorem Drawn.of_draws {α : Type} {x : Expand α} {P : α → Layout → Prop} {s : Expansion} {a : α}
    {around : Nat → Nat → Option Nat} (hl : l.Redrawn ⟨around, s.grammars⟩)
    (hx : Draws x around s P) (h : x s = .ok a stage.state)
    (hplace : ∀ around', Layout.Redrawn ⟨around, s.grammars⟩ ⟨around', stage.state.grammars⟩ →
      P a ⟨around', stage.state.grammars⟩ →
      stage.place.Fits ⟨around', stage.state.grammars⟩) : stage.Drawn l := by
  obtain ⟨around', hredrawn, hP⟩ := hx.ok h
  exact ⟨around', hl.trans hredrawn, hplace around' hredrawn hP⟩

theorem Drawn.begins (h : stage.Drawn l) (hb : Begins setup stage stage') : stage'.Drawn l := by
  obtain ⟨around, hl, hfits⟩ := h
  have hall (b : Nat) := expansion_draws setup (expandFile_draws setup b)
  cases hb with
  | file => exact ⟨around, hl, hfits⟩
  | first => exact ⟨around, hl, hfits⟩
  | @rest b place i c cs s t hfirst =>
    exact .of_draws hl ((hall b).2.2 (place.part i) c around s hfits) hfirst
      fun _ hst _ => hst.fits hfits
  | define hsuppressed hclaim =>
    obtain ⟨around', hst, -⟩ := ((suppressed_spares _).draws around _).ok hsuppressed
    exact .of_draws (hl.trans hst) ((claim_spares _ _).grammars.draws around' _) hclaim
      fun _ htu _ => (hst.trans htu).fits hfits
  | div hopen => exact .of_draws hl (openScope_draws hfits _ _) hopen fun _ _ hinner => hinner
  | overrides hopen =>
    exact .of_draws hl (openInclude_draws hfits setup _ _) hopen fun _ _ hinner => hinner
  | fragment hopen hoverrides hfragment =>
    obtain ⟨around', hst, hinner⟩ := (openInclude_draws hfits setup _ _).ok hopen
    obtain ⟨around'', htu, -⟩ := ((hall _).2.1 _ _ _ around' _ hinner).ok hoverrides
    exact .of_draws ((hl.trans hst).trans htu)
      (openFragment_draws (htu.fits hinner) _ _ _ _ _ _) hfragment fun _ _ hinnermost => hinnermost
  | left => exact ⟨around, hl, hfits⟩
  | right hleft =>
    exact .of_draws hl ((hall _).1 _ _ around _ hfits) hleft fun _ hst _ => hst.fits hfits
  | unary => exact ⟨around, hl, hfits⟩
  | named hname =>
    exact .of_draws hl ((Spares.schema _).draws around _) hname fun _ hst _ => hst.fits hfits
  | except hlibrary =>
    exact .of_draws hl ((Spares.schema _).draws around _) hlibrary fun _ hst _ => hst.fits hfits
  | external hopen =>
    exact .of_draws hl (openExternal_draws setup _ _ _ _ around _) hopen fun _ _ hinner => hinner
  | grammar hopen =>
    exact .of_draws hl (openIsolated_draws _ _ around _) hopen fun _ _ hinner => hinner

theorem Drawn.leaves (h : stage.Drawn l) (setup : Setup) :
    ∃ around, l.Redrawn ⟨around, (stage.leaves setup).grammars⟩ := by
  obtain ⟨around, hl, hfits⟩ := h
  obtain ⟨b, place, task, s⟩ := stage
  have hall := expansion_draws setup (expandFile_draws setup b)
  cases task with
  | file cs =>
    obtain ⟨around', hst, -⟩ := expandFile_draws setup b place cs around s hfits
    exact ⟨around', hl.trans hst⟩
  | components i cs =>
    obtain ⟨around', hst, -⟩ := hall.2.1 place i cs around s hfits
    exact ⟨around', hl.trans hst⟩
  | component c =>
    obtain ⟨around', hst, -⟩ := hall.2.2 place c around s hfits
    exact ⟨around', hl.trans hst⟩
  | pattern p =>
    obtain ⟨around', hst, -⟩ := hall.1 place p around s hfits
    exact ⟨around', hl.trans hst⟩

/-- An assembler begins with a grammar of its own for the root, whatever else it has kept from
before. -/
structure Starts (label : Text) (stage : Stage) : Prop where
  grammars : stage.state.grammars = [{ label, parent := none }]
  grammar : stage.place.grammar = 0
  chain : stage.place.chain = []

theorem Starts.drawn {label : Text} (h : stage.Starts label) :
    stage.Drawn (Layout.first label) := by
  refine ⟨fun _ _ => none, ?_, ?_⟩
  · rw [h.grammars]
    exact .refl _
  · unfold Place.Fits
    rw [h.grammars, h.grammar, h.chain]
    exact Layout.stands_first label

theorem starts_start (setup : Setup) (root : File) (key : Option Text) (s : Fragments) :
    (Stage.start setup root key s).Starts
      (if root.path.isEmpty then rootKey root key else root.path) :=
  ⟨rfl, rfl, rfl⟩

end Stage

theorem Stage.Drawn.reaches (h : stage.Drawn l)
    (hr : Relation.ReflTransGen (Begins setup) stage stage') : stage'.Drawn l := by
  induction hr with
  | refl => exact h
  | tail _ hb ih => exact ih.begins hb

/-- In every state that an assembly comes to, and in those that it leaves when it fails or ends, the
scopes and definitions are those of one grammar after opening scopes and registering sites one after
the other. The scopes around a scope are finitely many, all of its grammar, and the last of them is
the grammar's; a scope has no entry but the very one of the grammar, so that a name looked up along
the scopes from any of them leads to what the grammar has in its own table; and all sites of the
definitions in that table are in scopes of the grammar. -/
theorem scopes_agree {label : Text} {first : Stage} (hfirst : first.Starts label)
    (h : Relation.ReflTransGen (Begins setup) first stage) {state : Expansion}
    (hstate : state = stage.state ∨ state = stage.leaves setup) :
    ∃ l : Layout, l.grammars = state.grammars ∧
      Store.Grows (Store.initial ⟨0, none⟩ label) l.store ∧
      (∀ r o, l.store.scopes r = some o → ∃ c g,
        l.store.Chain r c ∧ c.getLast? = some o.grammar ∧
        l.store.scopes o.grammar = some g ∧ g.kind = none ∧
        (∀ q ∈ c, l.store.Belongs q o.grammar) ∧
        (∀ name d, o.defines name = some d → g.defines name = some d) ∧
        (∀ name, l.store.lookup c name = g.defines name) ∧
        ∀ name d, g.defines name = some d → ∃ sites, l.store.definitions d = some sites ∧
          sites ≠ [] ∧ ∀ site ∈ sites, l.store.Belongs site.scope o.grammar) ∧
      ∀ n g, l.grammars[n]? = some g →
        (∀ name, ∀ site ∈ g.sites name, l.Stands n site.chain) ∧
        ∀ chain, l.Stands n chain → ∀ name,
          g.lookup chain name = g.definitions.get? name ∧
          l.store.lookup (ScopeRef.along n chain) name =
            (g.lookup chain name).map fun _ => (n, name) := by
  have hdrawn : stage.Drawn (Layout.first label) := hfirst.drawn.reaches h
  obtain ⟨l, hl, hredrawn⟩ :
      ∃ l : Layout, l.grammars = state.grammars ∧ (Layout.first label).Redrawn l := by
    rcases hstate with rfl | rfl
    · obtain ⟨around, hredrawn, -⟩ := hdrawn
      exact ⟨_, rfl, hredrawn⟩
    · obtain ⟨around, hredrawn⟩ := hdrawn.leaves setup
      exact ⟨_, rfl, hredrawn⟩
  have hgrows := hredrawn.grows
  rw [Layout.store_first] at hgrows
  have hsound := (Store.Sound.initial _ _).grows hgrows
  refine ⟨l, hl, hgrows, fun r o => hsound.reads, fun n g hg => ⟨fun name => ?_, ?_⟩⟩
  · exact hredrawn.located (Layout.located_first label) n g name hg
  · intro chain hstands name
    obtain ⟨o, ho, hgrammar⟩ := hstands.exists_object
    have hobject : l.store.scopes o.grammar = some (g.toObject n) := by
      rw [hgrammar, Layout.scopes_grammar, hg]
      rfl
    rw [g.lookup_eq]
    exact ⟨rfl, hsound.lookup_eq ho hobject hstands name⟩

end Expand

namespace Twofold

open Expand Surface Run

/-! A definition in a block, with another site of its name outside. -/

def here : Span := ⟨[], 1, 1, 0, 0⟩

/-- `div { x |= text } x |= empty` -/
def root : File where
  path := "main.rnc"
  declarations := []
  components :=
    [.div [.define (.named "x") .choice (.leaf .text here) none here] here,
      .define (.named "x") .choice (.leaf .empty here) none here]
  isPattern := false

def setup : Setup := ⟨(Mapping.ofList []).catalog, true⟩

def start : Stage := .start setup root none {}

/-- What the grammars of a state have: their scopes with the names in them, and their names with how
many sites there are. -/
def contents (s : Expansion) : List (List Scope × List (DefineName × Nat)) :=
  s.grammars.map fun g => (g.scopes, g.definitions.entries.map fun e => (e.1, e.2.sites.length))

/-- The name leads from the block to the one definition of the grammar, which has both sites. -/
theorem scopes_agree_twofold :
    ∃ l : Layout, l.grammars = (start.leaves setup).grammars ∧
      ∃ c, l.store.Chain ⟨0, some 0⟩ c ∧ c.getLast? = some ⟨0, none⟩ ∧
        l.store.lookup c (.named "x") = some (0, .named "x") := by
  have hcontents : contents (start.leaves setup) =
      [([⟨.div, "div", [.named "x"]⟩], [(.named "x", 2)])] := by decide +kernel
  have hstarts : start.Starts "main.rnc" := Stage.starts_start setup root none {}
  have hcomes : Relation.ReflTransGen (Begins setup) start start := .refl
  obtain ⟨l, hl, -, hscopes, -⟩ := scopes_agree hstarts hcomes (.inr rfl)
  rw [contents, ← hl] at hcontents
  obtain ⟨g, hg, hentries⟩ := List.map_eq_singleton_iff.1 hcontents
  obtain ⟨hscope, -⟩ := Prod.mk.inj hentries
  have hobject : l.store.scopes ⟨0, some 0⟩ =
      some (Scope.toObject 0 (l.around 0 0) ⟨.div, "div", [.named "x"]⟩) := by
    rw [Layout.scopes_scope, hg, List.getElem?_cons_zero, Option.bind_some, hscope]
    rfl
  obtain ⟨c, o, hc, hlast, -, -, -, hentry, hlookup, -⟩ := hscopes _ _ hobject
  have hx : o.defines (.named "x") = some (0, .named "x") := hentry _ _ rfl
  exact ⟨l, hl, c, hc, hlast, (hlookup _).trans hx⟩

end Twofold

end RelaxCompact
