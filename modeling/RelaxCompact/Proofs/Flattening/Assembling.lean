import RelaxCompact.Proofs.Caching.Prefetching
import RelaxCompact.Proofs.Flattening.Steps

/-!
Assembly with and without divisions. A chart that is drawn up when a grammar is opened pairs the
definitions of the grammar itself and of every file that may still be included into it: a file whose
components are being expanded cannot be.
-/

namespace RelaxCompact

namespace Expand

open Run Surface Fragments

/-- A chart pairs the definitions of every file that may still be included. -/
def Covers (supply : Supply) (stack : List Text) (C : Chart) : Prop :=
  ∀ key file, key ∉ stack → supply.files key = .ok file →
    ∀ p ∈ Component.allAddresses [] [] 0 0 file.components, C ⟨key, p.1⟩ ⟨key, p.2⟩

/-- The chart of a grammar whose own components are written in a file. -/
def chartOf (supply : Supply) (stack : List Text) (file : Text)
    (pairs : List (List Nat × List Nat)) : Chart := fun x y =>
  y.file = x.file ∧ (x.file = file ∧ (x.address, y.address) ∈ pairs ∨
    x.file ∉ stack ∧ ∃ f, supply.files x.file = .ok f ∧
      (x.address, y.address) ∈ Component.allAddresses [] [] 0 0 f.components)

/-- Two places in one file and one grammar. The chart of the grammar pairs the addresses given. -/
structure Opposite (supply : Supply) (charts : List Chart) (stack : List Text)
    (place place' : Place) (pairs : List (List Nat × List Nat)) : Prop where
  grammar : place'.grammar = place.grammar
  environment : place'.environment = place.environment
  file : place'.file = place.file
  onStack : place.file ∈ stack
  chart : ∃ C, charts[place.grammar]? = some C ∧ Covers supply stack C ∧
    ∀ p ∈ pairs, C ⟨place.file, p.1⟩ ⟨place.file, p.2⟩

section

variable {supply : Supply} {charts : List Chart} {stack : List Text} {idle : List Bool}
  {place place' : Place} {pairs : List (List Nat × List Nat)}

theorem Covers.mono {C : Chart} (h : Covers supply stack C) (key : Text) :
    Covers supply (key :: stack) C :=
  fun key' file hkey => h key' file fun hm => hkey (List.mem_cons_of_mem _ hm)

theorem covers_chartOf (file : Text) : Covers supply stack (chartOf supply stack file pairs) :=
  fun _ f hkey hf _ hp => ⟨rfl, .inr ⟨hkey, f, hf, hp⟩⟩

theorem oneToOne_chartOf {file : Text} (hfile : file ∈ stack)
    (hpairs : OneToOne fun x y => (x, y) ∈ pairs) :
    OneToOne (chartOf supply stack file pairs) := by
  rintro ⟨k, x⟩ ⟨_, y⟩ ⟨k', x'⟩ ⟨_, y'⟩ ⟨rfl, h⟩ ⟨rfl, h'⟩
  rw [Occurrence.mk.injEq, Occurrence.mk.injEq]
  refine and_congr_right fun hk => ?_
  dsimp only at hk h h'
  subst hk
  rcases h with ⟨hk, h⟩ | ⟨hk, f, hf, h⟩ <;> rcases h' with ⟨hk', h'⟩ | ⟨hk', f', hf', h'⟩
  · exact hpairs x y x' y' h h'
  · exact absurd (hk ▸ hfile) hk'
  · exact absurd (hk' ▸ hfile) hk
  · rw [hf] at hf'
    cases hf'
    exact Component.oneToOne_allAddresses [] [] 0 0 f.components x y x' y' h h'

theorem Opposite.mono (h : Opposite supply charts stack place place' pairs)
    {pairs' : List (List Nat × List Nat)} (hsub : pairs' ⊆ pairs) :
    Opposite supply charts stack place place' pairs' := by
  obtain ⟨C, hC, hcovers, hpairs⟩ := h.chart
  exact { h with chart := ⟨C, hC, hcovers, fun p hp => hpairs p (hsub hp)⟩ }

theorem Opposite.move (h : Opposite supply charts stack place place' pairs)
    (chain chain' address address' : List Nat) :
    Opposite supply charts stack { place with chain, address }
      { place' with chain := chain', address := address' } pairs :=
  { h with }

theorem Opposite.extend (h : Opposite supply charts stack place place' pairs)
    (opened : List Chart) : Opposite supply (charts ++ opened) stack place place' pairs := by
  obtain ⟨C, hC, hrest⟩ := h.chart
  exact { h with chart := ⟨C, getElem?_append_of_some hC opened, hrest⟩ }

/-- Places that a new chart is drawn up for. -/
theorem opposite_chartOf {file : Text} {number : Nat} {environment : Environment}
    {chain chain' address address' : List Nat} (hnumber : number = charts.length)
    (hfile : file ∈ stack) :
    Opposite supply (charts ++ [chartOf supply stack file pairs]) stack
      ⟨number, chain, environment, file, address⟩ ⟨number, chain', environment, file, address'⟩
      pairs where
  grammar := rfl
  environment := rfl
  file := rfl
  onStack := hfile
  chart := by
    refine ⟨_, ?_, covers_chartOf file, fun p hp => ⟨rfl, .inl ⟨rfl, hp⟩⟩⟩
    rw [hnumber, List.getElem?_concat_length]

/-- The place of a fragment that is included. -/
theorem Opposite.included (h : Opposite supply charts stack place place' pairs) {key : Text}
    {file : File} (hnot : key ∉ stack) (hfile : supply.files key = .ok file) (opened : List Chart)
    (chain chain' : List Nat) (environment : Environment) :
    Opposite supply (charts ++ opened) (key :: stack) ⟨place.grammar, chain, environment, key, []⟩
      ⟨place.grammar, chain', environment, key, []⟩
      (Component.allAddresses [] [] 0 0 file.components) where
  grammar := rfl
  environment := rfl
  file := rfl
  onStack := List.mem_cons_self
  chart := by
    obtain ⟨C, hC, hcovers, -⟩ := h.chart
    exact ⟨C, getElem?_append_of_some hC opened, hcovers.mono key, hcovers key file hnot hfile⟩

/-- Files that are on no stack yet are expanded alike with and without divisions. -/
def DescendsMatched (supply : Supply) (stack : List Text) (d d' : Descend) : Prop :=
  ∀ charts idle place place' file, place.file ∉ stack → supply.files place.file = .ok file →
    Opposite supply charts (place.file :: stack) place place'
      (Component.allAddresses place.address place'.address 0 0 file.components) →
    Matched supply charts ⟨place.file :: stack, idle⟩ ⟨place.file :: stack, idle⟩ (fun _ _ => True)
      (d place file.components) (d' place' (Component.flattenAll file.components))

variable {strict : Bool} {d d' : Descend}

theorem external_matched (hd : DescendsMatched supply stack d d')
    (h : Opposite supply charts stack place place' pairs) (href : Text) (inherit : Option String)
    (span : Span) :
    Matched supply charts ⟨stack, idle⟩ ⟨stack, idle⟩ (fun a b => b = a)
      (external ⟨supply.catalog, strict⟩ d place href inherit span)
      (external ⟨supply.catalog', strict⟩ d' place' href inherit span) := by
  unfold external
  rw [supply.canonicalize, h.file, h.environment]
  refine (Matched.liftExcept _).bind fun _ _ key ⟨he, _⟩ => ?_
  subst he
  refine (fetch_matched key href span).bind fun _ file _ ⟨he, hnot, hfile⟩ => ?_
  subst he
  refine (inheritedNamespace_matched _ _ _).bind fun _ _ inherited he => ?_
  subst he
  refine (enter_matched key stack idle).bind fun _ _ _ _ => ?_
  refine @Matched.ensuring _ _ _ _ _ ⟨key :: stack, idle⟩ _ _ _ _ _ _ ?_ fun charts s u hsu =>
    { hsu with
      stack := congrArg List.tail hsu.stack
      stack' := congrArg List.tail hsu.stack' }
  refine isolated_matched (C := chartOf supply (key :: stack) key
    (Component.allAddresses [] [] 0 0 file.components))
    (oneToOne_chartOf List.mem_cons_self (Component.oneToOne_allAddresses _ _ _ _ _)) key none ?_
  exact hd _ [] _ _ file hnot hfile (opposite_chartOf rfl List.mem_cons_self)

/-! Includes -/

/-- How the override block of an include comes into effect: on neither side, on both, or, if it
holds nothing but divisions, on the first side. -/
inductive Framing (idle : List Bool) : (overriding overriding' : Bool) → (inner : List Bool) → Prop
  | none : Framing idle false false idle
  | both : Framing idle true true (false :: idle)
  | idle : Framing idle true false (true :: idle)

theorem spans_flattenAll (overrides : List Component) :
    (Component.allDefines (Component.flattenAll overrides)).map (fun d => (d.name, d.span)) =
      (Component.allDefines overrides).map fun d => (d.name, d.span) := by
  rw [Component.allDefines_flattenAll, List.map_map]
  rfl

theorem pushFrame_matched (href : Text) (overrides : List Component) {γ δ : Type}
    {W : γ → δ → Prop} {after : Standing} {x : Expand γ} {y : Expand δ}
    (h : ∀ opened inner, Framing idle (!overrides.isEmpty)
        (!(Component.flattenAll overrides).isEmpty) inner →
      Matched supply (charts ++ opened) ⟨stack, inner⟩ after W x y) :
    Matched supply charts ⟨stack, idle⟩ after W
      (if (!overrides.isEmpty) = true then pushFrame href overrides >>= fun _ => x else x)
      (if (!(Component.flattenAll overrides).isEmpty) = true then
        pushFrame href (Component.flattenAll overrides) >>= fun _ => y else y) := by
  have hspans := spans_flattenAll overrides
  cases overrides with
  | nil =>
    have hnone := h [] idle .none
    rw [List.append_nil] at hnone
    exact hnone
  | cons c cs =>
    cases hflat : Component.flattenAll (c :: cs) with
    | nil =>
      rw [hflat] at h hspans
      have hidle := h [] (true :: idle) .idle
      rw [List.append_nil] at hidle
      intro s u hsu
      refine hidle _ u { hsu with frames := .idle ?_ hsu.frames }
      rw [← hspans]
      rfl
    | cons c' cs' =>
      rw [hflat] at h hspans
      refine Matched.bind (V := fun _ _ => True) (Matched.modify fun s u hsu => ?_)
        fun opened _ _ _ => h opened (false :: idle) .both
      rw [hspans]
      exact { hsu with frames := .both _ hsu.frames }

theorem checkOverrides_idle {frame : OverrideFrame} (h : frame.spans.entries = []) :
    checkOverrides frame = pure () := by
  rw [checkOverrides, h]
  rfl

theorem Framing.pop {overriding overriding' : Bool} {inner : List Bool}
    (h : Framing idle overriding overriding' inner) {fs gs : List OverrideFrame}
    (hframes : SameFrames inner fs gs) :
    SameFrames idle (if overriding = true then fs.tail else fs)
      (if overriding' = true then gs.tail else gs) := by
  cases h with
  | none => exact hframes
  | both =>
    cases hframes with
    | both f h => exact h
  | idle =>
    cases hframes with
    | idle _ h => exact h

/-- What the innermost override block of each side is, if an include has one. -/
def SameInnermost (overriding overriding' : Bool) (f g : Option OverrideFrame) : Prop :=
  overriding = true →
    (overriding' = true → g = f) ∧
      (overriding' = false → ∀ frame, f = some frame → frame.spans.entries = [])

theorem Framing.innermost {overriding overriding' : Bool} {inner : List Bool}
    (h : Framing idle overriding overriding' inner) {fs gs : List OverrideFrame}
    (hframes : SameFrames inner fs gs) :
    SameInnermost overriding overriding' fs.head? gs.head? := by
  cases h with
  | none => exact nofun
  | both =>
    cases hframes with
    | both f h => exact fun _ => ⟨fun _ => rfl, nofun⟩
  | idle =>
    cases hframes with
    | idle hf h =>
      refine fun _ => ⟨nofun, fun _ frame he => ?_⟩
      cases he
      exact hf

/-- The check at the end of an include, if there is one. -/
theorem checkInnermost_matched {overriding overriding' : Bool} {inner : List Bool}
    (hframing : Framing idle overriding overriding' inner) {standing : Standing}
    {f g : Option OverrideFrame} (h : SameInnermost overriding overriding' f g) :
    Matched supply charts standing standing (fun _ _ => True)
      (if (overriding && strict) = true then
        match f with
        | some frame => checkOverrides frame
        | _ => pure ()
      else pure ())
      (if (overriding' && strict) = true then
        match g with
        | some frame => checkOverrides frame
        | _ => pure ()
      else pure ()) := by
  cases hframing with
  | none => exact .pure trivial
  | both =>
    obtain ⟨hsame, -⟩ := h rfl
    rw [hsame rfl]
    refine Matched.ite Iff.rfl (fun _ => ?_) fun _ => .pure trivial
    cases f with
    | none => exact .pure trivial
    | some frame => exact checkOverrides_matched frame
  | idle =>
    obtain ⟨-, hidle⟩ := h rfl
    have hleft : (match f with
        | some frame => checkOverrides frame
        | _ => pure ()) = pure () := by
      cases f with
      | none => rfl
      | some frame => exact checkOverrides_idle (hidle rfl frame rfl)
    rw [hleft, ite_self]
    exact .pure trivial

theorem includeFragment_matched (hd : DescendsMatched supply stack d d')
    (h : Opposite supply charts stack place place' pairs) {key : Text} {file : File}
    (hnot : key ∉ stack) (hfile : supply.files key = .ok file) (href : Text)
    (inherit : Option String) (overrides : List Component) (span : Span) :
    Matched supply charts ⟨stack, idle⟩ ⟨stack, idle⟩ (fun _ _ => True)
      (includeFragment ⟨supply.catalog, strict⟩ d place file key href inherit overrides span)
      (includeFragment ⟨supply.catalog', strict⟩ d' place' file.flatten key href inherit
        (Component.flattenAll overrides) span) := by
  unfold includeFragment
  dsimp only
  rw [h.environment, h.grammar]
  refine pushFrame_matched href overrides fun opened inner hframing => ?_
  refine (report_matched _ _).bind fun _ _ _ _ => ?_
  refine (inheritedNamespace_matched _ _ _).bind fun _ _ inherited he => ?_
  subst he
  refine (checkEnvironment_matched _ _ _ _ _).bind fun _ _ _ _ => ?_
  refine (openScope_matched _ _ _ _).bind fun _ p p' hp => ?_
  obtain ⟨n, n', rfl, rfl⟩ := hp
  refine (enter_matched key stack inner).bind fun _ _ _ _ => ?_
  refine Matched.bind (V := SameInnermost (!overrides.isEmpty)
      (!(Component.flattenAll overrides).isEmpty))
    (@Matched.ensuring _ _ _ _ _ ⟨key :: stack, inner⟩ ⟨stack, idle⟩ _ _ _ _ _ ?_
      fun charts s u hsu =>
        { hsu with
          stack := congrArg List.tail hsu.stack
          stack' := congrArg List.tail hsu.stack'
          frames := hframing.pop hsu.frames })
    fun _ f g hfg => checkInnermost_matched hframing hfg
  simp only [List.append_assoc]
  refine (hd _ inner ⟨place.grammar, _, _, key, []⟩ ⟨place.grammar, _, _, key, []⟩ file hnot hfile
    (h.included hnot hfile _ _ _ _)).bind fun _ _ _ _ => ?_
  exact Matched.get fun s u hsu => .pure (hframing.innermost hsu.frames)

/-! The expansion of one file -/

theorem expandAll_append (setup : Setup) (d : Descend) (place : Place) (i : Nat)
    (cs ds : List Component) :
    expandAll setup d place i (cs ++ ds) =
      expandAll setup d place i cs >>= fun _ => expandAll setup d place (i + cs.length) ds := by
  induction cs generalizing i with
  | nil => rw [List.nil_append, expandAll, pure_bind]; rfl
  | cons c cs ih =>
    have hnumber : i + 1 + cs.length = i + (c :: cs).length := by
      rw [List.length_cons]
      omega
    rw [List.cons_append, expandAll, expandAll, ih, hnumber, bind_assoc]

theorem expandAll_singleton (setup : Setup) (d : Descend) (place : Place) (i : Nat)
    (c : Component) :
    expandAll setup d place i [c] = expand setup d (place.part i) c := by
  have hnil : (fun _ : Unit => expandAll setup d place (i + 1) []) = fun _ => pure () := by
    funext _
    rw [expandAll]
  rw [expandAll, hnil]
  exact bind_pure _

/-- The components of one file are expanded alike with and without divisions, if other files
are. -/
theorem expandAll_matched (hd : DescendsMatched supply stack d d') (place : Place) (i : Nat)
    (cs : List Component) :
    ∀ charts idle place' j,
      Opposite supply charts stack place place'
        (Component.allAddresses place.address place'.address i j cs) →
      Matched supply charts ⟨stack, idle⟩ ⟨stack, idle⟩ (fun _ _ => True)
        (expandAll ⟨supply.catalog, strict⟩ d place i cs)
        (expandAll ⟨supply.catalog', strict⟩ d' place' j (Component.flattenAll cs)) := by
  refine expandAll.induct_unfolding ⟨supply.catalog, strict⟩ d
    (fun place p step => ∀ charts idle place' pairs,
      Opposite supply charts stack place place' pairs →
      Matched supply charts ⟨stack, idle⟩ ⟨stack, idle⟩ (fun a b => b = a) step
        (lower ⟨supply.catalog', strict⟩ d' place' p.flatten))
    (fun place i cs step => ∀ charts idle place' j,
      Opposite supply charts stack place place'
        (Component.allAddresses place.address place'.address i j cs) →
      Matched supply charts ⟨stack, idle⟩ ⟨stack, idle⟩ (fun _ _ => True) step
        (expandAll ⟨supply.catalog', strict⟩ d' place' j (Component.flattenAll cs)))
    (fun place c step => ∀ charts idle place' j,
      Opposite supply charts stack place place'
        (Component.addresses place.address place'.address j c) →
      Matched supply charts ⟨stack, idle⟩ ⟨stack, idle⟩ (fun _ _ => True) step
        (expandAll ⟨supply.catalog', strict⟩ d' place' j c.flatten))
    ?binary ?unary ?leaf ?named ?ref ?parentRef ?data ?dataExcept ?value ?external ?grammar
    ?define ?div ?incl ?nil ?cons place i cs
  case binary =>
    intro place op left right span ihLeft ihRight charts idle place' pairs h
    rw [Pattern.flatten, lower]
    refine (ihLeft _ _ _ _ h).bind fun _ _ left he => ?_
    subst he
    refine (ihRight _ _ _ _ (h.extend _)).bind fun _ _ right he => ?_
    subst he
    exact .pure rfl
  case unary =>
    intro place modifier content span ih charts idle place' pairs h
    rw [Pattern.flatten, lower]
    refine (ih _ _ _ _ h).bind fun _ _ content he => ?_
    subst he
    exact .pure rfl
  case leaf =>
    intro place leaf span charts idle place' pairs h
    rw [Pattern.flatten, lower]
    exact .pure rfl
  case named =>
    intro place holder name content span ih charts idle place' pairs h
    rw [Pattern.flatten, lower, h.environment]
    refine (schema_matched _).bind fun _ _ name he => ?_
    subst he
    refine (ih _ _ _ _ (h.extend _)).bind fun _ _ content he => ?_
    subst he
    exact .pure rfl
  case ref =>
    intro place name span charts idle place' pairs h
    rw [Pattern.flatten, lower]
    exact .pure rfl
  case parentRef =>
    intro place name span charts idle place' pairs h
    rw [Pattern.flatten, lower]
    exact .pure rfl
  case data =>
    intro place type params span charts idle place' pairs h
    rw [Pattern.flatten, lower, h.environment]
    refine (schema_matched _).bind fun _ _ library he => ?_
    subst he
    exact .pure rfl
  case dataExcept =>
    intro place type params except span ih charts idle place' pairs h
    rw [Pattern.flatten, lower, h.environment]
    refine (schema_matched _).bind fun _ _ library he => ?_
    subst he
    refine (ih _ _ _ _ (h.extend _)).bind fun _ _ content he => ?_
    subst he
    exact .pure rfl
  case value =>
    intro place literal type span charts idle place' pairs h
    rw [Pattern.flatten, lower, h.environment]
    refine (schema_matched _).bind fun _ _ library he => ?_
    subst he
    exact .pure rfl
  case external =>
    intro place href inherit span charts idle place' pairs h
    rw [Pattern.flatten, lower]
    refine (external_matched hd h href inherit span).bind fun _ _ number he => ?_
    subst he
    exact .pure rfl
  case grammar =>
    intro place components span ih charts idle place' pairs h
    rw [Pattern.flatten, lower, h.grammar]
    refine Matched.bind (isolated_matched (C := chartOf supply stack place.file
      (Component.allAddresses place.address place'.address 0 0 components))
      (oneToOne_chartOf h.onStack (Component.oneToOne_allAddresses _ _ _ _ _)) "grammar" _ ?_)
      fun _ _ number he => ?_
    · rw [h.environment, h.file]
      exact ih _ _ _ _ _ (opposite_chartOf rfl h.onStack)
    · subst he
      exact .pure rfl
  case define =>
    intro place name operator pattern documentation span ih charts idle place' j h
    obtain ⟨C, hC, -, hpairs⟩ := h.chart
    have hpair := hpairs (place.address, j :: place'.address) List.mem_cons_self
    rw [Component.flatten, expandAll_singleton, expand]
    refine @register_matched _ _ _ _ (place'.part j) h.grammar h.file C hC ?_
      ⟨name, operator, pattern, documentation, span⟩ _ _ fun opened => ?_
    · change C ⟨place.file, place.address⟩ ⟨place'.file, j :: place'.address⟩
      rw [h.file]
      exact hpair
    · exact ih _ _ _ _ ((h.move place.chain place'.chain _ _).extend opened)
  case div =>
    intro place components span ih charts idle place' j h
    rw [Component.flatten]
    exact openScope_matched_left fun chain =>
      ih _ _ _ _ _ (h.move chain place'.chain place.address place'.address)
  case incl =>
    intro place href inherit overrides span ih charts idle place' j h
    rw [Component.addresses] at h
    rw [Component.flatten, expandAll_singleton, expand]
    change Matched _ _ _ _ _ (liftExcept (supply.catalog.canonicalize href place.file) >>= _)
      (liftExcept (supply.catalog'.canonicalize href place'.file) >>= _)
    rw [supply.canonicalize, h.file]
    refine (Matched.liftExcept _).bind fun _ _ key ⟨he, _⟩ => ?_
    subst he
    refine (fetch_matched key href span).bind fun _ file _ ⟨he, hnot, hfile⟩ => ?_
    subst he
    refine Matched.ite Iff.rfl (fun _ => .throw _) fun _ => ?_
    refine (openScope_matched _ _ _ _).bind fun _ p p' hp => ?_
    obtain ⟨n, n', rfl, rfl⟩ := hp
    have hinner := h.move (n :: place.chain) (n' :: place'.chain) place.address
      (j :: place'.address)
    simp only [List.append_assoc]
    refine (ih _ _ _ _ _ (hinner.extend _)).bind fun _ _ _ _ => ?_
    exact includeFragment_matched hd ((hinner.extend _).extend _) hnot hfile _ _ _ _
  case nil =>
    intro place i charts idle place' j h
    rw [Component.flattenAll, expandAll]
    exact .pure trivial
  case cons =>
    intro place i c cs ihFirst ihRest charts idle place' j h
    rw [Component.allAddresses] at h
    rw [Component.flattenAll, expandAll_append]
    have hfirst := (h.mono (List.subset_append_left _ _)).move place.chain place'.chain
      (i :: place.address) place'.address
    exact (ihFirst _ _ _ _ hfirst).bind fun _ _ _ _ =>
      ihRest _ _ _ _ ((h.mono (List.subset_append_right _ _)).extend _)

variable (strict) in
/-- Files are expanded alike with and without divisions, within any two budgets that exceed the
number of files that can be had and are not being expanded. -/
theorem expandFile_matched {keys keys' : List Text}
    (hkeys : ∀ key file, supply.files key = .ok file → key ∈ keys ∧ key ∈ keys') {b b' : Nat}
    (hb : room keys stack < b) (hb' : room keys' stack < b') (charts : List Chart)
    (idle : List Bool) (place place' : Place) (cs : List Component)
    (h : Opposite supply charts stack place place'
      (Component.allAddresses place.address place'.address 0 0 cs)) :
    Matched supply charts ⟨stack, idle⟩ ⟨stack, idle⟩ (fun _ _ => True)
      (expandFile ⟨supply.catalog, strict⟩ b place cs)
      (expandFile ⟨supply.catalog', strict⟩ b' place' (Component.flattenAll cs)) := by
  induction b generalizing b' stack charts idle place place' cs with
  | zero => exact absurd hb (Nat.not_lt_zero _)
  | succ b ih =>
    cases b' with
    | zero => exact absurd hb' (Nat.not_lt_zero _)
    | succ b' =>
      refine expandAll_matched (fun charts idle place place' file hnot hfile h => ?_) place 0 cs
        charts idle place' 0 h
      obtain ⟨hkey, hkey'⟩ := hkeys _ file hfile
      have hless : room keys (place.file :: stack) < room keys stack :=
        room_cons_lt hkey hnot
      have hless' : room keys' (place.file :: stack) < room keys' stack :=
        room_cons_lt hkey' hnot
      exact ih (Nat.lt_of_lt_of_le hless (Nat.le_of_lt_succ hb))
        (Nat.lt_of_lt_of_le hless' (Nat.le_of_lt_succ hb')) charts idle place place'
        file.components h

end

end Expand

end RelaxCompact
