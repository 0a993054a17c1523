import RelaxCompact.Assembly
import RelaxCompact.Proofs.Caching.Prefetching

/-!
Two assemblies of one root side by side, apart only in the fragments that they know and in where
these come from. They come to the same if the keys that the root needs are found alike. A file that
is entered is on no stack yet, so the budget of files never runs out. In particular, assembly comes
to the same whatever is known already.
-/

namespace RelaxCompact

namespace Expand

open Run Surface Fragments

/-- What two assemblies of a root have in common whose known fragments `known` relates: hrefs have
the same keys, and the keys that the root needs, from `o` on, are found alike. -/
structure Pairing (catalog catalog' : Catalog) (o : Fragments) (top : Text) (root : File)
    (known : Fragments → Fragments → Prop) : Prop where
  canonicalize : catalog'.canonicalize = catalog.canonicalize
  report : ∀ message, Alike (fun _ => known) known known (fun _ => True)
    (Fragments.report .assembly .debug message) (Fragments.report .assembly .debug message)
  attempt : ∀ key, Needed catalog o top root key →
    Alike (fun _ => known) known known (· = outcome catalog o key) (attempt catalog key)
      (attempt catalog' key)

/-- Where two assemblies with one stack have come. They differ in nothing but the known
fragments. -/
structure Beside (known : Fragments → Fragments → Prop) (stack : List Text) (s u : Expansion) :
    Prop where
  stack : s.stack = stack
  same : u = { s with source := u.source }
  related : known s.source u.source

/-- Two assemblies stay side by side over a step, from one stack to another. -/
abbrev Twin {α : Type} (known : Fragments → Fragments → Prop) (before after : List Text)
    (P : α → Prop) (x y : Expand α) : Prop :=
  Alike (fun _ t v => known t.source v.source) (Beside known before) (Beside known after) P x y

/-- A change that neither looks at the known fragments nor touches them. -/
def Blind (g : Expansion → Expansion) : Prop :=
  ∀ s x, g { s with source := x } = { g s with source := x }

section

variable {α β : Type} {catalog catalog' : Catalog} {o : Fragments} {top : Text} {root : File}
  {known : Fragments → Fragments → Prop} {stack before inner after : List Text}
  {P : α → Prop} {Q : β → Prop} {x y : Expand α}

theorem Blind.source {g : Expansion → Expansion} (hg : Blind g) (s : Expansion) :
    (g s).source = s.source := by
  have hs : g s = { g s with source := s.source } := hg s s.source
  have hsource := congrArg Expansion.source hs
  exact hsource

theorem Beside.map {g : Expansion → Expansion} {s u : Expansion} (h : Beside known before s u)
    (hg : Blind g) (hs : (g s).stack = after) : Beside known after (g s) (g u) where
  stack := hs
  same := by
    rw [hg.source u]
    exact (congrArg g h.same).trans (hg s u.source)
  related := by
    rw [hg.source, hg.source]
    exact h.related

theorem Twin.change {g : Expansion → Expansion} (hg : Blind g)
    (hs : ∀ s, (g s).stack = s.stack) :
    Twin known stack stack (fun _ => True) (modify g) (modify g) :=
  Alike.modify fun s _ h => h.map hg ((hs s).trans h.stack)

/-- A change as the last thing before a value is given. -/
theorem Twin.change_pure {g : Expansion → Expansion} {b : β} (hg : Blind g)
    (hs : ∀ s, (g s).stack = s.stack) (hb : Q b) :
    Twin known stack stack Q (do modify g; return b) (do modify g; return b) :=
  (Twin.change hg hs).bind fun _ _ => .pure hb

theorem Twin.get {f g : Expansion → Expand β} (hg : ∀ s x, g { s with source := x } = g s)
    (h : ∀ s, s.stack = before → Twin known before after Q (f s) (g s)) :
    Twin known before after Q (get >>= f) (get >>= g) := by
  refine Alike.get fun s u hsu => ?_
  rw [hsu.same, hg]
  exact h s hsu.stack

theorem Twin.throw {e : Failure} : Twin known before after P (throw e) (throw e) :=
  Alike.throw fun _ _ h => h.related

theorem Twin.liftExcept {r : Except Failure α} :
    Twin known stack stack (fun a => r = .ok a) (liftExcept r) (liftExcept r) :=
  Alike.liftExcept fun _ _ _ _ h => h.related

theorem Twin.fetching {x y : Fetch α} (h : Alike (fun _ => known) known known P x y) :
    Twin known stack stack P (fetching x) (fetching y) := by
  intro s u hsu
  unfold Expand.fetching
  cases hx : x s.source with
  | ok a t =>
    obtain ⟨v, hy, hP, hg⟩ := h.ok hsu.related hx
    rw [hy]
    refine ⟨rfl, hP, hsu.stack, ?_, hg⟩
    rw [hsu.same]
  | error e t =>
    obtain ⟨v, hy, hg⟩ := h.error hsu.related hx
    rw [hy]
    exact ⟨rfl, hg⟩

theorem Twin.ensuring {c : Expansion → Expansion} (h : Twin known before inner P x y)
    (hc : Blind c) (hs : ∀ s, s.stack = inner → (c s).stack = after) :
    Twin known before after P (ensuring x c) (ensuring y c) := by
  intro s u hsu
  unfold Expand.ensuring
  cases hx : x s with
  | ok a t =>
    obtain ⟨v, hy, hP, htv⟩ := h.ok hsu hx
    rw [hy]
    exact ⟨rfl, hP, htv.map hc (hs t htv.stack)⟩
  | error e t =>
    obtain ⟨v, hy, hg⟩ := h.error hsu hx
    rw [hy]
    refine ⟨rfl, ?_⟩
    change known (c t).source (c v).source
    rw [hc.source, hc.source]
    exact hg

theorem Twin.forget (h : Twin known before after P x y) :
    Twin known before after (fun _ => True) x y :=
  h.weaken fun _ _ => trivial

/-! The steps of an assembly, one by one -/

theorem schema_twin (r : Except SchemaError α) :
    Twin known stack stack (fun _ => True) (schema r) (schema r) :=
  Twin.liftExcept.forget

theorem grammar_twin (number : Nat) :
    Twin known stack stack (fun _ => True) (grammar number) (grammar number) :=
  .get (fun _ _ => rfl) fun _ _ => .pure trivial

theorem modifyGrammar_twin (number : Nat) (f : Grammar → Grammar) :
    Twin known stack stack (fun _ => True) (modifyGrammar number f) (modifyGrammar number f) :=
  .change (fun _ _ => rfl) fun _ => rfl

theorem openGrammar_twin (label : Text) (parent : Option Nat) :
    Twin known stack stack (fun _ => True) (openGrammar label parent) (openGrammar label parent) :=
  .get (fun _ _ => rfl) fun _ _ => .change_pure (fun _ _ => rfl) (fun _ => rfl) trivial

theorem openScope_twin (place : Place) (kind : ScopeKind) (label : Text) :
    Twin known stack stack (fun inner : Place => inner.file = place.file)
      (openScope place kind label) (openScope place kind label) :=
  (grammar_twin _).bind fun _ _ => (modifyGrammar_twin _ _).bind fun _ _ => .pure rfl

theorem inheritedNamespace_twin (environment : Environment) (inherit : Option String)
    (span : Span) :
    Twin known stack stack (fun _ => True) (inheritedNamespace environment inherit span)
      (inheritedNamespace environment inherit span) := by
  cases inherit with
  | none => exact .pure trivial
  | some qualifier => exact schema_twin _

theorem checkEnvironment_twin (grammar : Nat) (key href : Text) (span : Span)
    (environment : Environment) :
    Twin known stack stack (fun _ => True) (checkEnvironment grammar key href span environment)
      (checkEnvironment grammar key href span environment) := by
  refine Twin.get (fun _ _ => rfl) fun s _ => ?_
  split
  next => exact Twin.change (fun _ _ => rfl) fun _ => rfl
  next => exact Alike.ite (fun _ => Twin.throw) fun _ => .pure trivial

theorem suppressed_twin (name : DefineName) :
    Twin known stack stack (fun _ => True) (suppressed name) (suppressed name) :=
  .get (fun _ _ => rfl) fun _ _ => .change_pure (fun _ _ => rfl) (fun _ => rfl) trivial

theorem claim_twin (grammar : Nat) (occurrence : Occurrence) :
    Twin known stack stack (fun _ => True) (claim grammar occurrence)
      (claim grammar occurrence) := by
  refine Twin.get (fun _ _ => rfl) fun s _ => ?_
  refine Alike.ite (fun _ => Alike.pure trivial) fun _ => ?_
  refine Twin.change_pure (fun _ _ => rfl) (fun _ => rfl) ?_
  trivial

theorem addSite_twin (place : Place) (name : DefineName) (site : Site) :
    Twin known stack stack (fun _ => True) (addSite place name site) (addSite place name site) := by
  refine (grammar_twin _).bind fun g _ => ?_
  cases g.definitions.get? name with
  | none => exact modifyGrammar_twin _ _
  | some d => exact (schema_twin _).bind fun _ _ => modifyGrammar_twin _ _

theorem isolated_twin (label : Text) (parent : Option Nat) {body body' : Nat → Expand Unit}
    (h : ∀ number, Twin known stack stack (fun _ => True) (body number) (body' number)) :
    Twin known stack stack (fun _ => True) (isolated label parent body)
      (isolated label parent body') := by
  refine (openGrammar_twin _ _).bind fun number _ => ?_
  refine Twin.get (fun _ _ => rfl) fun s _ => ?_
  refine Alike.bind (Twin.change (fun _ _ => rfl) fun _ => rfl) fun _ _ => ?_
  refine Alike.bind (Twin.ensuring (h number) (fun _ _ => rfl) fun _ hs => hs) fun _ _ => ?_
  exact Alike.pure trivial

theorem enter_twin (key : Text) :
    Twin known stack (key :: stack) (fun _ => True) (enter key) (enter key) := by
  have hblind : Blind fun s => { s with stack := key :: s.stack } := fun _ _ => rfl
  exact Alike.modify fun s _ h => h.map hblind (congrArg (key :: ·) h.stack)

theorem pushFrame_twin (href : Text) (overrides : List Component) :
    Twin known stack stack (fun _ => True) (pushFrame href overrides) (pushFrame href overrides) :=
  .change (fun _ _ => rfl) fun _ => rfl

theorem checkOverrides_twin (frame : OverrideFrame) :
    Twin known stack stack (fun _ => True) (checkOverrides frame) (checkOverrides frame) := by
  unfold checkOverrides
  split
  next => exact Twin.throw
  next => exact Alike.pure trivial

/-- The hrefs written in a file lead to keys that the root needs, or to the root. -/
def Leads (catalog : Catalog) (o : Fragments) (top : Text) (root : File) (base : Text)
    (hrefs : List Text) : Prop :=
  ∀ href ∈ hrefs, ∀ key, catalog.canonicalize href base = .ok key → key ≠ top →
    Needed catalog o top root key

theorem Leads.mono {base : Text} {hrefs hrefs' : List Text}
    (h : Leads catalog o top root base hrefs) (hsub : hrefs' ⊆ hrefs) :
    Leads catalog o top root base hrefs' :=
  fun href hm => h href (hsub hm)

/-- Needed files that are on no stack yet are expanded alike. -/
def Descends (catalog : Catalog) (o : Fragments) (top : Text) (root : File)
    (known : Fragments → Fragments → Prop) (stack : List Text) (d d' : Descend) : Prop :=
  ∀ file place, place.file ∉ stack → Needed catalog o top root place.file →
    outcome catalog o place.file = .ok file →
    Twin known (place.file :: stack) (place.file :: stack) (fun _ => True) (d place file.components)
      (d' place file.components)

variable {strict : Bool} {d d' : Descend}

section

variable (hp : Pairing catalog catalog' o top root known)
include hp

theorem report_twin (message : Text) :
    Twin known stack stack (fun _ => True) (report message) (report message) :=
  .fetching (hp.report message)

theorem canonicalize_twin (href base : Text) :
    Twin known stack stack (fun key => catalog.canonicalize href base = .ok key)
      (liftExcept (catalog.canonicalize href base))
      (liftExcept (catalog'.canonicalize href base)) := by
  rw [hp.canonicalize]
  exact Twin.liftExcept

/-- A file that is fetched is not on the stack, and is what its key stands for. -/
theorem fetch_twin (htop : top ∈ stack) {key : Text}
    (hneeded : key ≠ top → Needed catalog o top root key) (href : Text) (span : Span) :
    Twin known stack stack
      (fun file => key ∉ stack ∧ Needed catalog o top root key ∧ outcome catalog o key = .ok file)
      (fetch catalog key href span) (fetch catalog' key href span) := by
  refine Twin.get (fun _ _ => rfl) fun s hs => ?_
  rw [hs]
  refine Alike.ite (fun _ => Twin.throw) fun hnot => ?_
  have hkey : key ∉ stack := fun hm => hnot (List.contains_iff_mem.2 hm)
  have hkey' : Needed catalog o top root key := hneeded fun he => hkey (he ▸ htop)
  refine (Twin.fetching (hp.attempt key hkey')).bind fun result hresult => ?_
  split
  next file =>
    refine Twin.change_pure (fun _ _ => rfl) (fun _ => rfl) ?_
    exact ⟨hkey, hkey', hresult.symm⟩
  next => exact Twin.throw
  next => exact Twin.throw

theorem register_twin (place : Place) (d : Define) {lower lower' : Expand Content}
    (h : Twin known stack stack (fun _ => True) lower lower') :
    Twin known stack stack (fun _ => True) (register place d lower) (register place d lower') := by
  refine (suppressed_twin _).bind fun covered _ => ?_
  refine Alike.ite (fun _ => report_twin hp _) fun _ => ?_
  refine (claim_twin _ _).bind fun seen _ => ?_
  refine Alike.ite (fun _ => Alike.pure trivial) fun _ => ?_
  exact h.bind fun _ _ => addSite_twin _ _ _

theorem external_twin (htop : top ∈ stack) (hd : Descends catalog o top root known stack d d')
    (place : Place) {href : Text} (hleads : Leads catalog o top root place.file [href])
    (inherit : Option String) (span : Span) :
    Twin known stack stack (fun _ => True) (external ⟨catalog, strict⟩ d place href inherit span)
      (external ⟨catalog', strict⟩ d' place href inherit span) := by
  refine Alike.bind (canonicalize_twin hp _ _) fun key hkey => ?_
  refine Alike.bind (fetch_twin hp htop (hleads href List.mem_cons_self key hkey) _ _)
    fun file ⟨hnot, hneeded, hfile⟩ => ?_
  refine Alike.bind (inheritedNamespace_twin _ _ _) fun inherited _ => ?_
  refine Alike.bind (enter_twin key) fun _ _ => ?_
  have hbody (number : Nat) := hd file
    { grammar := number
      environment := Environment.ofDeclarations file.declarations inherited
      file := key } hnot hneeded hfile
  refine Twin.ensuring (isolated_twin _ _ hbody) (fun _ _ => rfl) fun s hs => ?_
  rw [hs]
  rfl

theorem includeFragment_twin (hd : Descends catalog o top root known stack d d') (place : Place)
    {file : File} {key : Text} (hnot : key ∉ stack) (hneeded : Needed catalog o top root key)
    (hfile : outcome catalog o key = .ok file) (href : Text) (inherit : Option String)
    (overrides : List Component) (span : Span) :
    Twin known stack stack (fun _ => True)
      (includeFragment ⟨catalog, strict⟩ d place file key href inherit overrides span)
      (includeFragment ⟨catalog', strict⟩ d' place file key href inherit overrides span) := by
  refine Alike.cond (pushFrame_twin _ _) ?_
  refine Alike.bind (report_twin hp _) fun _ _ => ?_
  refine Alike.bind (inheritedNamespace_twin _ _ _) fun inherited _ => ?_
  refine Alike.bind (checkEnvironment_twin _ _ _ _ _) fun _ _ => ?_
  refine Alike.bind (openScope_twin _ _ _) fun place' hplace => ?_
  change place'.file = key at hplace
  subst hplace
  refine Alike.bind (enter_twin _) fun _ _ => ?_
  have hbody : Twin known (place'.file :: stack) (place'.file :: stack) (fun _ => True)
      (do d place' file.components; return (← get).frames.head?)
      (do d' place' file.components; return (← get).frames.head?) :=
    (hd file place' hnot hneeded hfile).bind fun _ _ =>
      Twin.get (fun _ _ => rfl) fun _ _ => Alike.pure trivial
  have hleave (s : Expansion) (hs : s.stack = place'.file :: stack) : s.stack.tail = stack := by
    rw [hs]
    rfl
  refine Alike.bind (Twin.ensuring hbody (fun _ _ => rfl) hleave) fun frame _ => ?_
  refine Alike.ite (fun _ => ?_) fun _ => Alike.pure trivial
  cases frame with
  | none => exact Alike.pure trivial
  | some frame => exact checkOverrides_twin frame

/-- The components of one file are expanded alike if other files are. -/
theorem expandAll_twin (htop : top ∈ stack) (hd : Descends catalog o top root known stack d d')
    (place : Place) (i : Nat) (cs : List Component)
    (hleads : Leads catalog o top root place.file (Component.allHrefs cs)) :
    Twin known stack stack (fun _ => True) (expandAll ⟨catalog, strict⟩ d place i cs)
      (expandAll ⟨catalog', strict⟩ d' place i cs) := by
  revert hleads
  refine expandAll.induct_unfolding ⟨catalog, strict⟩ d
    (fun place p step => Leads catalog o top root place.file p.hrefs →
      Twin known stack stack (fun _ => True) step (lower ⟨catalog', strict⟩ d' place p))
    (fun place i cs step => Leads catalog o top root place.file (Component.allHrefs cs) →
      Twin known stack stack (fun _ => True) step (expandAll ⟨catalog', strict⟩ d' place i cs))
    (fun place c step => Leads catalog o top root place.file c.hrefs →
      Twin known stack stack (fun _ => True) step (expand ⟨catalog', strict⟩ d' place c))
    ?binary ?unary ?leaf ?named ?ref ?parentRef ?data ?dataExcept ?value ?external ?grammar
    ?define ?div ?incl ?nil ?cons place i cs
  case binary =>
    intro place op left right span ihLeft ihRight hleads
    rw [Pattern.hrefs] at hleads
    rw [lower]
    exact (ihLeft (hleads.mono (List.subset_append_left _ _))).bind fun _ _ =>
      (ihRight (hleads.mono (List.subset_append_right _ _))).bind fun _ _ => Alike.pure trivial
  case unary =>
    intro place modifier content span ih hleads
    rw [Pattern.hrefs] at hleads
    rw [lower]
    exact (ih hleads).bind fun _ _ => Alike.pure trivial
  case leaf =>
    intro place leaf span _
    rw [lower]
    exact Alike.pure trivial
  case named =>
    intro place holder name content span ih hleads
    rw [Pattern.hrefs] at hleads
    rw [lower]
    exact (schema_twin _).bind fun _ _ => (ih hleads).bind fun _ _ => Alike.pure trivial
  case ref =>
    intro place name span _
    rw [lower]
    exact Alike.pure trivial
  case parentRef =>
    intro place name span _
    rw [lower]
    exact Alike.pure trivial
  case data =>
    intro place type params span _
    rw [lower]
    exact (schema_twin _).bind fun _ _ => Alike.pure trivial
  case dataExcept =>
    intro place type params except span ih hleads
    rw [Pattern.hrefs] at hleads
    rw [lower]
    exact (schema_twin _).bind fun _ _ => (ih hleads).bind fun _ _ => Alike.pure trivial
  case value =>
    intro place literal type span _
    rw [lower]
    exact (schema_twin _).bind fun _ _ => Alike.pure trivial
  case external =>
    intro place href inherit span hleads
    rw [Pattern.hrefs] at hleads
    rw [lower]
    exact (external_twin hp htop hd place hleads inherit span).bind fun _ _ => Alike.pure trivial
  case grammar =>
    intro place components span ih hleads
    rw [Pattern.hrefs] at hleads
    rw [lower]
    exact (isolated_twin _ _ fun number => ih number hleads).bind fun _ _ => Alike.pure trivial
  case define =>
    intro place name operator pattern documentation span ih hleads
    rw [Component.hrefs] at hleads
    rw [expand]
    exact register_twin hp _ _ (ih hleads)
  case div =>
    intro place components span ih hleads
    rw [Component.hrefs] at hleads
    rw [expand]
    refine (openScope_twin _ _ _).bind fun inner hinner => ih inner ?_
    rw [hinner]
    exact hleads
  case incl =>
    intro place href inherit overrides span ih hleads
    rw [Component.hrefs] at hleads
    rw [expand]
    refine Alike.bind (canonicalize_twin hp _ _) fun key hkey => ?_
    refine Alike.bind (fetch_twin hp htop (hleads href List.mem_cons_self key hkey) _ _)
      fun file ⟨hnot, hneeded, hfile⟩ => ?_
    refine Alike.ite (fun _ => Twin.throw) fun _ => ?_
    refine Alike.bind (openScope_twin _ _ _) fun inner hinner => ?_
    have hoverrides : Leads catalog o top root inner.file (Component.allHrefs overrides) := by
      rw [hinner]
      exact hleads.mono (List.subset_cons_self _ _)
    exact (ih inner hoverrides).bind fun _ _ =>
      includeFragment_twin hp hd _ hnot hneeded hfile _ _ _ _
  case nil =>
    intro place i _
    rw [expandAll]
    exact Alike.pure trivial
  case cons =>
    intro place i c cs ihFirst ihRest hleads
    rw [Component.allHrefs] at hleads
    rw [expandAll]
    exact (ihFirst (hleads.mono (List.subset_append_left _ _))).bind fun _ _ =>
      ihRest (hleads.mono (List.subset_append_right _ _))

variable (strict) in
/-- Files are expanded alike within any two budgets that exceed the number of files that can be had
and are not being expanded. -/
theorem expandFile_twin (htop : top ∈ stack) {keys : List Text}
    (hkeys : ∀ key file, outcome catalog o key = .ok file → key ∈ keys) {b b' : Nat}
    (hb : room keys stack < b) (hb' : room keys stack < b') (place : Place) (cs : List Component)
    (hleads : Leads catalog o top root place.file (Component.allHrefs cs)) :
    Twin known stack stack (fun _ => True) (expandFile ⟨catalog, strict⟩ b place cs)
      (expandFile ⟨catalog', strict⟩ b' place cs) := by
  induction b generalizing b' stack place cs with
  | zero => exact absurd hb (Nat.not_lt_zero _)
  | succ b ih =>
    cases b' with
    | zero => exact absurd hb' (Nat.not_lt_zero _)
    | succ b' =>
      refine expandAll_twin hp htop (fun file place hnot hneeded hfile => ?_) place 0 cs hleads
      have hless : room keys (place.file :: stack) < room keys stack :=
        room_cons_lt (hkeys _ file hfile) hnot
      exact ih (List.mem_cons_of_mem _ htop) (Nat.lt_of_lt_of_le hless (Nat.le_of_lt_succ hb))
        (Nat.lt_of_lt_of_le hless (Nat.le_of_lt_succ hb')) place file.components
        fun href hm key hkey => .fragment hneeded hfile hm hkey

end

end

end Expand

open Run Surface Fragments

/-- Two assemblies of a root come to the same, if the keys that it needs are found alike. -/
theorem assemble_twin {catalog catalog' : Catalog} {o : Fragments}
    {known : Fragments → Fragments → Prop} {root : File} {key : Option Text}
    (hp : Expand.Pairing catalog catalog' o (rootKey root key) root known) {keys : List Text}
    (hkeys : ∀ key file, outcome catalog o key = .ok file → key ∈ keys) (strict : Bool) :
    Alike (fun _ => known)
      (fun s u => known s u ∧ keys.length ≤ catalog.size + s.entries.size ∧
        keys.length ≤ catalog'.size + u.entries.size)
      known (fun _ => True)
      (assemble ⟨catalog, strict⟩ root key) (assemble ⟨catalog', strict⟩ root key) := by
  intro s u ⟨hsu, hsize, hsize'⟩
  have hroom {n : Nat} (hn : keys.length ≤ n) : room keys [rootKey root key] < n + 1 :=
    Nat.lt_succ_of_le (Nat.le_trans (room_le_length _ _) hn)
  have hstart (label : Text) :
      Expand.Beside known [rootKey root key]
        { source := s, stack := [rootKey root key], grammars := [{ label, parent := none }] }
        { source := u, stack := [rootKey root key], grammars := [{ label, parent := none }] } :=
    ⟨rfl, rfl, hsu⟩
  have hreport (message : Text) (a : Assembled) :
      Alike (fun _ => known) known known (fun _ => True)
        (do report .assembly .debug message; return a)
        (do report .assembly .debug message; return a) :=
    (hp.report message).bind fun _ _ => Alike.pure trivial
  have hends := Expand.expandFile_twin strict hp List.mem_cons_self hkeys (hroom hsize)
    (hroom hsize')
    { grammar := 0
      environment := Environment.ofDeclarations root.declarations
      file := rootKey root key }
    root.components (fun href hm key hkey => .root hm hkey) _ _
    (hstart (if root.path.isEmpty then rootKey root key else root.path))
  unfold assemble
  dsimp only
  generalize Expand.expandFile ⟨catalog, strict⟩ (catalog.size + s.entries.size + 1) _ _ _ = x
    at hends ⊢
  generalize Expand.expandFile ⟨catalog', strict⟩ (catalog'.size + u.entries.size + 1) _ _ _ = y
    at hends ⊢
  cases x with
  | error e t =>
    cases y with
    | error f v => exact hends
    | ok _ v => exact hends.elim
  | ok _ t =>
    cases y with
    | error f v => exact hends.elim
    | ok _ v =>
      obtain ⟨-, -, htv⟩ := hends
      rw [htv.same]
      exact hreport _ _ t.source v.source htv.related

/-- Fragments that have grown from agreeing ones make a pair. -/
theorem Expand.pairing_grown {catalog : Catalog} {o o' : Fragments} (ho : Agree catalog o o')
    (top : Text) (root : File) : Pairing catalog catalog o top root (Grown catalog o o') where
  canonicalize := rfl
  report _ := report_alike (ne_parseRecord (by decide) _ _)
  attempt key _ := attempt_alike ho key

/-- Two assemblies of one root come to the same, whatever either knows. -/
theorem assemble_alike {catalog : Catalog} {o o' : Fragments} (ho : Agree catalog o o')
    {keys : List Text} (hkeys : ∀ key file, outcome catalog o key = .ok file → key ∈ keys)
    (hsize : keys.length ≤ catalog.size) (strict : Bool) (root : Surface.File)
    (key : Option Text) :
    Alike (fun _ => Grown catalog o o') (Grown catalog o o') (Grown catalog o o') (fun _ => True)
      (assemble ⟨catalog, strict⟩ root key) (assemble ⟨catalog, strict⟩ root key) := by
  refine (assemble_twin (Expand.pairing_grown ho _ root) hkeys strict).mono (fun s u h => ?_)
    (fun _ _ => id) (fun _ => id) fun _ _ _ => id
  exact ⟨h, Nat.le_add_right_of_le hsize, Nat.le_add_right_of_le hsize⟩

end RelaxCompact
