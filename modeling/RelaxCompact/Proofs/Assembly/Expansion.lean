import Mathlib
import RelaxCompact.Assembly
import RelaxCompact.Proofs.Fragments

/-!
The reference expansion of a grammar: the definitions that its components come to when includes are
replaced by what they include, and what an assembled grammar has to hold for them.
-/

namespace RelaxCompact

open Surface

/-- What hrefs and keys stand for in one assembly. -/
structure Sources where
  key : (href base : Text) → Except Failure Text
  file : (key : Text) → Except Failure File

def Fragments.sources (catalog : Catalog) (s : Fragments) : Sources where
  key := catalog.canonicalize
  file := outcome catalog s

theorem Fragments.Agree.sources {catalog : Catalog} {s t : Fragments}
    (h : Fragments.Agree catalog s t) : t.sources catalog = s.sources catalog := by
  simp only [Fragments.sources, Sources.mk.injEq, true_and]
  exact funext h

/-- Where something is written, and what is bound there. -/
structure Locus where
  environment : Environment
  file : Text
  address : List Nat := []

def Locus.part (l : Locus) (i : Nat) : Locus := { l with address := i :: l.address }

def Place.locus (p : Place) : Locus := ⟨p.environment, p.file, p.address⟩

@[simp]
theorem Place.locus_part (p : Place) (i : Nat) : (p.part i).locus = p.locus.part i := rfl

/-- The namespace that an include or external with this `inherit` passes down. -/
def Environment.Passes (env : Environment) (inherit : Option String) (ns : Text) : Prop :=
  match inherit with
  | none => ns = env.defaultNamespace
  | some qualifier => env.namespaces.get? qualifier = some ns

theorem Environment.Passes.unique {env : Environment} {inherit : Option String} {ns ns' : Text}
    (h : env.Passes inherit ns) (h' : env.Passes inherit ns') : ns = ns' := by
  cases inherit with
  | none => exact Eq.trans h (Eq.symm h')
  | some qualifier => exact Option.some.inj (Eq.trans (Eq.symm h) h')

/-- An href written at a locus leads to a file, whose components stand at another locus. -/
def Sources.Opens (src : Sources) (l : Locus) (href : Text) (inherit : Option String)
    (inner : Locus) (file : File) : Prop :=
  ∃ key ns, src.key href l.file = .ok key ∧ src.file key = .ok file ∧
    l.environment.Passes inherit ns ∧
    inner = ⟨Environment.ofDeclarations file.declarations ns, key, []⟩

theorem Sources.Opens.unique {src : Sources} {l inner inner' : Locus} {href : Text}
    {inherit : Option String} {file file' : File} (h : src.Opens l href inherit inner file)
    (h' : src.Opens l href inherit inner' file') : inner = inner' ∧ file = file' := by
  obtain ⟨key, ns, hk, hf, hn, rfl⟩ := h
  obtain ⟨key', ns', hk', hf', hn', rfl⟩ := h'
  cases Except.ok.inj (hk.symm.trans hk')
  cases Except.ok.inj (hf.symm.trans hf')
  cases hn.unique hn'
  exact ⟨rfl, rfl⟩

/-- Where in its file an href is written makes no difference. -/
theorem Sources.Opens.moved {src : Sources} {l l' inner : Locus} {href : Text}
    {inherit : Option String} {file : File} (h : src.Opens l href inherit inner file)
    (henv : l'.environment = l.environment) (hfile : l'.file = l.file) :
    src.Opens l' href inherit inner file := by
  unfold Opens at h ⊢
  rw [henv, hfile]
  exact h

theorem Sources.Opens.file_eq {src : Sources} {l inner : Locus} {href : Text}
    {inherit : Option String} {file : File} (h : src.Opens l href inherit inner file) :
    src.file inner.file = .ok file := by
  obtain ⟨key, ns, -, hfile, -, rfl⟩ := h
  exact hfile

theorem Sources.Opens.address_eq {src : Sources} {l inner : Locus} {href : Text}
    {inherit : Option String} {file : File} (h : src.Opens l href inherit inner file) :
    inner.address = [] := by
  obtain ⟨key, ns, -, -, -, rfl⟩ := h
  rfl

/-- A definition met on the way through the components of a grammar. `covers` has the names that
each override block around it defines, if the definition comes from the fragment of its include. -/
structure Passage where
  locus : Locus
  define : Define
  covers : List (List DefineName)

namespace Passage

def name (p : Passage) : DefineName := p.define.name

/-- Which definition of which file is met. -/
def occurrence (p : Passage) : Occurrence := ⟨p.locus.file, p.locus.address⟩

/-- No override block around the definition defines its name. -/
def exposed (p : Passage) : Bool := p.covers.all (p.name ∉ ·)

/-- The passages through definitions that were not met before, each once. -/
def fresh : (seen : List Occurrence) → List Passage → List Passage
  | _, [] => []
  | seen, p :: ps =>
    if p.occurrence ∈ seen then fresh seen ps else p :: fresh (seen ++ [p.occurrence]) ps

/-- The passages that count: those that are exposed, and of these the first through each
definition. -/
def effective (ps : List Passage) : List Passage := fresh [] (ps.filter exposed)

theorem fresh_append (seen : List Occurrence) (ps qs : List Passage) :
    fresh seen (ps ++ qs) =
      fresh seen ps ++ fresh (seen ++ (fresh seen ps).map occurrence) qs := by
  induction ps generalizing seen with
  | nil => simp only [List.nil_append, fresh, List.map_nil, List.append_nil]
  | cons p ps ih =>
    simp only [List.cons_append, fresh]
    split
    · exact ih seen
    · rw [ih, List.map_cons, List.append_assoc, List.cons_append, List.cons_append, List.nil_append]

end Passage

/-- The names that a block of components defines. -/
def definedNames (components : List Component) : List DefineName :=
  (Component.allDefines components).map Define.name

/-- The reference expansion of components, the first of which is number `i` of its list: a
definition is itself, a division its components, and an include its override block and then its
fragment, which the block covers. -/
inductive Unfolds (src : Sources) :
    (covers : List (List DefineName)) → Locus → (i : Nat) → List Component → List Passage → Prop
  | nil {covers l i} : Unfolds src covers l i [] []
  | define {covers l i name operator pattern documentation span cs ps} :
    Unfolds src covers l (i + 1) cs ps →
    Unfolds src covers l i (.define name operator pattern documentation span :: cs)
      (⟨l.part i, ⟨name, operator, pattern, documentation, span⟩, covers⟩ :: ps)
  | div {covers l i components span cs ps qs} :
    Unfolds src covers (l.part i) 0 components ps →
    Unfolds src covers l (i + 1) cs qs →
    Unfolds src covers l i (.div components span :: cs) (ps ++ qs)
  | incl {covers l i href inherit overrides span cs inner file ps qs rs} :
    src.Opens l href inherit inner file →
    Unfolds src covers (l.part i) 0 overrides ps →
    Unfolds src (definedNames overrides :: covers) inner 0 file.components qs →
    Unfolds src covers l (i + 1) cs rs →
    Unfolds src covers l i (.incl href inherit overrides span :: cs) (ps ++ qs ++ rs)

/-- Components have at most one reference expansion. -/
theorem Unfolds.unique {src : Sources} {covers : List (List DefineName)} {l : Locus} {i : Nat}
    {cs : List Component} {ps qs : List Passage} (h : Unfolds src covers l i cs ps)
    (h' : Unfolds src covers l i cs qs) : ps = qs := by
  induction h generalizing qs with
  | nil => cases h'; rfl
  | define _ ih =>
    cases h' with
    | define h' => rw [ih h']
  | div _ _ ihInner ih =>
    cases h' with
    | div hInner h' => rw [ihInner hInner, ih h']
  | incl hOpens _ _ _ ihOverrides ihFragment ih =>
    cases h' with
    | incl hOpens' hOverrides hFragment h' =>
      obtain ⟨rfl, rfl⟩ := hOpens.unique hOpens'
      rw [ihOverrides hOverrides, ihFragment hFragment, ih h']

/-- A first component and those behind it are expanded one after the other. -/
theorem Unfolds.cons {src : Sources} {covers : List (List DefineName)} {l : Locus} {i : Nat}
    {c : Component} {cs : List Component} {ps qs : List Passage}
    (h : Unfolds src covers l i [c] ps) (hs : Unfolds src covers l (i + 1) cs qs) :
    Unfolds src covers l i (c :: cs) (ps ++ qs) := by
  cases h with
  | define hn => cases hn; exact .define hs
  | div hInner hn =>
    cases hn
    rw [List.append_nil]
    exact .div hInner hs
  | incl hOpens hOverrides hFragment hn =>
    cases hn
    rw [List.append_nil]
    exact .incl hOpens hOverrides hFragment hs

theorem Unfolds.uncons {src : Sources} {covers : List (List DefineName)} {l : Locus} {i : Nat}
    {c : Component} {cs : List Component} {ps : List Passage}
    (h : Unfolds src covers l i (c :: cs) ps) :
    ∃ qs rs, Unfolds src covers l i [c] qs ∧ Unfolds src covers l (i + 1) cs rs ∧
      ps = qs ++ rs := by
  cases h with
  | define hs => exact ⟨[_], _, .define .nil, hs, rfl⟩
  | div hInner hs =>
    refine ⟨_, _, .div hInner .nil, hs, ?_⟩
    rw [List.append_nil]
  | incl hOpens hOverrides hFragment hs =>
    refine ⟨_, _, .incl hOpens hOverrides hFragment .nil, hs, ?_⟩
    rw [List.append_nil]

/-- What a grammar is assembled from. -/
structure Origin where
  parent : Option Nat
  locus : Locus
  components : List Component

/-- The reference expansion of a whole grammar. No override block around the grammar covers what is
inside. -/
def Origin.Unfolds (src : Sources) (o : Origin) (ps : List Passage) : Prop :=
  RelaxCompact.Unfolds src [] o.locus 0 o.components ps

/-- A pattern written at a locus of grammar number `number`, and the content it comes to: the same
tree, with names resolved and with grammars by the number under which `origins` has them. -/
inductive Lowers (src : Sources) (origins : List Origin) (number : Nat) (l : Locus) :
    Pattern → Content → Prop
  | binary {op left right span left' right'} :
    Lowers src origins number l left left' → Lowers src origins number l right right' →
    Lowers src origins number l (.binary op left right span) (.binary op left' right' span)
  | unary {modifier content span content'} :
    Lowers src origins number l content content' →
    Lowers src origins number l (.unary modifier content span) (.unary modifier content' span)
  | leaf {leaf span} : Lowers src origins number l (.leaf leaf span) (.leaf leaf span)
  | named {holder name content span name' content'} :
    l.environment.nameClass holder name = .ok name' →
    Lowers src origins number l content content' →
    Lowers src origins number l (.named holder name content span)
      (.named holder name' content' span)
  | ref {name span} : Lowers src origins number l (.ref name span) (.ref name span)
  | parentRef {name span} :
    Lowers src origins number l (.parentRef name span) (.parentRef name span)
  | data {type params span library} :
    l.environment.libraryFor type (some span) = .ok library →
    Lowers src origins number l (.data type params none span)
      (.data type library params none span)
  | dataExcept {type params except span library except'} :
    l.environment.libraryFor type (some span) = .ok library →
    Lowers src origins number l except except' →
    Lowers src origins number l (.data type params (some except) span)
      (.data type library params (some except') span)
  | value {literal type span library} :
    l.environment.libraryFor type (some span) = .ok library →
    Lowers src origins number l (.value literal type span) (.value literal type library span)
  | external {href inherit span inner file nested} :
    src.Opens l href inherit inner file → origins[nested]? = some ⟨none, inner, file.components⟩ →
    Lowers src origins number l (.external href inherit span) (.grammar nested span)
  | grammar {components span nested} :
    origins[nested]? = some ⟨some number, l, components⟩ →
    Lowers src origins number l (.grammar components span) (.grammar nested span)

/-- The origins of further grammars do not matter. -/
theorem Lowers.append {src : Sources} {origins : List Origin} {number : Nat} {l : Locus}
    {p : Pattern} {c : Content} (h : Lowers src origins number l p c) (more : List Origin) :
    Lowers src (origins ++ more) number l p c := by
  have hget {n : Nat} {o : Origin} (ho : origins[n]? = some o) :
      (origins ++ more)[n]? = some o := by
    obtain ⟨hn, _⟩ := List.getElem?_eq_some_iff.1 ho
    rw [List.getElem?_append_left hn, ho]
  induction h with
  | binary _ _ ihLeft ihRight => exact .binary ihLeft ihRight
  | unary _ ih => exact .unary ih
  | leaf => exact .leaf
  | named hn _ ih => exact .named hn ih
  | ref => exact .ref
  | parentRef => exact .parentRef
  | data hl => exact .data hl
  | dataExcept hl _ ih => exact .dataExcept hl ih
  | value hl => exact .value hl
  | external hOpens ho => exact .external hOpens (hget ho)
  | grammar ho => exact .grammar (hget ho)

/-- A site that records a passage. -/
structure Passage.Recorded (src : Sources) (origins : List Origin) (number : Nat) (p : Passage)
    (site : Site) : Prop where
  occurrence : site.occurrence = p.occurrence
  operator : site.operator = p.define.operator
  documentation : site.documentation = p.define.documentation
  span : site.span = p.define.span
  content : Lowers src origins number p.locus p.define.pattern site.content

theorem Passage.Recorded.append {src : Sources} {origins : List Origin} {number : Nat} {p : Passage}
    {site : Site} (h : p.Recorded src origins number site) (more : List Origin) :
    p.Recorded src (origins ++ more) number site :=
  { h with content := h.content.append more }

namespace Grammar

/-- The sites of a name, in order. -/
def sites (g : Grammar) (name : DefineName) : List Site :=
  ((g.definitions.get? name).map Definition.sites).getD []

/-- A grammar holds exactly some passages: its names come in the order in which the passages first
show them, and the sites of a name record the passages through its definitions, in order. -/
structure Accounts (src : Sources) (origins : List Origin) (number : Nat) (g : Grammar)
    (ps : List Passage) : Prop where
  names : g.definitions.keys = (ps.map Passage.name).eraseDups
  sites : ∀ name, List.Forall₂ (Passage.Recorded src origins number)
    (ps.filter fun p => p.name = name) (g.sites name)

theorem Accounts.append {src : Sources} {origins : List Origin} {number : Nat} {g : Grammar}
    {ps : List Passage} (h : g.Accounts src origins number ps) (more : List Origin) :
    g.Accounts src (origins ++ more) number ps where
  names := h.names
  sites name := (h.sites name).imp fun _ _ hr => hr.append more

end Grammar

end RelaxCompact
