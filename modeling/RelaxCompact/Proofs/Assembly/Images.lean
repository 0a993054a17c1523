import RelaxCompact.Proofs.Assembly.Environments
import RelaxCompact.Proofs.Assembly.Headers
import RelaxCompact.Proofs.Parsing.Anchoring
import RelaxCompact.Proofs.Resolution.Nested

/-!
What the sites of an assembled schema hold. The content of a site is the image of the pattern that
is written there: the same tree at the same places, in which every name stands for what the header
of its file says, and nested and external grammars are known by their numbers.
-/

namespace RelaxCompact

open Surface

/-- The qualifiers in a name class. -/
def Surface.NameClass.qualifiers : Surface.NameClass → List String
  | .name qualifier _ _ => qualifier.toList
  | .anyName none _ => []
  | .anyName (some except) _ => except.qualifiers
  | .nsName qualifier none _ => [qualifier]
  | .nsName qualifier (some except) _ => qualifier :: except.qualifiers
  | .choice left right _ => left.qualifiers ++ right.qualifiers

/-! Where definitions are written -/

/-- A definition stands among components: also in a division, in an override block, or in a grammar
that is nested in such a definition. -/
inductive WrittenIn : List Component → Define → Prop
  | here {cs d} : d ∈ Component.allDefines cs → WrittenIn cs d
  | nested {cs d inner span d'} : d ∈ Component.allDefines cs →
    .grammar inner span ∈ d.pattern.preorder → WrittenIn inner d' → WrittenIn cs d'

/-- A locus is in a file, and `h` is the header of the file. Nothing is passed down to the root. -/
structure Locus.In (src : Sources) (root : File) (top : Text) (l : Locus) (file : File)
    (h : Header) : Prop where
  found : l.file = top ∧ file = root ∧ h.inherited = [] ∨ src.file l.file = .ok file
  declarations : h.declarations = file.declarations
  environment : l.environment = h.environment

/-- All definitions of components at a locus are written in the file of the locus. -/
def Standing (src : Sources) (root : File) (top : Text) (l : Locus) (cs : List Component) : Prop :=
  ∃ file h, l.In src root top file h ∧ ∀ d, WrittenIn cs d → WrittenIn file.components d

section

variable {src : Sources} {root file : File} {top : Text} {l : Locus} {cs ds : List Component}

theorem WrittenIn.mono (hsub : Component.allDefines ds ⊆ Component.allDefines cs) {d : Define}
    (h : WrittenIn ds d) : WrittenIn cs d := by
  cases h with
  | here hd => exact .here (hsub hd)
  | nested hd hg h => exact .nested (hsub hd) hg h

theorem WrittenIn.inside {d d' : Define} (h : WrittenIn cs d) {inner : List Component} {span : Span}
    (hg : .grammar inner span ∈ d.pattern.preorder) (h' : WrittenIn inner d') :
    WrittenIn cs d' := by
  induction h with
  | here hd => exact .nested hd hg h'
  | nested hd hg' _ ih => exact .nested hd hg' (ih hg)

theorem Locus.In.moved {l' : Locus} {h : Header} (hl : l.In src root top file h)
    (henv : l'.environment = l.environment) (hfile : l'.file = l.file) :
    l'.In src root top file h := by
  obtain ⟨hfound, hdecls, hheader⟩ := hl
  exact ⟨hfile ▸ hfound, hdecls, henv.trans hheader⟩

theorem Standing.mono {l' : Locus} (h : Standing src root top l cs)
    (hsub : Component.allDefines ds ⊆ Component.allDefines cs)
    (henv : l'.environment = l.environment) (hfile : l'.file = l.file) :
    Standing src root top l' ds := by
  obtain ⟨file, header, hl, hall⟩ := h
  exact ⟨file, header, hl.moved henv hfile, fun d hd => hall d (hd.mono hsub)⟩

/-- A file that is entered has its own header. -/
theorem Sources.Opens.standing {inner : Locus} {href : Text} {inherit : Option String}
    (h : src.Opens l href inherit inner file) :
    Standing src root top inner file.components := by
  obtain ⟨key, ns, -, hfile, -, rfl⟩ := h
  exact ⟨file, ⟨file.declarations, ns⟩, ⟨.inr hfile, rfl, rfl⟩, fun _ => id⟩

/-- Definitions that are met are written in the file that they are met in. -/
theorem Unfolds.standing {covers : List (List DefineName)} {i : Nat} {ps : List Passage}
    (h : Unfolds src covers l i cs ps) (hl : Standing src root top l cs) {p : Passage}
    (hp : p ∈ ps) :
    ∃ file h, p.locus.In src root top file h ∧ WrittenIn file.components p.define := by
  have hrest {c : Component} {cs : List Component} :
      Component.allDefines cs ⊆ Component.allDefines (c :: cs) :=
    List.subset_append_right _ _
  induction h with
  | nil => cases hp
  | define _ ih =>
    rcases List.mem_cons.1 hp with rfl | hp
    · obtain ⟨file, header, hl, hall⟩ := hl
      exact ⟨file, header, hl.moved rfl rfl, hall _ (.here List.mem_cons_self)⟩
    · exact ih (hl.mono hrest rfl rfl) hp
  | div _ _ ihInner ih =>
    rcases List.mem_append.1 hp with hp | hp
    · exact ihInner (hl.mono (List.subset_append_left _ _) rfl rfl) hp
    · exact ih (hl.mono hrest rfl rfl) hp
  | incl hopens _ _ _ ihOverrides ihFragment ih =>
    rcases List.mem_append.1 hp with hp | hp
    · rcases List.mem_append.1 hp with hp | hp
      · exact ihOverrides (hl.mono (List.subset_append_left _ _) rfl rfl) hp
      · exact ihFragment hopens.standing hp
    · exact ih (hl.mono hrest rfl rfl) hp

theorem standing_root (root : File) (top : Text) :
    Standing src root top ⟨Environment.ofDeclarations root.declarations, top, []⟩
      root.components :=
  ⟨root, ⟨root.declarations, []⟩, ⟨.inl ⟨rfl, rfl, rfl⟩, rfl, rfl⟩, fun _ => id⟩

/-- So are the definitions of every grammar in the root. -/
theorem GrammarIn.standing {l₀ : Locus} {cs₀ : List Component}
    (h : GrammarIn src l₀ cs₀ l cs) (hroot : Standing src root top l₀ cs₀) :
    Standing src root top l cs := by
  induction h with
  | root => exact hroot
  | nested _ hps hp hg ih =>
    obtain ⟨file, header, hl, hwritten⟩ := hps.standing ih (Passage.mem_of_mem_effective hp)
    exact ⟨file, header, hl, fun d hd => hwritten.inside hg hd⟩
  | external _ _ _ _ hopens => exact hopens.standing

end

/-! Images of patterns -/

/-- The content that a pattern at a locus of grammar number `number` comes to in a file with the
header `h`. A nested grammar is the one that `origins` has under its number. -/
inductive Image (src : Sources) (origins : List Origin) (number : Nat) (l : Locus) (h : Header) :
    Pattern → Content → Prop
  | binary {op left right span left' right'} :
    Image src origins number l h left left' → Image src origins number l h right right' →
    Image src origins number l h (.binary op left right span) (.binary op left' right' span)
  | unary {modifier content span content'} :
    Image src origins number l h content content' →
    Image src origins number l h (.unary modifier content span) (.unary modifier content' span)
  | leaf {leaf span} : Image src origins number l h (.leaf leaf span) (.leaf leaf span)
  | named {holder name content span name' content'} :
    h.Means holder name name' → Image src origins number l h content content' →
    Image src origins number l h (.named holder name content span)
      (.named holder name' content' span)
  | ref {name span} : Image src origins number l h (.ref name span) (.ref name span)
  | parentRef {name span} :
    Image src origins number l h (.parentRef name span) (.parentRef name span)
  | data {type params span library} :
    h.libraryOf type = some library →
    Image src origins number l h (.data type params none span)
      (.data type library params none span)
  | dataExcept {type params except span library except'} :
    h.libraryOf type = some library → Image src origins number l h except except' →
    Image src origins number l h (.data type params (some except) span)
      (.data type library params (some except') span)
  | value {literal type span library} :
    h.libraryOf type = some library →
    Image src origins number l h (.value literal type span) (.value literal type library span)
  | external {href inherit span inner file nested} :
    src.Opens l href inherit inner file → origins[nested]? = some ⟨none, inner, file.components⟩ →
    Image src origins number l h (.external href inherit span) (.grammar nested span)
  | grammar {components span nested} :
    origins[nested]? = some ⟨some number, l, components⟩ →
    Image src origins number l h (.grammar components span) (.grammar nested span)

/-- A pattern of grammar number `number` has a grammar in it that is known by a number; it is
written there, or in another file. -/
inductive Holds (src : Sources) (origins : List Origin) (number : Nat) (l : Locus) (p : Pattern) :
    Nat → Prop
  | grammar {components span n} :
    .grammar components span ∈ p.preorder → origins[n]? = some ⟨some number, l, components⟩ →
    Holds src origins number l p n
  | external {href inherit span inner file n} :
    .external href inherit span ∈ p.preorder → src.Opens l href inherit inner file →
    origins[n]? = some ⟨none, inner, file.components⟩ → Holds src origins number l p n

/-- A pattern has a qualifier that the header of its file does not bind. -/
def Header.Lacks (h : Header) : Pattern → Prop
  | .named _ name _ _ => ∃ qualifier ∈ name.qualifiers, h.namespace? qualifier = none
  | .data type _ _ _ | .value _ type _ => h.libraryOf type = none
  | .external _ (some qualifier) _ => h.namespace? qualifier = none
  | _ => False

section

variable {src : Sources} {origins : List Origin} {number : Nat} {l : Locus} {h : Header}
  {p : Pattern} {c : Content}

/-- What a pattern is lowered to is its image. -/
theorem Lowers.image (hl : l.environment = h.environment) (hp : Lowers src origins number l p c) :
    Image src origins number l h p c := by
  induction hp with
  | binary _ _ ihLeft ihRight => exact .binary ihLeft ihRight
  | unary _ ih => exact .unary ih
  | leaf => exact .leaf
  | named hname _ ih => exact .named (Header.means_of_nameClass (hl ▸ hname)) ih
  | ref => exact .ref
  | parentRef => exact .parentRef
  | data hlibrary => exact .data (Header.libraryFor_iff.1 (hl ▸ hlibrary))
  | dataExcept hlibrary _ ih => exact .dataExcept (Header.libraryFor_iff.1 (hl ▸ hlibrary)) ih
  | value hlibrary => exact .value (Header.libraryFor_iff.1 (hl ▸ hlibrary))
  | external hopens ho => exact .external hopens ho
  | grammar ho => exact .grammar ho

theorem Header.Means.bound {holder : Holder} {name : Surface.NameClass} {name' : NameClass}
    (hname : h.Means holder name name') {qualifier : String} (hq : qualifier ∈ name.qualifiers) :
    (h.namespace? qualifier).isSome := by
  induction hname with
  | qualified hns =>
    cases List.mem_singleton.1 hq
    rw [hns]
    rfl
  | element | attr | anyName => cases hq
  | anyNameExcept _ ih => exact ih hq
  | nsName hns =>
    cases List.mem_singleton.1 hq
    rw [hns]
    rfl
  | nsNameExcept hns _ ih =>
    rcases List.mem_cons.1 hq with rfl | hq
    · rw [hns]
      rfl
    · exact ih hq
  | choice _ _ ihLeft ihRight => exact (List.mem_append.1 hq).elim ihLeft ihRight

/-- What has an image lacks no qualifier. -/
theorem Image.not_lacks (hl : l.environment = h.environment) (hp : Image src origins number l h p c) :
    ¬ h.Lacks p := by
  cases hp with
  | named hname _ =>
    rintro ⟨qualifier, hq, hnone⟩
    have hbound := hname.bound hq
    rw [hnone] at hbound
    cases hbound
  | data hlibrary => exact fun hnone => nomatch hnone.symm.trans hlibrary
  | dataExcept hlibrary _ => exact fun hnone => nomatch hnone.symm.trans hlibrary
  | value hlibrary => exact fun hnone => nomatch hnone.symm.trans hlibrary
  | @external _ inherit _ _ _ _ hopens _ =>
    cases inherit with
    | none => exact id
    | some qualifier =>
      obtain ⟨key, ns, -, -, hpasses, -⟩ := hopens
      rw [hl, Header.passes_iff] at hpasses
      exact fun hnone => nomatch hnone.symm.trans hpasses
  | _ => exact id

theorem Holds.mono {q : Pattern} (hsub : p.preorder ⊆ q.preorder) {n : Nat}
    (h : Holds src origins number l p n) : Holds src origins number l q n := by
  cases h with
  | grammar hm ho => exact .grammar (hsub hm) ho
  | external hm hopens ho => exact .external (hsub hm) hopens ho

/-- A grammar in a content is a grammar in the pattern that it comes from. -/
theorem Lowers.holds (hp : Lowers src origins number l p c) {n : Nat}
    (hn : Reference.start n ∈ c.references true) : Holds src origins number l p n := by
  induction hp with
  | binary _ _ ihLeft ihRight =>
    rcases List.mem_append.1 hn with hn | hn
    · refine (ihLeft hn).mono fun _ hm => ?_
      exact List.mem_cons_of_mem _ (List.mem_append_left _ hm)
    · refine (ihRight hn).mono fun _ hm => ?_
      exact List.mem_cons_of_mem _ (List.mem_append_right _ hm)
  | unary _ ih | named _ _ ih | dataExcept _ _ ih => exact (ih hn).mono (List.subset_cons_self _ _)
  | leaf | data | value => cases hn
  | ref | parentRef => cases List.mem_singleton.1 hn
  | external hopens ho =>
    cases List.mem_singleton.1 hn
    exact .external (List.mem_singleton.2 rfl) hopens ho
  | grammar ho =>
    cases List.mem_singleton.1 hn
    exact .grammar (List.mem_singleton.2 rfl) ho

end

end RelaxCompact

/-! Every site of an assembled schema holds the image of what is written there, and no schema is
assembled from patterns with a qualifier that their file does not bind. -/

namespace RelaxCompact

open Surface

/-! Chains of an operator -/

/-- A chain may be lowered operand by operand, and put together again at one place. -/
theorem Expand.lower_spine (op : Connective) {p : Pattern} (hp : p.Anchored) :
    ∃ first rest, p.spine op = first :: rest ∧ ∀ setup descend place,
      lower setup descend place p = do
        let c ← lower setup descend place first
        let cs ← rest.mapM (lower setup descend place)
        return cs.foldl (.binary op · · p.span) c := by
  have halone (p : Pattern) (setup : Setup) (descend : Descend) (place : Place) :
      lower setup descend place p = do
        let c ← lower setup descend place p
        let cs ← [].mapM (lower setup descend place)
        return cs.foldl (.binary op · · p.span) c := by
    simp only [List.mapM_nil, pure_bind, List.foldl_nil, bind_pure]
  fun_induction Pattern.spine op p with
  | case1 left right span ih =>
    obtain ⟨hspan, hleft, -⟩ := hp
    obtain ⟨first, rest, hspine, hlower⟩ := ih hleft
    refine ⟨first, rest ++ [right], by rw [hspine]; rfl, fun setup descend place => ?_⟩
    rw [lower, hlower]
    simp only [bind_assoc, pure_bind, List.mapM_append, List.mapM_cons, List.mapM_nil,
      List.foldl_append, List.foldl_cons, List.foldl_nil, Pattern.span, hspan]
  | case2 => exact ⟨_, [], rfl, halone _⟩
  | case3 => exact ⟨_, [], rfl, halone _⟩

theorem WrittenIn.anchored {cs : List Component} {d : Define} (h : WrittenIn cs d)
    (hcs : Component.AllAnchored cs) : d.pattern.Anchored := by
  induction h with
  | here hd => exact hcs.define hd
  | nested hd hg _ ih => exact ih ((hcs.define hd).part hg)

/-- So may every chain in a file that was read. -/
theorem Source.lower_operands {source : Source} {path : Text} {f : File}
    (h : source.parse path = .ok f) {d : Define} (hd : WrittenIn f.components d)
    {op : Connective} {left right : Pattern} {span : Span}
    (hp : .binary op left right span ∈ d.pattern.preorder) :
    ∃ first rest, (Pattern.binary op left right span).operands = first :: rest ∧
      ∀ setup descend place,
        Expand.lower setup descend place (.binary op left right span) = do
          let c ← Expand.lower setup descend place first
          let cs ← rest.mapM (Expand.lower setup descend place)
          return cs.foldl (.binary op · · span) c := by
  have hanchored := (hd.anchored (Source.parse_anchored h)).part hp
  obtain ⟨first, rest, hspine, hlower⟩ := Expand.lower_spine op hanchored
  refine ⟨first, rest, ?_, hlower⟩
  rwa [Pattern.spine, if_pos rfl] at hspine

/-! Sites -/

/-- The grammars of an assembled schema are grammars in the root. -/
theorem Assembled.Expands.grammarIn {a : Assembled} {src : Sources} {root : Origin}
    {origins : List Origin} (h : a.Expands src root origins) {n : Nat} (hn : a.Reaches n) :
    ∃ o, origins[n]? = some o ∧ GrammarIn src root.locus root.components o.locus o.components := by
  induction hn with
  | root => exact ⟨root, h.root, .root⟩
  | @nested k _ _ hn ih =>
    obtain ⟨o, ho, hin⟩ := ih
    obtain ⟨d, hd, site, hsite, hstart⟩ := hn
    obtain ⟨g, hg, hdefinition⟩ := Assembled.exists_of_definition? hd
    obtain ⟨-, ⟨ps, hps⟩, hacc⟩ := h.grammars _ g o hg ho
    have hmem : site ∈ g.sites k.name := by
      rw [Grammar.sites, hdefinition]
      exact hsite
    obtain ⟨p, hp, hrecorded⟩ := exists_of_forall₂ ((hacc ps hps).sites _).flip hmem
    have heffective := (List.mem_filter.1 hp).1
    cases hrecorded.content.holds hstart with
    | grammar hpart horigin => exact ⟨_, horigin, .nested hin hps heffective hpart⟩
    | external hpart hopens horigin =>
      exact ⟨_, horigin, .external hin hps heffective hpart hopens⟩

/-- A site records a passage and holds the image of what is written there, as the header of its file
says. -/
structure Passage.Depicted (src : Sources) (root : File) (top : Text) (origins : List Origin)
    (number : Nat) (p : Passage) (site : Site) : Prop where
  recorded : p.Recorded src origins number site
  image : ∃ file h, p.locus.In src root top file h ∧ WrittenIn file.components p.define ∧
    Image src origins number p.locus h p.define.pattern site.content

/-- The sites of all grammars of a schema depict the effective definitions of the grammars. -/
theorem Assembled.Expands.depicted {a : Assembled} {src : Sources} {root : File}
    {key : Option Text} {origins : List Origin}
    (h : a.Expands src (rootOrigin root key) origins) {n : Nat} (hn : a.Reaches n) {g : Grammar}
    (hg : a.grammars[n]? = some g) :
    ∃ o ps, origins[n]? = some o ∧ o.Unfolds src ps ∧ ∀ name,
      List.Forall₂ (Passage.Depicted src root (rootKey root key) origins n)
        ((Passage.effective ps).filter (·.name = name)) (g.sites name) := by
  obtain ⟨o, ho, hin⟩ := h.grammarIn hn
  obtain ⟨-, ⟨ps, hps⟩, hacc⟩ := h.grammars n g o hg ho
  refine ⟨o, ps, ho, hps, fun name => ?_⟩
  have hstanding := hin.standing (standing_root root (rootKey root key))
  refine List.forall₂_iff_get.2 ⟨((hacc ps hps).sites name).length_eq, fun i hi hi' => ?_⟩
  have hrecorded := ((hacc ps hps).sites name).get hi hi'
  have hmem := (List.mem_filter.1 (List.get_mem _ ⟨i, hi⟩)).1
  obtain ⟨file, header, hl, hwritten⟩ :=
    hps.standing hstanding (Passage.mem_of_mem_effective hmem)
  exact ⟨hrecorded, file, header, hl, hwritten, hrecorded.content.image hl.environment⟩

/-- In an assembled schema every site holds the image of the effective definition that it is for:
names and datatypes are resolved by the header of the file that the definition is written in. Where
an effective definition has a qualifier that this header does not bind, no assembly succeeds. -/
theorem assemble_images (setup : Expand.Setup) (root : File) (key : Option Text) (s : Fragments) :
    (∀ a t, assemble setup root key s = .ok a t →
      ∃ origins, a.Expands (s.sources setup.catalog) (rootOrigin root key) origins ∧
        ∀ n g, a.Reaches n → a.grammars[n]? = some g →
          ∃ o ps, origins[n]? = some o ∧ o.Unfolds (s.sources setup.catalog) ps ∧ ∀ name,
            List.Forall₂
              (Passage.Depicted (s.sources setup.catalog) root (rootKey root key) origins n)
              ((Passage.effective ps).filter (·.name = name)) (g.sites name)) ∧
    ∀ l cs ps p q file h,
      GrammarIn (s.sources setup.catalog) (rootOrigin root key).locus root.components l cs →
      Unfolds (s.sources setup.catalog) [] l 0 cs ps → p ∈ Passage.effective ps →
      p.locus.In (s.sources setup.catalog) root (rootKey root key) file h →
      q ∈ p.define.pattern.preorder → h.Lacks q → ∀ a t, assemble setup root key s ≠ .ok a t := by
  constructor
  · intro a t h
    obtain ⟨b, u, hb, ha, hroot, hsettled⟩ := assemble_books h
    have hexpands := hb.expands ha hroot hsettled
    exact ⟨b.origins, hexpands, fun n g hn hg => hexpands.depicted hn hg⟩
  · intro l cs ps p q file header hin hps hp hl hq hlacks a t h
    obtain ⟨b, u, hb, -, hroot, hsettled⟩ := assemble_books h
    obtain ⟨account, haccount, rfl, rfl⟩ := hb.account_of_grammarIn hsettled hroot hin
    obtain ⟨n, c, hc⟩ := hb.exists_lowers haccount (hsettled account haccount) hps hp hq
    exact (hc.image hl.environment).not_lacks hl.environment hlacks

namespace Qualified

/-! A fragment that is included into a namespace of the root. -/

def here : Span := ⟨[], 1, 1, 0, 0⟩

/-- `x = element e { attribute a { xsd:string } | string "" }` -/
def fragment : File where
  path := "f"
  declarations := []
  components :=
    [.define (.named "x") .single
      (.named .element (.name none "e" here)
        (.binary .choice
          (.named .attr (.name none "a" here) (.data ⟨some "xsd", "string"⟩ [] none here) here)
          (.value [] ⟨none, "string"⟩ here) here) here) none here]
  isPattern := false

/-- `namespace p = "u" start = element q:* - e { x } include "f" inherit = p`, with `qualifier` for
`q` -/
def root (qualifier : String) : File where
  path := "r"
  declarations := [.binding (some "p") (some "u") false here]
  components :=
    [.define .start .single
      (.named .element (.nsName qualifier (some (.name none "e" here)) here) (.ref "x" here) here)
      none here,
      .incl "f" (some "p") [] here]
  isPattern := false

def setup : Expand.Setup where
  catalog := { (Mapping.ofList []).catalog with canonicalize := fun href _ => .ok href }
  strict := true

def fetched : Fragments := { entries := ⟨[("f", .ok fragment)]⟩ }

/-- The names and libraries in a content. -/
def names : Content → List Text
  | .named _ name content _ => name.describe :: names content
  | .binary _ left right _ => names left ++ names right
  | .data _ library _ _ _ | .value _ _ library _ => [library]
  | _ => []

/-- Those at the sites of each name after an assembly. -/
def outcome : Option (List (DefineName × List (List Text))) :=
  match assemble setup (root "p") none fetched with
  | .ok a _ => some (a.root.definitions.entries.map fun e =>
    (e.1, e.2.sites.map fun site => names site.content))
  | .error _ _ => none

/-- The `q:*` of the root and the names of the fragment in the namespace of the root, but for the
attribute. -/
def resolved : List (DefineName × List (List Text)) :=
  [(.start, [["\x7bu\x7d* - (e)"]]),
    (.named "x", [["\x7bu\x7de", "a", schemaDatatypes, []]])]

/-- With the qualifier of the header every name is resolved; with another one no assembly
succeeds. -/
theorem assemble_images_qualified :
    (outcome = some resolved ∧
      ∃ a t, assemble setup (root "p") none fetched = .ok a t ∧
        ∃ origins, a.Expands (fetched.sources setup.catalog) (rootOrigin (root "p") none) origins ∧
          ∀ n g, a.Reaches n → a.grammars[n]? = some g →
            ∃ o ps, origins[n]? = some o ∧ o.Unfolds (fetched.sources setup.catalog) ps ∧
              ∀ name, List.Forall₂
                (Passage.Depicted (fetched.sources setup.catalog) (root "p")
                  (rootKey (root "p") none) origins n)
                ((Passage.effective ps).filter (·.name = name)) (g.sites name)) ∧
    ∀ a t, assemble setup (root "q") none fetched ≠ .ok a t := by
  constructor
  · have houtcome : outcome = some resolved := by decide +kernel
    refine ⟨houtcome, ?_⟩
    unfold outcome at houtcome
    cases h : assemble setup (root "p") none fetched with
    | ok a t => exact ⟨a, t, rfl, (assemble_images _ _ _ _).1 a t h⟩
    | error e t =>
      rw [h] at houtcome
      cases houtcome
  · have hu : (rootOrigin (root "q") none).locus.environment.namespaces.get? "p" =
        some ("u" : Text) := by decide +kernel
    have hopens : (fetched.sources setup.catalog).Opens (rootOrigin (root "q") none).locus "f"
        (some "p") ⟨Environment.ofDeclarations fragment.declarations "u", "f", []⟩ fragment :=
      ⟨"f", "u", rfl, rfl, hu, rfl⟩
    refine (assemble_images _ _ _ _).2 _ _ _ _ _ (root "q")
      ⟨(root "q").declarations, []⟩ .root (.define (.incl hopens .nil (.define .nil) .nil))
      List.mem_cons_self ⟨.inl ⟨rfl, rfl, rfl⟩, rfl, rfl⟩ List.mem_cons_self ?_
    exact ⟨"q", List.mem_cons_self, by decide +kernel⟩

end Qualified

end RelaxCompact
