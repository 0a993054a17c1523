import RelaxCompact.Proofs.Assembly.Sites
import RelaxCompact.Proofs.Lists

/-!
The grammars that a root file comes to: the root itself, and every grammar that is nested in a
definition which counts. After an assembly each of them is among the assembled grammars, and all the
sites of a name decide whether they combine, in whatever order they come.
-/

namespace RelaxCompact

open Surface

/-- The grammars in a grammar, each by the locus and the components that it is written with: itself,
and those that are nested in effective definitions of its grammars, whether they are written there
or in another file. -/
inductive GrammarIn (src : Sources) (root : Locus) (components : List Component) :
    Locus → List Component → Prop
  | root : GrammarIn src root components root components
  | nested {l cs ps p inner span} :
    GrammarIn src root components l cs → Unfolds src [] l 0 cs ps → p ∈ Passage.effective ps →
    .grammar inner span ∈ p.define.pattern.preorder → GrammarIn src root components p.locus inner
  | external {l cs ps p href inherit span inner file} :
    GrammarIn src root components l cs → Unfolds src [] l 0 cs ps → p ∈ Passage.effective ps →
    .external href inherit span ∈ p.define.pattern.preorder →
    src.Opens p.locus href inherit inner file →
    GrammarIn src root components inner file.components

/-- The parts of a pattern come to contents if the pattern does. -/
theorem Lowers.part {src : Sources} {origins : List Origin} {number : Nat} {l : Locus}
    {p q : Pattern} {c : Content} (h : Lowers src origins number l p c) (hq : q ∈ p.preorder) :
    ∃ d, Lowers src origins number l q d := by
  induction h with
  | binary hleft hright ihLeft ihRight =>
    rcases List.mem_cons.1 hq with rfl | hq
    · exact ⟨_, .binary hleft hright⟩
    · exact (List.mem_append.1 hq).elim ihLeft ihRight
  | unary hcontent ih =>
    rcases List.mem_cons.1 hq with rfl | hq
    · exact ⟨_, .unary hcontent⟩
    · exact ih hq
  | named hname hcontent ih =>
    rcases List.mem_cons.1 hq with rfl | hq
    · exact ⟨_, .named hname hcontent⟩
    · exact ih hq
  | dataExcept hlibrary hexcept ih =>
    rcases List.mem_cons.1 hq with rfl | hq
    · exact ⟨_, .dataExcept hlibrary hexcept⟩
    · exact ih hq
  | leaf =>
    cases List.mem_singleton.1 hq
    exact ⟨_, .leaf⟩
  | ref =>
    cases List.mem_singleton.1 hq
    exact ⟨_, .ref⟩
  | parentRef =>
    cases List.mem_singleton.1 hq
    exact ⟨_, .parentRef⟩
  | data hlibrary =>
    cases List.mem_singleton.1 hq
    exact ⟨_, .data hlibrary⟩
  | value hlibrary =>
    cases List.mem_singleton.1 hq
    exact ⟨_, .value hlibrary⟩
  | external hopens ho =>
    cases List.mem_singleton.1 hq
    exact ⟨_, .external hopens ho⟩
  | grammar ho =>
    cases List.mem_singleton.1 hq
    exact ⟨_, .grammar ho⟩

/-- Every passage that a grammar accounts for has a site. -/
theorem Grammar.Accounts.exists_site {src : Sources} {origins : List Origin} {number : Nat}
    {g : Grammar} {ps : List Passage} (h : g.Accounts src origins number ps) {p : Passage}
    (hp : p ∈ ps) : ∃ site, p.Recorded src origins number site := by
  obtain ⟨site, -, hr⟩ := exists_of_forall₂ (h.sites p.name)
    (List.mem_filter.2 ⟨hp, decide_eq_true rfl⟩)
  exact ⟨site, hr⟩

namespace Books

variable {catalog : Catalog} {src : Sources} {b : Ledger} {s : Expansion}

/-- The grammar that an account is about. -/
theorem exists_grammar (h : Books catalog src b s) {account : Account} (ha : account ∈ b) :
    ∃ (n : Nat) (g : Grammar), b[n]? = some account ∧ s.grammars[n]? = some g ∧
      g.Accounts src b.origins n account.taken := by
  obtain ⟨n, hn⟩ := List.mem_iff_getElem?.1 ha
  obtain ⟨hlt, -⟩ := List.getElem?_eq_some_iff.1 hn
  obtain ⟨g, hg⟩ : ∃ g, s.grammars[n]? = some g := ⟨_, List.getElem?_eq_getElem (h.length ▸ hlt)⟩
  exact ⟨n, g, hn, hg, (h.accounts n account g hn hg).2⟩

/-- The account of a grammar. -/
theorem exists_account (h : Books catalog src b s) {n : Nat} {g : Grammar}
    (hg : s.grammars[n]? = some g) :
    ∃ account : Account, b[n]? = some account ∧ g.Accounts src b.origins n account.taken := by
  obtain ⟨hlt, -⟩ := List.getElem?_eq_some_iff.1 hg
  obtain ⟨account, hn⟩ : ∃ account, b[n]? = some account :=
    ⟨_, List.getElem?_eq_getElem (h.length ▸ hlt)⟩
  exact ⟨account, hn, (h.accounts n account g hn hg).2⟩

/-- Grammars by their number in the books, and by their account. -/
theorem mem_of_origin {n : Nat} {o : Origin} (h : b.origins[n]? = some o) :
    ∃ account ∈ b, account.origin = o := by
  obtain ⟨account, ha, he⟩ := Option.map_eq_some_iff.1 (List.getElem?_map.symm.trans h)
  exact ⟨account, List.mem_of_getElem? ha, he⟩

/-- The parts of an effective definition of a settled grammar come to contents. -/
theorem exists_lowers (h : Books catalog src b s) {account : Account} (ha : account ∈ b)
    (hsettled : account.Settled src) {ps : List Passage} (hps : account.origin.Unfolds src ps)
    {p : Passage} (hp : p ∈ Passage.effective ps) {q : Pattern}
    (hq : q ∈ p.define.pattern.preorder) : ∃ n c, Lowers src b.origins n p.locus q c := by
  obtain ⟨n, g, -, -, hacc⟩ := h.exists_grammar ha
  obtain ⟨qs, hqs, htaken⟩ := hsettled
  rw [htaken, hqs.unique hps] at hacc
  obtain ⟨site, hsite⟩ := hacc.exists_site hp
  obtain ⟨c, hc⟩ := hsite.content.part hq
  exact ⟨n, c, hc⟩

/-- When all grammars are settled, every grammar in the root has an account. -/
theorem account_of_grammarIn (h : Books catalog src b s)
    (hsettled : ∀ account ∈ b, account.Settled src) {root : Origin}
    (hroot : b.origins[0]? = some root) {l : Locus} {cs : List Component}
    (hin : GrammarIn src root.locus root.components l cs) :
    ∃ account ∈ b, account.origin.locus = l ∧ account.origin.components = cs := by
  induction hin with
  | root =>
    obtain ⟨account, ha, rfl⟩ := mem_of_origin hroot
    exact ⟨account, ha, rfl, rfl⟩
  | nested _ hps hp hq ih =>
    obtain ⟨account, ha, rfl, rfl⟩ := ih
    obtain ⟨n, c, hc⟩ := h.exists_lowers ha (hsettled _ ha) hps hp hq
    cases hc with
    | grammar ho =>
      obtain ⟨account', ha', he⟩ := mem_of_origin ho
      exact ⟨account', ha', by rw [he], by rw [he]⟩
  | external _ hps hp hq hopens ih =>
    obtain ⟨account, ha, rfl, rfl⟩ := ih
    obtain ⟨n, c, hc⟩ := h.exists_lowers ha (hsettled _ ha) hps hp hq
    cases hc with
    | external hopens' ho =>
      obtain ⟨rfl, rfl⟩ := hopens'.unique hopens
      obtain ⟨account', ha', he⟩ := mem_of_origin ho
      exact ⟨account', ha', by rw [he], by rw [he]⟩

end Books

end RelaxCompact

/-! Which definitions combine. Sites are compared one by one with the first of their name, and yet
it is all the sites of a name that decide. -/

namespace RelaxCompact

open Surface

/-- The operators at the effective definitions of a name. -/
def Passage.operators (ps : List Passage) (name : DefineName) : List Assignment :=
  ((effective ps).filter fun p => p.name = name).map fun p => p.define.operator

/-- The operators of sites are those of the passages that they record. -/
theorem Grammar.Accounts.operators {src : Sources} {origins : List Origin} {number : Nat}
    {g : Grammar} {ps : List Passage}
    (h : g.Accounts src origins number (Passage.effective ps)) (name : DefineName) :
    (g.sites name).map Site.operator = Passage.operators ps name := by
  have hsites := h.sites name
  unfold Passage.operators
  generalize (Passage.effective ps).filter _ = qs at hsites ⊢
  generalize g.sites name = sites at hsites ⊢
  induction hsites with
  | nil => rfl
  | cons hr _ ih => rw [List.map_cons, List.map_cons, hr.operator, ih]

theorem Grammar.Combined.compatible {g : Grammar} (h : g.Combined) {name : DefineName}
    (hname : g.sites name ≠ []) : Compatible ((g.sites name).map Site.operator) := by
  unfold Grammar.sites at hname ⊢
  cases hd : g.definitions.get? name with
  | none =>
    rw [hd] at hname
    exact absurd rfl hname
  | some d => exact h name d hd

section

variable {setup : Expand.Setup} {root : File} {key : Option Text} {s t : Fragments} {a : Assembled}

/-- Every grammar of an assembled schema combines its definitions. -/
theorem assemble_combined (h : assemble setup root key s = .ok a t) :
    ∀ g ∈ a.grammars, g.Combined := by
  obtain ⟨budget, label, u, hu, ha⟩ := assemble_ok h
  have honward := Expand.expandFile_advances setup budget _ _ _ _ _ hu
  rw [ha]
  refine honward.combined fun g hg => ?_
  cases List.mem_singleton.1 hg
  exact fun _ _ hd => nomatch hd

/-- After an assembly the effective definitions of every grammar in the root combine. -/
theorem compatible_of_grammarIn (h : assemble setup root key s = .ok a t) {l : Locus}
    {cs : List Component}
    (hin : GrammarIn (s.sources setup.catalog) (rootOrigin root key).locus root.components l cs) :
    ∃ ps, Unfolds (s.sources setup.catalog) [] l 0 cs ps ∧
      ∀ name, Passage.operators ps name ≠ [] → Compatible (Passage.operators ps name) := by
  obtain ⟨b, u, hb, ha, hroot, hsettled⟩ := assemble_books h
  obtain ⟨account, haccount, rfl, rfl⟩ := hb.account_of_grammarIn hsettled hroot hin
  obtain ⟨ps, hps, htaken⟩ := hsettled account haccount
  obtain ⟨n, g, -, hg, hacc⟩ := hb.exists_grammar haccount
  rw [htaken] at hacc
  rw [← ha] at hg
  have hcombined := assemble_combined h g (List.mem_of_getElem? hg)
  refine ⟨ps, hps, fun name hname => ?_⟩
  rw [← hacc.operators] at hname ⊢
  exact hcombined.compatible fun hnil => hname (congrArg (List.map Site.operator) hnil)

end

/-- After an assembly every name of every grammar has one site, or several that all use `|=` or all
use `&=`; and so it is with the effective definitions of every grammar in the root. Where a name of
such a grammar has several effective definitions that use neither all `|=` nor all `&=`, in whatever
order they are taken, no assembly succeeds. -/
theorem assemble_combines (setup : Expand.Setup) (root : File) (key : Option Text)
    (s : Fragments) :
    (∀ a t, assemble setup root key s = .ok a t →
      (∀ g ∈ a.grammars, ∀ name, g.sites name ≠ [] →
        Compatible ((g.sites name).map Site.operator)) ∧
      ∀ l cs, GrammarIn (s.sources setup.catalog) (rootOrigin root key).locus root.components l cs →
        ∃ ps, Unfolds (s.sources setup.catalog) [] l 0 cs ps ∧
          ∀ name, Passage.operators ps name ≠ [] → Compatible (Passage.operators ps name)) ∧
    ∀ l cs ps name (operators : List Assignment),
      GrammarIn (s.sources setup.catalog) (rootOrigin root key).locus root.components l cs →
      Unfolds (s.sources setup.catalog) [] l 0 cs ps →
      operators.Perm (Passage.operators ps name) → 2 ≤ operators.length →
      (¬ ∀ o ∈ operators, o = .choice) → (¬ ∀ o ∈ operators, o = .interleave) →
      ∀ a t, assemble setup root key s ≠ .ok a t := by
  constructor
  · intro a t h
    refine ⟨fun g hg name hname => ?_, fun l cs hin => compatible_of_grammarIn h hin⟩
    exact (assemble_combined h g hg).compatible hname
  · intro l cs ps name operators hin hps hperm hseveral hchoice hinterleave a t h
    obtain ⟨qs, hqs, hcompatible⟩ := compatible_of_grammarIn h hin
    rw [hqs.unique hps] at hcompatible
    rw [hperm.length_eq] at hseveral
    have hne : Passage.operators ps name ≠ [] := by
      intro hnil
      rw [hnil] at hseveral
      cases hseveral
    have hone := (hcompatible name hne).length_eq_one
      (fun hall => hchoice fun o ho => hall o (hperm.mem_iff.1 ho))
      fun hall => hinterleave fun o ho => hall o (hperm.mem_iff.1 ho)
    omega

namespace Spread

/-! A name whose definitions are spread over a fragment, which is included twice, and a division. -/

def here : Span := ⟨[], 1, 1, 0, 0⟩

/-- `x |= empty` -/
def fragment : File where
  path := "f"
  declarations := []
  components := [.define (.named "x") .choice (.leaf .empty here) none here]
  isPattern := false

/-- `include "f" include "f" div { x … text }` -/
def root (operator : Assignment) : File where
  path := "r"
  declarations := []
  components :=
    [.incl "f" none [] here, .incl "f" none [] here,
      .div [.define (.named "x") operator (.leaf .text here) none here] here]
  isPattern := false

def setup : Expand.Setup where
  catalog := { (Mapping.ofList []).catalog with canonicalize := fun href _ => .ok href }
  strict := true

def fetched : Fragments := { entries := ⟨[("f", .ok fragment)]⟩ }

/-- What the definitions of a root file come to. -/
def passages (operator : Assignment) : List Passage :=
  let included : Passage :=
    ⟨⟨{}, "f", [0]⟩, ⟨.named "x", .choice, .leaf .empty here, none, here⟩, [[]]⟩
  [included, included,
    ⟨⟨{}, "r", [0, 2]⟩, ⟨.named "x", operator, .leaf .text here, none, here⟩, []⟩]

theorem unfolds (operator : Assignment) :
    Unfolds (fetched.sources setup.catalog) [] (rootOrigin (root operator) none).locus 0
      (root operator).components (passages operator) := by
  have hopens : (fetched.sources setup.catalog).Opens (rootOrigin (root operator) none).locus "f"
      none ⟨{}, "f", []⟩ fragment :=
    ⟨"f", [], rfl, rfl, rfl, rfl⟩
  exact .incl hopens .nil (.define .nil)
    (.incl hopens .nil (.define .nil) (.div (.define .nil) .nil))

/-- The operators of `x` after an assembly. -/
def operators (a : Assembled) : List Assignment := (a.root.sites (.named "x")).map Site.operator

/-- With `|=` in the division the two definitions combine, and with `&=` no assembly succeeds. -/
theorem assemble_combines_spread :
    (∃ a t, assemble setup (root .choice) none fetched = .ok a t ∧
      ∀ g ∈ a.grammars, ∀ name, g.sites name ≠ [] →
        Compatible ((g.sites name).map Site.operator)) ∧
    ∀ a t, assemble setup (root .interleave) none fetched ≠ .ok a t := by
  constructor
  · have hoperators : (Run.ended (assemble setup (root .choice) none fetched)).toOption.map
        operators = some [.choice, .choice] := by decide +kernel
    obtain ⟨a, t, h, -⟩ := Run.exists_ended_of_map hoperators
    exact ⟨a, t, h, ((assemble_combines _ _ _ _).1 a t h).1⟩
  · exact (assemble_combines _ _ _ _).2 _ _ _ (.named "x") [.interleave, .choice] .root
      (unfolds .interleave) (by decide +kernel) (by decide) (by decide) (by decide)

end Spread

end RelaxCompact
