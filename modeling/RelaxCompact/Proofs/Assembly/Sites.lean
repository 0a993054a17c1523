import RelaxCompact.Proofs.Assembly.Run

/-!
Every grammar of an assembled schema holds exactly the definitions that count in the reference
expansion of what it is assembled from.
-/

namespace RelaxCompact

open Surface

namespace Expand

section

variable {catalog : Catalog} {src : Sources} {number : Nat} {l : Locus} {s t u : Expansion}

/-- A pattern that comes to its content by itself. -/
theorem Lowered.keep {p : Pattern} {c : Content}
    (h : ∀ origins, Lowers src origins number l p c) :
    Lowered catalog src number l p c s s := by
  intro b hb _
  refine ⟨[], by simp, ?_, .refl s, h _⟩
  rw [List.append_nil]
  exact hb

/-- A pattern that comes to its content if a part of it does. -/
theorem Lowered.wrap {p p' : Pattern} {c c' : Content} (h : Lowered catalog src number l p c s t)
    (hw : ∀ origins, Lowers src origins number l p c → Lowers src origins number l p' c') :
    Lowered catalog src number l p' c' s t := by
  intro b hb hf
  obtain ⟨new, hnew, ht, hst, hc⟩ := h b hb hf
  exact ⟨new, hnew, ht, hst, hw _ hc⟩

/-- The operands of a connective are lowered one after the other. -/
theorem Lowered.binary {p q : Pattern} {c d : Content}
    (hp : Lowered catalog src number l p c s u) (hq : Lowered catalog src number l q d u t)
    (op : Connective) (span : Span) :
    Lowered catalog src number l (.binary op p q span) (.binary op c d span) s t := by
  intro b hb hf
  obtain ⟨new, hnew, hu, hst, hc⟩ := hp b hb hf
  obtain ⟨new', hnew', ht, hst', hd⟩ := hq _ hu (hst.stack ▸ hf)
  rw [List.append_assoc] at ht hd
  refine ⟨new ++ new', List.forall_mem_append.2 ⟨hnew, hnew'⟩, ht, hst.trans hst', .binary ?_ hd⟩
  rw [← List.append_assoc, Ledger.origins_append]
  exact hc.append _

/-- A nested grammar gets an account of its own. -/
theorem Lowered.grammar {setup : Setup} {descend : Descend} {place : Place}
    {components : List Component} {label : Text} {n : Nat} (span : Span)
    (hbody : ∀ m u v,
      expandAll setup descend { place with grammar := m, chain := [] } 0 components u = .ok () v →
      Expanded catalog src m place.locus 0 components u v ∧
        Noted catalog src m place.locus components u v)
    (h : isolated label (some place.grammar) (fun m =>
      expandAll setup descend { place with grammar := m, chain := [] } 0 components) s =
        .ok n t) :
    Lowered catalog src place.grammar place.locus (.grammar components span) (.grammar n span)
      s t := by
  intro b hb hf
  obtain ⟨new, hnew, ht, hst, ho⟩ :=
    isolated_books (o := ⟨some place.grammar, place.locus, components⟩) h (hbody n) hb hf
  exact ⟨new, hnew, ht, hst, .grammar ho⟩

theorem div_expanded {setup : Setup} {descend : Descend} {place : Place} {i : Nat}
    {components : List Component} {span : Span} (hl : place.locus = l.part i)
    (hcomponents : ∀ inner s t, expandAll setup descend inner 0 components s = .ok () t →
      Expanded catalog src inner.grammar inner.locus 0 components s t)
    (h : expand setup descend place (.div components span) s = .ok () t) :
    Expanded catalog src place.grammar l i [.div components span] s t := by
  intro b covers hb hg hn hf
  obtain ⟨inner, u, hopen, h₁⟩ := Run.bind_ok h
  obtain ⟨hu, hsteady, hlocus, hgrammar⟩ := openScope_books hopen hb
  have hfu : inner.locus.file ∈ u.stack := by
    rw [hlocus, hl, hsteady.stack]
    exact hf
  obtain ⟨ps, new, hps, hnew, ht, hst⟩ := hcomponents _ _ _ h₁ b covers hu
    (hg.of_spans hsteady.frames) (hgrammar ▸ hn) hfu
  rw [hlocus, hl] at hps
  rw [hgrammar] at ht
  refine ⟨ps ++ [], new, .div hps .nil, hnew, ?_, hsteady.trans hst⟩
  rw [List.append_nil]
  exact ht

end

/-- Lowering patterns and expanding components of one file keeps the books if other files are
expanded so. -/
theorem expansion_expanded {setup : Setup} {descend : Descend} {src : Sources}
    (hd : Faithful setup.catalog src descend) :
    (∀ place p s t c, lower setup descend place p s = .ok c t →
      Lowered setup.catalog src place.grammar place.locus p c s t) ∧
    (∀ place i cs s t, expandAll setup descend place i cs s = .ok () t →
      Expanded setup.catalog src place.grammar place.locus i cs s t) ∧
    ∀ place c l i, place.locus = Locus.part l i → ∀ s t, expand setup descend place c s = .ok () t →
      Expanded setup.catalog src place.grammar l i [c] s t := by
  refine lower.mutual_induct_unfolding setup descend
    (fun place p step => ∀ s t c, step s = .ok c t →
      Lowered setup.catalog src place.grammar place.locus p c s t)
    (fun place i cs step => ∀ s t, step s = .ok () t →
      Expanded setup.catalog src place.grammar place.locus i cs s t)
    (fun place c step => ∀ l i, place.locus = Locus.part l i → ∀ s t, step s = .ok () t →
      Expanded setup.catalog src place.grammar l i [c] s t)
    ?binary ?unary ?leaf ?named ?ref ?parentRef ?data ?dataExcept ?value ?external ?grammar
    ?define ?div ?incl ?nil ?cons
  case binary =>
    intro place op left right span ihLeft ihRight s t c h
    obtain ⟨c₁, u, hLeft, h₁⟩ := Run.bind_ok h
    obtain ⟨c₂, v, hRight, h₂⟩ := Run.bind_ok h₁
    cases h₂
    exact (ihLeft _ _ _ hLeft).binary (ihRight _ _ _ hRight) op span
  case unary =>
    intro place modifier content span ih s t c h
    obtain ⟨c₁, u, hContent, h₁⟩ := Run.bind_ok h
    cases h₁
    exact (ih _ _ _ hContent).wrap fun _ => .unary
  case leaf =>
    intro place leaf span s t c h
    cases h
    exact .keep fun _ => .leaf
  case named =>
    intro place holder name content span ih s t c h
    obtain ⟨name', u, hname, h₁⟩ := Run.bind_ok h
    obtain ⟨hbound, rfl⟩ := schema_ok hname
    obtain ⟨c₁, v, hContent, h₂⟩ := Run.bind_ok h₁
    cases h₂
    exact (ih _ _ _ hContent).wrap fun _ => .named hbound
  case ref =>
    intro place name span s t c h
    cases h
    exact .keep fun _ => .ref
  case parentRef =>
    intro place name span s t c h
    cases h
    exact .keep fun _ => .parentRef
  case data =>
    intro place type params span s t c h
    obtain ⟨library, u, hlibrary, h₁⟩ := Run.bind_ok h
    obtain ⟨hbound, rfl⟩ := schema_ok hlibrary
    cases h₁
    exact .keep fun _ => .data hbound
  case dataExcept =>
    intro place type params except span ih s t c h
    obtain ⟨library, u, hlibrary, h₁⟩ := Run.bind_ok h
    obtain ⟨hbound, rfl⟩ := schema_ok hlibrary
    obtain ⟨c₁, v, hExcept, h₂⟩ := Run.bind_ok h₁
    cases h₂
    exact (ih _ _ _ hExcept).wrap fun _ => .dataExcept hbound
  case value =>
    intro place literal type span s t c h
    obtain ⟨library, u, hlibrary, h₁⟩ := Run.bind_ok h
    obtain ⟨hbound, rfl⟩ := schema_ok hlibrary
    cases h₁
    exact .keep fun _ => .value hbound
  case external =>
    intro place href inherit span s t c h
    obtain ⟨n, u, hexternal, h₁⟩ := Run.bind_ok h
    cases h₁
    exact external_lowered hd hexternal
  case grammar =>
    intro place components span ih s t c h
    obtain ⟨n, u, hisolated, h₁⟩ := Run.bind_ok h
    cases h₁
    exact .grammar span (fun m u v hv =>
      ⟨ih m u v hv, expandAll_noted hd.advances hd.notes _ _ _ _ _ hv⟩) hisolated
  case define =>
    intro place name operator pattern documentation span ih l i hl s t h
    exact register_expanded hl ih h
  case div =>
    intro place components span ih l i hl s t h
    exact div_expanded hl ih h
  case incl =>
    intro place href inherit overrides span ih l i hl s t h
    exact incl_expanded hd hl ih h
  case nil =>
    intro place i s t h
    cases h
    exact .nil _ _ _ _ _ _
  case cons =>
    intro place i c cs ihFirst ihRest s t h
    obtain ⟨_, u, hFirst, hRest⟩ := Run.bind_ok h
    exact (ihFirst _ _ (place.locus_part i) _ _ hFirst).cons (ihRest _ _ hRest)

theorem expandAll_expanded {setup : Setup} {descend : Descend} {src : Sources}
    (hd : Faithful setup.catalog src descend) (place : Place) (i : Nat) (cs : List Component)
    (s t : Expansion) (h : expandAll setup descend place i cs s = .ok () t) :
    Expanded setup.catalog src place.grammar place.locus i cs s t :=
  (expansion_expanded hd).2.1 place i cs s t h

/-- Files are expanded so to any depth. -/
theorem expandFile_faithful (setup : Setup) (src : Sources) (budget : Nat) :
    Faithful setup.catalog src (expandFile setup budget) := by
  refine ⟨expandFile_advances setup budget, expandFile_noted setup src budget, ?_⟩
  induction budget with
  | zero =>
    intro place cs s t h
    exact (Run.not_throw_ok h).elim
  | succ budget ih =>
    intro place cs s t h
    exact expandAll_expanded
      ⟨expandFile_advances setup budget, expandFile_noted setup src budget, ih⟩
      place 0 cs s t h

end Expand

/-- An assembled schema comes from a root by reference expansion: each of its grammars has an
origin, and holds exactly the passages that count in the expansion of this origin. A grammar inside
another is found through the contents of its sites. -/
structure Assembled.Expands (src : Sources) (root : Origin) (origins : List Origin)
    (a : Assembled) : Prop where
  length : origins.length = a.grammars.length
  root : origins[0]? = some root
  grammars : ∀ (n : Nat) (g : Grammar) (o : Origin), a.grammars[n]? = some g →
    origins[n]? = some o →
    g.parent = o.parent ∧ (∃ ps, o.Unfolds src ps) ∧
      ∀ ps, o.Unfolds src ps → g.Accounts src origins n (Passage.effective ps)

/-- What a root file is assembled from. -/
def rootOrigin (root : File) (key : Option Text) : Origin :=
  ⟨none, ⟨Environment.ofDeclarations root.declarations, rootKey root key, []⟩, root.components⟩

theorem assemble_ok {setup : Expand.Setup} {root : File} {key : Option Text} {s t : Fragments}
    {a : Assembled} (h : assemble setup root key s = .ok a t) :
    ∃ (budget : Nat) (label : Text) (u : Expansion),
      Expand.expandFile setup budget
          { grammar := 0
            environment := Environment.ofDeclarations root.declarations
            file := rootKey root key }
          root.components
          { source := s, stack := [rootKey root key], grammars := [{ label, parent := none }] } =
        .ok () u ∧
      a.grammars = u.grammars := by
  unfold assemble at h
  dsimp only at h
  split at h
  · cases h
  · rename_i u hu
    refine ⟨_, _, u, hu, ?_⟩
    cases h
    rfl

/-- In the end the books agree with the assembled grammars, and every grammar is finished. -/
theorem assemble_ledger {setup : Expand.Setup} {root : File} {key : Option Text} {s t : Fragments}
    {a : Assembled} (h : assemble setup root key s = .ok a t) :
    ∃ (b : Ledger) (u : Expansion), Books setup.catalog (s.sources setup.catalog) b u ∧
      a.grammars = u.grammars ∧ b.origins[0]? = some (rootOrigin root key) ∧
      ∀ account ∈ b, account.Finished (s.sources setup.catalog) := by
  obtain ⟨budget, label, u, hu, ha⟩ := assemble_ok h
  have hfaithful := Expand.expandFile_faithful setup (s.sources setup.catalog) budget
  obtain ⟨ps, new, hps, hnew, hb, -⟩ := hfaithful.expands _ _ _ _ hu
    [⟨rootOrigin root key, [], []⟩] [] (Books.start rfl rfl rfl) .nil Nat.zero_lt_one
    List.mem_cons_self
  have hcoherent : (rootOrigin root key).Coherent (s.sources setup.catalog) :=
    (hfaithful.notes _ _ _ _ hu).coherent rfl List.mem_cons_self
  refine ⟨_, u, hb, ha, rfl, fun account haccount => ?_⟩
  rcases List.mem_cons.1 haccount with rfl | haccount
  · exact ⟨⟨ps, hps, List.nil_append _⟩, hcoherent⟩
  · exact hnew account haccount

/-- In the end the books agree with the assembled grammars, and every grammar is settled. -/
theorem assemble_books {setup : Expand.Setup} {root : File} {key : Option Text} {s t : Fragments}
    {a : Assembled} (h : assemble setup root key s = .ok a t) :
    ∃ (b : Ledger) (u : Expansion), Books setup.catalog (s.sources setup.catalog) b u ∧
      a.grammars = u.grammars ∧ b.origins[0]? = some (rootOrigin root key) ∧
      ∀ account ∈ b, account.Settled (s.sources setup.catalog) := by
  obtain ⟨b, u, hb, ha, hroot, hfinished⟩ := assemble_ledger h
  exact ⟨b, u, hb, ha, hroot, fun account haccount => (hfinished account haccount).settled⟩

/-- Books that agree with the grammars, all of which are settled, tell where the grammars come
from. -/
theorem Books.expands {catalog : Catalog} {src : Sources} {b : Ledger} {u : Expansion}
    {root : Origin} {a : Assembled} (hb : Books catalog src b u) (ha : a.grammars = u.grammars)
    (hroot : b.origins[0]? = some root) (hsettled : ∀ account ∈ b, account.Settled src) :
    a.Expands src root b.origins := by
  refine ⟨?length, hroot, fun n g o hg ho => ?grammars⟩
  case length =>
    rw [ha, ← hb.length]
    exact Ledger.length_origins _
  case grammars =>
    rw [ha] at hg
    obtain ⟨account, haccount, rfl⟩ := Option.map_eq_some_iff.1 (List.getElem?_map.symm.trans ho)
    obtain ⟨hparent, hacc⟩ := hb.accounts n account g haccount hg
    obtain ⟨qs, hqs, htaken⟩ := hsettled account (List.mem_of_getElem? haccount)
    rw [htaken] at hacc
    refine ⟨hparent, ⟨qs, hqs⟩, fun rs hrs => ?_⟩
    rw [hrs.unique hqs]
    exact hacc

/-- The sites of every name of every grammar are the effective occurrences in the reference
expansion of the grammar, in order. -/
theorem assemble_expands {setup : Expand.Setup} {root : File} {key : Option Text} {s t : Fragments}
    {a : Assembled} (h : assemble setup root key s = .ok a t) :
    ∃ origins, a.Expands (s.sources setup.catalog) (rootOrigin root key) origins := by
  obtain ⟨b, u, hb, ha, hroot, hsettled⟩ := assemble_books h
  exact ⟨b.origins, hb.expands ha hroot hsettled⟩

namespace Reuse

/-! A fragment included with an override block, and then once more without. -/

def here : Span := ⟨[], 1, 1, 0, 0⟩

/-- `x |= empty y |= grammar { x = empty }` -/
def fragment : File where
  path := "f"
  declarations := []
  components :=
    [.define (.named "x") .choice (.leaf .empty here) none here,
      .define (.named "y") .choice
        (.grammar [.define (.named "x") .single (.leaf .empty here) none here] here) none here]
  isPattern := false

/-- `include "f" { x |= text } include "f"` -/
def root : File where
  path := "r"
  declarations := []
  components :=
    [.incl "f" none [.define (.named "x") .choice (.leaf .text here) none here] here,
      .incl "f" none [] here]
  isPattern := false

def setup : Expand.Setup where
  catalog := { (Mapping.ofList []).catalog with canonicalize := fun href _ => .ok href }
  strict := true

def fetched : Fragments := { entries := ⟨[("f", .ok fragment)]⟩ }

/-- The sites of each name of each grammar. -/
def layout (a : Assembled) : List (List (DefineName × List Occurrence)) :=
  a.grammars.map fun g => g.definitions.entries.map fun e => (e.1, e.2.sites.map Site.occurrence)

/-- The fragment's `x` is suppressed the first time and counts the second time; its `y` counts once;
the `x` of the nested grammar is never suppressed. -/
theorem assemble_expands_reuse :
    ∃ a t, assemble setup root none fetched = .ok a t ∧
      layout a =
        [[(.named "x", [⟨"r", [0, 0]⟩, ⟨"f", [0]⟩]), (.named "y", [⟨"f", [1]⟩])],
          [(.named "x", [⟨"f", [0, 1]⟩])]] ∧
      ∃ origins, a.Expands (fetched.sources setup.catalog) (rootOrigin root none) origins := by
  have houtcome : (Run.ended (assemble setup root none fetched)).toOption.map layout =
      some [[(.named "x", [⟨"r", [0, 0]⟩, ⟨"f", [0]⟩]), (.named "y", [⟨"f", [1]⟩])],
        [(.named "x", [⟨"f", [0, 1]⟩])]] := by decide +kernel
  obtain ⟨a, t, h, hlayout⟩ := Run.exists_ended_of_map houtcome
  exact ⟨a, t, h, hlayout, assemble_expands h⟩

end Reuse

end RelaxCompact
