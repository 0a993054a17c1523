import RelaxCompact.Proofs.Assembly.Grammars

/-!
In which environment definitions are resolved. A grammar takes each definition only once, along
whatever path it comes to it first; that makes no difference, as all paths to a file lead to one
environment.
-/

namespace RelaxCompact

open Surface

theorem Passage.mem_of_mem_fresh {seen : List Occurrence} {ps : List Passage} {p : Passage}
    (h : p ∈ fresh seen ps) : p ∈ ps := by
  induction ps generalizing seen with
  | nil => exact h
  | cons q ps ih =>
    rw [fresh] at h
    split at h
    · exact List.mem_cons_of_mem _ (ih h)
    · rcases List.mem_cons.1 h with rfl | h
      · exact List.mem_cons_self
      · exact List.mem_cons_of_mem _ (ih h)

theorem Passage.mem_of_mem_effective {ps : List Passage} {p : Passage} (h : p ∈ effective ps) :
    p ∈ ps :=
  (List.mem_filter.1 (mem_of_mem_fresh h)).1

/-- A definition stands in the file of its grammar, or in a fragment that the grammar includes. -/
theorem Unfolds.written {src : Sources} {covers : List (List DefineName)} {l : Locus} {i : Nat}
    {cs : List Component} {ps : List Passage} (h : Unfolds src covers l i cs ps) {p : Passage}
    (hp : p ∈ ps) :
    ∃ inner, (inner = l ∨ Includes src l cs inner) ∧ p.locus.file = inner.file ∧
      p.locus.environment = inner.environment := by
  induction h with
  | nil => cases hp
  | define _ ih =>
    rcases List.mem_cons.1 hp with rfl | hp
    · exact ⟨_, .inl rfl, rfl, rfl⟩
    · obtain ⟨inner, hi, hwritten⟩ := ih hp
      exact ⟨inner, hi.imp_right (·.mono (List.subset_cons_self _ _)), hwritten⟩
  | div _ _ ihInner ih =>
    rcases List.mem_append.1 hp with hp | hp
    · obtain ⟨inner, rfl | hi, hwritten⟩ := ihInner hp
      · exact ⟨_, .inl rfl, hwritten⟩
      · exact ⟨inner, .inr (.div List.mem_cons_self (hi.moved rfl rfl)), hwritten⟩
    · obtain ⟨inner, hi, hwritten⟩ := ih hp
      exact ⟨inner, hi.imp_right (·.mono (List.subset_cons_self _ _)), hwritten⟩
  | incl hopens _ _ _ ihOverrides ihFragment ih =>
    rcases List.mem_append.1 hp with hp | hp
    · rcases List.mem_append.1 hp with hp | hp
      · obtain ⟨inner, rfl | hi, hwritten⟩ := ihOverrides hp
        · exact ⟨_, .inl rfl, hwritten⟩
        · exact ⟨inner, .inr (.overrides List.mem_cons_self (hi.moved rfl rfl)), hwritten⟩
      · obtain ⟨inner, rfl | hi, hwritten⟩ := ihFragment hp
        · exact ⟨_, .inr (.here List.mem_cons_self hopens), hwritten⟩
        · exact ⟨inner, .inr (.fragment List.mem_cons_self hopens hi), hwritten⟩
    · obtain ⟨inner, hi, hwritten⟩ := ih hp
      exact ⟨inner, hi.imp_right (·.mono (List.subset_cons_self _ _)), hwritten⟩

/-- In a coherent grammar the definitions of one file are all met in one environment. -/
theorem Origin.Coherent.environment_eq {src : Sources} {o : Origin} (h : o.Coherent src)
    {ps : List Passage} (hps : o.Unfolds src ps) {p q : Passage} (hp : p ∈ ps) (hq : q ∈ ps)
    (hfile : p.locus.file = q.locus.file) : p.locus.environment = q.locus.environment := by
  obtain ⟨inner, hi, hpfile, hpenv⟩ := hps.written hp
  obtain ⟨inner', hi', hqfile, hqenv⟩ := hps.written hq
  have hsame : inner.file = inner'.file := hpfile.symm.trans (hfile.trans hqfile)
  rw [hpenv, hqenv]
  rcases hi with rfl | hi <;> rcases hi' with rfl | hi'
  · rfl
  · exact absurd hsame.symm (h.own inner' hi')
  · exact absurd hsame (h.own inner hi)
  · exact h.once inner inner' hi hi' hsame

/-- The sites of a grammar record some passages, and those from one file are resolved in one
environment. -/
def Grammar.Uniform (src : Sources) (origins : List Origin) (number : Nat) (g : Grammar)
    (ps : List Passage) : Prop :=
  ∀ file, ∃ environment, ∀ name, ∀ site ∈ g.sites name, site.path = file →
    ∃ p ∈ ps, p.Recorded src origins number site ∧ p.locus.environment = environment

theorem Account.Finished.uniform {src : Sources} {origins : List Origin} {number : Nat}
    {account : Account} (h : account.Finished src) {g : Grammar}
    (hacc : g.Accounts src origins number account.taken) :
    ∃ ps, account.origin.Unfolds src ps ∧ g.Uniform src origins number ps := by
  obtain ⟨ps, hps, htaken⟩ := h.settled
  rw [htaken] at hacc
  refine ⟨ps, hps, fun file => ?_⟩
  have hsite {name : DefineName} {site : Site} (hs : site ∈ g.sites name) :
      ∃ p ∈ ps, p.Recorded src origins number site ∧ p.locus.file = site.path := by
    obtain ⟨p, hp, hr⟩ := exists_of_forall₂ (hacc.sites name).flip hs
    exact ⟨p, Passage.mem_of_mem_effective (List.mem_filter.1 hp).1, hr,
      congrArg Occurrence.file hr.occurrence.symm⟩
  by_cases hfile : ∃ p ∈ ps, p.locus.file = file
  · obtain ⟨q, hq, rfl⟩ := hfile
    refine ⟨q.locus.environment, fun name site hs hpath => ?_⟩
    obtain ⟨p, hp, hr, hpfile⟩ := hsite hs
    exact ⟨p, hp, hr, h.coherent.environment_eq hps hp hq (hpfile.trans hpath)⟩
  · refine ⟨{}, fun name site hs hpath => ?_⟩
    obtain ⟨p, hp, -, hpfile⟩ := hsite hs
    exact absurd ⟨p, hp, hpfile.trans hpath⟩ hfile

/-- In an assembled schema all sites of a grammar that come from one file are resolved in one
environment. Where a grammar in the root includes a fragment in two environments, along whatever
paths, no assembly succeeds. -/
theorem assemble_uniform (setup : Expand.Setup) (root : File) (key : Option Text) (s : Fragments) :
    (∀ a t, assemble setup root key s = .ok a t →
      ∃ origins : List Origin, origins.length = a.grammars.length ∧
        origins[0]? = some (rootOrigin root key) ∧
        ∀ n g o, a.grammars[n]? = some g → origins[n]? = some o →
          ∃ ps, o.Unfolds (s.sources setup.catalog) ps ∧
            Grammar.Uniform (s.sources setup.catalog) origins n g ps) ∧
    ∀ l cs inner inner',
      GrammarIn (s.sources setup.catalog) (rootOrigin root key).locus root.components l cs →
      Includes (s.sources setup.catalog) l cs inner →
      Includes (s.sources setup.catalog) l cs inner' → inner.file = inner'.file →
      inner.environment ≠ inner'.environment → ∀ a t, assemble setup root key s ≠ .ok a t := by
  constructor
  · intro a t h
    obtain ⟨b, u, hb, ha, hroot, hfinished⟩ := assemble_ledger h
    rw [ha]
    refine ⟨b.origins, by rw [Ledger.length_origins, hb.length], hroot, fun n g o hg ho => ?_⟩
    obtain ⟨account, hn, hacc⟩ := hb.exists_account hg
    have horigin : o = account.origin := by
      rw [Ledger.origins, List.getElem?_map, hn] at ho
      exact (Option.some.inj ho).symm
    rw [horigin]
    exact (hfinished account (List.mem_of_getElem? hn)).uniform hacc
  · intro l cs inner inner' hin hi hi' hfile hne a t h
    obtain ⟨b, u, hb, ha, hroot, hfinished⟩ := assemble_ledger h
    obtain ⟨account, haccount, rfl, rfl⟩ := hb.account_of_grammarIn
      (fun account haccount => (hfinished account haccount).settled) hroot hin
    exact hne ((hfinished account haccount).coherent.once inner inner' hi hi' hfile)

namespace Inherited

/-! A fragment without a namespace of its own, included by two paths. -/

def here : Span := ⟨[], 1, 1, 0, 0⟩

/-- `x = element e { text }` -/
def fragment : File where
  path := "f"
  declarations := []
  components :=
    [.define (.named "x") .single
      (.named .element (.name none "e" here) (.leaf .text here) here) none here]
  isPattern := false

/-- `namespace p = "u" include "f" inherit = p div { include "f" inherit = … }` -/
def root (inherit : Option String) : File where
  path := "r"
  declarations := [.binding (some "p") (some "u") false here]
  components := [.incl "f" (some "p") [] here, .div [.incl "f" inherit [] here] here]
  isPattern := false

def setup : Expand.Setup where
  catalog := { (Mapping.ofList []).catalog with canonicalize := fun href _ => .ok href }
  strict := true

def fetched : Fragments := { entries := ⟨[("f", .ok fragment)]⟩ }

/-- The namespaces that the element has at its sites after an assembly. -/
def namespaces (inherit : Option String) : Option (List (Option Text)) :=
  match assemble setup (root inherit) none fetched with
  | .ok a _ => some <| (a.root.sites (.named "x")).map fun site =>
    match site.content with
    | .named _ (.name ns _) _ _ => some ns
    | _ => none
  | .error _ _ => none

/-- Where both paths pass one namespace down, the element is in it; where they do not, no assembly
succeeds. -/
theorem assemble_uniform_inherited :
    (namespaces (some "p") = some [some ("u" : Text)] ∧
      ∃ a t, assemble setup (root (some "p")) none fetched = .ok a t ∧
        ∃ origins : List Origin, origins.length = a.grammars.length ∧
          origins[0]? = some (rootOrigin (root (some "p")) none) ∧
          ∀ n g o, a.grammars[n]? = some g → origins[n]? = some o →
            ∃ ps, o.Unfolds (fetched.sources setup.catalog) ps ∧
              Grammar.Uniform (fetched.sources setup.catalog) origins n g ps) ∧
    ∀ a t, assemble setup (root none) none fetched ≠ .ok a t := by
  constructor
  · have hnamespaces : namespaces (some "p") = some [some ("u" : Text)] := by decide +kernel
    refine ⟨hnamespaces, ?_⟩
    unfold namespaces at hnamespaces
    cases h : assemble setup (root (some "p")) none fetched with
    | ok a t => exact ⟨a, t, rfl, (assemble_uniform _ _ _ _).1 a t h⟩
    | error e t =>
      rw [h] at hnamespaces
      cases hnamespaces
  · have hopens (ns : Text) (inherit : Option String)
        (h : (rootOrigin (root none) none).locus.environment.Passes inherit ns) :
        (fetched.sources setup.catalog).Opens (rootOrigin (root none) none).locus "f" inherit
          ⟨Environment.ofDeclarations fragment.declarations ns, "f", []⟩ fragment :=
      ⟨"f", ns, rfl, rfl, h, rfl⟩
    have hu : (rootOrigin (root none) none).locus.environment.namespaces.get? "p" =
        some ("u" : Text) := by decide +kernel
    have hfirst : Includes (fetched.sources setup.catalog) (rootOrigin (root none) none).locus
        (root none).components ⟨{ defaultNamespace := "u" }, "f", []⟩ :=
      .here List.mem_cons_self (hopens "u" (some "p") hu)
    have hsecond : Includes (fetched.sources setup.catalog) (rootOrigin (root none) none).locus
        (root none).components ⟨{}, "f", []⟩ :=
      .div (List.mem_cons_of_mem _ List.mem_cons_self)
        (.here List.mem_cons_self (hopens [] none rfl))
    exact (assemble_uniform _ _ _ _).2 _ _ _ _ .root hfirst hsecond rfl (by decide +kernel)

end Inherited

end RelaxCompact
