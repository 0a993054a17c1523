import RelaxCompact.Proofs.Assembly.Failing
import RelaxCompact.Proofs.Ordering.Succeeding

/-!
The check of an override block is exact. Of an include whose fragment is expanded without failure it
refuses just the names that the fragment does not define: what blocks around it suppress counts, and
so does what was taken before, but nothing that is defined in a grammar of its own.
-/

namespace RelaxCompact.Expand

open Run Surface

/-- Expands an include up to the end of its fragment, with its override block still in effect. -/
def throughFragment (setup : Setup) (descend : Descend) (place : Place) (href : Text)
    (inherit : Option String) (overrides : List Component) (span : Span) : Expand Unit := do
  let (scope, key, file) ← openInclude setup place href span
  expandAll setup descend scope 0 overrides
  let inner ← openFragment scope file key href inherit overrides span
  descend inner file.components

/-- What is left to do for an include then: its block is taken back, and checked. -/
def closeFragment (setup : Setup) (overrides : List Component) : Expand Unit := fun s =>
  (match !overrides.isEmpty && setup.strict, s.frames.head? with
    | true, some f => checkOverrides f
    | _, _ => pure () : Expand Unit)
  { s with
    stack := s.stack.tail
    frames := if overrides.isEmpty then s.frames else s.frames.tail }

section

variable {setup : Setup} {descend : Descend} {place : Place} {href : Text}
  {inherit : Option String} {overrides : List Component} {span : Span} {s t : Expansion}

theorem insideFragment_of_ok {run : Expand Unit} (h : run s = .ok () t) :
    insideFragment setup overrides run s = closeFragment setup overrides t := by
  have hbody : (do run; return (← get).frames.head? : Expand (Option OverrideFrame)) s =
      .ok t.frames.head? t :=
    (bind_of_ok h).trans rfl
  have hensured (cleanup : Expansion → Expansion) :
      ensuring (do run; return (← get).frames.head?) cleanup s =
        .ok t.frames.head? (cleanup t) := by
    unfold ensuring
    rw [hbody]
  refine (bind_of_ok (hensured _)).trans ?_
  unfold closeFragment
  cases overrides.isEmpty <;> cases setup.strict <;> cases t.frames.head? <;> rfl

/-- An include is expanded up to the end of its fragment, and closed. -/
theorem expand_of_throughFragment
    (h : throughFragment setup descend place href inherit overrides span s = .ok () t) :
    expand setup descend place (.incl href inherit overrides span) s =
      closeFragment setup overrides t := by
  obtain ⟨⟨scope, key, file⟩, u, hopen, h₁⟩ := bind_ok h
  obtain ⟨_, v, hoverrides, h₂⟩ := bind_ok h₁
  obtain ⟨inner, w, hfragment, h₃⟩ := bind_ok h₂
  have hinclude : includeFragment setup descend scope file key href inherit overrides span v =
      closeFragment setup overrides t := by
    rw [includeFragment_eq]
    exact (bind_of_ok hfragment).trans (insideFragment_of_ok h₃)
  rw [expand_incl_eq]
  exact (bind_of_ok hopen).trans ((bind_of_ok hoverrides).trans hinclude)

/-- An include that does not come to the end of its fragment fails as it does on the way. -/
theorem expand_of_throughFragment_error {e : Failure}
    (h : Fails (throughFragment setup descend place href inherit overrides span) s e) :
    Fails (expand setup descend place (.incl href inherit overrides span)) s e := by
  rw [expand_incl_eq]
  refine fails_bind.2 ((fails_bind.1 h).imp_right ?_)
  rintro ⟨⟨scope, key, file⟩, u, hopen, h₁⟩
  refine ⟨_, u, hopen, fails_bind.2 ((fails_bind.1 h₁).imp_right ?_)⟩
  rintro ⟨_, v, hoverrides, h₂⟩
  refine ⟨(), v, hoverrides, ?_⟩
  rw [includeFragment_eq]
  refine fails_bind.2 ((fails_bind.1 h₂).imp_right ?_)
  rintro ⟨inner, w, hfragment, h₃⟩
  refine ⟨inner, w, hfragment, fails_bind.2 (.inl (ensuring_fails.2 ?_))⟩
  exact fails_bind.2 (.inl h₃)

/-- The override block of an include, as it comes into effect. -/
structure OverrideFrame.Fresh (href : Text) (overrides : List Component) (f : OverrideFrame) :
    Prop where
  href : f.href = href
  spans : ∀ name, f.spans.contains name = true ↔ name ∈ definedNames overrides
  hits : f.hits = []

theorem pushFrame_fresh (h : pushFrame href overrides s = .ok () t) :
    ∃ f, OverrideFrame.Fresh href overrides f ∧ t = { s with frames := f :: s.frames } := by
  cases h
  refine ⟨_, ⟨rfl, fun name => ?_, rfl⟩, rfl⟩
  rw [Table.contains_ofList, definedNames, List.map_map]
  rfl

/-- A fragment is opened in the environment of its own file, with the block of its include in
effect. -/
theorem openFragment_entered (catalog : Catalog) {scope inner : Place} {file : File} {key : Text}
    (h : openFragment scope file key href inherit overrides span s = .ok inner t) :
    ∃ ns, scope.environment.Passes inherit ns ∧
      inner.locus = ⟨Environment.ofDeclarations file.declarations ns, key, []⟩ ∧
      t.source.sources catalog = s.source.sources catalog ∧
      (overrides.isEmpty = false → ∃ f, OverrideFrame.Fresh href overrides f ∧
        t.frames = f :: s.frames) := by
  obtain ⟨u, hpush, hrest⟩ := cond_ok h
  obtain ⟨_, u', hreport, h₁⟩ := bind_ok hrest
  have huu' : Quiet catalog u u' := report_ok hreport
  obtain ⟨ns, v, hinherit, h₂⟩ := bind_ok h₁
  obtain ⟨hns, rfl⟩ := inheritedNamespace_ok hinherit
  obtain ⟨_, v', hcheck, h₃⟩ := bind_ok h₂
  have hvv' : Quiet catalog v v' := checkEnvironment_ok hcheck
  obtain ⟨inner', w, hscope, h₄⟩ := bind_ok h₃
  obtain ⟨number, rfl, rfl⟩ := openScope_ok hscope
  obtain ⟨_, x, henter, h₅⟩ := bind_ok h₄
  cases henter
  cases h₅
  have hsources : v'.source.sources catalog = u.source.sources catalog :=
    hvv'.sources.trans huu'.sources
  have hframes : v'.frames = u.frames := hvv'.frames.trans huu'.frames
  rcases hpush with ⟨hsome, hpush⟩ | ⟨hnone, rfl⟩
  · obtain ⟨f, hf, rfl⟩ := pushFrame_fresh hpush
    exact ⟨ns, hns, rfl, hsources, fun _ => ⟨f, hf, hframes⟩⟩
  · refine ⟨ns, hns, rfl, hsources, fun hsome => ?_⟩
    rw [hsome] at hnone
    cases hnone

/-- At the end of the fragment the block has suppressed just those of its names that the fragment
defines. -/
theorem throughFragment_ok {budget : Nat}
    (h : throughFragment setup (expandFile setup budget) place href inherit overrides span s =
      .ok () t) :
    ∃ inner file, (s.source.sources setup.catalog).Opens place.locus href inherit inner file ∧
      (overrides.isEmpty = false → ∃ f, t.frames.head? = some f ∧ f.href = href ∧
        (∀ name, f.spans.contains name = true ↔ name ∈ definedNames overrides) ∧
        ∀ name, name ∈ f.hits ↔ name ∈ definedNames overrides ∧
          DefinesIn (s.source.sources setup.catalog) inner file.components name) := by
  obtain ⟨⟨scope, key, file⟩, u, hopen, h₁⟩ := bind_ok h
  obtain ⟨_, v, hoverrides, h₂⟩ := bind_ok h₁
  obtain ⟨inner, w, hfragment, h₃⟩ := bind_ok h₂
  obtain ⟨key', file', s', hkey, hfetch, hscope⟩ := directive_ok.1 hopen
  obtain ⟨-, hfile, -⟩ := fetch_ok hfetch
  have hss' : Idle setup.catalog s s' := fetch_idle hfetch
  have hopened : key' = key ∧ file' = file ∧ Idle setup.catalog s' u ∧
      scope.locus = place.locus := by
    split at hscope
    · obtain ⟨_, _, hrefuse, _⟩ := bind_ok hscope
      exact (not_throw_ok hrefuse).elim
    · obtain ⟨scope', u', hscope, hpure⟩ := bind_ok hscope
      cases hpure
      obtain ⟨hidle, hlocus, -⟩ : Idle setup.catalog s' u ∧ _ := openScope_idle hscope
      exact ⟨rfl, rfl, hidle, hlocus⟩
  obtain ⟨rfl, rfl, hs'u, hlocus⟩ := hopened
  have hsu : u.source.sources setup.catalog = s.source.sources setup.catalog :=
    hs'u.sources.trans hss'.sources
  have htraces := expandFile_traces setup (s.source.sources setup.catalog) budget
  have huv := (expansion_traces htraces).2.1 scope 0 overrides u v hsu hoverrides
  have hsv : v.source.sources setup.catalog = s.source.sources setup.catalog :=
    huv.sources.trans hsu
  obtain ⟨ns, hns, hinner, hvw, hframe⟩ :=
    openFragment_entered setup.catalog hfragment
  have hwt := htraces inner file'.components w t (hvw.trans hsv) h₃
  have hopens : (s.source.sources setup.catalog).Opens place.locus href inherit inner.locus
      file' := by
    have henv : scope.environment = place.environment := congrArg Locus.environment hlocus
    rw [henv] at hns
    exact ⟨key', ns, hkey, hfile, hns, hinner⟩
  refine ⟨inner.locus, file', hopens, fun hsome => ?_⟩
  obtain ⟨f, hf, hframes⟩ := hframe hsome
  have hmarked := hwt.frames
  rw [hframes] at hmarked
  obtain ⟨f', frames, hf', -, ht⟩ := List.forall₂_cons_left_iff.1 hmarked
  refine ⟨f', by rw [ht]; rfl, hf'.href.trans hf.href, fun name => ?_, fun name => ?_⟩
  · rw [hf'.spans]
    exact hf.spans name
  · rw [hf'.hits, hf.hits, hf.spans]
    exact or_iff_right List.not_mem_nil

/-- The check of a block passes, or refuses a name that the block has not suppressed. -/
theorem checkOverrides_ends (f : OverrideFrame) (s : Expansion) :
    (checkOverrides f s = .ok () s ∧ ∀ name, f.spans.contains name = true → name ∈ f.hits) ∨
      ∃ name blamed,
        checkOverrides f s = .error (.schema (.unmatchedOverride name f.href blamed)) s ∧
          f.spans.contains name = true ∧ name ∉ f.hits := by
  cases hfind : f.spans.entries.find? fun entry => entry.1 ∉ f.hits with
  | none =>
    have hcheck : checkOverrides f s = .ok () s := by
      unfold checkOverrides
      rw [hfind]
      rfl
    exact .inl ⟨hcheck, (checkOverrides_ok hcheck).2⟩
  | some entry =>
    obtain ⟨name, blamed⟩ := entry
    have hcheck : checkOverrides f s =
        .error (.schema (.unmatchedOverride name f.href blamed)) s := by
      unfold checkOverrides
      rw [hfind]
      rfl
    refine .inr ⟨name, blamed, hcheck, ?_, by simpa using List.find?_some hfind⟩
    exact Table.contains_iff.2 (List.mem_map_of_mem (List.mem_of_find?_eq_some hfind))

theorem closeFragment_of_isEmpty (h : overrides.isEmpty = true) :
    Succeeds (closeFragment setup overrides) t := by
  unfold closeFragment Succeeds
  rw [h]
  exact ⟨(), _, rfl⟩

theorem closeFragment_of_frame (h : overrides.isEmpty = false) (hstrict : setup.strict = true)
    {f : OverrideFrame} (hf : t.frames.head? = some f) :
    ∃ closed, closeFragment setup overrides t = checkOverrides f closed := by
  unfold closeFragment
  rw [h, hstrict, hf]
  exact ⟨_, rfl⟩

/-- How an include ends that has come to the end of its fragment: it succeeds if the fragment
defines what the block does, and else it is refused for a name that the fragment does not define. -/
theorem expand_incl_ends {budget : Nat} (hstrict : setup.strict = true)
    (h : throughFragment setup (expandFile setup budget) place href inherit overrides span s =
      .ok () t) :
    ∃ inner file, (s.source.sources setup.catalog).Opens place.locus href inherit inner file ∧
      (Succeeds (expand setup (expandFile setup budget) place
            (.incl href inherit overrides span)) s ∧
          (∀ name ∈ definedNames overrides,
            DefinesIn (s.source.sources setup.catalog) inner file.components name) ∨
        ∃ name blamed closed,
          expand setup (expandFile setup budget) place (.incl href inherit overrides span) s =
            .error (.schema (.unmatchedOverride name href blamed)) closed ∧
          name ∈ definedNames overrides ∧
          ¬ DefinesIn (s.source.sources setup.catalog) inner file.components name) := by
  obtain ⟨inner, file, hopens, hframe⟩ := throughFragment_ok h
  refine ⟨inner, file, hopens, ?_⟩
  unfold Succeeds
  rw [expand_of_throughFragment h]
  cases hblock : overrides.isEmpty with
  | true =>
    refine .inl ⟨closeFragment_of_isEmpty hblock, fun name hname => ?_⟩
    rw [List.isEmpty_iff.1 hblock] at hname
    cases hname
  | false =>
    obtain ⟨f, hf, rfl, hspans, hhits⟩ := hframe hblock
    obtain ⟨closed, hclose⟩ := closeFragment_of_frame hblock hstrict hf
    rw [hclose]
    rcases checkOverrides_ends f closed with ⟨hok, hall⟩ | ⟨name, blamed, herror, hspan, hmiss⟩
    · exact .inl ⟨⟨(), closed, hok⟩, fun name hname =>
        ((hhits name).1 (hall name ((hspans name).2 hname))).2⟩
    · have hname := (hspans name).1 hspan
      exact .inr ⟨name, blamed, closed, herror, hname, fun hd => hmiss ((hhits name).2 ⟨hname, hd⟩)⟩

/-- An include with strict blocks that comes to the end of its fragment is refused for an unmatched
override of its own exactly if the fragment does not define one of the names of its block. The
refusal is for such a name, and if there is none the include succeeds. -/
theorem unmatched_override_iff {catalog : Catalog} {budget : Nat}
    (h : Succeeds (throughFragment ⟨catalog, true⟩ (expandFile ⟨catalog, true⟩ budget) place href
      inherit overrides span) s) :
    ∃ inner file, (s.source.sources catalog).Opens place.locus href inherit inner file ∧
      ((∃ name blamed,
          Fails (expand ⟨catalog, true⟩ (expandFile ⟨catalog, true⟩ budget) place
            (.incl href inherit overrides span)) s
            (.schema (.unmatchedOverride name href blamed))) ↔
        ∃ name ∈ definedNames overrides,
          ¬ DefinesIn (s.source.sources catalog) inner file.components name) ∧
      (∀ name blamed,
        Fails (expand ⟨catalog, true⟩ (expandFile ⟨catalog, true⟩ budget) place
          (.incl href inherit overrides span)) s
          (.schema (.unmatchedOverride name href blamed)) →
        name ∈ definedNames overrides ∧
          ¬ DefinesIn (s.source.sources catalog) inner file.components name) ∧
      ((∀ name ∈ definedNames overrides,
          DefinesIn (s.source.sources catalog) inner file.components name) →
        Succeeds (expand ⟨catalog, true⟩ (expandFile ⟨catalog, true⟩ budget) place
          (.incl href inherit overrides span)) s) := by
  obtain ⟨_, t, ht⟩ := h
  obtain ⟨inner, file, hopens, hends⟩ := expand_incl_ends rfl ht
  refine ⟨inner, file, hopens, ?_⟩
  rcases hends with ⟨⟨_, u, hok⟩, hall⟩ | ⟨name, blamed, closed, herror, hname, hnot⟩
  · have hnever {e : Failure} : ¬ Fails (expand ⟨catalog, true⟩ (expandFile ⟨catalog, true⟩ budget)
        place (.incl href inherit overrides span)) s e :=
      fun ⟨_, hfails⟩ => nomatch hok.symm.trans hfails
    refine ⟨⟨?_, ?_⟩, fun name blamed hfails => absurd hfails hnever, fun _ => ⟨(), u, hok⟩⟩
    · rintro ⟨name, blamed, hfails⟩
      exact absurd hfails hnever
    · rintro ⟨name, hname, hnot⟩
      exact absurd (hall name hname) hnot
  · refine ⟨iff_of_true ⟨name, blamed, closed, herror⟩ ⟨name, hname, hnot⟩, ?_, fun hall => ?_⟩
    · rintro other blamed' ⟨u, hu⟩
      cases herror.symm.trans hu
      exact ⟨hname, hnot⟩
    · exact absurd (hall name hname) hnot

end

namespace Misspelled

/-! A block that overrides a name which the fragment gets from a fragment of its own, where a block
suppresses it, and a name which the fragment defines in a nested grammar only. -/

def mapping : Mapping := Mapping.ofList
  [("a.rnc", .text
      "include \"b.rnc\" \x7b x = text \x7d start = grammar \x7b start = y y = text \x7d"),
    ("b.rnc", .text "x = empty")]

def setup : Setup := ⟨mapping.catalog, true⟩

def here : Span := ⟨[], 1, 1, 0, 0⟩

/-- `x = text y = text` -/
def block : List Component :=
  [.define (.named "x") .single (.leaf .text here) none here,
    .define (.named "y") .single (.leaf .text here) none here]

def place : Place := { grammar := 0, environment := {}, file := "main.rnc" }

def start : Expansion :=
  { source := {}, stack := ["main.rnc"], grammars := [{ label := "main.rnc", parent := none }] }

/-- The include comes to the end of its fragment, which lacks one of the two names. -/
theorem unmatched_override_iff_misspelled :
    Succeeds (throughFragment setup (expandFile setup 2) place "a.rnc" none block here) start ∧
      ∃ inner file, (start.source.sources mapping.catalog).Opens place.locus "a.rnc" none inner
          file ∧
        ∃ name ∈ definedNames block,
          ¬ DefinesIn (start.source.sources mapping.catalog) inner file.components name := by
  have hended : ended (throughFragment setup (expandFile setup 2) place "a.rnc" none block here
      start) = .ok () := by
    decide +kernel
  have hthrough : Succeeds
      (throughFragment setup (expandFile setup 2) place "a.rnc" none block here) start :=
    ⟨(), exists_ok_of_ended hended⟩
  have hrefused :
      failure? (ended (expand setup (expandFile setup 2) place (.incl "a.rnc" none block here)
          start)) =
        some (.schema (.unmatchedOverride (.named "y") "a.rnc" here)) := by
    decide +kernel
  obtain ⟨inner, file, hopens, hiff, -⟩ := unmatched_override_iff hthrough
  exact ⟨hthrough, inner, file, hopens,
    hiff.1 ⟨.named "y", here, fails_of_ended (eq_error_of_failure? hrefused)⟩⟩

end Misspelled

end RelaxCompact.Expand
