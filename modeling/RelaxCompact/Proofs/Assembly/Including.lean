import RelaxCompact.Proofs.Assembly.Expansion
import RelaxCompact.Proofs.Assembly.Onward

/-!
Which fragments a grammar includes, and in which environments. A run that succeeds has noted one
environment for each fragment of a grammar, along whatever path it is included, and none of these
fragments is a file that was being expanded already.
-/

namespace RelaxCompact

open Surface

/-- Components at a locus include a fragment, whose components stand at `inner`: directly or through
other fragments, in divisions and in override blocks too, but not inside a nested grammar. -/
inductive Includes (src : Sources) : Locus → List Component → (inner : Locus) → Prop
  | here {l cs href inherit overrides span inner file} :
    .incl href inherit overrides span ∈ cs → src.Opens l href inherit inner file →
    Includes src l cs inner
  | fragment {l cs href inherit overrides span mid file inner} :
    .incl href inherit overrides span ∈ cs → src.Opens l href inherit mid file →
    Includes src mid file.components inner → Includes src l cs inner
  | overrides {l cs href inherit overrides span inner} :
    .incl href inherit overrides span ∈ cs → Includes src l overrides inner →
    Includes src l cs inner
  | div {l cs components span inner} :
    .div components span ∈ cs → Includes src l components inner → Includes src l cs inner

namespace Includes

variable {src : Sources} {l l' inner : Locus} {c : Component} {cs ds : List Component}

theorem mono (h : Includes src l cs inner) (hsub : cs ⊆ ds) : Includes src l ds inner := by
  cases h with
  | here hm ho => exact .here (hsub hm) ho
  | fragment hm ho hi => exact .fragment (hsub hm) ho hi
  | overrides hm hi => exact .overrides (hsub hm) hi
  | div hm hi => exact .div (hsub hm) hi

/-- Where in its file something is written makes no difference. -/
theorem moved (h : Includes src l cs inner) (henv : l'.environment = l.environment)
    (hfile : l'.file = l.file) : Includes src l' cs inner := by
  induction h generalizing l' with
  | here hm ho => exact .here hm (ho.moved henv hfile)
  | fragment hm ho hi => exact .fragment hm (ho.moved henv hfile) hi
  | overrides hm _ ih => exact .overrides hm (ih henv hfile)
  | div hm _ ih => exact .div hm (ih henv hfile)

theorem not_nil : ¬ Includes src l [] inner := by
  rintro (hm | hm | hm | hm) <;> cases hm

theorem cons (h : Includes src l (c :: cs) inner) :
    Includes src l [c] inner ∨ Includes src l cs inner := by
  have hsplit {d : Component} (hm : d ∈ c :: cs) : d ∈ [c] ∨ d ∈ cs :=
    (List.mem_cons.1 hm).imp_left List.mem_singleton.2
  cases h with
  | here hm ho => exact (hsplit hm).imp (.here · ho) (.here · ho)
  | fragment hm ho hi => exact (hsplit hm).imp (.fragment · ho hi) (.fragment · ho hi)
  | overrides hm hi => exact (hsplit hm).imp (.overrides · hi) (.overrides · hi)
  | div hm hi => exact (hsplit hm).imp (.div · hi) (.div · hi)

/-- An include is that of its fragment, of what the fragment includes, or of what its override block
includes. -/
theorem of_incl {href : Text} {inherit : Option String} {overrides : List Component} {span : Span}
    (h : Includes src l [.incl href inherit overrides span] inner) :
    (∃ mid file, src.Opens l href inherit mid file ∧
        (inner = mid ∨ Includes src mid file.components inner)) ∨
      Includes src l overrides inner := by
  cases h with
  | here hm ho =>
    cases List.mem_singleton.1 hm
    exact .inl ⟨_, _, ho, .inl rfl⟩
  | fragment hm ho hi =>
    cases List.mem_singleton.1 hm
    exact .inl ⟨_, _, ho, .inr hi⟩
  | overrides hm hi =>
    cases List.mem_singleton.1 hm
    exact .inr hi
  | div hm _ => cases List.mem_singleton.1 hm

theorem of_div {span : Span} (h : Includes src l [.div cs span] inner) :
    Includes src l cs inner := by
  cases h with
  | here hm _ => cases List.mem_singleton.1 hm
  | fragment hm _ _ => cases List.mem_singleton.1 hm
  | overrides hm _ => cases List.mem_singleton.1 hm
  | div hm hi =>
    cases List.mem_singleton.1 hm
    exact hi

theorem not_define {name : DefineName} {operator : Assignment} {pattern : Pattern}
    {documentation : Option String} {span : Span} :
    ¬ Includes src l [.define name operator pattern documentation span] inner := by
  rintro (hm | hm | hm | hm) <;> cases List.mem_singleton.1 hm

end Includes

/-- The environment of a fragment is noted for a grammar. -/
def Expansion.Notes (s : Expansion) (number : Nat) (inner : Locus) : Prop :=
  ∃ span, s.environments.get? (number, inner.file) = some (inner.environment, span)

/-- For one grammar a fragment has one environment only. -/
theorem Expansion.Notes.unique {s : Expansion} {number : Nat} {inner inner' : Locus}
    (h : s.Notes number inner) (h' : s.Notes number inner') (hfile : inner.file = inner'.file) :
    inner.environment = inner'.environment := by
  obtain ⟨span, h⟩ := h
  obtain ⟨span', h'⟩ := h'
  rw [hfile] at h
  exact (Prod.mk.inj (Option.some.inj (h.symm.trans h'))).1

/-- A grammar includes no fragment under the key of its own file, and none in two environments. -/
structure Origin.Coherent (src : Sources) (o : Origin) : Prop where
  own : ∀ inner, Includes src o.locus o.components inner → inner.file ≠ o.locus.file
  once : ∀ inner inner', Includes src o.locus o.components inner →
    Includes src o.locus o.components inner' → inner.file = inner'.file →
    inner.environment = inner'.environment

namespace Expand

/-- A run from `s` to `t` through components at a locus of grammar number `number` has noted the
environments of all fragments that they include, and none of these was being expanded. -/
def Noted (catalog : Catalog) (src : Sources) (number : Nat) (l : Locus) (cs : List Component)
    (s t : Expansion) : Prop :=
  s.source.sources catalog = src →
    ∀ inner, Includes src l cs inner → inner.file ∉ s.stack ∧ t.Notes number inner

section

variable {setup : Setup} {descend : Descend} {catalog : Catalog} {src : Sources} {number : Nat}
  {l : Locus} {cs : List Component} {s t u : Expansion}

/-- A grammar whose own file is being expanded is coherent, as what it includes is noted. -/
theorem Noted.coherent {o : Origin} (h : Noted catalog src number o.locus o.components s t)
    (hsrc : s.source.sources catalog = src) (hown : o.locus.file ∈ s.stack) :
    o.Coherent src where
  own inner hi he := (h hsrc inner hi).1 (he ▸ hown)
  once inner inner' hi hi' hfile := (h hsrc inner hi).2.unique (h hsrc inner' hi').2 hfile

theorem Onward.notes (h : Onward catalog s t) {inner : Locus} (hs : s.Notes number inner) :
    t.Notes number inner := by
  obtain ⟨span, hspan⟩ := hs
  exact ⟨span, h.environments _ _ hspan⟩

theorem Noted.cons {c : Component} {i : Nat} (h : Noted catalog src number (l.part i) [c] s u)
    (hs : Noted catalog src number l cs u t) (hsu : Onward catalog s u)
    (hut : Onward catalog u t) : Noted catalog src number l (c :: cs) s t := by
  intro hsrc inner hi
  rcases hi.cons with hi | hi
  · obtain ⟨hstack, hnotes⟩ := h hsrc inner (hi.moved rfl rfl)
    exact ⟨hstack, hut.notes hnotes⟩
  · rw [← hsu.stack]
    exact hs (hsu.sources.trans hsrc) inner hi

/-- An include notes the environment of its fragment, which was not being expanded, before it goes
into the fragment. -/
theorem incl_noted (hd : ∀ place cs, Advances setup.catalog (descend place cs))
    (hn : ∀ place cs s t, descend place cs s = .ok () t →
      Noted setup.catalog src place.grammar place.locus cs s t)
    {place : Place} {href : Text} {inherit : Option String} {overrides : List Component}
    {span : Span}
    (hoverrides : ∀ inner s t, expandAll setup descend inner 0 overrides s = .ok () t →
      Noted setup.catalog src inner.grammar inner.locus overrides s t)
    (h : expand setup descend place (.incl href inherit overrides span) s = .ok () t) :
    Noted setup.catalog src place.grammar place.locus [.incl href inherit overrides span] s t := by
  intro hsrc inner hi
  obtain ⟨key, s', hcanonical, h₁⟩ := Run.bind_ok h
  obtain ⟨hkey, hs⟩ := Run.liftExcept_ok hcanonical
  subst s'
  obtain ⟨file, u, hfetch, h₂⟩ := Run.bind_ok h₁
  obtain ⟨hnot, hfile, -⟩ := fetch_ok hfetch
  have hsu : Onward setup.catalog s u := fetch_advances _ _ _ _ _ _ hfetch
  dsimp only at h₂
  split at h₂
  · obtain ⟨_, _, hrefuse, _⟩ := Run.bind_ok h₂
    exact (Run.not_throw_ok hrefuse).elim
  · obtain ⟨scope, v, hopen, h₃⟩ := Run.bind_ok h₂
    have huv : Onward setup.catalog u v := openScope_advances _ _ _ _ _ _ hopen
    obtain ⟨number, hscope, -⟩ := openScope_ok hopen
    obtain ⟨_, w, hover, h₄⟩ := Run.bind_ok h₃
    have hvw : Onward setup.catalog v w := (expansion_advances hd).2.1 _ _ _ _ _ _ hover
    obtain ⟨ns, place', x, y, hns, hlocus, hgrammar, hnoted, hy, henv, hwx, hxt⟩ :=
      includeFragment_onward hd h₄
    have hsx : Onward setup.catalog s x := ((hsu.trans huv).trans hvw).trans hwx
    have hxy := hd _ _ _ _ _ hy
    rcases hi.of_incl with ⟨mid, file', hopens, hi⟩ | hi
    · -- What the include opens is the fragment that was fetched, in the environment noted for it.
      have hopens' : src.Opens place.locus href inherit
          ⟨Environment.ofDeclarations file.declarations ns, key, []⟩ file := by
        subst hscope
        refine ⟨key, ns, ?_, ?_, hns, rfl⟩
        · rw [← hsrc]
          exact hkey
        · rw [← hsrc]
          exact hfile
      obtain ⟨rfl, rfl⟩ := hopens.unique hopens'
      rcases hi with rfl | hi
      · refine ⟨hnot, ?_⟩
        obtain ⟨first, hfirst⟩ := hnoted
        subst hscope
        exact ⟨first, hxt.environments _ _ hfirst⟩
      · obtain ⟨hstack, first, hfirst⟩ := hn _ _ _ _ hy (hsx.sources.trans hsrc) inner
          (hi.moved (by rw [hlocus]) (by rw [hlocus]))
        refine ⟨fun hm => hstack ?_, first, ?_⟩
        · change inner.file ∈ key :: x.stack
          rw [hsx.stack]
          exact List.mem_cons_of_mem _ hm
        · rw [henv, ← hfirst, hgrammar, hscope]
    · obtain ⟨hstack, hnotes⟩ := hoverrides _ _ _ hover ((hsu.trans huv).sources.trans hsrc) inner
        (hi.moved (by rw [hscope]; rfl) (by rw [hscope]; rfl))
      rw [(hsu.trans huv).stack] at hstack
      refine ⟨hstack, (hwx.trans hxt).notes ?_⟩
      rw [hscope] at hnotes
      exact hnotes

/-- Expanding components of one file notes what they include if other files are expanded so. -/
theorem expandAll_noted (hd : ∀ place cs, Advances setup.catalog (descend place cs))
    (hn : ∀ place cs s t, descend place cs s = .ok () t →
      Noted setup.catalog src place.grammar place.locus cs s t)
    (place : Place) (i : Nat) (cs : List Component) (s t : Expansion)
    (h : expandAll setup descend place i cs s = .ok () t) :
    Noted setup.catalog src place.grammar place.locus cs s t := by
  revert s t
  refine expandAll.induct_unfolding setup descend (fun _ _ _ => True)
    (fun place _ cs step => ∀ s t, step s = .ok () t →
      Noted setup.catalog src place.grammar place.locus cs s t)
    (fun place c step => ∀ s t, step s = .ok () t →
      Noted setup.catalog src place.grammar place.locus [c] s t)
    ?binary ?unary ?leaf ?named ?ref ?parentRef ?data ?dataExcept ?value ?external ?grammar
    ?define ?div ?incl ?nil ?cons place i cs
  case define =>
    intro place name operator pattern documentation span _ s t h hsrc inner hi
    exact absurd hi Includes.not_define
  case div =>
    intro place components span ih s t h hsrc inner hi
    obtain ⟨scope, u, hopen, h₁⟩ := Run.bind_ok h
    have hsu : Onward setup.catalog s u := openScope_advances _ _ _ _ _ _ hopen
    obtain ⟨number, rfl, -⟩ := openScope_ok hopen
    rw [← hsu.stack]
    exact ih _ _ _ h₁ (hsu.sources.trans hsrc) inner hi.of_div
  case incl =>
    intro place href inherit overrides span ih s t h
    exact incl_noted hd hn ih h
  case nil =>
    intro place i s t h hsrc inner hi
    exact absurd hi Includes.not_nil
  case cons =>
    intro place i c cs ihFirst ihRest s t h
    obtain ⟨_, u, hFirst, hRest⟩ := Run.bind_ok h
    have hadvances := expansion_advances hd
    exact (ihFirst _ _ hFirst).cons (ihRest _ _ hRest) (hadvances.2.2 _ _ _ _ _ hFirst)
      (hadvances.2.1 _ _ _ _ _ _ hRest)
  all_goals intros; trivial

/-- Files are expanded so to any depth. -/
theorem expandFile_noted (setup : Setup) (src : Sources) (budget : Nat) (place : Place)
    (cs : List Component) (s t : Expansion) (h : expandFile setup budget place cs s = .ok () t) :
    Noted setup.catalog src place.grammar place.locus cs s t := by
  induction budget generalizing place cs s t with
  | zero => exact (Run.not_throw_ok h).elim
  | succ budget ih => exact expandAll_noted (expandFile_advances setup budget) ih place 0 cs s t h

end

end Expand

end RelaxCompact
