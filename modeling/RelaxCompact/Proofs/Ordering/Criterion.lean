import RelaxCompact.Proofs.Assembly.Including

/-!
What it takes for an assembly to succeed, whatever comes first. A run takes each definition only
once, along the path by which it meets it first, with the files on that path being expanded; here
every path counts, and what a definition refers to is looked at from its own file only.
-/

namespace RelaxCompact

open Surface

section

variable {src : Sources} {strict : Bool}

/-! Includes -/

/-- A component defines a name: by itself, in a part of it, or in the fragment that it includes. -/
inductive Defines (src : Sources) : Locus → Component → DefineName → Prop
  | define {l name operator pattern documentation span} :
    Defines src l (.define name operator pattern documentation span) name
  | div {l components span c name} :
    c ∈ components → Defines src l c name → Defines src l (.div components span) name
  | overrides {l href inherit overrides span c name} :
    c ∈ overrides → Defines src l c name → Defines src l (.incl href inherit overrides span) name
  | fragment {l href inherit overrides span inner file c name} :
    src.Opens l href inherit inner file → c ∈ file.components → Defines src inner c name →
    Defines src l (.incl href inherit overrides span) name

theorem Defines.moved {l l' : Locus} {c : Component} {name : DefineName}
    (h : Defines src l c name) (henv : l'.environment = l.environment)
    (hfile : l'.file = l.file) : Defines src l' c name := by
  induction h generalizing l' with
  | define => exact .define
  | div hm _ ih => exact .div hm (ih henv hfile)
  | overrides hm _ ih => exact .overrides hm (ih henv hfile)
  | fragment ho hm hd _ => exact .fragment (ho.moved henv hfile) hm hd

/-- One of some components defines a name. -/
def DefinesIn (src : Sources) (l : Locus) (cs : List Component) (name : DefineName) : Prop :=
  ∃ c ∈ cs, Defines src l c name

section

variable {l : Locus} {c : Component} {cs : List Component} {name : DefineName}

theorem DefinesIn.moved {l' : Locus} (h : DefinesIn src l cs name)
    (henv : l'.environment = l.environment) (hfile : l'.file = l.file) :
    DefinesIn src l' cs name := by
  obtain ⟨c, hc, hd⟩ := h
  exact ⟨c, hc, hd.moved henv hfile⟩

theorem definesIn_nil : ¬ DefinesIn src l [] name := nofun

theorem definesIn_cons :
    DefinesIn src l (c :: cs) name ↔ DefinesIn src l [c] name ∨ DefinesIn src l cs name := by
  simp only [DefinesIn, List.mem_cons, List.not_mem_nil, or_false, exists_eq_or_imp,
    exists_eq_left]

theorem definesIn_define {other : DefineName} {operator : Assignment} {pattern : Pattern}
    {documentation : Option String} {span : Span} :
    DefinesIn src l [.define other operator pattern documentation span] name ↔ name = other := by
  constructor
  · rintro ⟨c, hc, hd⟩
    cases List.mem_singleton.1 hc
    cases hd
    rfl
  · rintro rfl
    exact ⟨_, List.mem_singleton_self _, .define⟩

theorem definesIn_div {span : Span} :
    DefinesIn src l [.div cs span] name ↔ DefinesIn src l cs name := by
  constructor
  · rintro ⟨c, hc, hd⟩
    cases List.mem_singleton.1 hc
    cases hd with
    | div hm hd => exact ⟨_, hm, hd⟩
  · rintro ⟨c, hc, hd⟩
    exact ⟨_, List.mem_singleton_self _, .div hc hd⟩

theorem definesIn_incl {href : Text} {inherit : Option String} {overrides : List Component}
    {span : Span} {inner : Locus} {file : File} (ho : src.Opens l href inherit inner file) :
    DefinesIn src l [.incl href inherit overrides span] name ↔
      DefinesIn src l overrides name ∨ DefinesIn src inner file.components name := by
  constructor
  · rintro ⟨c, hc, hd⟩
    cases List.mem_singleton.1 hc
    cases hd with
    | overrides hm hd => exact .inl ⟨_, hm, hd⟩
    | fragment ho' hm hd =>
      obtain ⟨rfl, rfl⟩ := ho.unique ho'
      exact .inr ⟨_, hm, hd⟩
  · rintro (⟨c, hc, hd⟩ | ⟨c, hc, hd⟩)
    · exact ⟨_, List.mem_singleton_self _, .overrides hc hd⟩
    · exact ⟨_, List.mem_singleton_self _, .fragment ho hc hd⟩

end

/-- A component can be expanded while the files of a stack are being expanded, as far as includes
go: none leads to a file on the stack or to a pattern, and if blocks are `strict`, each name of an
override block is defined in the fragment. -/
inductive Includable (src : Sources) (strict : Bool) :
    (stack : List Text) → Locus → Component → Prop
  | define {stack l name operator pattern documentation span} :
    Includable src strict stack l (.define name operator pattern documentation span)
  | div {stack l components span} :
    (∀ c ∈ components, Includable src strict stack l c) →
    Includable src strict stack l (.div components span)
  | incl {stack l href inherit overrides span inner file} :
    src.Opens l href inherit inner file → inner.file ∉ stack → file.isPattern = false →
    (strict = true → ∀ name ∈ definedNames overrides, DefinesIn src inner file.components name) →
    (∀ c ∈ overrides, Includable src strict stack l c) →
    (∀ c ∈ file.components, Includable src strict (inner.file :: stack) inner c) →
    Includable src strict stack l (.incl href inherit overrides span)

theorem Includable.moved {stack : List Text} {l l' : Locus} {c : Component}
    (h : Includable src strict stack l c) (henv : l'.environment = l.environment)
    (hfile : l'.file = l.file) : Includable src strict stack l' c := by
  induction h generalizing l' with
  | define => exact .define
  | div _ ih => exact .div fun c hc => ih c hc henv hfile
  | incl ho hfresh hgrammar hmet _ hfragment ih _ =>
    exact .incl (ho.moved henv hfile) hfresh hgrammar hmet (fun c hc => ih c hc henv hfile)
      hfragment

/-- No fragment that is included is on the stack. -/
theorem Includes.not_mem_stack {stack : List Text} {l inner : Locus} {cs : List Component}
    (hi : Includes src l cs inner) (h : ∀ c ∈ cs, Includable src strict stack l c) :
    inner.file ∉ stack := by
  induction hi generalizing stack with
  | here hm ho =>
    cases h _ hm with
    | incl ho' hfresh =>
      obtain ⟨rfl, -⟩ := ho.unique ho'
      exact hfresh
  | fragment hm ho _ ih =>
    cases h _ hm with
    | incl ho' _ _ _ _ hfragment =>
      obtain ⟨rfl, rfl⟩ := ho.unique ho'
      exact fun hin => ih hfragment (List.mem_cons_of_mem _ hin)
  | overrides hm _ ih =>
    cases h _ hm with
    | incl _ _ _ _ hoverrides => exact ih hoverrides
  | div hm _ ih =>
    cases h _ hm with
    | div hcomponents => exact ih hcomponents

/-! Stacks -/

/-- A component of a file leads to a key: what the key stands for is included, directly or through
other files, wherever that is done and in whatever environment. -/
inductive LeadsTo (src : Sources) : (base : Text) → Component → (key : Text) → Prop
  | incl {base href inherit overrides span key} :
    src.key href base = .ok key → LeadsTo src base (.incl href inherit overrides span) key
  | fragment {base href inherit overrides span mid file c key} :
    src.key href base = .ok mid → src.file mid = .ok file → c ∈ file.components →
    LeadsTo src mid c key → LeadsTo src base (.incl href inherit overrides span) key
  | overrides {base href inherit overrides span c key} :
    c ∈ overrides → LeadsTo src base c key →
    LeadsTo src base (.incl href inherit overrides span) key
  | div {base components span c key} :
    c ∈ components → LeadsTo src base c key → LeadsTo src base (.div components span) key

/-- A component leads to no file that is being expanded. -/
theorem Includable.not_mem_of_leadsTo {stack : List Text} {l : Locus} {c : Component} {key : Text}
    (h : Includable src strict stack l c) (hl : LeadsTo src l.file c key) : key ∉ stack := by
  generalize hbase : l.file = base at hl
  induction hl generalizing stack l with
  | incl hkey =>
    cases h with
    | incl ho hfresh =>
      obtain ⟨key', ns, hkey', -, -, rfl⟩ := ho
      rw [hbase] at hkey'
      cases Except.ok.inj (hkey.symm.trans hkey')
      exact hfresh
  | fragment hkey hfile hm _ ih =>
    cases h with
    | incl ho _ _ _ _ hfragment =>
      obtain ⟨key', ns, hkey', hfile', -, rfl⟩ := ho
      rw [hbase] at hkey'
      cases Except.ok.inj (hkey.symm.trans hkey')
      cases Except.ok.inj (hfile.symm.trans hfile')
      exact fun hin => ih (hfragment _ hm) rfl (List.mem_cons_of_mem _ hin)
  | overrides hm _ ih =>
    cases h with
    | incl _ _ _ _ hoverrides => exact ih (hoverrides _ hm) hbase
  | div hm _ ih =>
    cases h with
    | div hcomponents => exact ih (hcomponents _ hm) hbase

/-- The file behind a key leads to another key. -/
def Sources.LeadsTo (src : Sources) (key key' : Text) : Prop :=
  ∃ file, src.file key = .ok file ∧ ∃ c ∈ file.components, RelaxCompact.LeadsTo src key c key'

/-- Every file of a second stack is on the first one, or leads back to a file that is. -/
def Backed (src : Sources) (stack stack' : List Text) : Prop :=
  ∀ key ∈ stack', key ∈ stack ∨ ∃ back ∈ stack, src.LeadsTo key back

theorem Backed.of_subset {stack stack' : List Text} (h : stack' ⊆ stack) :
    Backed src stack stack' :=
  fun _ hm => .inl (h hm)

theorem Backed.cons {stack stack' : List Text} (h : Backed src stack stack') (key : Text) :
    Backed src (key :: stack) (key :: stack') := by
  intro other hm
  rcases List.mem_cons.1 hm with rfl | hm
  · exact .inl List.mem_cons_self
  · rcases h other hm with hin | ⟨back, hback, hl⟩
    · exact .inl (List.mem_cons_of_mem _ hin)
    · exact .inr ⟨back, List.mem_cons_of_mem _ hback, hl⟩

theorem Backed.append {stack stack' : List Text} (h : Backed src stack stack')
    (keys : List Text) : Backed src (keys ++ stack) (keys ++ stack') := by
  induction keys with
  | nil => exact h
  | cons key keys ih => exact ih.cons key

/-- A file that can be expanded above one stack is not on the other either: it would lead back to a
file that is being expanded. -/
theorem Backed.not_mem {stack stack' : List Text} (h : Backed src stack stack') {inner : Locus}
    {file : File} (hfile : src.file inner.file = .ok file) (hfresh : inner.file ∉ stack)
    (hfragment : ∀ c ∈ file.components, Includable src strict (inner.file :: stack) inner c) :
    inner.file ∉ stack' := by
  intro hm
  rcases h _ hm with hin | ⟨back, hback, file', hfile', c, hc, hl⟩
  · exact hfresh hin
  · cases Except.ok.inj (hfile.symm.trans hfile')
    exact (hfragment c hc).not_mem_of_leadsTo hl (List.mem_cons_of_mem _ hback)

theorem Includable.restack {stack stack' : List Text} {l : Locus} {c : Component}
    (h : Includable src strict stack l c) (hs : Backed src stack stack') :
    Includable src strict stack' l c := by
  induction h generalizing stack' with
  | define => exact .define
  | div _ ih => exact .div fun c hc => ih c hc hs
  | incl ho hfresh hgrammar hmet _ hfragment ihOverrides ihFragment =>
    exact .incl ho (hs.not_mem ho.file_eq hfresh hfragment) hgrammar hmet
      (fun c hc => ihOverrides c hc hs) fun c hc => ihFragment c hc (hs.cons _)

/-! Grammars -/

/-- What stands for something else in a pattern by itself, its parts apart, stands for something. -/
def Readable (src : Sources) (l : Locus) : Pattern → Prop
  | .named holder name _ _ => ∃ name', l.environment.nameClass holder name = .ok name'
  | .data type _ _ span => ∃ library, l.environment.libraryFor type (some span) = .ok library
  | .value _ type span => ∃ library, l.environment.libraryFor type (some span) = .ok library
  | .external href inherit _ => ∃ inner file, src.Opens l href inherit inner file
  | _ => True

/-- A pattern at a locus is a grammar of its own, for which files are entered. -/
inductive Nests (src : Sources) (l : Locus) :
    Pattern → (entered : List Text) → Locus → List Component → Prop
  | external {href inherit span inner file} :
    src.Opens l href inherit inner file →
    Nests src l (.external href inherit span) [inner.file] inner file.components
  | grammar {components span} : Nests src l (.grammar components span) [] l components

/-- Whether a pattern is written as a grammar. -/
def IsGrammar : Pattern → Bool
  | .external _ _ _ | .grammar _ _ => true
  | _ => false

theorem not_nests {src : Sources} {l : Locus} {q : Pattern} (h : IsGrammar q = false)
    (entered : List Text) (inner : Locus) (cs : List Component) :
    ¬ Nests src l q entered inner cs := by
  intro hn
  cases hn with
  | external => cases h
  | grammar => cases h

/-- A pattern is that of an exposed passage, or a part of it. -/
structure Passage.Holds (ps : List Passage) (p : Passage) (q : Pattern) : Prop where
  mem : p ∈ ps
  exposed : p.exposed = true
  part : q ∈ p.define.pattern.preorder

/-- Two passages are through one definition, or not both count for one name, or their definitions
combine. -/
def Passage.Combine (ps : List Passage) : Prop :=
  ∀ p ∈ ps, ∀ q ∈ ps, p.exposed = true → q.exposed = true → p.name = q.name →
    p.occurrence ≠ q.occurrence →
    Definition.conflict? p.define.operator q.define.operator = none

/-- No fragment is included in two environments. -/
def Uniform (src : Sources) (l : Locus) (cs : List Component) : Prop :=
  ∀ inner inner', Includes src l cs inner → Includes src l cs inner' →
    inner.file = inner'.file → inner.environment = inner'.environment

/-- Components make up a grammar while the files of a stack are being expanded. Of the files that
lead to a definition only its own one counts for what is nested in it. -/
inductive Assemblable (src : Sources) (strict : Bool) :
    (stack : List Text) → Locus → List Component → Prop
  | intro {stack : List Text} {l : Locus} {cs : List Component} {ps : List Passage}
    (unfolds : Unfolds src [] l 0 cs ps)
    (includable : ∀ c ∈ cs, Includable src strict stack l c)
    (uniform : Uniform src l cs)
    (combine : Passage.Combine ps)
    (readable : ∀ p q, Passage.Holds ps p q → Readable src p.locus q)
    (fresh : ∀ p q, Passage.Holds ps p q → ∀ entered inner cs',
      Nests src p.locus q entered inner cs' → ∀ key ∈ entered, key ∉ p.locus.file :: stack)
    (nested : ∀ p q, Passage.Holds ps p q → ∀ entered inner cs',
      Nests src p.locus q entered inner cs' →
      Assemblable src strict (entered ++ p.locus.file :: stack) inner cs') :
    Assemblable src strict stack l cs

theorem Assemblable.includable {stack : List Text} {l : Locus} {cs : List Component}
    (h : Assemblable src strict stack l cs) : ∀ c ∈ cs, Includable src strict stack l c := by
  cases h with
  | intro _ includable => exact includable

theorem Assemblable.restack {stack stack' : List Text} {l : Locus} {cs : List Component}
    (h : Assemblable src strict stack l cs) (hs : Backed src stack stack') :
    Assemblable src strict stack' l cs := by
  induction h generalizing stack' with
  | intro unfolds includable uniform combine readable fresh nested ih =>
    refine .intro unfolds (fun c hc => (includable c hc).restack hs) uniform combine readable ?_
      fun p q hq entered inner cs' hn => ih p q hq _ _ _ hn ((hs.cons _).append _)
    intro p q hq entered inner cs' hn key hkey
    cases hn with
    | external ho =>
      cases List.mem_singleton.1 hkey
      exact (hs.cons _).not_mem ho.file_eq (fresh p _ hq _ _ _ (.external ho) _ hkey)
        (nested p _ hq _ _ _ (.external ho)).includable
    | grammar => cases hkey

/-- A pattern, its parts apart, can be lowered while the files of a stack are being expanded. -/
structure Lowerable (src : Sources) (strict : Bool) (stack : List Text) (l : Locus) (q : Pattern) :
    Prop where
  readable : Readable src l q
  fresh : ∀ entered inner cs, Nests src l q entered inner cs → ∀ key ∈ entered, key ∉ stack
  nested : ∀ entered inner cs, Nests src l q entered inner cs →
    Assemblable src strict (entered ++ stack) inner cs

/-- A pattern that is no grammar can be lowered if it can be read. -/
theorem Lowerable.of_readable {stack : List Text} {l : Locus} {q : Pattern} (h : Readable src l q)
    (hq : IsGrammar q = false) : Lowerable src strict stack l q :=
  ⟨h, fun _ _ _ hn => absurd hn (not_nests hq _ _ _), fun _ _ _ hn =>
    absurd hn (not_nests hq _ _ _)⟩

theorem Lowerable.restack {stack stack' : List Text} {l : Locus} {q : Pattern}
    (h : Lowerable src strict stack l q) (hs : Backed src stack stack') :
    Lowerable src strict stack' l q where
  readable := h.readable
  fresh := by
    intro entered inner cs hn key hkey
    cases hn with
    | external ho =>
      cases List.mem_singleton.1 hkey
      exact hs.not_mem ho.file_eq (h.fresh _ _ _ (.external ho) _ hkey)
        (h.nested _ _ _ (.external ho)).includable
    | grammar => cases hkey
  nested entered inner cs hn := (h.nested entered inner cs hn).restack (hs.append _)

end

end RelaxCompact
