import RelaxCompact.Proofs.Parsing.Accepting

/-!
Where operators and definitions stand. An operator that was read stands where its left operand
does, so that all of a chain stand at one place; a definition stands where its name does, and is
documented above it.
-/

namespace RelaxCompact

open Surface

namespace Surface

mutual

/-- Every operator in a pattern, those in nested grammars included, stands where its left operand
does. -/
def Pattern.Anchored : Pattern → Prop
  | .binary _ left right span => span = left.span ∧ left.Anchored ∧ right.Anchored
  | .unary _ content _ => content.Anchored
  | .named _ _ content _ => content.Anchored
  | .data _ _ (some except) _ => except.Anchored
  | .grammar components _ => Component.AllAnchored components
  | _ => True

def Component.Anchored : Component → Prop
  | .define _ _ pattern _ _ => pattern.Anchored
  | .div components _ => Component.AllAnchored components
  | .incl _ _ overrides _ => Component.AllAnchored overrides

def Component.AllAnchored : List Component → Prop
  | [] => True
  | c :: cs => c.Anchored ∧ Component.AllAnchored cs

end

/-- So it is in the parts of a pattern. -/
theorem Pattern.Anchored.part {p q : Pattern} (hp : p.Anchored) (hq : q ∈ p.preorder) :
    q.Anchored := by
  fun_induction Pattern.preorder p with
  | case1 op left right span ihLeft ihRight =>
    obtain ⟨-, hleft, hright⟩ := id hp
    rcases List.mem_cons.1 hq with rfl | hq
    · exact hp
    · exact (List.mem_append.1 hq).elim (ihLeft hleft) (ihRight hright)
  | case2 | case3 | case4 =>
    rename_i ih
    rcases List.mem_cons.1 hq with rfl | hq
    · exact hp
    · exact ih hp hq
  | case5 =>
    cases List.mem_singleton.1 hq
    exact hp

mutual

/-- And in the definitions of a component. -/
theorem Component.Anchored.define {c : Component} (hc : c.Anchored) {d : Define}
    (hd : d ∈ c.defines) : d.pattern.Anchored := by
  cases c with
  | define name operator pattern documentation span =>
    cases List.mem_singleton.1 hd
    exact hc
  | div components span => exact Component.AllAnchored.define hc hd
  | incl href inherit overrides span => exact Component.AllAnchored.define hc hd

theorem Component.AllAnchored.define {cs : List Component} (hcs : Component.AllAnchored cs)
    {d : Define} (hd : d ∈ Component.allDefines cs) : d.pattern.Anchored := by
  cases cs with
  | nil => cases hd
  | cons c cs =>
    rcases List.mem_append.1 hd with hd | hd
    · exact Component.Anchored.define hcs.1 hd
    · exact Component.AllAnchored.define hcs.2 hd

end

end Surface

section

variable {docs : DocLines} {us : List Used} {next : List Token}

/-- Operators are put where their left operands are, and nothing is moved afterwards. -/
theorem DerivesPattern.anchored {p : Pattern} (h : DerivesPattern docs us next p) :
    p.Anchored := by
  refine @DerivesPattern.rec docs (fun _ _ p _ => p.Anchored) (fun _ _ p _ => p.Anchored)
    (fun _ _ p _ => p.Anchored) (fun _ _ p _ => p.Anchored) (fun _ _ p _ => p.Anchored)
    (fun _ _ except _ => ∀ p ∈ except, p.Anchored) (fun _ _ p _ => p.Anchored)
    (fun _ _ _ cs _ => Component.AllAnchored cs) (fun _ _ _ cs _ => Component.AllAnchored cs)
    (fun _ _ _ c _ => c.Anchored)
    ?interleaves ?choice ?sequences ?interleave ?occurrences ?comma ?juxtaposed ?primaries ?modified
    ?element ?attr ?list ?mixed ?empty ?text ?notAllowed ?ref ?parentRef ?parenthesized ?external
    ?grammar ?value ?data ?literal ?absent ?present ?braced ?block ?nil ?cons ?define ?div ?incl
    ?overriding us next p h
  case choice => exact fun _ _ _ ihLeft ihRight => ⟨rfl, ihLeft, ihRight⟩
  case interleave => exact fun _ _ _ ihLeft ihRight => ⟨rfl, ihLeft, ihRight⟩
  case comma => exact fun _ _ _ ihLeft ihRight => ⟨rfl, ihLeft, ihRight⟩
  case juxtaposed => exact fun _ _ _ _ ihLeft ihRight => ⟨rfl, ihLeft, ihRight⟩
  case data =>
    intro _ _ _ _ _ _ except _ _ _ _ ih
    cases except with
    | none => trivial
    | some p => exact ih p rfl
  case present =>
    rintro _ _ _ _ _ _ ih _ ⟨⟩
    exact ih
  case absent => exact nofun
  case cons => exact fun _ _ ihFirst ihRest => ⟨ihFirst, ihRest⟩
  all_goals
    intros
    first
    | assumption
    | trivial

theorem DerivesComponents.anchored {includes : Bool} {cs : List Component}
    (h : DerivesComponents docs includes us next cs) : Component.AllAnchored cs := by
  induction h using @DerivesComponents.rec docs (fun _ _ _ _ => True) (fun _ _ _ _ => True)
    (fun _ _ _ _ => True) (fun _ _ _ _ => True) (fun _ _ _ _ => True) (fun _ _ _ _ => True)
    (fun _ _ _ _ => True) (fun _ _ _ cs _ => Component.AllAnchored cs) _
    (fun _ _ _ c _ => c.Anchored) with
  | cons _ _ ihFirst ihRest => exact ⟨ihFirst, ihRest⟩
  | define _ _ _ h => exact h.anchored
  | _ =>
    intros
    first
    | assumption
    | trivial

end

/-- In a file that was read every operator stands where its left operand does. -/
theorem Source.parse_anchored {source : Source} {path : Text} {f : File}
    (h : source.parse path = .ok f) : Component.AllAnchored f.components := by
  obtain ⟨scanned, t, -, hend, hrun⟩ := Source.parse_ok h
  have hderives := Parser.file_ok (Parser.derives_level _ _) hend hrun
  change DerivesFile _ _ scanned.tokens f at hderives
  generalize scanned.tokens = ts at hderives
  cases hderives with
  | grammar _ _ hcomponents _ _ => exact hcomponents.anchored
  | pattern _ _ hpattern _ => exact ⟨hpattern.anchored, trivial⟩

/-! Names of definitions -/

/-- A definition stands at the token that names it, with the documentation above that token. -/
structure Surface.Define.HeadedBy (docs : DocLines) (d : Define) (t : Token) : Prop where
  names : NamesDefinition t d.name
  span : d.span = t.span
  documentation : d.documentation = Parser.docAbove docs t.start.line

/-- Each definition is headed by one of the tokens that derive it. -/
theorem DerivesComponents.headed {docs : DocLines} {includes : Bool} {us : List Used}
    {next : List Token} {cs : List Component} (h : DerivesComponents docs includes us next cs) :
    ∀ d ∈ Component.allDefines cs, ∃ t ∈ written us, d.HeadedBy docs t := by
  refine @DerivesComponents.rec docs (fun _ _ _ _ => True) (fun _ _ _ _ => True)
    (fun _ _ _ _ => True) (fun _ _ _ _ => True) (fun _ _ _ _ => True) (fun _ _ _ _ => True)
    (fun _ _ _ _ => True)
    (fun _ us _ cs _ => ∀ d ∈ Component.allDefines cs, ∃ t ∈ written us, d.HeadedBy docs t)
    (fun _ us _ cs _ => ∀ d ∈ Component.allDefines cs, ∃ t ∈ written us, d.HeadedBy docs t)
    (fun _ us _ c _ => ∀ d ∈ c.defines, ∃ t ∈ written us, d.HeadedBy docs t)
    ?interleaves ?choice ?sequences ?interleave ?occurrences ?comma ?juxtaposed ?primaries ?modified
    ?element ?attr ?list ?mixed ?empty ?text ?notAllowed ?ref ?parentRef ?parenthesized ?external
    ?grammar ?value ?data ?literal ?absent ?present ?braced ?block ?nil ?cons ?define ?div ?incl
    ?overriding includes us next cs h
  case block =>
    intro _ brace us close _ _ _ _ _ _ ih d hd
    obtain ⟨t, ht, hheaded⟩ := ih d hd
    refine ⟨t, ?_, hheaded⟩
    simp [written, Token.used, written_append, ht]
  case nil =>
    intro _ _ d hd
    cases hd
  case cons =>
    intro _ us vs _ c cs _ _ ihFirst ihRest d hd
    rw [written_append]
    rcases List.mem_append.1 hd with hd | hd
    · obtain ⟨t, ht, hheaded⟩ := ihFirst d hd
      exact ⟨t, List.mem_append_left _ ht, hheaded⟩
    · obtain ⟨t, ht, hheaded⟩ := ihRest d hd
      exact ⟨t, List.mem_append_right _ ht, hheaded⟩
  case define =>
    intro _ head _ _ _ _ _ _ _ hname _ _ _ d hd
    cases List.mem_singleton.1 hd
    exact ⟨head.token, by simp [written], hname, rfl, rfl⟩
  case div =>
    intro _ head us _ _ _ _ _ ih d hd
    obtain ⟨t, ht, hheaded⟩ := ih d hd
    refine ⟨t, ?_, hheaded⟩
    simp [written, ht]
  case incl =>
    intro _ _ _ _ _ _ _ _ _ _ d hd
    cases hd
  case overriding =>
    intro head us vs ws _ _ _ _ _ _ _ _ _ ih d hd
    obtain ⟨t, ht, hheaded⟩ := ih d hd
    refine ⟨t, ?_, hheaded⟩
    simp [written, written_append, ht]
  all_goals
    intros
    trivial

theorem Source.parse_headed {source : Source} {path : Text} {f : File}
    (h : source.parse path = .ok f) (hgrammar : f.isPattern = false) :
    ∃ scanned, source.scan path = .ok scanned ∧
      ∀ d ∈ Component.allDefines f.components, ∃ t ∈ scanned.tokens, d.HeadedBy scanned.docs t := by
  obtain ⟨scanned, t, hscan, hend, hrun⟩ := Source.parse_ok h
  have hderives := Parser.file_ok (Parser.derives_level _ _) hend hrun
  refine ⟨scanned, hscan, ?_⟩
  change DerivesFile scanned.docs _ scanned.tokens f at hderives
  generalize scanned.tokens = ts at hderives
  cases hderives with
  | grammar _ _ hcomponents _ _ =>
    intro d hd
    obtain ⟨t, ht, hheaded⟩ := hcomponents.headed d hd
    exact ⟨t, List.mem_append_left _ (List.mem_append_right _ ht), hheaded⟩
  | pattern _ _ _ _ => cases hgrammar

end RelaxCompact
