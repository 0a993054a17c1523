import RelaxCompact.Proofs.Parsing.Pacing

/-!
Families of parsers that differ only in how deep levels are read. A judgement on the runs of such a
family, one for each of its members, is lifted from the constructs that open a level to whole files:
it is enough that it holds of what opens no level, and of two steps in a row if it holds of each.
-/

namespace RelaxCompact

/-- The token opens a construct: a parenthesis, a brace, or the minus of an exception. -/
def Token.Opens (t : Token) : Prop :=
  t.lexeme ∈ [.symbol .leftParen, .symbol .leftBrace, .symbol .minus]

theorem Token.opens_of_lexeme {t : Token} {s : Symbol} (h : t.lexeme = .symbol s)
    (hs : s ∈ [.leftParen, .leftBrace, .minus]) : t.Opens := by
  unfold Opens
  rw [h]
  exact List.mem_map_of_mem (f := Lexeme.symbol) hs

namespace Parser

open Surface Run Token

variable {ι α β : Type}

/-- A judgement on where the runs of a family start and how they end, which is kept by steps. -/
structure Lifting
    (J : ∀ {α : Type}, Progress → (ι → EStateM.Result SchemaError Progress α) → Prop) : Prop where
  plain {α : Type} {p : Parser α} (h : Plain p) (s : Progress) : J s fun _ => p s
  bind {α β : Type} {x : ι → Parser α} {f : ι → α → Parser β} {s : Progress} :
    J s (fun i => x i s) → (∀ a t, (∃ i, x i s = .ok a t) → J t fun i => f i a t) →
      J s fun i => (x i >>= f i) s

/-- What may be read inside a construct. -/
inductive Inner : {α : Type} → (Level → Parser α) → Prop
  | basicName : Inner (·.basicName)
  | nameClass : Inner fun level => nameClassOf level.basicName
  | primary : Inner (·.primary)
  | pattern : Inner (·.pattern)
  | components (allowInclude : Bool) (terminator : TokenType) :
    Inner (·.components allowInclude terminator)

/-- The judgement holds of the parsers of a family of levels. -/
structure Lifts (J : ∀ {α : Type}, Progress → (ι → EStateM.Result SchemaError Progress α) → Prop)
    (level : ι → Level) : Prop where
  basicName (s : Progress) : J s fun i => (level i).basicName s
  primary (s : Progress) : J s fun i => (level i).primary s
  components (allowInclude : Bool) (terminator : TokenType) (s : Progress) :
    J s fun i => (level i).components allowInclude terminator s

/-- The judgement holds of what is read behind an opener, from the opener on. -/
def Nests (J : ∀ {α : Type}, Progress → (ι → EStateM.Result SchemaError Progress α) → Prop)
    (setting : ι → Setting) (next : ι → Option Level) : Prop :=
  ∀ {α : Type} {content : Level → Parser α}, Inner content → ∀ (opener : Token) (s : Progress),
    opener.Opens →
      J { s with rest := opener :: s.rest } fun i => nested (setting i) (next i) content s

section

variable {J : ∀ {α : Type}, Progress → (ι → EStateM.Result SchemaError Progress α) → Prop}
  (hJ : Lifting J) {s : Progress}

include hJ

namespace Lifting

/-- The family goes on alike behind a step that all its members take. -/
theorem after {p : Parser α} {f : ι → α → Parser β} (hp : Plain p)
    (hf : ∀ a t, p s = .ok a t → J t fun i => f i a t) : J s fun i => (p >>= f i) s :=
  hJ.bind (hJ.plain hp s) fun a t ⟨_, ht⟩ => hf a t ht

omit hJ in
/-- A look at the current token. -/
theorem current {f : ι → Option Token → Parser β} (h : J s fun i => f i s.rest.head? s) :
    J s fun i => (current >>= f i) s :=
  h

theorem chain {op : Symbol} {operand : ι → Parser α} {combine : α → α → α}
    (h : ∀ s, J s fun i => operand i s) (s : Progress) :
    J s fun i => chain op (operand i) combine s := by
  have hgo (n : Nat) : ∀ left s, J s fun i => chain.go op (operand i) combine n left s := by
    induction n with
    | zero => exact fun left s => hJ.plain (.pure left) s
    | succ n ih =>
      intro left s
      refine hJ.after (.accept _) fun b t _ => ?_
      cases b with
      | false => exact hJ.plain (.pure left) t
      | true => exact hJ.bind (h t) fun right u _ => ih _ u
  exact hJ.bind (h s) fun left t _ => hJ.after .remaining fun n u _ => hgo n left u

theorem nameClassOf {basic : ι → Parser Surface.NameClass} (h : ∀ s, J s fun i => basic i s)
    (s : Progress) : J s fun i => nameClassOf (basic i) s :=
  hJ.chain h s

theorem postfixOf {primary : ι → Parser Pattern} (h : ∀ s, J s fun i => primary i s)
    (s : Progress) : J s fun i => postfixOf (primary i) s := by
  have hgo (n : Nat) : ∀ p, Plain (postfixOf.go n p) := by
    induction n with
    | zero => exact fun p => .pure p
    | succ n ih =>
      refine fun p => Plain.current.bind fun token => ?_
      split
      · exact Plain.advance.bind fun _ => ih _
      · exact .pure p
  exact hJ.bind (h s) fun p t _ => hJ.after .remaining fun n u _ => hJ.plain (hgo n p) u

theorem sequenceOf {primary : ι → Parser Pattern} (h : ∀ s, J s fun i => primary i s)
    (s : Progress) : J s fun i => sequenceOf (primary i) s := by
  have hgo (n : Nat) : ∀ left s, J s fun i => sequenceOf.go (primary i) n left s := by
    induction n with
    | zero => exact fun left s => hJ.plain (.pure left) s
    | succ n ih =>
      intro left s
      refine hJ.after (.accept _) fun b t _ => hJ.after .startsParticle fun b' u _ => ?_
      cases b || b' with
      | false => exact hJ.plain (.pure left) u
      | true => exact hJ.bind (hJ.postfixOf h u) fun right v _ => ih _ v
  exact hJ.bind (hJ.postfixOf h s) fun left t _ => hJ.after .remaining fun n u _ => hgo n left u

theorem patternOf {primary : ι → Parser Pattern} (h : ∀ s, J s fun i => primary i s)
    (s : Progress) : J s fun i => patternOf (primary i) s :=
  hJ.chain (hJ.chain (hJ.sequenceOf h)) s

theorem componentsOf {component : ι → Parser Component} (h : ∀ s, J s fun i => component i s)
    (terminator : TokenType) (s : Progress) :
    J s fun i => componentsOf (component i) terminator s := by
  have hgo (n : Nat) : ∀ s, J s fun i => componentsOf.go (component i) terminator n s := by
    induction n with
    | zero =>
      exact fun s => hJ.after (.at? _) fun b t _ => hJ.plain (.ite (.pure _) (.fail _)) t
    | succ n ih =>
      refine fun s => hJ.after .skipAnnotations fun _ t _ => hJ.after .skipAnnotationElements
        fun _ u _ => hJ.after (.at? _) fun b v _ => ?_
      cases b with
      | true => exact hJ.plain (.pure []) v
      | false => exact hJ.bind (h v) fun c w _ => hJ.bind (ih w) fun cs x _ => hJ.plain (.pure _) x
  exact hJ.after .remaining fun n t _ => hgo n t

end Lifting

/-! Levels -/

theorem Lifts.inner {level : ι → Level} (h : Lifts J level) {content : Level → Parser α}
    (hcontent : Inner content) (s : Progress) : J s fun i => content (level i) s := by
  cases hcontent with
  | basicName => exact h.basicName s
  | nameClass => exact hJ.nameClassOf h.basicName s
  | primary => exact h.primary s
  | pattern => exact hJ.patternOf h.primary s
  | components allowInclude terminator => exact h.components allowInclude terminator s

section

variable {setting : ι → Setting} {next : ι → Option Level} (hnext : Nests J setting next)

include hnext

/-- A construct that was opened, and what follows it. -/
theorem Nests.bind {content : Level → Parser α} (hcontent : Inner content) {f : ι → α → Parser β}
    {t : Progress} {opener : Token} (hopener : opener.Opens) (hs : s.rest = opener :: t.rest)
    (ht : Passes s t) (hf : ∀ a u, J u fun i => f i a u) :
    J s fun i => (nested (setting i) (next i) content >>= f i) t := by
  have hstart : s = { t with rest := opener :: t.rest } := by
    rw [← hs, ht.depth, ht.deepest]
  have hnested := hnext hcontent opener t hopener
  rw [← hstart] at hnested
  exact hJ.bind (x := fun i _ => nested (setting i) (next i) content t) hnested
    fun a u _ => hf a u

/-- What stands in braces. -/
theorem Nests.braced {content : Level → Parser α} (hcontent : Inner content)
    {f : ι → α → Parser β} (hf : ∀ a u, J u fun i => f i a u) (s : Progress) :
    J s fun i => (expectSymbol .leftBrace >>= fun _ =>
      nested (setting i) (next i) content >>= f i) s := by
  cases hx : expectSymbol .leftBrace s with
  | error e t =>
    refine hJ.after (.expectSymbol _) fun a u hu => ?_
    rw [hx] at hu
    cases hu
  | ok a t =>
    obtain ⟨brace, hs, hbrace⟩ := expectSymbol_ok hx
    have ht := Plain.expectSymbol .leftBrace s
    rw [hx] at ht
    have hrun (i : ι) := bind_of_ok hx (f := fun _ => nested (setting i) (next i) content >>= f i)
    simp only [hrun]
    exact hnext.bind hJ hcontent (opens_of_lexeme hbrace (by decide)) hs ht hf

/-- What stands behind a minus, if one is there. -/
theorem Nests.except {content : Level → Parser α} (hcontent : Inner content)
    {f : ι → α → Parser β} {g : ι → Parser β} (hf : ∀ a u, J u fun i => f i a u)
    (hg : ∀ s, J s fun i => g i s) (s : Progress) :
    J s fun i => (accept (.symbol .minus) >>= fun b =>
      if b = true then nested (setting i) (next i) content >>= f i else g i) s := by
  cases hx : accept (.symbol .minus) s with
  | error e t =>
    refine hJ.after (.accept _) fun a u hu => ?_
    rw [hx] at hu
    cases hu
  | ok b t =>
    have ht := Plain.accept (.symbol .minus) s
    rw [hx] at ht
    have hrun (i : ι) := bind_of_ok hx
      (f := fun b => if b = true then nested (setting i) (next i) content >>= f i else g i)
    simp only [hrun]
    obtain ⟨rfl, minus, hs, hminus⟩ | ⟨rfl, rfl⟩ := accept_ok hx
    · have hopens := opens_of_lexeme (Token.lexeme_of_symbol hminus) (by decide)
      exact hnext.bind hJ hcontent hopens hs ht hf
    · exact hg t

theorem Lifting.nameException (s : Progress) :
    J s fun i => nameException (setting i) (next i) s :=
  hnext.except hJ .basicName (fun _ u => hJ.plain (.pure _) u) (fun u => hJ.plain (.pure _) u) s

theorem Lifting.bracedPattern (s : Progress) :
    J s fun i => bracedPattern (setting i) (next i) s :=
  hnext.braced hJ .pattern (fun _ u => hJ.plain ((Plain.expectSymbol _).bind fun _ => .pure _) u) s

/-- What stands behind a parenthesis. -/
theorem Lifting.parenthesized {content : Level → Parser α} (hcontent : Inner content)
    {f : ι → α → Parser β} {token : Token} (htoken : token.lexeme = .symbol .leftParen)
    {rest : List Token} (hs : s.rest = token :: rest) (hf : ∀ a u, J u fun i => f i a u) :
    J s fun i => (advance >>= fun _ => nested (setting i) (next i) content >>= f i) s := by
  have hpasses := Plain.advance s
  have htail : s.rest = token :: (left (advance s)).rest := by
    rw [hs]
    change token :: rest = token :: s.rest.tail
    rw [hs, List.tail_cons]
  exact hnext.bind hJ hcontent (opens_of_lexeme htoken (by decide)) htail hpasses hf

theorem Lifting.basicName (s : Progress) :
    J s fun i => basicNameWith (setting i) (next i) s := by
  have hname (name : Surface.NameClass) (t : Progress) :
      J t fun _ => (advance >>= fun _ => pure name) t :=
    hJ.plain (Plain.advance.bind fun _ => .pure name) t
  refine hJ.after .skipAnnotations fun _ t _ => Lifting.current ?_
  cases hrest : t.rest with
  | nil => exact hJ.plain (.fail _) t
  | cons token rest =>
    rw [List.head?_cons]
    dsimp only
    cases hlexeme : token.lexeme with
    | identifier | keyword | prefixedName => exact hname _ t
    | nsName =>
      exact hJ.after .advance fun _ u _ => hJ.bind (hJ.nameException hnext u) fun _ v _ =>
        hJ.plain (.pure _) v
    | symbol sym =>
      cases sym with
      | star =>
        exact hJ.after .advance fun _ u _ => hJ.bind (hJ.nameException hnext u) fun _ v _ =>
          hJ.plain (.pure _) v
      | leftParen =>
        exact hJ.parenthesized hnext .nameClass hlexeme hrest fun name u =>
          hJ.plain ((Plain.expectSymbol _).bind fun _ => .pure name) u
      | _ => exact hJ.plain (.fail _) t
    | literal | eof => exact hJ.plain (.fail _) t

theorem Lifting.datatypePattern (type : Datatype) (span : Span) (s : Progress) :
    J s fun i => datatypePattern (setting i) (next i) type span s := by
  have hrest (params : List (String × Text)) (t : Progress) : J t fun i => (do
      let exception ←
        if ← accept (.symbol .minus) then
          some <$> nested (setting i) (next i) (·.primary)
        else pure none
      return Pattern.data type params exception span) t := by
    simp only [bind_map_left]
    exact hnext.except hJ .primary (fun _ u => hJ.plain (.pure _) u)
      (fun u => hJ.plain (.pure _) u) t
  refine hJ.after (.at? _) fun b t _ => ?_
  cases b with
  | true => exact hJ.plain (Plain.literal.bind fun _ => .pure _) t
  | false =>
    refine hJ.after (.at? _) fun b u _ => ?_
    cases b with
    | true => exact hJ.after .params fun _ v _ => hrest _ v
    | false => exact hrest [] u

theorem Lifting.primary {basicName : ι → Parser Surface.NameClass}
    (hbasicName : ∀ s, J s fun i => basicName i s) (s : Progress) :
    J s fun i => primaryWith (setting i) (basicName i) (next i) s := by
  have hnamed (holder : Holder) (span : Span) (t : Progress) : J t fun i => (do
      advance
      let name ← Parser.nameClassOf (basicName i)
      return Pattern.named holder name (← Parser.bracedPattern (setting i) (next i)) span) t :=
    hJ.after .advance fun _ u _ => hJ.bind (hJ.nameClassOf hbasicName u) fun _ v _ =>
      hJ.bind (hJ.bracedPattern hnext v) fun _ w _ => hJ.plain (.pure _) w
  have hwrapped (m : Modifier) (span : Span) (t : Progress) : J t fun i => (do
      advance
      return Pattern.unary m (← Parser.bracedPattern (setting i) (next i)) span) t :=
    hJ.after .advance fun _ u _ => hJ.bind (hJ.bracedPattern hnext u) fun _ v _ =>
      hJ.plain (.pure _) v
  have hleaf (p : Pattern) (t : Progress) : J t fun _ => (advance >>= fun _ => pure p) t :=
    hJ.plain (Plain.advance.bind fun _ => .pure p) t
  have hdatatype (type : Datatype) (span : Span) (t : Progress) : J t fun i => (do
      advance
      Parser.datatypePattern (setting i) (next i) type span) t :=
    hJ.after .advance fun _ u _ => hJ.datatypePattern hnext type span u
  refine hJ.after .skipAnnotations fun _ t _ => Lifting.current ?_
  cases hrest : t.rest with
  | nil => exact hJ.plain (.fail _) t
  | cons token rest =>
    rw [List.head?_cons]
    dsimp only
    cases hlexeme : token.lexeme with
    | identifier => exact hleaf _ t
    | prefixedName => exact hdatatype _ token.span t
    | literal => exact hJ.plain (Plain.literal.bind fun _ => .pure _) t
    | keyword k =>
      cases k with
      | element => exact hnamed .element token.span t
      | attr => exact hnamed .attr token.span t
      | list => exact hwrapped .list token.span t
      | mixed => exact hwrapped .mixed token.span t
      | empty | text | notAllowed => exact hleaf _ t
      | parent =>
        exact hJ.plain (Plain.advance.bind fun _ => (Plain.expect _ _).bind fun _ => .pure _) t
      | external =>
        exact hJ.plain (Plain.advance.bind fun _ => (Plain.literalOr _).bind fun _ =>
          Plain.inheritance.bind fun _ => .pure _) t
      | grammar =>
        exact hJ.after .advance fun _ u _ => hnext.braced hJ
          (.components true (.symbol .rightBrace))
          (fun _ v => hJ.plain ((Plain.expectSymbol _).bind fun _ => .pure _) v) u
      | string | token => exact hdatatype _ token.span t
      | _ => exact hJ.plain (.fail _) t
    | symbol sym =>
      cases sym with
      | leftParen =>
        exact hJ.parenthesized hnext .pattern hlexeme hrest fun p u =>
          hJ.plain ((Plain.expectSymbol _).bind fun _ => .pure p) u
      | _ => exact hJ.plain (.fail _) t
    | nsName | eof => exact hJ.plain (.fail _) t

section

variable {docs : DocLines} (hdocs : ∀ i, (setting i).docs = docs) {primary : ι → Parser Pattern}
  (hprimary : ∀ s, J s fun i => primary i s)

include hdocs hprimary

omit hnext in
theorem Lifting.define (head : Token) (name : DefineName) (s : Progress) :
    J s fun i => defineWith (setting i) (primary i) head name s := by
  simp only [defineWith, hdocs]
  refine hJ.after .advance fun _ t _ => Lifting.current ?_
  cases t.rest.head?.bind assignment? with
  | none => exact hJ.plain (.fail _) t
  | some operator =>
    exact hJ.after .advance fun _ u _ => hJ.bind (hJ.patternOf hprimary u) fun _ v _ =>
      hJ.plain (.pure _) v

/-- A component, where no include may stand, or with a block of overrides behind an include. -/
theorem Lifting.component {overrides : ι → Option (Parser (List Component))}
    (hoverrides : (∀ i, overrides i = none) ∨
      ∃ block : ι → Parser (List Component), (∀ i, overrides i = some (block i)) ∧
        ∀ s, J s fun i => block i s) (s : Progress) :
    J s fun i => componentWith (setting i) (primary i) (next i) (overrides i) s := by
  have hdiv (allowInclude : Bool) (span : Span) (t : Progress) : J t fun i => (do
      advance
      expectSymbol .leftBrace
      let components ← nested (setting i) (next i)
        (·.components allowInclude (.symbol .rightBrace))
      expectSymbol .rightBrace
      return Component.div components span) t :=
    hJ.after .advance fun _ u _ => hnext.braced hJ (.components allowInclude _)
      (fun _ v => hJ.plain ((Plain.expectSymbol _).bind fun _ => .pure _) v) u
  refine Lifting.current ?_
  cases s.rest.head? with
  | none => exact hJ.plain (.fail _) s
  | some token =>
    dsimp only
    cases token.lexeme with
    | identifier => exact hJ.define hdocs hprimary token _ s
    | keyword k =>
      cases k with
      | start => exact hJ.define hdocs hprimary token .start s
      | div =>
        obtain hnone | ⟨block, hsome, -⟩ := hoverrides
        · simp only [hnone]
          exact hdiv false token.span s
        · simp only [hsome]
          exact hdiv true token.span s
      | incl =>
        obtain hnone | ⟨block, hsome, hblock⟩ := hoverrides
        · simp only [hnone]
          exact hJ.plain (.fail _) s
        · simp only [hsome]
          refine hJ.after .advance fun _ t _ => hJ.after (.literalOr _) fun _ u _ =>
            hJ.after .inheritance fun _ v _ => hJ.after (.accept _) fun b w _ => ?_
          cases b with
          | true =>
            exact hJ.bind (hblock w) fun _ x _ =>
              hJ.plain ((Plain.expectSymbol _).bind fun _ => .pure _) x
          | false => exact hJ.plain (.pure _) w
      | _ => exact hJ.plain (.fail _) s
    | prefixedName | nsName | literal | symbol | eof => exact hJ.plain (.fail _) s

end

/-- The levels above others for which the judgement holds where they are opened. -/
theorem Lifts.above {docs : DocLines} (hdocs : ∀ i, (setting i).docs = docs) :
    Lifts J fun i => Level.above (setting i) (next i) := by
  have hprimary := hJ.primary hnext (hJ.basicName hnext)
  have hplain (s : Progress) : J s fun i => componentWith (setting i)
      (primaryWith (setting i) (basicNameWith (setting i) (next i)) (next i)) (next i) none s :=
    hJ.component hnext hdocs hprimary (.inl fun _ => rfl) s
  refine ⟨hJ.basicName hnext, hprimary, fun allowInclude terminator => ?_⟩
  cases allowInclude with
  | false => exact hJ.componentsOf hplain terminator
  | true =>
    refine hJ.componentsOf (hJ.component hnext hdocs hprimary ?_) terminator
    exact .inr ⟨_, fun _ => rfl, hJ.componentsOf hplain _⟩

end

/-- A whole file. -/
theorem Lifts.file {level : ι → Level} (h : Lifts J level) (path : Text) (s : Progress) :
    J s fun i => file path (level i) s := by
  refine hJ.after .header fun declarations t _ => hJ.after .skipAnnotations fun _ u _ =>
    hJ.after .get fun v w _ => ?_
  by_cases hcomponents : startsComponents v.rest = true
  · simp only [if_pos hcomponents]
    exact hJ.bind (h.components true .eof w) fun _ x _ =>
      hJ.plain ((Plain.expect _ _).bind fun _ => .pure _) x
  · simp only [if_neg hcomponents]
    refine hJ.bind (hJ.patternOf h.primary w) fun p x _ => hJ.plain ?_ x
    refine Plain.current.bind fun token => ?_
    cases token with
    | none => exact (Plain.expect _ _).bind fun _ => .pure _
    | some token =>
      exact .ite ((Plain.fail _).bind fun _ => (Plain.expect _ _).bind fun _ => .pure _)
        ((Plain.expect _ _).bind fun _ => .pure _)

end

end Parser

end RelaxCompact
