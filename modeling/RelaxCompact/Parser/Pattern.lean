import RelaxCompact.Parser.Basic
import RelaxCompact.Surface.File

/-!
The grammar of patterns, name classes and components, level by level. A level holds the parsers for
what may stand inside one more opening construct; below the last level there is none, and opening a
construct fails.
-/

namespace RelaxCompact

open Surface

namespace Parser

/-- The parsers at one level of nesting. -/
structure Level where
  basicName : Parser Surface.NameClass
  primary : Parser Pattern
  components : (allowInclude : Bool) → (terminator : TokenType) → Parser (List Component)

/-- What the parsers of one file share: how many levels there are, and the documentation lines. -/
structure Setting where
  limit : Nat
  docs : DocLines

/-- Opens a construct whose content is read at the next level. -/
def nested {α : Type} (setting : Setting) (next : Option Level) (content : Level → Parser α) :
    Parser α :=
  match next with
  | none => fail (.tooDeep setting.limit)
  | some level => enclosed (content level)

/-! Name classes -/

/-- Basic name classes with `|` between them. -/
def nameClassOf (basic : Parser Surface.NameClass) : Parser Surface.NameClass :=
  chain .pipe basic fun left right => .choice left right left.span

def nameException (setting : Setting) (next : Option Level) :
    Parser (Option Surface.NameClass) := do
  if ← accept (.symbol .minus) then
    return some (← nested setting next (·.basicName))
  return none

def basicNameWith (setting : Setting) (next : Option Level) : Parser Surface.NameClass := do
  skipAnnotations
  match ← current with
  | none => fail (.missingName .nameClass)
  | some token =>
    match token.lexeme with
    | .identifier name => advance; return .name none name token.span
    | .keyword k => advance; return .name none k.spelling token.span
    | .prefixedName qualifier localName =>
      advance
      return .name (some qualifier) localName token.span
    | .symbol .star =>
      advance
      return .anyName (← nameException setting next) token.span
    | .nsName qualifier =>
      advance
      return .nsName qualifier (← nameException setting next) token.span
    | .symbol .leftParen =>
      advance
      let name ← nested setting next fun level => nameClassOf level.basicName
      expectSymbol .rightParen
      return name
    | _ => fail (.missingName .nameClass)

/-! Patterns -/

/-- The operator that assigns a definition. -/
def assignment? (token : Token) : Option Assignment :=
  match token.lexeme with
  | .symbol .assign => some .single
  | .symbol .choiceAssign => some .choice
  | .symbol .interleaveAssign => some .interleave
  | _ => none

/-- The token can continue a sequence without a comma. An identifier before an assignment starts
the next definition, a qualified name before a bracket an annotation element. -/
def continuesSequence : List Token → Bool
  | [] => false
  | token :: rest =>
    match token.lexeme with
    | .identifier _ => (rest.head?.bind assignment?).isNone
    | .prefixedName _ _ => !rest.head?.any (·.is (.symbol .leftBracket))
    | .literal _ | .symbol .leftParen => true
    | .keyword k =>
      k ∈ [.element, .attr, .list, .mixed, .empty, .text, .notAllowed, .parent, .external, .grammar,
        .string, .token]
    | _ => false

/-- A particle starts here, behind annotations. -/
def startsParticle : Parser Bool := do
  match afterAnnotations (← get).rest with
  | .ok rest => return continuesSequence rest
  | .error _ => return false

def postfixModifier? (token : Token) : Option Modifier :=
  match token.lexeme with
  | .symbol .question => some .optional
  | .symbol .star => some .zeroOrMore
  | .symbol .plus => some .oneOrMore
  | _ => none

/-- A primary pattern with the occurrence operators behind it. -/
def postfixOf (primary : Parser Pattern) : Parser Pattern := do
  let p ← primary
  go (← remaining) p
where
  go : Nat → Pattern → Parser Pattern
    | 0, p => return p
    | n + 1, p => do
      match (← current).bind postfixModifier? with
      | some m =>
        advance
        go n (.unary m p p.span)
      | none => return p

/-- Patterns in sequence, with or without commas. -/
def sequenceOf (primary : Parser Pattern) : Parser Pattern := do
  let left ← postfixOf primary
  go (← remaining) left
where
  go : Nat → Pattern → Parser Pattern
    | 0, left => return left
    | n + 1, left => do
      if (← accept (.symbol .comma)) || (← startsParticle) then
        let right ← postfixOf primary
        go n (.binary .group left right left.span)
      else return left

def interleaveOf (primary : Parser Pattern) : Parser Pattern :=
  chain .ampersand (sequenceOf primary) fun left right => .binary .interleave left right left.span

/-- A pattern: choices of interleaves of sequences. -/
def patternOf (primary : Parser Pattern) : Parser Pattern :=
  chain .pipe (interleaveOf primary) fun left right => .binary .choice left right left.span

namespace Level

def nameClass (level : Level) : Parser Surface.NameClass := nameClassOf level.basicName

def pattern (level : Level) : Parser Pattern := patternOf level.primary

end Level

/-- A pattern in braces. -/
def bracedPattern (setting : Setting) (next : Option Level) : Parser Pattern := do
  expectSymbol .leftBrace
  let p ← nested setting next (·.pattern)
  expectSymbol .rightBrace
  return p

/-- Parameters of a datatype, in braces. -/
def params : Parser (List (String × Text)) := do
  expectSymbol .leftBrace
  go (← remaining)
where
  go : Nat → Parser (List (String × Text))
    | 0 => do
      expectSymbol .rightBrace
      return []
    | n + 1 => do
      if ← accept (.symbol .rightBrace) then return []
      skipAnnotations
      let name ← expectName .parameter
      expectSymbol .assign
      let value ← literalOr .missingParameterValue
      return (name, value) :: (← go n)

/-- What follows the name of a datatype: a literal, or parameters and an exception. -/
def datatypePattern (setting : Setting) (next : Option Level) (type : Datatype) (span : Span) :
    Parser Pattern := do
  if ← at? .literal then
    return .value (← literal) type span
  let params ← if ← at? (.symbol .leftBrace) then params else pure []
  let exception ←
    if ← accept (.symbol .minus) then
      some <$> nested setting next (·.primary)
    else pure none
  return .data type params exception span

def primaryWith (setting : Setting) (basicName : Parser Surface.NameClass) (next : Option Level) :
    Parser Pattern := do
  skipAnnotations
  match ← current with
  | none => fail .missingPattern
  | some token =>
    let span := token.span
    let named (holder : Holder) : Parser Pattern := do
      advance
      let name ← nameClassOf basicName
      return .named holder name (← bracedPattern setting next) span
    let wrapped (modifier : Modifier) : Parser Pattern := do
      advance
      return .unary modifier (← bracedPattern setting next) span
    let leaf (leaf : Leaf) : Parser Pattern := do
      advance
      return .leaf leaf span
    let datatype (type : Datatype) : Parser Pattern := do
      advance
      datatypePattern setting next type span
    match token.lexeme with
    | .keyword .element => named .element
    | .keyword .attr => named .attr
    | .keyword .list => wrapped .list
    | .keyword .mixed => wrapped .mixed
    | .keyword .empty => leaf .empty
    | .keyword .text => leaf .text
    | .keyword .notAllowed => leaf .notAllowed
    | .identifier name =>
      advance
      return .ref name span
    | .keyword .parent =>
      advance
      let name ← expect .identifier .missingParentName
      return .parentRef ((nameOf? name).getD "") span
    | .symbol .leftParen =>
      advance
      let p ← nested setting next (·.pattern)
      expectSymbol .rightParen
      return p
    | .keyword .external =>
      advance
      let href ← literalOr .missingExternalHref
      return .external href (← inheritance) span
    | .keyword .grammar =>
      advance
      expectSymbol .leftBrace
      let components ← nested setting next (·.components true (.symbol .rightBrace))
      expectSymbol .rightBrace
      return .grammar components span
    | .keyword .string => datatype ⟨none, "string"⟩
    | .keyword .token => datatype ⟨none, "token"⟩
    | .prefixedName qualifier localName => datatype ⟨some qualifier, localName⟩
    | .literal _ => return .value (← literal) ⟨none, "token"⟩ span
    | _ => fail .missingPattern

/-! Components -/

/-- The unbroken run of documentation lines that ends at a line. -/
def docRun (docs : DocLines) : (line : Nat) → List String
  | 0 => []
  | n + 1 =>
    match docs.lookup (n + 1) with
    | some text => docRun docs n ++ [text]
    | none => []

/-- The documentation directly above a line. -/
def docAbove (docs : DocLines) (line : Nat) : Option String :=
  match docRun docs (line - 1) with
  | [] => none
  | lines => some ("\n".intercalate lines)

/-- Goes past annotation elements: qualified names with brackets behind them. -/
def skipAnnotationElements : Parser Unit := do
  go (← remaining)
where
  go : Nat → Parser Unit
    | 0 => return
    | n + 1 => do
      if (← at? .prefixedName) && (← following).any (·.is (.symbol .leftBracket)) then
        advance
        skipAnnotations
        go n

/-- A definition whose name is the current token. -/
def defineWith (setting : Setting) (primary : Parser Pattern) (head : Token) (name : DefineName) :
    Parser Component := do
  advance
  match (← current).bind assignment? with
  | none => fail (.missingAssignment head.value)
  | some operator =>
    advance
    let p ← patternOf primary
    return .define name operator p (docAbove setting.docs head.start.line) head.span

/-- Components up to a terminator, which stays ahead. -/
def componentsOf (component : Parser Component) (terminator : TokenType) :
    Parser (List Component) := do
  go (← remaining)
where
  go : Nat → Parser (List Component)
    | 0 => do
      if ← at? terminator then return []
      fail .missingDefinition
    | n + 1 => do
      skipAnnotations
      skipAnnotationElements
      if ← at? terminator then return []
      let c ← component
      return c :: (← go n)

/-- A component; `overrides` reads the block behind an include, where one is allowed. -/
def componentWith (setting : Setting) (primary : Parser Pattern) (next : Option Level)
    (overrides : Option (Parser (List Component))) : Parser Component := do
  match ← current with
  | none => fail .missingDefinition
  | some token =>
    match token.lexeme with
    | .keyword .start => defineWith setting primary token .start
    | .identifier name => defineWith setting primary token (.named name)
    | .keyword .div =>
      advance
      expectSymbol .leftBrace
      let components ←
        nested setting next (·.components overrides.isSome (.symbol .rightBrace))
      expectSymbol .rightBrace
      return .div components token.span
    | .keyword .incl =>
      match overrides with
      | none => fail .includeInOverride
      | some overrides =>
        advance
        let href ← literalOr .missingIncludeHref
        let inherit ← inheritance
        if ← accept (.symbol .leftBrace) then
          let components ← overrides
          expectSymbol .rightBrace
          return .incl href inherit components token.span
        return .incl href inherit [] token.span
    | .keyword .ns | .keyword .default | .keyword .datatypes => fail (.lateHeader token.value)
    | _ => fail .missingDefinition

/-- The level above a given one. -/
def Level.above (setting : Setting) (next : Option Level) : Level :=
  let basicName := basicNameWith setting next
  let primary := primaryWith setting basicName next
  let plain := componentWith setting primary next none
  let full :=
    componentWith setting primary next (some (componentsOf plain (.symbol .rightBrace)))
  { basicName
    primary
    components := fun allowInclude => componentsOf (if allowInclude then full else plain) }

/-- The level with `n` more below it. -/
def level (setting : Setting) : Nat → Level
  | 0 => .above setting none
  | n + 1 => .above setting (some (level setting n))

end Parser

end RelaxCompact
