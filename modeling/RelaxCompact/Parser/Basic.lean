import RelaxCompact.Error

/-!
Parsers over tokens. A parser moves through the tokens of one file, and keeps its place when it
fails: every fault is found at the current token. Constructs that open a level are counted.
-/

namespace RelaxCompact

/-- Where a parser stands: the tokens ahead, the levels open, and the most that were open at
once. -/
structure Progress where
  rest : List Token
  depth : Nat := 0
  deepest : Nat := 0
  deriving DecidableEq, Repr

/-- A step through the tokens, which may fail at the token it reached. -/
abbrev Parser (α : Type) := EStateM SchemaError Progress α

namespace Parser

/-- The current token, if any is left. -/
def current : Parser (Option Token) := do return (← get).rest.head?

/-- The token after the current one. -/
def following : Parser (Option Token) := do return (← get).rest[1]?

/-- How many tokens are left. No loop takes more turns. -/
def remaining : Parser Nat := do return (← get).rest.length

def fail {α : Type} (fault : SyntaxFault) : Parser α := do
  throw (.unacceptable fault (← current))

/-- Goes past the current token. -/
def advance : Parser Unit := modify fun s => { s with rest := s.rest.tail }

/-- The current token has the given type. -/
def at? (type : TokenType) : Parser Bool := do
  return (← current).any (·.is type)

/-- Goes past the current token if it has the given type. -/
def accept (type : TokenType) : Parser Bool := do
  if ← at? type then
    advance
    return true
  return false

/-- Takes a token of the given type. -/
def expect (type : TokenType) (fault : SyntaxFault := .missingToken type) : Parser Token := do
  match ← current with
  | some token => if token.is type then advance; return token else fail fault
  | none => fail fault

def expectSymbol (s : Symbol) : Parser Unit := do
  let _ ← expect (.symbol s)

/-- The name that a token spells: an identifier, or a keyword taken as a name. -/
def nameOf? (token : Token) : Option String :=
  match token.lexeme with
  | .identifier name => some name
  | .keyword k => some k.spelling
  | _ => none

def expectName (role : NameRole) : Parser String := do
  match (← current).bind nameOf? with
  | some name => advance; return name
  | none => fail (.missingName role)

/-- Runs a parser one level deeper, and closes the level however the run ends. -/
def enclosed {α : Type} (p : Parser α) : Parser α := fun s =>
  match p { s with depth := s.depth + 1, deepest := max s.deepest (s.depth + 1) } with
  | .ok a t => .ok a { t with depth := t.depth - 1 }
  | .error e t => .error e { t with depth := t.depth - 1 }

end Parser

/-- The tokens behind the bracket that closes `depth` open ones. -/
def afterBrackets : (depth : Nat) → List Token → Option (List Token)
  | _, [] => none
  | depth, t :: ts =>
    match t.lexeme with
    | .symbol .leftBracket => afterBrackets (depth + 1) ts
    | .symbol .rightBracket => if depth ≤ 1 then some ts else afterBrackets (depth - 1) ts
    | .eof => none
    | _ => afterBrackets depth ts

theorem length_of_afterBrackets {depth : Nat} {ts rest : List Token}
    (h : afterBrackets depth ts = some rest) : rest.length < ts.length := by
  induction ts generalizing depth with
  | nil => simp [afterBrackets] at h
  | cons t ts ih =>
    simp only [afterBrackets] at h
    split at h
    · exact Nat.lt_succ_of_lt (ih h)
    · split at h
      · simp_all
      · exact Nat.lt_succ_of_lt (ih h)
    · simp at h
    · exact Nat.lt_succ_of_lt (ih h)

/-- The tokens behind all bracketed annotations that stand here, or those from the first one that
is not closed. -/
def afterAnnotations : List Token → Except (List Token) (List Token)
  | [] => .ok []
  | t :: ts =>
    if t.is (.symbol .leftBracket) then
      match h : afterBrackets 1 ts with
      | some rest =>
        have := length_of_afterBrackets h
        afterAnnotations rest
      | none => .error (t :: ts)
    else .ok (t :: ts)
termination_by ts => ts.length

namespace Parser

/-- Goes past bracketed annotations; what they say is not kept. -/
def skipAnnotations : Parser Unit := do
  match afterAnnotations (← get).rest with
  | .ok rest => modify fun s => { s with rest }
  | .error rest =>
    modify fun s => { s with rest }
    fail .unclosedBracket

/-- A literal, its segments joined by `~`. -/
def literal : Parser Text := do
  let token ← expect .literal
  segments (← remaining) token.value
where
  segments : Nat → Text → Parser Text
    | 0, text => return text
    | n + 1, text => do
      if ← accept (.symbol .tilde) then
        let token ← expect .literal .missingSegment
        segments n (text ++ token.value)
      else return text

/-- A literal where the current token has to be one. -/
def literalOr (fault : SyntaxFault) : Parser Text := do
  if ← at? .literal then literal else fail fault

/-- The optional `inherit = qualifier` behind an href. -/
def inheritance : Parser (Option String) := do
  if ← accept (.keyword .inherit) then
    expectSymbol .assign
    return some (← expectName .namespaceQualifier)
  return none

/-- Operands with one operator between them, combined from the left. -/
def chain {α : Type} (op : Symbol) (operand : Parser α) (combine : α → α → α) : Parser α := do
  let left ← operand
  go (← remaining) left
where
  go : Nat → α → Parser α
    | 0, left => return left
    | n + 1, left => do
      if ← accept (.symbol op) then
        let right ← operand
        go n (combine left right)
      else return left

end Parser

end RelaxCompact
