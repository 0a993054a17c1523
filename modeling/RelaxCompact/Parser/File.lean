import RelaxCompact.Parser.Pattern
import RelaxCompact.Token.Lexer

/-! Reading whole files, and single constructs by themselves. -/

namespace RelaxCompact

open Surface

namespace Parser

/-- The levels that may be open at once in a file. -/
def nestingLimit : Nat := 64

/-- The outermost level of a file. -/
def top (docs : DocLines) (limit : Nat := nestingLimit) : Level := level ⟨limit, docs⟩ limit

/-- The URI behind a namespace declaration, or `inherit`. -/
def namespaceUri : Parser (Option Text) := do
  if ← accept (.keyword .inherit) then return none
  return some (← literalOr .missingNamespaceUri)

/-- A header declaration, if one stands here. -/
def declaration? : Parser (Option Declaration) := do
  match ← current with
  | none => return none
  | some token =>
    match token.lexeme with
    | .keyword .ns =>
      advance
      let qualifier ← expectName .namespaceQualifier
      expectSymbol .assign
      return some (.binding (some qualifier) (← namespaceUri) false token.span)
    | .keyword .default =>
      advance
      let _ ← expect (.keyword .ns)
      let qualifier ←
        if ← at? (.symbol .assign) then pure none
        else some <$> expectName .namespaceQualifier
      expectSymbol .assign
      return some (.binding qualifier (← namespaceUri) true token.span)
    | .keyword .datatypes =>
      advance
      let qualifier ← expectName .datatypesQualifier
      expectSymbol .assign
      return some (.library qualifier (← literalOr .missingLibraryUri) token.span)
    | _ => return none

/-- The declarations at the head of a file. -/
def header : Parser (List Declaration) := do
  go (← remaining)
where
  go : Nat → Parser (List Declaration)
    | 0 => return []
    | n + 1 => do
      skipAnnotations
      match ← declaration? with
      | some d => return d :: (← go n)
      | none => return []

def isHeaderWord (token : Token) : Bool :=
  token.is (.keyword .ns) || token.is (.keyword .default) || token.is (.keyword .datatypes)

/-- The body of a file consists of components; otherwise it is a pattern. -/
def startsComponents : List Token → Bool
  | [] => true
  | token :: rest =>
    match token.lexeme with
    | .eof | .keyword .start | .keyword .div | .keyword .incl => true
    | .identifier _ => (rest.head?.bind assignment?).isSome
    | .prefixedName _ _ => rest.head?.any (·.is (.symbol .leftBracket))
    | _ => isHeaderWord token

/-- A whole file. A bare pattern is the start pattern. -/
def file (path : Text) (level : Level) : Parser File := do
  let declarations ← header
  skipAnnotations
  if startsComponents (← get).rest then
    let components ← level.components true .eof
    let _ ← expect .eof .missingDefinition
    return ⟨path, declarations, components, false⟩
  let p ← level.pattern
  match ← current with
  | some token => if isHeaderWord token then fail (.lateHeader token.value)
  | none => pure ()
  let _ ← expect .eof .missingEnd
  return ⟨path, declarations, [.define .start .single p none p.span], true⟩

/-- A value that a parser read, and where the parser stands after it. -/
structure Reading (α : Type) where
  value : α
  position : Nat
  depth : Nat
  next : Text

/-- Reads one construct from the head of a source. -/
def readPart {α : Type} (part : Level → Parser α) (source : Source) (path : Text) :
    Except Failure (Reading α) := do
  let scanned ← source.scan path
  match part (top scanned.docs) { rest := scanned.tokens } with
  | .ok value s =>
    let next : Text := match s.rest with
      | token :: _ => token.lexeme.describe
      | [] => "end of file"
    return ⟨value, scanned.tokens.length - s.rest.length, s.depth, next⟩
  | .error e _ => throw (.schema e)

end Parser

/-- The file that a list of tokens spells. -/
def Surface.File.ofTokens (path : Text) (scanned : Scanned) (limit : Nat := Parser.nestingLimit) :
    Except SchemaError File :=
  match Parser.file path (Parser.top scanned.docs limit) { rest := scanned.tokens } with
  | .ok file _ => .ok file
  | .error e _ => .error e

/-- The grammar file that a source spells. -/
def Source.parse (source : Source) (path : Text) : Except Failure File := do
  let scanned ← source.scan path
  (Surface.File.ofTokens path scanned).mapError Failure.schema

end RelaxCompact
