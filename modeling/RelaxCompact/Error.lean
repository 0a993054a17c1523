import RelaxCompact.Diagnostic
import RelaxCompact.Surface.Definition
import RelaxCompact.Text.Encoding.Basic
import RelaxCompact.Text.Quoted
import RelaxCompact.Token

/-!
Why a schema cannot be read. Each cause is a constructor, and `SchemaError.diagnostic` gives the
words. `Failure` adds what goes wrong outside the schema language.
-/

namespace RelaxCompact

/-- What a name stands for where one is missing. -/
inductive NameRole
  | namespaceQualifier | datatypesQualifier | parameter | nameClass
  deriving DecidableEq, Repr

def NameRole.describe : NameRole → String
  | namespaceQualifier => "namespace prefix"
  | datatypesQualifier => "datatypes prefix"
  | parameter => "parameter name"
  | nameClass => "name"

/-- What a parser can miss or refuse at a token. -/
inductive SyntaxFault
  | missingToken (type : TokenType)
  | missingName (role : NameRole)
  | missingPattern
  | missingDefinition
  | missingAssignment (name : Text)
  | missingParentName
  | missingNamespaceUri
  | missingLibraryUri
  | missingIncludeHref
  | missingExternalHref
  | missingParameterValue
  | missingSegment
  | missingEnd
  | unclosedBracket
  | tooDeep (limit : Nat)
  | includeInOverride
  | lateHeader (keyword : Text)
  deriving DecidableEq, Repr

namespace SyntaxFault

def message : SyntaxFault → Text
  | missingToken type => "Expected " ++ type.describe
  | missingName role => "Expected " ++ role.describe
  | missingPattern => "Expected pattern"
  | missingDefinition => "Expected definition"
  | missingAssignment name => "Expected assignment after '" ++ name ++ "'"
  | missingParentName => "Expected definition name after 'parent'"
  | missingNamespaceUri => "Expected namespace URI"
  | missingLibraryUri => "Expected datatype library URI"
  | missingIncludeHref => "Expected include href"
  | missingExternalHref => "Expected external href"
  | missingParameterValue => "Expected parameter value"
  | missingSegment => "Expected literal after '~'"
  | missingEnd => "Expected end of file"
  | unclosedBracket => "Unterminated annotation"
  | tooDeep limit => "Pattern nested too deeply (more than " ++ Text.ofInt limit ++ " levels)"
  | includeInOverride => "'include' is not allowed inside an include override block"
  | lateHeader keyword =>
    "'" ++ keyword ++ "' declarations must come before definitions and patterns"

/-- What could have stood at the token. -/
def expected : SyntaxFault → List Text
  | missingToken type => [type.describe]
  | missingName role => [role.describe]
  | missingPattern => ["pattern"]
  | missingDefinition => ["identifier", "'start'", "'div'", "'include'"]
  | missingAssignment _ => ["'='", "'|='", "'&='"]
  | missingParentName => ["identifier"]
  | missingNamespaceUri => ["literal", "'inherit'"]
  | missingLibraryUri | missingIncludeHref | missingExternalHref | missingParameterValue
  | missingSegment => ["literal"]
  | missingEnd => ["eof"]
  | unclosedBracket => ["']'"]
  | tooDeep _ | includeInOverride => []
  | lateHeader _ => ["definition"]

def hint : SyntaxFault → Option Text
  | tooDeep _ => some "Move inner patterns into named definitions"
  | includeInOverride => some "Include the file at grammar level or inside a div instead"
  | lateHeader _ => some "Move header declarations above the first definition"
  | _ => none

end SyntaxFault

/-- Why a source cannot be had. -/
inductive ReadFault
  | absent (key : Text)
  | unreadable (key reason : Text)
  | undecodable (key encoding : Text)
  deriving DecidableEq, Repr

namespace ReadFault

def key : ReadFault → Text
  | absent key | unreadable key _ | undecodable key _ => key

def message : ReadFault → Text
  | absent key => "No grammar source for '" ++ key ++ "'"
  | unreadable key reason => "Cannot read grammar '" ++ key ++ "': " ++ reason
  | undecodable key encoding => "Cannot decode grammar '" ++ key ++ "' as " ++ encoding

/-- The file that a message points to; a source that is only absent has none. -/
def path? : ReadFault → Option Text
  | absent _ => none
  | unreadable key _ | undecodable key _ => some key

end ReadFault

/-- Why two definitions of one name do not combine. -/
inductive CombineFault
  | duplicate
  | mixed (operator : Assignment)
  | inconsistent (first second : Assignment)
  deriving DecidableEq, Repr

/-- The causes for which a schema is refused. -/
inductive SchemaError
  | invalidByte (byte : UInt8) (span : Span)
  | unexpectedCharacter (c : Char) (span : Span)
  | unterminatedLiteral (quote : Option Char) (span : Span)
  | invalidEscape (digits : List Char) (span : Span)
  | unacceptable (fault : SyntaxFault) (found : Option Token)
  | unreadable (fault : ReadFault)
  | unreadableInclude (fault : ReadFault) (href : Text) (stack : List Text) (span : Span)
  | includeCycle (href : Text) (stack : List Text) (span : Span)
  | includedPattern (href : Text) (span : Span)
  | definitionConflict (fault : CombineFault) (name : DefineName) (span first : Span)
  | unmatchedOverride (name : DefineName) (href : Text) (span : Span)
  | namespaceConflict (href first second : Text) (span firstSpan : Span)
  | undeclaredNamespace (qualifier : String) (span : Option Span)
  | undeclaredLibrary (qualifier : String) (span : Option Span)
  | missingStart (path : Text)
  | missingNestedStart (span : Span)
  | undefinedReference (name : String) (span : Span)
  | parentOutsideNested (name : String) (span : Span)
  | undefinedParentReference (name : String) (span : Span)
  | referenceCycle (names : List Text) (span : Span)
  deriving DecidableEq, Repr

namespace SchemaError

def conflictMessage (name : Text) : CombineFault → Text
  | .duplicate => "Duplicate definition of '" ++ name ++ "'"
  | .mixed operator => "Definition of '" ++ name ++ "' mixes '=' with '" ++ operator.spelling ++ "'"
  | .inconsistent first second =>
    "Inconsistent combine operators for '" ++ name ++ "': '" ++ first.spelling ++ "' and '" ++
      second.spelling ++ "'"

def conflictHint : CombineFault → Option Text
  | .duplicate => some "Use '|=' or '&=' at every site to combine definitions"
  | _ => none

/-- The diagnostic that a cause is reported with. -/
def diagnostic : SchemaError → Diagnostic
  | invalidByte byte span =>
    .atSpan (.lexical none) ("Invalid UTF-8 byte 0x" ++ hexadecimal 2 byte.toNat) (some span)
  | unexpectedCharacter c span =>
    .atSpan (.lexical (some (Text.ofChars [c])))
      ("Unexpected character: " ++ (Text.ofChars [c]).quoted) (some span)
  | unterminatedLiteral quote span =>
    .atSpan (.lexical (quote.map fun q => Text.ofChars [q])) "Unterminated string literal"
      (some span)
  | invalidEscape digits span =>
    .atSpan (.lexical none) ("Invalid character escape \\x\x7b" ++ Text.ofChars digits ++ "\x7d")
      (some span)
  | unacceptable fault found =>
    let description : Text := match found with
      | some token => token.lexeme.describe
      | none => "end of file"
    .atSpan (.syntactic fault.expected (some description)) fault.message (found.map Token.span) {}
      "PARSE_ERROR" fault.hint
  | unreadable fault =>
    { category := .inclusion (some fault.key) []
      message := fault.message
      location := { path := fault.path? } }
  | unreadableInclude fault href stack span =>
    .atSpan (.inclusion (some href) stack) fault.message (some span)
  | includeCycle href stack span =>
    .atSpan (.inclusion (some href) stack) ("Include cycle: " ++ Text.join " -> " stack) (some span)
  | includedPattern href span =>
    .atSpan (.inclusion (some href) [])
      ("Included file '" ++ href ++ "' is a pattern, not a grammar") (some span)
  | definitionConflict fault name span first =>
    .atSpan (.conflict (some name.display) (some first)) (conflictMessage name.display fault)
      (some span) {} "DEFINE_CONFLICT" (conflictHint fault)
  | unmatchedOverride name href span =>
    .atSpan (.conflict (some name.display) none)
      ("Override of '" ++ name.display ++ "' matches no definition in '" ++ href ++ "'") (some span)
  | namespaceConflict href first second span firstSpan =>
    .atSpan (.conflict none (some firstSpan))
      ("'" ++ href ++ "' is included with default namespace '" ++ first ++ "' and '" ++ second ++
        "'")
      (some span) {} "DEFINE_CONFLICT"
      (some "Use the same inherit = prefix at every include of a shared fragment")
  | undeclaredNamespace qualifier span =>
    .atSpan (.undeclared (some qualifier)) ("Undeclared namespace prefix '" ++ qualifier ++ "'")
      span {} "UNDECLARED_PREFIX"
      (some ("Declare it with: namespace " ++ qualifier ++ " = \"...\""))
  | undeclaredLibrary qualifier span =>
    .atSpan (.undeclared (some qualifier)) ("Undeclared datatypes prefix '" ++ qualifier ++ "'")
      span {} "UNDECLARED_PREFIX"
      (some ("Declare it with: datatypes " ++ qualifier ++ " = \"...\""))
  | missingStart path =>
    { category := .undefined (some "start")
      message := "Grammar has no start pattern"
      location := { path := if path.isEmpty then none else some path }
      hint := some "Add 'start = ...' to the root grammar" }
  | missingNestedStart span =>
    .atSpan (.undefined (some "start")) "Nested grammar has no start pattern" (some span)
  | undefinedReference name span =>
    .atSpan (.undefined (some name)) ("Undefined reference '" ++ name ++ "'") (some span)
  | parentOutsideNested name span =>
    .atSpan (.undefined (some name)) ("'parent " ++ name ++ "' used outside a nested grammar")
      (some span)
  | undefinedParentReference name span =>
    .atSpan (.undefined (some name)) ("Undefined parent reference '" ++ name ++ "'") (some span)
  | referenceCycle names span =>
    .atSpan (.cycle names)
      ("Reference cycle without an element or attribute: " ++ Text.join " -> " names) (some span)

def message (e : SchemaError) : Text := e.diagnostic.message

end SchemaError

/-- Why settings cannot be had from a file. -/
inductive SettingsFault
  | directory
  | undecodable
  | malformedJson
  | malformedToml
  /-- A decimal integer has more digits than are read. -/
  | overlongInteger
  /-- A table is asked for and another value is there. -/
  | notTable
  /-- The include paths are no list. -/
  | notList
  /-- The number of workers is a value that no number can be made of. -/
  | notNumber
  /-- The number of workers is a text or a float that denotes no integer. -/
  | notInteger
  | infiniteWorkers
  | tooFewWorkers (count : Int)
  deriving DecidableEq, Repr

namespace SettingsFault

/-- The message of a fault that has one of its own. -/
def message? : SettingsFault → Option Text
  | tooFewWorkers count => some ("max_workers must be at least 1, got " ++ Text.ofInt count)
  | _ => none

end SettingsFault

/-- Why an operation fails: a refused schema, or a cause that no schema is to blame for. -/
inductive Failure
  | schema (e : SchemaError)
  /-- A number in a character escape lies beyond 32 bits. -/
  | escapeOverflow
  /-- A source is to be decoded by an encoding that is not known. -/
  | unknownEncoding
  /-- The bytes of a source are no text in their encoding, for a reason that it has. -/
  | decoding (fault : DecodeFault)
  /-- A path or the name of an encoding holds the character NUL. -/
  | nulInName
  /-- A path or the name of an encoding holds a surrogate. -/
  | surrogateInName
  /-- A source holds a surrogate. -/
  | surrogateInSource
  /-- The file system refuses a path for another reason than that nothing is there. -/
  | pathRefused
  /-- The settings cannot be had. -/
  | settings (fault : SettingsFault)
  /-- Work is to be shared among no workers. -/
  | noWorkers
  /-- A bound that the input implies was reached. -/
  | exhausted
  deriving DecidableEq, Repr

namespace Failure

/-- The failure is a refused schema. -/
def schemaError? : Failure → Option SchemaError
  | schema e => some e
  | _ => none

end Failure

end RelaxCompact
