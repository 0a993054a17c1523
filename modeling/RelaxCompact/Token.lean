import RelaxCompact.Span

/-!
Tokens of the compact syntax: a lexeme, which says what was read, and where it stands.
-/

namespace RelaxCompact

/-- The reserved words. -/
inductive Keyword
  | attr | datatypes | default | div | element | empty | external | grammar | incl | inherit
  | list | mixed | ns | notAllowed | parent | start | string | text | token
  deriving DecidableEq, Repr

namespace Keyword

def all : List Keyword :=
  [attr, datatypes, default, div, element, empty, external, grammar, incl, inherit, list, mixed, ns,
    notAllowed, parent, start, string, text, token]

def spelling : Keyword → String
  | attr => "attribute"
  | datatypes => "datatypes"
  | default => "default"
  | div => "div"
  | element => "element"
  | empty => "empty"
  | external => "external"
  | grammar => "grammar"
  | incl => "include"
  | inherit => "inherit"
  | list => "list"
  | mixed => "mixed"
  | ns => "namespace"
  | notAllowed => "notAllowed"
  | parent => "parent"
  | start => "start"
  | string => "string"
  | text => "text"
  | token => "token"

/-- The keyword that a name spells. -/
def ofName? (name : String) : Option Keyword := all.find? (·.spelling = name)

end Keyword

/-- Operators and brackets. -/
inductive Symbol
  | assign | choiceAssign | interleaveAssign | pipe | ampersand | comma | question | star | plus
  | minus | tilde | leftBrace | rightBrace | leftParen | rightParen | leftBracket | rightBracket
  deriving DecidableEq, Repr

namespace Symbol

def all : List Symbol :=
  [assign, choiceAssign, interleaveAssign, pipe, ampersand, comma, question, star, plus, minus,
    tilde, leftBrace, rightBrace, leftParen, rightParen, leftBracket, rightBracket]

def spelling : Symbol → List Char
  | assign => ['=']
  | choiceAssign => ['|', '=']
  | interleaveAssign => ['&', '=']
  | pipe => ['|']
  | ampersand => ['&']
  | comma => [',']
  | question => ['?']
  | star => ['*']
  | plus => ['+']
  | minus => ['-']
  | tilde => ['~']
  | leftBrace => ['{']
  | rightBrace => ['}']
  | leftParen => ['(']
  | rightParen => [')']
  | leftBracket => ['[']
  | rightBracket => [']']

def isBracket : Symbol → Bool
  | leftBrace | rightBrace | leftParen | rightParen | leftBracket | rightBracket => true
  | _ => false

/-- The symbol that a text starts with; of two the longer one. -/
def read? : List Char → Option Symbol
  | '|' :: '=' :: _ => some choiceAssign
  | '&' :: '=' :: _ => some interleaveAssign
  | '=' :: _ => some assign
  | '|' :: _ => some pipe
  | '&' :: _ => some ampersand
  | ',' :: _ => some comma
  | '?' :: _ => some question
  | '*' :: _ => some star
  | '+' :: _ => some plus
  | '-' :: _ => some minus
  | '~' :: _ => some tilde
  | '{' :: _ => some leftBrace
  | '}' :: _ => some rightBrace
  | '(' :: _ => some leftParen
  | ')' :: _ => some rightParen
  | '[' :: _ => some leftBracket
  | ']' :: _ => some rightBracket
  | _ => none

end Symbol

/-- Coarse classes of tokens. -/
inductive TokenKind
  | identifier | prefixedName | keyword | operator | literal | punctuation | eof
  deriving DecidableEq, Repr

/-- What a parser distinguishes before it looks at values. -/
inductive TokenType
  | identifier | prefixedName | nsName | literal
  | keyword (k : Keyword)
  | symbol (s : Symbol)
  | eof
  deriving DecidableEq, Repr

namespace TokenType

def all : List TokenType :=
  [identifier, prefixedName, nsName, literal] ++ Keyword.all.map keyword ++ Symbol.all.map symbol ++
    [eof]

def kind : TokenType → TokenKind
  | identifier => .identifier
  | prefixedName | nsName => .prefixedName
  | literal => .literal
  | keyword _ => .keyword
  | symbol s => if s.isBracket then .punctuation else .operator
  | eof => .eof

/-- The type as messages name it: fixed spellings in quotes, classes in words. -/
def describe : TokenType → Text
  | identifier => "identifier"
  | prefixedName => "prefixed name"
  | nsName => "ns name"
  | literal => "literal"
  | keyword k => "'" ++ k.spelling ++ "'"
  | symbol s => "'" ++ Text.ofChars s.spelling ++ "'"
  | eof => "eof"

end TokenType

/-- What was read at a place. An identifier may spell a keyword, since a backslash escapes it. -/
inductive Lexeme
  | identifier (name : String)
  | prefixedName (qualifier localName : String)
  | nsName (qualifier : String)
  | literal (value : Text)
  | keyword (k : Keyword)
  | symbol (s : Symbol)
  | eof
  deriving DecidableEq, Repr

namespace Lexeme

def type : Lexeme → TokenType
  | identifier _ => .identifier
  | prefixedName _ _ => .prefixedName
  | nsName _ => .nsName
  | literal _ => .literal
  | keyword k => .keyword k
  | symbol s => .symbol s
  | eof => .eof

/-- The text that a lexeme stands for. -/
def value : Lexeme → Text
  | identifier name => name
  | prefixedName qualifier localName => qualifier ++ ":" ++ localName
  | nsName qualifier => qualifier
  | literal value => value
  | keyword k => k.spelling
  | symbol s => Text.ofChars s.spelling
  | eof => []

/-- The lexeme as messages quote it. -/
def describe : Lexeme → Text
  | identifier name => "identifier '" ++ name ++ "'"
  | prefixedName qualifier localName => "name '" ++ qualifier ++ ":" ++ localName ++ "'"
  | nsName qualifier => "'" ++ qualifier ++ ":*'"
  | literal value => "literal \"" ++ value ++ "\""
  | keyword k => "'" ++ k.spelling ++ "'"
  | symbol s => "'" ++ Text.ofChars s.spelling ++ "'"
  | eof => "end of file"

end Lexeme

/-- A lexeme with its place: `length` bytes from `start` in the source at `path`. -/
structure Token where
  lexeme : Lexeme
  path : Text
  start : Position
  length : Nat
  deriving DecidableEq, Repr

namespace Token

def type (t : Token) : TokenType := t.lexeme.type

def kind (t : Token) : TokenKind := t.type.kind

def value (t : Token) : Text := t.lexeme.value

def span (t : Token) : Span := t.start.span t.path t.length

/-- The token has a given type. -/
def is (t : Token) (type : TokenType) : Bool := t.type = type

end Token

/-- Documentation lines: where each stands and what it says. -/
abbrev DocLines := List (Nat × String)

end RelaxCompact
