import RelaxCompact.Parser.File

/-!
Writing grammar files in the compact syntax. A file is written as its lexemes, with a blank behind
each. Patterns have a rank by what holds them together: choice, interleave, group, occurrence
operators, and from `primaryRank` on nothing that an operator could pull apart.
-/

namespace RelaxCompact

open Surface

/-! Lexemes -/

namespace Lexer

/-- The digit for a value below 16. -/
def hexDigit (n : Nat) : Char := Char.ofNat (n + if n < 10 then '0'.toNat else 'a'.toNat - 10)

/-- The four digits that name a surrogate. -/
def surrogateDigits (p : CodePoint) : List Char :=
  [p.val / 4096, p.val / 256 % 16, p.val / 16 % 16, p.val % 16].map hexDigit

/-- How a code point stands in a literal between double quotes. -/
def literalItem (p : CodePoint) : LiteralItem :=
  match p.toChar? with
  | none => .coded (surrogateDigits p) p
  | some c =>
    if c = '\n' then .escaped 'n'
    else if c = '\"' ∨ c = '\\' then .escaped c
    else .plain c

end Lexer

/-- How a lexeme is written. A backslash keeps an identifier from being read as a keyword. -/
def Lexeme.spelling : Lexeme → List Char
  | identifier name =>
    (if (Keyword.ofName? name).isSome then ['\\'] else []) ++ name.toList
  | prefixedName qualifier localName => qualifier.toList ++ ':' :: localName.toList
  | nsName qualifier => qualifier.toList ++ [':', '*']
  | literal value =>
    '\"' :: value.flatMap (fun p => (Lexer.literalItem p).spelling) ++ ['\"']
  | keyword k => k.spelling.toList
  | symbol s => s.spelling
  | eof => []

/-- Lexemes one after another, with a blank behind each. -/
def spellAll (ls : List Lexeme) : List Char := ls.flatMap fun l => l.spelling ++ [' ']

def braced (ls : List Lexeme) : List Lexeme := .symbol .leftBrace :: ls ++ [.symbol .rightBrace]

def parenthesized (ls : List Lexeme) : List Lexeme :=
  .symbol .leftParen :: ls ++ [.symbol .rightParen]

theorem braced_append (ls rest : List Lexeme) :
    braced ls ++ rest = .symbol .leftBrace :: (ls ++ .symbol .rightBrace :: rest) := by
  simp [braced]

theorem parenthesized_append (ls rest : List Lexeme) :
    parenthesized ls ++ rest = .symbol .leftParen :: (ls ++ .symbol .rightParen :: rest) := by
  simp [parenthesized]

/-- Something of a given rank, in parentheses where only what has rank `k` may stand. -/
def within (k rank : Nat) (ls : List Lexeme) : List Lexeme :=
  if rank < k then parenthesized ls else ls

/-- How deep something reaches that is `n` levels deep itself, with the parentheses it may need. -/
def nestingWithin (k rank n : Nat) : Nat := if rank < k then n + 1 else n

theorem nestingWithin_of_le {k rank : Nat} (h : k ≤ rank) (n : Nat) : nestingWithin k rank n = n :=
  if_neg (Nat.not_lt.mpr h)

theorem le_nestingWithin (k rank n : Nat) : n ≤ nestingWithin k rank n := by
  unfold nestingWithin
  split
  case isTrue => exact Nat.le_succ n
  case isFalse => exact Nat.le_refl n

theorem nestingWithin_le (k rank n : Nat) : nestingWithin k rank n ≤ n + 1 := by
  unfold nestingWithin
  split
  case isTrue => exact Nat.le_refl _
  case isFalse => exact Nat.le_succ n

theorem nestingWithin_mono {k k' : Nat} (h : k ≤ k') (rank n : Nat) :
    nestingWithin k rank n ≤ nestingWithin k' rank n := by
  unfold nestingWithin
  split
  case isTrue hk => exact Nat.le_of_eq (if_pos (Nat.lt_of_lt_of_le hk h)).symm
  case isFalse => exact le_nestingWithin k' rank n

/-! Name classes -/

namespace Surface.NameClass

/-- Choices have the lower of two ranks. -/
def rank : NameClass → Nat
  | choice _ _ _ => 0
  | _ => 1

def lexemes : NameClass → List Lexeme
  | name none localName _ => [.identifier localName]
  | name (some qualifier) localName _ => [.prefixedName qualifier localName]
  | anyName none _ => [.symbol .star]
  | anyName (some e) _ => .symbol .star :: .symbol .minus :: within 1 e.rank e.lexemes
  | nsName qualifier none _ => [.nsName qualifier]
  | nsName qualifier (some e) _ =>
    .nsName qualifier :: .symbol .minus :: within 1 e.rank e.lexemes
  | choice left right _ => left.lexemes ++ .symbol .pipe :: within 1 right.rank right.lexemes

/-- The levels that the written name class opens. -/
def nesting : NameClass → Nat
  | name _ _ _ | anyName none _ | nsName _ none _ => 0
  | anyName (some e) _ | nsName _ (some e) _ => nestingWithin 1 e.rank e.nesting + 1
  | choice left right _ => max left.nesting (nestingWithin 1 right.rank right.nesting)

end Surface.NameClass

/-! Patterns and components -/

/-- The rank of the patterns that stand by themselves. -/
def primaryRank : Nat := 4

/-- The rank of a pattern with an occurrence operator behind it. -/
def postfixRank : Nat := 3

namespace Connective

def rank : Connective → Nat
  | choice => 0
  | interleave => 1
  | group => 2

def symbol : Connective → Symbol
  | choice => .pipe
  | interleave => .ampersand
  | group => .comma

end Connective

namespace Modifier

/-- The modifier is written behind its pattern. -/
def isPostfix : Modifier → Bool
  | optional | zeroOrMore | oneOrMore => true
  | mixed | list => false

def lexeme : Modifier → Lexeme
  | optional => .symbol .question
  | zeroOrMore => .symbol .star
  | oneOrMore => .symbol .plus
  | mixed => .keyword .mixed
  | list => .keyword .list

end Modifier

def Leaf.keyword : Leaf → Keyword
  | text => .text
  | empty => .empty
  | notAllowed => .notAllowed

def Holder.keyword : Holder → Keyword
  | element => .element
  | attr => .attr

def Assignment.symbol : Assignment → Symbol
  | single => .assign
  | choice => .choiceAssign
  | interleave => .interleaveAssign

def DefineName.lexeme : DefineName → Lexeme
  | start => .keyword .start
  | named name => .identifier name

/-- A datatype by its qualified name; the name of a built-in one is a keyword. -/
def Datatype.lexeme (type : Datatype) : Lexeme :=
  match type.qualifier with
  | some qualifier => .prefixedName qualifier type.localName
  | none => Lexer.namePiece.word type.localName.toList

/-- The datatype of a literal by itself. -/
def Datatype.token : Datatype := ⟨none, "token"⟩

namespace Surface

def inheritLexemes : Option String → List Lexeme
  | none => []
  | some qualifier => [.keyword .inherit, .symbol .assign, .identifier qualifier]

def paramLexemes (params : List (String × Text)) : List Lexeme :=
  params.flatMap fun (name, value) => [.identifier name, .symbol .assign, .literal value]

/-- The parameters of a datatype; without any there are no braces. -/
def paramBlock (params : List (String × Text)) : List Lexeme :=
  if params.isEmpty then [] else braced (paramLexemes params)

/-- The rank of a pattern, by its outermost operator. -/
def Pattern.rank : Pattern → Nat
  | .binary op _ _ _ => op.rank
  | .unary modifier _ _ => if modifier.isPostfix then postfixRank else primaryRank
  | _ => primaryRank

mutual

/-- A pattern as it is written. Operators associate to the left. -/
def Pattern.lexemes : Pattern → List Lexeme
  | .binary op left right _ =>
    within op.rank left.rank left.lexemes ++
      .symbol op.symbol :: within (op.rank + 1) right.rank right.lexemes
  | .unary modifier content _ =>
    if modifier.isPostfix then
      within postfixRank content.rank content.lexemes ++ [modifier.lexeme]
    else modifier.lexeme :: braced content.lexemes
  | .leaf leaf _ => [.keyword leaf.keyword]
  | .named holder name content _ =>
    .keyword holder.keyword :: (name.lexemes ++ braced content.lexemes)
  | .ref name _ => [.identifier name]
  | .parentRef name _ => [.keyword .parent, .identifier name]
  | .data type params none _ => type.lexeme :: paramBlock params
  | .data type params (some e) _ =>
    type.lexeme :: (paramBlock params ++
      .symbol .minus :: within primaryRank e.rank e.lexemes)
  | .value literal type _ =>
    if type = .token then [.literal literal] else [type.lexeme, .literal literal]
  | .external href inherit _ => .keyword .external :: .literal href :: inheritLexemes inherit
  | .grammar components _ => .keyword .grammar :: braced (Component.allLexemes components)

/-- A component as it is written. Without overrides an include has no braces. -/
def Component.lexemes : Component → List Lexeme
  | .define name operator pattern _ _ =>
    name.lexeme :: .symbol operator.symbol :: pattern.lexemes
  | .div components _ => .keyword .div :: braced (Component.allLexemes components)
  | .incl href inherit overrides _ =>
    .keyword .incl :: .literal href :: (inheritLexemes inherit ++
      if overrides.isEmpty then [] else braced (Component.allLexemes overrides))

def Component.allLexemes : List Component → List Lexeme
  | [] => []
  | c :: cs => c.lexemes ++ Component.allLexemes cs

end

mutual

/-- The levels that the written pattern opens. -/
def Pattern.nesting : Pattern → Nat
  | .binary op left right _ =>
    max (nestingWithin op.rank left.rank left.nesting)
      (nestingWithin (op.rank + 1) right.rank right.nesting)
  | .unary modifier content _ =>
    if modifier.isPostfix then nestingWithin postfixRank content.rank content.nesting
    else content.nesting + 1
  | .named _ name content _ => max name.nesting (content.nesting + 1)
  | .data _ _ (some e) _ => nestingWithin primaryRank e.rank e.nesting + 1
  | .grammar components _ => Component.allNesting components + 1
  | _ => 0

/-- The levels that the written component opens. The braces of an override block open none. -/
def Component.nesting : Component → Nat
  | .define _ _ pattern _ _ => pattern.nesting
  | .div components _ => Component.allNesting components + 1
  | .incl _ _ overrides _ => Component.allNesting overrides

def Component.allNesting : List Component → Nat
  | [] => 0
  | c :: cs => max c.nesting (Component.allNesting cs)

end

/-! Files -/

def uriLexeme : Option Text → Lexeme
  | some uri => .literal uri
  | none => .keyword .inherit

def Declaration.lexemes : Declaration → List Lexeme
  | binding qualifier uri isDefault _ =>
    (if isDefault then [.keyword .default] else []) ++
      .keyword .ns :: (qualifier.toList.map Lexeme.identifier ++ [.symbol .assign, uriLexeme uri])
  | library qualifier uri _ =>
    [.keyword .datatypes, .identifier qualifier, .symbol .assign, .literal uri]

namespace File

/-- The definitions of a file, or its only pattern if the file is a bare one. -/
def bodyLexemes (f : File) : List Lexeme :=
  match f.isPattern, f.components with
  | true, [.define _ _ pattern _ _] => pattern.lexemes
  | _, components => Component.allLexemes components

def lexemes (f : File) : List Lexeme :=
  f.declarations.flatMap Declaration.lexemes ++ f.bodyLexemes

/-- The text of a grammar file. -/
def print (f : File) : Text := Text.ofChars (spellAll f.lexemes)

end File

/-! What can be written -/

end Surface

/-- The lexer reads the text as one name. -/
def Lexer.isName (name : String) : Bool := startsName name.toList && name.toList.all isNameChar

/-- The names in a lexeme are names that the lexer reads. -/
def Lexeme.named : Lexeme → Bool
  | identifier name | nsName name => Lexer.isName name
  | prefixedName qualifier localName => Lexer.isName qualifier && Lexer.isName localName
  | _ => true

/-- The lexeme can be written. The end of a file cannot. -/
def Lexeme.writable (l : Lexeme) : Bool := l.named && l ≠ .eof

namespace Surface

/-- Every name is one that the lexer reads. -/
def NameClass.wellFormed : NameClass → Bool
  | name qualifier localName _ => qualifier.all Lexer.isName && Lexer.isName localName
  | anyName none _ => true
  | anyName (some e) _ => e.wellFormed
  | nsName qualifier none _ => Lexer.isName qualifier
  | nsName qualifier (some e) _ => Lexer.isName qualifier && e.wellFormed
  | choice left right _ => left.wellFormed && right.wellFormed

end Surface

/-- The datatype has a qualified name, or is one of the two that are built in. -/
def Datatype.wellFormed (type : Datatype) : Bool :=
  match type.qualifier with
  | some qualifier => Lexer.isName qualifier && Lexer.isName type.localName
  | none => type.localName = "string" || type.localName = "token"

def DefineName.wellFormed : DefineName → Bool
  | start => true
  | named name => Lexer.isName name

namespace Surface

mutual

/-- Every name is one that the lexer reads, and every datatype without a qualifier is built in. -/
def Pattern.wellFormed : Pattern → Bool
  | .binary _ left right _ => left.wellFormed && right.wellFormed
  | .unary _ content _ => content.wellFormed
  | .leaf _ _ => true
  | .named _ name content _ => name.wellFormed && content.wellFormed
  | .ref name _ | .parentRef name _ => Lexer.isName name
  | .data type params none _ => type.wellFormed && params.all fun (name, _) => Lexer.isName name
  | .data type params (some e) _ =>
    type.wellFormed && (params.all fun (name, _) => Lexer.isName name) && e.wellFormed
  | .value _ type _ => type.wellFormed
  | .external _ inherit _ => inherit.all Lexer.isName
  | .grammar components _ => Component.allWellFormed true components

/-- The parts are well formed, and without `includes` no include stands here or in a division. -/
def Component.wellFormed (includes : Bool) : Component → Bool
  | .define name _ pattern _ _ => name.wellFormed && pattern.wellFormed
  | .div components _ => Component.allWellFormed includes components
  | .incl _ inherit overrides _ =>
    includes && inherit.all Lexer.isName && Component.allWellFormed false overrides

def Component.allWellFormed (includes : Bool) : List Component → Bool
  | [] => true
  | c :: cs => c.wellFormed includes && Component.allWellFormed includes cs

end

/-- A namespace without a qualifier is the default one. -/
def Declaration.wellFormed : Declaration → Bool
  | binding qualifier _ isDefault _ => qualifier.all Lexer.isName && (qualifier.isSome || isDefault)
  | library qualifier _ _ => Lexer.isName qualifier

namespace File

/-- The only component is `start` with a plain assignment. -/
def isStart : List Component → Bool
  | [.define .start .single _ _ _] => true
  | _ => false

/-- A file that can be written: its parts can, only one start pattern is left bare, and it opens no
more levels than a file may. -/
def wellFormed (f : File) : Bool :=
  f.declarations.all Declaration.wellFormed && Component.allWellFormed true f.components &&
    (!f.isPattern || isStart f.components) &&
    Component.allNesting f.components ≤ Parser.nestingLimit

end File

end Surface

end RelaxCompact
