import RelaxCompact.Error
import RelaxCompact.Text.Integer
import RelaxCompact.Text.Letter
import RelaxCompact.Text.Utf8

/-!
Reading a source into tokens. A source is a sequence of pieces: blanks, comments and lexemes. A
piece is read from the characters alone; its place follows from the characters before it. Comments
that begin with `##` and open their line are kept as documentation.
-/

namespace RelaxCompact

/-- A grammar source: a text, or the bytes of its UTF-8 form. -/
inductive Source
  | text (t : Text)
  | bytes (bs : List UInt8)

/-- What the lexer makes of a source. -/
structure Scanned where
  tokens : List Token
  docs : DocLines
  deriving DecidableEq, Repr

namespace Lexer

/-- The byte order mark that a source may start with; it is not part of the text. -/
def byteOrderMark : Char := '\ufeff'

def dropByteOrderMark : List Char → List Char
  | [] => []
  | c :: cs => if c = byteOrderMark then cs else c :: cs

/-- The characters of a source, which holds no surrogates; of undecodable bytes the first bad one is
reported. -/
def characters (path : Text) : Source → Except Failure (List Char)
  | .text t =>
    match t.toChars? with
    | some cs => .ok cs
    | none => .error .surrogateInSource
  | .bytes bs =>
    let decoded := Utf8.decode bs
    match decoded.remainder with
    | [] => .ok decoded.chars
    | byte :: _ =>
      .error (.schema (.invalidByte byte ((Position.advance {} decoded.chars).span path 1)))

def isGap (c : Char) : Bool := c = ' ' || c = '\t' || c = '\r' || c = '\n'

def isNameStart (c : Char) : Bool := isLetter c || c = '_'

def isNameChar (c : Char) : Bool := isLetter c || isNumeral c || c = '_' || c = '-' || c = '.'

/-- The text starts with a character that a name can start with. -/
def startsName : List Char → Bool
  | [] => false
  | c :: _ => isNameStart c

/-- Why no piece can be read at a place. -/
inductive Fault
  | unexpected (c : Char)
  | unterminated (quote : Option Char)
  | invalidEscape (digits : List Char)
  | escapeOverflow
  deriving DecidableEq, Repr

/-- One code point of a literal, as it is written. -/
inductive LiteralItem
  | plain (c : Char)
  | escaped (c : Char)
  | coded (digits : List Char) (point : CodePoint)
  deriving DecidableEq, Repr

namespace LiteralItem

def spelling : LiteralItem → List Char
  | plain c => [c]
  | escaped c => ['\\', c]
  | coded digits _ => ['\\', 'x', '{'] ++ digits ++ ['}']

/-- A backslash before `n`, `t` or `r` gives a control character, before any other its own self. -/
def point : LiteralItem → CodePoint
  | plain c => .ofChar c
  | escaped c =>
    .ofChar (if c = 'n' then '\n' else if c = 't' then '\t' else if c = 'r' then '\r' else c)
  | coded _ point => point

end LiteralItem

/-- The code point that the digits of a coded character name. -/
def codedPoint (digits : List Char) : Except Fault CodePoint :=
  match Integer.read? 16 digits with
  | none => .error (.invalidEscape digits)
  | some n =>
    match CodePoint.ofInt? n with
    | some point => .ok point
    | none =>
      if -0x80000000 ≤ n ∧ n < 0x80000000 then .error (.invalidEscape digits)
      else .error .escapeOverflow

/-- The characters that open and close a literal. -/
structure Delimiter where
  quote : Char
  triple : Bool
  deriving DecidableEq, Repr

def Delimiter.spelling (d : Delimiter) : List Char :=
  List.replicate (if d.triple then 3 else 1) d.quote

/-- The text after a closing delimiter, if one stands here. -/
def Delimiter.close? (d : Delimiter) (cs : List Char) : Option (List Char) :=
  if d.spelling.isPrefixOf cs then some (cs.drop d.spelling.length) else none

/-- The delimiter that opens with a quote: triple if two more follow. -/
def Delimiter.ofQuote (quote : Char) (rest : List Char) : Delimiter :=
  ⟨quote, [quote, quote].isPrefixOf rest⟩

/-- The items of a literal up to its closing delimiter, and the text after that. -/
def literalItems (d : Delimiter) : List Char → Except Fault (List LiteralItem × List Char)
  | [] => .error (.unterminated (some d.quote))
  | c :: cs =>
    match d.close? (c :: cs) with
    | some rest => .ok ([], rest)
    | none =>
      if c = '\n' ∧ !d.triple then .error (.unterminated (some d.quote))
      else if c = '\\' then
        match cs with
        | [] => .error (.unterminated none)
        | 'x' :: '{' :: cs' =>
          match h : cs'.dropWhile (· ≠ '}') with
          | [] => .error (.unterminated none)
          | _ :: rest =>
            have : rest.length < cs'.length := by
              have := (List.dropWhile_sublist (l := cs') (· ≠ '}')).length_le
              simp only [h, List.length_cons] at this
              omega
            do
              let digits := cs'.takeWhile (· ≠ '}')
              let point ← codedPoint digits
              let (items, rest) ← literalItems d rest
              return (.coded digits point :: items, rest)
        | e :: cs' => do
          let (items, rest) ← literalItems d cs'
          return (.escaped e :: items, rest)
      else do
        let (items, rest) ← literalItems d cs
        return (.plain c :: items, rest)
termination_by cs => cs.length

/-- A piece of a source, with the characters that it is written with. -/
inductive Piece
  | gap (spelling : List Char)
  | comment (spelling : List Char)
  | lexeme (value : Lexeme) (spelling : List Char)
  deriving DecidableEq, Repr

def Piece.spelling : Piece → List Char
  | gap cs | comment cs | lexeme _ cs => cs

/-- A name, or a qualified name, that starts with `cs`. -/
def namePiece (cs : List Char) : Piece :=
  let name := cs.takeWhile isNameChar
  match cs.dropWhile isNameChar with
  | ':' :: '*' :: _ => .lexeme (.nsName (String.ofList name)) (name ++ [':', '*'])
  | ':' :: rest =>
    if startsName rest then
      let localName := rest.takeWhile isNameChar
      .lexeme (.prefixedName (String.ofList name) (String.ofList localName))
        (name ++ ':' :: localName)
    else .lexeme (word name) name
  | _ => .lexeme (word name) name
where
  /-- An unqualified name is a keyword if it spells one. -/
  word (name : List Char) : Lexeme :=
    match Keyword.ofName? (String.ofList name) with
    | some k => .keyword k
    | none => .identifier (String.ofList name)

/-- The literal that opens with `quote` before `rest`. -/
def literalPiece (quote : Char) (rest : List Char) : Except Fault Piece := do
  let d := Delimiter.ofQuote quote rest
  let (items, _) ← literalItems d ((quote :: rest).drop d.spelling.length)
  return .lexeme (.literal (items.map LiteralItem.point))
    (d.spelling ++ items.flatMap LiteralItem.spelling ++ d.spelling)

/-- The piece that the text `c :: cs` starts with. -/
def piece (c : Char) (cs : List Char) : Except Fault Piece :=
  if isGap c then .ok (.gap (c :: cs.takeWhile isGap))
  else if c = '#' then .ok (.comment (c :: cs.takeWhile (· ≠ '\n')))
  else if c = '\"' ∨ c = '\'' then literalPiece c cs
  else if c = '\\' then
    if startsName cs then
      let name := cs.takeWhile isNameChar
      .ok (.lexeme (.identifier (String.ofList name)) (c :: name))
    else .error (.unexpected c)
  else if isNameStart c then .ok (namePiece (c :: cs))
  else
    match Symbol.read? (c :: cs) with
    | some s => .ok (.lexeme (.symbol s) s.spelling)
    | none => .error (.unexpected c)

/-- What a comment documents: its text without the marks, one blank after them and those at the
end. -/
def documentation? : List Char → Option String
  | '#' :: '#' :: cs =>
    let body := cs.dropWhile (· = '#')
    let body := match body with
      | ' ' :: rest => rest
      | _ => body
    some (String.ofList (trimBlankEnd body))
  | _ => none

/-- The failure that a fault is, at a position. -/
def Fault.failure (path : Text) (p : Position) : Fault → Failure
  | unexpected c => .schema (.unexpectedCharacter c (p.span path c.utf8Size))
  | unterminated quote => .schema (.unterminatedLiteral quote (p.span path 1))
  | invalidEscape digits => .schema (.invalidEscape digits (p.span path 1))
  | escapeOverflow => .escapeOverflow

/-- Puts a piece in front of what follows it. A comment counts as documentation only if no token
starts on its line; `lastLine` is the line of the last token. -/
def Piece.place (path : Text) (p : Position) (lastLine : Option Nat) : Piece → Scanned → Scanned
  | gap _, rest => rest
  | comment cs, rest =>
    match documentation? cs with
    | some text =>
      if lastLine = some p.line then rest else { rest with docs := (p.line, text) :: rest.docs }
    | none => rest
  | lexeme value cs, rest =>
    let token := ⟨value, path, p, (p.advance cs).offset - p.offset⟩
    { rest with tokens := token :: rest.tokens }

/-- The line of the last token after a piece. -/
def Piece.lastLine (p : Position) (before : Option Nat) : Piece → Option Nat
  | lexeme _ _ => some p.line
  | _ => before

/-- Reads pieces from a position on. Each piece takes at least one character. -/
def scanFrom (path : Text) (p : Position) (lastLine : Option Nat) :
    List Char → Except Failure Scanned
  | [] => .ok ⟨[⟨.eof, path, p, 0⟩], []⟩
  | c :: cs =>
    match piece c cs with
    | .error fault => .error (fault.failure path p)
    | .ok piece => do
      let rest ← scanFrom path (p.advance piece.spelling) (piece.lastLine p lastLine)
        (cs.drop (piece.spelling.length - 1))
      return piece.place path p lastLine rest
termination_by cs => cs.length

/-- The tokens and documentation lines of a text. -/
def scanChars (path : Text) (cs : List Char) : Except Failure Scanned :=
  scanFrom path {} none (dropByteOrderMark cs)

end Lexer

/-- The tokens and documentation lines of a source. -/
def Source.scan (source : Source) (path : Text) : Except Failure Scanned := do
  Lexer.scanChars path (← Lexer.characters path source)

end RelaxCompact
