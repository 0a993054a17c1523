import RelaxCompact.Text

/-! Places in a source text. -/

namespace RelaxCompact

/-- A region of a source. Line and column count characters from one, offset and length count bytes
of the UTF-8 form. -/
structure Span where
  path : Text
  line : Int
  column : Int
  offset : Int := 0
  length : Int := 0
  deriving DecidableEq, Repr

/-- The offset just after a region. -/
def Span.stop (s : Span) : Int := s.offset + s.length

/-- The place as messages give it; a source without a path is a string. -/
def Span.describe (s : Span) : Text :=
  (if s.path.isEmpty then Text.ofString "<string>" else s.path) ++ ":" ++ Text.ofInt s.line ++
    ":" ++ Text.ofInt s.column

/-- A reading position: line and column count from one, the offset in bytes from zero. -/
structure Position where
  line : Nat := 1
  column : Nat := 1
  offset : Nat := 0
  deriving DecidableEq, Repr

/-- The position after a character. -/
def Position.after (p : Position) (c : Char) : Position where
  line := if c = '\n' then p.line + 1 else p.line
  column := if c = '\n' then 1 else p.column + 1
  offset := p.offset + c.utf8Size

/-- The position after a run of characters. -/
def Position.advance (p : Position) (cs : List Char) : Position := cs.foldl Position.after p

/-- The region of `length` bytes that starts at a position. -/
def Position.span (p : Position) (path : Text) (length : Nat) : Span :=
  ⟨path, p.line, p.column, p.offset, length⟩

end RelaxCompact
