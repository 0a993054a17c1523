import RelaxCompact.Text
import RelaxCompact.Text.Printable

/-!
Quoted text for messages: one line, all of it visible. Single quotes are used unless only a double
quote saves an escape.
-/

namespace RelaxCompact

/-- Lower-case hexadecimal digits, filled with zeros to a width. -/
def hexadecimal (width n : Nat) : Text :=
  let digits := Nat.toDigits 16 n
  Text.ofChars (List.replicate (width - digits.length) '0' ++ digits)

namespace Text

/-- The mark that encloses a text: a double quote only where the text has single quotes alone. -/
def quoteMark (t : Text) : Char :=
  if t.contains (CodePoint.ofChar '\'') && !t.contains (CodePoint.ofChar '\"') then '\"' else '\''

/-- One code point inside quotes. -/
def quotePoint (mark : Char) (p : CodePoint) : Text :=
  if p = CodePoint.ofChar '\\' then "\\\\"
  else if p = CodePoint.ofChar mark then ofChars ['\\', mark]
  else if p = CodePoint.ofChar '\n' then "\\n"
  else if p = CodePoint.ofChar '\r' then "\\r"
  else if p = CodePoint.ofChar '\t' then "\\t"
  else if isPrintable p.val then [p]
  else if p.val < 0x100 then "\\x" ++ hexadecimal 2 p.val
  else if p.val < 0x10000 then "\\u" ++ hexadecimal 4 p.val
  else "\\U" ++ hexadecimal 8 p.val

def quoted (t : Text) : Text :=
  let mark := t.quoteMark
  ofChars [mark] ++ t.flatMap (quotePoint mark) ++ ofChars [mark]

end Text

end RelaxCompact
