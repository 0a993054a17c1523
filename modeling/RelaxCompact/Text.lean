/-!
Text as a list of Unicode code points. A literal of the compact syntax can spell any code point,
also a surrogate, so literals and what is built from them are `Text`; the source itself and the
names in it are made of characters.
-/

namespace RelaxCompact

/-- A Unicode code point, surrogates included. -/
abbrev CodePoint := Fin 0x110000

/-- A sequence of code points. -/
abbrev Text := List CodePoint

namespace CodePoint

def ofChar (c : Char) : CodePoint :=
  ⟨c.val.toNat, by
    have := c.valid
    simp only [UInt32.isValidChar, Nat.isValidChar] at this
    omega⟩

/-- The code point with a number, which is below 0x110000. -/
def ofNat (n : Nat) : CodePoint := Fin.ofNat 0x110000 n

/-- The character at a code point that is no surrogate. -/
def toChar? (p : CodePoint) : Option Char :=
  if h : p.val.isValidChar then some (Char.ofNatAux p.val h) else none

/-- The code point with a given number, if there is one. -/
def ofInt? (n : Int) : Option CodePoint :=
  if h : 0 ≤ n ∧ n < 0x110000 then some ⟨n.toNat, by omega⟩ else none

end CodePoint

namespace Text

def ofChars (cs : List Char) : Text := cs.map CodePoint.ofChar

def ofString (s : String) : Text := ofChars s.toList

instance : Coe String Text := ⟨ofString⟩

/-- The characters of a text without surrogates. -/
def toChars? (t : Text) : Option (List Char) := t.mapM CodePoint.toChar?

def toString? (t : Text) : Option String := t.toChars?.map String.ofList

/-- Decimal notation, with a sign before a negative number only. -/
def ofInt (n : Int) : Text :=
  ofString (if n < 0 then "-" ++ Nat.repr n.natAbs else Nat.repr n.natAbs)

/-- The texts one after another, with `separator` between neighbours. -/
def join (separator : Text) (parts : List Text) : Text := separator.intercalate parts

end Text

end RelaxCompact
