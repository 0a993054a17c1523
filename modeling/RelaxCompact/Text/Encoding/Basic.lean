/-!
Encodings: why bytes are no text in one, and those that need no memory, where how a character is
spelled does not depend on those before it.
-/

namespace RelaxCompact

/-- Bytes that spell no character are told from those whose text the encoding does not admit. -/
inductive DecodeFault
  | illFormed
  | inadmissible
  | noRightHalf
  deriving DecidableEq, Repr

namespace Encoding

/-- The characters that bytes spell. `read?` gives those at the front, with the number of bytes
after the first one that they take. -/
def readAll? (read? : Nat → List Nat → Option (List Char × Nat)) : List Nat → Option (List Char)
  | [] => some []
  | byte :: rest => do
    let (first, count) ← read? byte rest
    return first ++ (← readAll? read? (rest.drop count))
termination_by bytes => bytes.length

/-- A byte that spells a character of ASCII. -/
def ascii? (byte : Nat) : Option Char := if byte < 0x80 then some (Char.ofNat byte) else none

/-- One byte below 0x80, or two bytes that are read by `pair?`. -/
def pairwise? (pair? : Nat → Nat → Option Char) : Nat → List Nat → Option (List Char × Nat)
  | a, rest =>
    match ascii? a, rest with
    | some c, _ => some ([c], 0)
    | none, b :: _ => (pair? a b).map fun c => ([c], 1)
    | none, [] => none

end Encoding

end RelaxCompact
