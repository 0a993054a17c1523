/-!
Strict decoding of UTF-8: no overlong form, no surrogate, nothing above U+10FFFF.
-/

namespace RelaxCompact.Utf8

/-- A byte that continues a character. -/
def isContinuation (b : UInt8) : Bool := 0x80 ≤ b && b < 0xC0

/-- The bits that a continuation byte carries. -/
def payload (b : UInt8) : Nat := b.toNat % 0x40

/-- The character that a byte sequence starts with, and the bytes after it. -/
def decodeChar? : List UInt8 → Option (Char × List UInt8)
  | [] => none
  | a :: rest =>
    if a < 0x80 then some (Char.ofNat a.toNat, rest)
    else if 0xC2 ≤ a && a < 0xE0 then
      match rest with
      | b :: rest =>
        if isContinuation b then some (Char.ofNat (a.toNat % 0x20 * 0x40 + payload b), rest)
        else none
      | [] => none
    else if 0xE0 ≤ a && a < 0xF0 then
      match rest with
      | b :: c :: rest =>
        let n := (a.toNat % 0x10 * 0x40 + payload b) * 0x40 + payload c
        if isContinuation b && isContinuation c && 0x800 ≤ n && !(0xD800 ≤ n && n < 0xE000) then
          some (Char.ofNat n, rest)
        else none
      | _ => none
    else if 0xF0 ≤ a && a < 0xF5 then
      match rest with
      | b :: c :: d :: rest =>
        let n := ((a.toNat % 0x08 * 0x40 + payload b) * 0x40 + payload c) * 0x40 + payload d
        if isContinuation b && isContinuation c && isContinuation d && 0x10000 ≤ n &&
            n < 0x110000 then
          some (Char.ofNat n, rest)
        else none
      | _ => none
    else none

theorem length_of_decodeChar? {bytes rest : List UInt8} {c : Char}
    (h : decodeChar? bytes = some (c, rest)) : rest.length < bytes.length := by
  unfold decodeChar? at h
  grind

/-- What decoding found: the characters up to the first bad sequence, and the bytes from there. -/
structure Decoded where
  chars : List Char
  remainder : List UInt8

/-- Reads characters as long as the bytes are well formed. -/
def decode (bytes : List UInt8) : Decoded :=
  match h : decodeChar? bytes with
  | some (c, rest) =>
    have := length_of_decodeChar? h
    let tail := decode rest
    ⟨c :: tail.chars, tail.remainder⟩
  | none => ⟨[], bytes⟩
termination_by bytes.length

end RelaxCompact.Utf8
