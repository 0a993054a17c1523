import RelaxCompact.Proofs.Encoding
import RelaxCompact.Proofs.Scanning.Inserting

/-!
Seeking a token in the bytes of its source. A token counts its bytes from the first character of the
text, so a byte order mark, which is not part of the text, has to be skipped before it is sought. A
byte that cannot be decoded is counted from the first byte of all.
-/

namespace RelaxCompact

open Lexer

/-- The bytes of a region. -/
def Span.slice (s : Span) (bytes : List UInt8) : List UInt8 :=
  (bytes.drop s.offset.toNat).take s.length.toNat

/-- The bytes behind the byte order mark, if they start with one. -/
def unmarked (bytes : List UInt8) : List UInt8 :=
  if utf8 [byteOrderMark] <+: bytes then bytes.drop (utf8 [byteOrderMark]).length else bytes

/-- The lexemes of cells stand in bytes where their tokens say. -/
def Addresses (cells : List Cell) (tokens : List Token) (bytes : List UInt8) : Prop :=
  ∀ (i : Nat) (t : Token), tokens[i]? = some t → t.lexeme ≠ .eof →
    ∃ cell : Cell, cells[i]? = some cell ∧ t.lexeme = cell.lexeme ∧ t.span.slice bytes = utf8 cell.text

theorem utf8_prefix_iff {c : Char} {cs : List Char} :
    utf8 [c] <+: utf8 cs ↔ cs.head? = some c := by
  constructor
  · rintro ⟨rest, hrest⟩
    have hdecode := Utf8.decode_utf8 [c] rest
    have hdecode' := Utf8.decode_utf8 cs []
    rw [List.append_nil, ← hrest, hdecode] at hdecode'
    have hchars := congrArg Utf8.Decoded.chars hdecode'
    rw [Utf8.decode_nil] at hchars
    dsimp only at hchars
    rw [List.append_nil] at hchars
    rw [← hchars]
    rfl
  · intro h
    obtain ⟨cs', rfl⟩ := List.head?_eq_some_iff.mp h
    exact ⟨utf8 cs', (Utf8.utf8_append [c] cs').symm⟩

/-- The mark that is dropped from a text is the one that its bytes start with. -/
theorem unmarked_utf8 (cs : List Char) : unmarked (utf8 cs) = utf8 (dropByteOrderMark cs) := by
  unfold unmarked
  simp only [utf8_prefix_iff]
  cases cs with
  | nil => rfl
  | cons c cs =>
    by_cases hc : c = byteOrderMark
    · subst hc
      have hmark : utf8 (byteOrderMark :: cs) = utf8 [byteOrderMark] ++ utf8 cs :=
        Utf8.utf8_append [byteOrderMark] cs
      rw [List.head?_cons, if_pos rfl, hmark, List.drop_left]
      rfl
    · rw [List.head?_cons, if_neg fun h => hc (Option.some.inj h)]
      exact congrArg utf8 (if_neg hc).symm

/-- Bytes are read as the text whose form they are, or the first bad one of them is reported. -/
theorem characters_bytes (path : Text) (bytes : List UInt8) :
    (∃ cs, bytes = utf8 cs ∧ characters path (.bytes bytes) = .ok cs) ∨
      ∃ cs byte rest, bytes = utf8 cs ++ byte :: rest ∧
        Utf8.LongestValid bytes (utf8Length cs) ∧
        characters path (.bytes bytes) =
          .error (.schema (.invalidByte byte ((Position.behind cs).span path 1))) := by
  have happend := Utf8.decode_append bytes
  have hlongest := Utf8.longestValid_decode bytes
  unfold characters
  dsimp only
  generalize (Utf8.decode bytes).chars = cs at happend hlongest
  cases hrest : (Utf8.decode bytes).remainder with
  | nil =>
    rw [hrest, List.append_nil] at happend
    exact .inl ⟨cs, happend.symm, rfl⟩
  | cons byte rest =>
    rw [hrest] at happend
    exact .inr ⟨cs, byte, rest, happend.symm, hlongest, by rw [Position.advance_eq_behind]⟩

theorem Source.Spells.unmarked_eq {bytes : List UInt8} {path : Text} {text : List Char}
    (h : (Source.bytes bytes).Spells path text) :
    unmarked bytes = utf8 text := by
  obtain ⟨cs, hcs, rfl⟩ := h
  obtain ⟨cs', rfl, hcs'⟩ | ⟨_, _, _, -, -, herror⟩ := characters_bytes path bytes
  · cases hcs.symm.trans hcs'
    exact unmarked_utf8 cs
  · cases hcs.symm.trans herror

theorem Tiled.addresses {path : Text} {text : List Char} {cells : List Cell} {last : List Char}
    {tokens : List Token} (h : Tiled path text cells last tokens) :
    Addresses cells tokens (utf8 text) := by
  intro i t ht hne
  have hi : i < cells.length := by
    obtain ⟨hi, -⟩ := List.getElem?_eq_some_iff.mp ht
    rw [h.length] at hi
    refine Nat.lt_of_le_of_ne (Nat.lt_succ_iff.mp hi) fun heq => hne ?_
    rw [heq, h.eof] at ht
    cases ht
    rfl
  have hsplit : cells = cells.take i ++ cells[i] :: cells.drop (i + 1) := by simp
  have hlength : (cells.take i).length = i := List.length_take_of_le (Nat.le_of_lt hi)
  have htoken := h.token _ _ _ hsplit
  rw [hlength, ht] at htoken
  cases htoken
  refine ⟨cells[i], List.getElem?_eq_getElem hi, rfl, ?_⟩
  have htext : text = spread (cells.take i) cells[i].gap ++
      (cells[i].text ++ spread (cells.drop (i + 1)) last) := by
    rw [h.layout, ← spread_cell, ← hsplit]
  change ((utf8 text).drop (utf8Length (spread (cells.take i) cells[i].gap))).take
    (utf8Length cells[i].text) = _
  rw [htext, Utf8.utf8_append, ← Utf8.length_utf8 (spread _ _), List.drop_left, Utf8.utf8_append,
    ← Utf8.length_utf8, List.take_left]

/-- Tokens are found in the bytes of their source: behind the byte order mark, if there is one, the
region of each token is the form of its lexeme as it stands. Bytes are refused just if they are no
form of a text, with the length of the longest part that is one as the offset. -/
theorem scan_seeks (path : Text) (bytes : List UInt8) :
    (∀ scanned, (Source.bytes bytes).scan path = .ok scanned →
      ∃ text cells last, unmarked bytes = utf8 text ∧ Tiled path text cells last scanned.tokens ∧
        Addresses cells scanned.tokens (unmarked bytes)) ∧
    (∀ e, characters path (.bytes bytes) = .error e →
      ∃ cs byte rest, bytes = utf8 cs ++ byte :: rest ∧
        e = .schema (.invalidByte byte ((Position.behind cs).span path 1)) ∧
        Utf8.LongestValid bytes (Position.behind cs).offset) ∧
    ((∃ e, characters path (.bytes bytes) = .error e) ↔ ¬ Utf8.Valid bytes) := by
  refine ⟨fun scanned h => ?_, fun e h => ?_, ?_⟩
  · obtain ⟨text, cells, last, hspells, -, htiled⟩ := Source.exists_lexes h
    have hbytes := hspells.unmarked_eq
    exact ⟨text, cells, last, hbytes, htiled, hbytes ▸ htiled.addresses⟩
  · obtain ⟨cs, -, hcs⟩ | ⟨cs, byte, rest, hbytes, hlongest, herror⟩ := characters_bytes path bytes
    · cases h.symm.trans hcs
    · cases h.symm.trans herror
      exact ⟨cs, byte, rest, hbytes, rfl, hlongest⟩
  · constructor
    · rintro ⟨e, he⟩ ⟨cs, hcs⟩
      obtain ⟨cs', -, hcs'⟩ | ⟨cs', byte, rest, hbytes, hlongest, -⟩ := characters_bytes path bytes
      · cases he.symm.trans hcs'
      · have hle := hlongest.longest bytes.length le_rfl ⟨cs, by rw [List.take_length, hcs]⟩
        have hlength := congrArg List.length hbytes
        rw [List.length_append, Utf8.length_utf8, List.length_cons] at hlength
        omega
    · intro hvalid
      obtain ⟨cs, hbytes, -⟩ | ⟨_, _, _, -, -, herror⟩ := characters_bytes path bytes
      · exact (hvalid ⟨cs, hbytes⟩).elim
      · exact ⟨_, herror⟩

namespace Sought

/-! An identifier behind a byte order mark, and a bad byte behind both. -/

def marked : List UInt8 := [0xEF, 0xBB, 0xBF, 0x78]

def broken : List UInt8 := marked ++ [0xFF]

def tokens : List Token := [⟨.identifier "x", [], {}, 1⟩, ⟨.eof, [], ⟨1, 2, 1⟩, 0⟩]

def failure : Failure := .schema (.invalidByte 0xFF ⟨[], 1, 3, 4, 1⟩)

theorem scan_marked : (Source.bytes marked).scan [] = .ok ⟨tokens, []⟩ := by decide +kernel

theorem scan_seeks_marked :
    ((Source.bytes marked).scan [] = .ok ⟨tokens, []⟩ ∧
      ∃ text cells last, unmarked marked = utf8 text ∧ Tiled [] text cells last tokens ∧
        Addresses cells tokens (unmarked marked)) ∧
    (characters [] (.bytes broken) = .error failure ∧
      ∃ cs byte rest, broken = utf8 cs ++ byte :: rest ∧
        failure = .schema (.invalidByte byte ((Position.behind cs).span [] 1)) ∧
        Utf8.LongestValid broken (Position.behind cs).offset) := by
  have hbroken : characters [] (.bytes broken) = .error failure := by decide +kernel
  exact ⟨⟨scan_marked, (scan_seeks [] marked).1 _ scan_marked⟩, hbroken,
    (scan_seeks [] broken).2.1 _ hbroken⟩

/-- With the mark left in front another byte is found. -/
theorem scan_seeks_elsewhere : ¬ ∀ bytes path scanned,
    (Source.bytes bytes).scan path = .ok scanned →
    ∃ text cells last, (Source.bytes bytes).Spells path text ∧
      Tiled path text cells last scanned.tokens ∧ Addresses cells scanned.tokens bytes := by
  intro h
  obtain ⟨text, cells, last, -, htiled, haddresses⟩ := h marked [] _ scan_marked
  obtain ⟨cell, hcell, hlexeme, hslice⟩ := haddresses 0 ⟨.identifier "x", [], {}, 1⟩ rfl (by decide)
  have hstands := (htiled.stands cell (List.mem_of_getElem? hcell)).1
  rw [← hlexeme] at hstands
  generalize cell.text = text' at hslice hstands
  -- The slice is the first byte of the mark, which is in neither spelling of the identifier.
  cases hstands with
  | identifier => exact absurd hslice (by decide)
  | escaped => exact absurd hslice (by decide)

end Sought

end RelaxCompact
