import RelaxCompact.Proofs.Scanning.Sources

/-!
The UTF-8 form of a text. Decoding reads exactly the bytes that spell characters, so it stops behind
the longest part of them that is the form of a text.
-/

namespace RelaxCompact

/-- The UTF-8 form of a text. -/
def utf8 (cs : List Char) : List UInt8 := cs.flatMap String.utf8EncodeChar

namespace Utf8

/-- Bytes that spell a code point, told apart by the first of them. -/
inductive Spells : List UInt8 → Nat → Prop
  | one {a : UInt8} {n : Nat} : n = a.toNat → n < 0x80 → Spells [a] n
  | two {a b : UInt8} {n : Nat} : 0xC2 ≤ a.toNat → a.toNat < 0xE0 → isContinuation b = true →
    n = a.toNat % 0x20 * 0x40 + payload b → Spells [a, b] n
  | three {a b c : UInt8} {n : Nat} : 0xE0 ≤ a.toNat → a.toNat < 0xF0 →
    isContinuation b = true → isContinuation c = true →
    n = (a.toNat % 0x10 * 0x40 + payload b) * 0x40 + payload c → 0x800 ≤ n →
    ¬ (0xD800 ≤ n ∧ n < 0xE000) → Spells [a, b, c] n
  | four {a b c d : UInt8} {n : Nat} : 0xF0 ≤ a.toNat → a.toNat < 0xF5 →
    isContinuation b = true → isContinuation c = true → isContinuation d = true →
    n = ((a.toNat % 0x08 * 0x40 + payload b) * 0x40 + payload c) * 0x40 + payload d →
    0x10000 ≤ n → n < 0x110000 → Spells [a, b, c, d] n

theorem isContinuation_iff {b : UInt8} :
    isContinuation b = true ↔ 0x80 ≤ b.toNat ∧ b.toNat < 0xC0 := by
  simp [isContinuation, UInt8.lt_iff_toNat_lt, UInt8.le_iff_toNat_le]

theorem continues {b : UInt8} (h : isContinuation b = true) :
    b.toNat = 0x80 + payload b ∧ payload b < 0x40 := by
  rw [isContinuation_iff] at h
  unfold payload
  omega

/-- What bytes spell is a character, which tells how many bytes there are. -/
theorem Spells.bounds {cs : List UInt8} {n : Nat} (h : Spells cs n) :
    n.isValidChar ∧ cs.length =
      if n < 0x80 then 1 else if n < 0x800 then 2 else if n < 0x10000 then 3 else 4 := by
  unfold Nat.isValidChar
  cases h with
  | one hn ha =>
    rw [if_pos ha]
    exact ⟨.inl (by omega), rfl⟩
  | two ha ha' hb hn =>
    have hb := continues hb
    rw [if_neg (by omega), if_pos (by omega)]
    exact ⟨.inl (by omega), rfl⟩
  | three ha ha' hb hc hn hlow hs =>
    have hb := continues hb
    have hc := continues hc
    rw [if_neg (by omega), if_neg (by omega), if_pos (by omega)]
    exact ⟨by omega, rfl⟩
  | four ha ha' hb hc hd hn hlow hhigh =>
    rw [if_neg (by omega), if_neg (by omega), if_neg (by omega)]
    exact ⟨.inr (by omega), rfl⟩

theorem Spells.unique {cs cs' : List UInt8} {n : Nat} (h : Spells cs n) (h' : Spells cs' n) :
    cs = cs' := by
  have hlength := h.bounds.2.trans h'.bounds.2.symm
  cases h with
  | one hn _ =>
    cases h' with
    | one hn' _ => rw [UInt8.toNat_inj.1 (hn.symm.trans hn')]
    | _ => simp at hlength
  | two ha ha' hb hn =>
    cases h' with
    | two ia ia' ib hn' =>
      have hb := continues hb
      have ib := continues ib
      simp only [List.cons.injEq, ← UInt8.toNat_inj, and_true]
      omega
    | _ => simp at hlength
  | three ha ha' hb hc hn =>
    cases h' with
    | three ia ia' ib ic hn' =>
      have hb := continues hb
      have ib := continues ib
      have hc := continues hc
      have ic := continues ic
      simp only [List.cons.injEq, ← UInt8.toNat_inj, and_true]
      omega
    | _ => simp at hlength
  | four ha ha' hb hc hd hn =>
    cases h' with
    | four ia ia' ib ic id hn' =>
      have hb := continues hb
      have ib := continues ib
      have hc := continues hc
      have ic := continues ic
      have hd := continues hd
      have id := continues id
      simp only [List.cons.injEq, ← UInt8.toNat_inj, and_true]
      omega
    | _ => simp at hlength

/-! Decoding -/

theorem decodeChar?_of_spells {cs : List UInt8} {n : Nat} (h : Spells cs n) (rest : List UInt8) :
    decodeChar? (cs ++ rest) = some (Char.ofNat n, rest) := by
  unfold decodeChar?
  simp only [UInt8.lt_iff_toNat_lt, UInt8.le_iff_toNat_le, UInt8.reduceToNat, Bool.and_eq_true,
    decide_eq_true_eq, Bool.not_eq_true', decide_eq_false_iff_not, Bool.and_eq_false_imp]
  cases h with
  | one hn ha =>
    subst hn
    exact if_pos ha
  | two ha ha' hb hn =>
    simp only [List.cons_append, List.nil_append]
    rw [if_neg (by omega), if_pos ⟨ha, ha'⟩, if_pos hb, hn]
  | three ha ha' hb hc hn hlow hs =>
    subst hn
    simp only [List.cons_append, List.nil_append]
    rw [if_neg (by omega), if_neg (by omega), if_pos ⟨ha, ha'⟩,
      if_pos ⟨⟨⟨hb, hc⟩, hlow⟩, fun h h' => hs ⟨h, h'⟩⟩]
  | four ha ha' hb hc hd hn hlow hhigh =>
    subst hn
    simp only [List.cons_append, List.nil_append]
    rw [if_neg (by omega), if_neg (by omega), if_neg (by omega), if_pos ⟨ha, ha'⟩,
      if_pos ⟨⟨⟨⟨hb, hc⟩, hd⟩, hlow⟩, hhigh⟩]

theorem spells_of_decodeChar? {bytes rest : List UInt8} {c : Char}
    (h : decodeChar? bytes = some (c, rest)) :
    ∃ cs n, bytes = cs ++ rest ∧ Spells cs n ∧ c = Char.ofNat n := by
  unfold decodeChar? at h
  simp only [UInt8.lt_iff_toNat_lt, UInt8.le_iff_toNat_le, UInt8.reduceToNat, Bool.and_eq_true,
    decide_eq_true_eq, Bool.not_eq_true', Bool.and_eq_false_imp, decide_eq_false_iff_not] at h
  split at h
  next => cases h
  next a tail =>
  split at h
  next ha =>
    cases h
    exact ⟨[a], _, rfl, .one rfl ha, rfl⟩
  split at h
  next ha =>
    split at h
    next b tail =>
      split at h
      next hb =>
        cases h
        exact ⟨[a, b], _, rfl, .two ha.1 ha.2 hb rfl, rfl⟩
      next => cases h
    next => cases h
  split at h
  next ha =>
    split at h
    next b c tail =>
      split at h
      next htail =>
        cases h
        obtain ⟨⟨⟨hb, hc⟩, hlow⟩, hs⟩ := htail
        exact ⟨[a, b, c], _, rfl, .three ha.1 ha.2 hb hc rfl hlow fun ⟨h, h'⟩ => hs h h', rfl⟩
      next => cases h
    next => cases h
  split at h
  next ha =>
    split at h
    next b c d tail =>
      split at h
      next htail =>
        cases h
        obtain ⟨⟨⟨⟨hb, hc⟩, hd⟩, hlow⟩, hhigh⟩ := htail
        exact ⟨[a, b, c, d], _, rfl, .four ha.1 ha.2 hb hc hd rfl hlow hhigh, rfl⟩
      next => cases h
    next => cases h
  next => cases h

/-! Encoding -/

theorem toNat_ofNat {n : Nat} (h : n < 256) : (UInt8.ofNat n).toNat = n := by
  rw [UInt8.toNat_ofNat', Nat.mod_eq_of_lt h]

theorem continues_encode (m : Nat) :
    isContinuation (UInt8.ofNat (m % 0x40 + 0x80)) = true ∧
      payload (UInt8.ofNat (m % 0x40 + 0x80)) = m % 0x40 := by
  rw [isContinuation_iff, payload, toNat_ofNat (by omega)]
  omega

/-- A character is encoded as bytes that spell it. -/
theorem spells_encode (c : Char) : Spells (String.utf8EncodeChar c) c.val.toNat := by
  have hvalid := c.valid
  simp only [UInt32.isValidChar, Nat.isValidChar] at hvalid
  unfold String.utf8EncodeChar
  dsimp only
  generalize c.val.toNat = v at hvalid
  obtain ⟨hb, hb'⟩ := continues_encode v
  obtain ⟨hc, hc'⟩ := continues_encode (v / 64)
  obtain ⟨hd, hd'⟩ := continues_encode (v / 4096)
  split
  case isTrue h₁ => exact .one (toNat_ofNat (by omega)).symm (by omega)
  case isFalse h₁ =>
  split
  case isTrue h₂ =>
    have hlead := @toNat_ofNat (v / 64 % 0x20 + 0xc0) (by omega)
    exact .two (by omega) (by omega) hb (by omega)
  case isFalse h₂ =>
  split
  case isTrue h₃ =>
    have hlead := @toNat_ofNat (v / 4096 % 0x10 + 0xe0) (by omega)
    exact .three (by omega) (by omega) hc hb (by omega) (by omega) (by omega)
  case isFalse h₃ =>
    have hlead := @toNat_ofNat (v / 262144 % 0x08 + 0xf0) (by omega)
    exact .four (by omega) (by omega) hd hc hb (by omega) (by omega) (by omega)

theorem encode_of_spells {cs : List UInt8} {n : Nat} (h : Spells cs n) :
    String.utf8EncodeChar (Char.ofNat n) = cs := by
  have hn := spells_encode (Char.ofNat n)
  have hval : (Char.ofNat n).val.toNat = n := by
    have := Char.toNat_ofNat n
    rw [if_pos h.bounds.1] at this
    exact this
  rw [hval] at hn
  exact hn.unique h

/-- A character is read off its encoding, and off nothing else. -/
theorem decodeChar?_eq_some {bytes rest : List UInt8} {c : Char} :
    decodeChar? bytes = some (c, rest) ↔ bytes = String.utf8EncodeChar c ++ rest := by
  constructor
  · intro h
    obtain ⟨cs, n, rfl, hspells, rfl⟩ := spells_of_decodeChar? h
    rw [encode_of_spells hspells]
  · rintro rfl
    rw [decodeChar?_of_spells (spells_encode c)]
    exact congrArg (fun c => some (c, rest)) (Char.ofNat_toNat c)

/-! Texts -/

@[simp]
theorem utf8_nil : utf8 [] = [] := rfl

theorem utf8_cons (c : Char) (cs : List Char) :
    utf8 (c :: cs) = String.utf8EncodeChar c ++ utf8 cs :=
  List.flatMap_cons

@[simp]
theorem utf8_append (cs cs' : List Char) : utf8 (cs ++ cs') = utf8 cs ++ utf8 cs' :=
  List.flatMap_append

@[simp]
theorem length_utf8 (cs : List Char) : (utf8 cs).length = utf8Length cs := by
  induction cs with
  | nil => rfl
  | cons c cs ih =>
    rw [utf8_cons, List.length_append, String.length_utf8EncodeChar, ih, ← List.singleton_append,
      utf8Length_append, utf8Length_singleton]

theorem decode_of_some {bytes rest : List UInt8} {c : Char} (h : decodeChar? bytes = some (c, rest)) :
    decode bytes = ⟨c :: (decode rest).chars, (decode rest).remainder⟩ := by
  rw [decode]
  split
  case h_1 h' =>
    cases h.symm.trans h'
    rfl
  case h_2 h' => cases h.symm.trans h'

/-- Nothing is lost by decoding. -/
theorem decode_append (bytes : List UInt8) :
    utf8 (decode bytes).chars ++ (decode bytes).remainder = bytes := by
  fun_induction decode bytes with
  | case1 bytes c rest h _ tail ih =>
    rw [decodeChar?_eq_some.mp h, utf8_cons, List.append_assoc]
    exact congrArg _ ih
  | case2 => rfl

theorem decode_nil : decode [] = ⟨[], []⟩ := by
  rw [decode]
  rfl

/-- The form of a text is decoded to it whatever follows. -/
theorem decode_utf8 (cs : List Char) (rest : List UInt8) :
    decode (utf8 cs ++ rest) = ⟨cs ++ (decode rest).chars, (decode rest).remainder⟩ := by
  induction cs with
  | nil => rfl
  | cons c cs ih =>
    rw [utf8_cons, List.append_assoc, decode_of_some (decodeChar?_eq_some.mpr rfl), ih]
    rfl

/-- Bytes that are the UTF-8 form of a text. -/
def Valid (bytes : List UInt8) : Prop := ∃ cs, bytes = utf8 cs

/-- The first bytes, as many as are valid UTF-8 together and no more. -/
structure LongestValid (bytes : List UInt8) (n : Nat) : Prop where
  length : n ≤ bytes.length
  valid : Valid (bytes.take n)
  longest : ∀ m ≤ bytes.length, Valid (bytes.take m) → m ≤ n

/-- Decoding stops behind the longest part that is valid. -/
theorem longestValid_decode (bytes : List UInt8) :
    LongestValid bytes (utf8Length (decode bytes).chars) := by
  have happend := decode_append bytes
  have htake : bytes.take (utf8Length (decode bytes).chars) = utf8 (decode bytes).chars := by
    calc bytes.take (utf8Length (decode bytes).chars)
        = (utf8 (decode bytes).chars ++ (decode bytes).remainder).take
            (utf8 (decode bytes).chars).length := by rw [happend, length_utf8]
      _ = utf8 (decode bytes).chars := List.take_left
  refine ⟨?_, ⟨_, htake⟩, fun m hm hvalid => ?_⟩
  · have hlength := congrArg List.length happend
    rw [List.length_append, length_utf8] at hlength
    omega
  · obtain ⟨cs, hcs⟩ := hvalid
    have hdecode := congrArg Decoded.chars (decode_utf8 cs (bytes.drop m))
    rw [← hcs, List.take_append_drop] at hdecode
    rw [hdecode, utf8Length_append, ← length_utf8 cs, ← hcs, List.length_take_of_le hm]
    exact Nat.le_add_right _ _

end Utf8

end RelaxCompact
