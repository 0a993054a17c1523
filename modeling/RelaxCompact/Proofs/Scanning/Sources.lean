import RelaxCompact.Proofs.Printing.Spelling

/-! Sources as texts: the characters that a source spells, and the bytes that they take. -/

namespace RelaxCompact

open Lexer

/-- The bytes that a text takes in UTF-8. -/
def utf8Length (cs : List Char) : Nat := (String.ofList cs).utf8ByteSize

/-- The bytes that a code point takes in UTF-8. -/
def CodePoint.utf8Size (p : CodePoint) : Nat :=
  if p.val < 0x80 then 1 else if p.val < 0x800 then 2 else if p.val < 0x10000 then 3 else 4

/-- The bytes that a text takes in UTF-8. -/
def Text.utf8Size (t : Text) : Nat := (t.map CodePoint.utf8Size).sum

@[simp]
theorem utf8Length_nil : utf8Length [] = 0 := rfl

@[simp]
theorem utf8Length_append (cs cs' : List Char) :
    utf8Length (cs ++ cs') = utf8Length cs + utf8Length cs' := by
  unfold utf8Length
  rw [String.ofList_append, String.utf8ByteSize_append]

@[simp]
theorem utf8Length_singleton (c : Char) : utf8Length [c] = c.utf8Size := by
  unfold utf8Length
  rw [String.ofList_cons, String.ofList_nil, String.append_empty, String.utf8ByteSize_singleton]

theorem Text.eq_ofChars {t : Text} {cs : List Char} (h : t.toChars? = some cs) :
    t = .ofChars cs := by
  induction t generalizing cs with
  | nil =>
    cases h
    rfl
  | cons p t ih =>
    unfold toChars? at h ih
    rw [List.mapM_cons] at h
    obtain ⟨c, hc, h⟩ := Option.bind_eq_some_iff.mp h
    obtain ⟨cs', hcs', h⟩ := Option.bind_eq_some_iff.mp h
    cases h
    rw [ih hcs', ← CodePoint.ofChar_of_toChar? hc]
    rfl

theorem CodePoint.utf8Size_ofChar (c : Char) : (ofChar c).utf8Size = c.utf8Size := by
  have hval : (ofChar c).val = c.val.toNat := rfl
  unfold utf8Size Char.utf8Size
  simp only [hval, UInt32.le_iff_toNat_le, UInt32.toNat_ofNatLT, ← Nat.lt_succ_iff]

theorem CodePoint.ofChar_injective : Function.Injective ofChar := by
  intro c c' h
  have hchar := congrArg toChar? h
  rw [toChar?_ofChar, toChar?_ofChar] at hchar
  exact Option.some.inj hchar

theorem Text.utf8Size_ofChars (cs : List Char) : (ofChars cs).utf8Size = utf8Length cs := by
  induction cs with
  | nil => rfl
  | cons c cs ih =>
    rw [← List.singleton_append, utf8Length_append, ← ih, utf8Length_singleton,
      ← CodePoint.utf8Size_ofChar]
    rfl

theorem Text.count_ofChars (cs : List Char) (c : Char) :
    (ofChars cs).count (.ofChar c) = cs.count c :=
  List.count_map_of_injective _ _ CodePoint.ofChar_injective c

/-- The text that a source is read as: its characters, without a byte order mark at their start. -/
def Source.Spells (source : Source) (path : Text) (text : List Char) : Prop :=
  ∃ cs, characters path source = .ok cs ∧ text = dropByteOrderMark cs

/-- The text that a source spells is what is scanned. -/
theorem Source.Spells.scan {source : Source} {path : Text} {text : List Char}
    (h : source.Spells path text) : source.scan path = scanFrom path {} none text := by
  obtain ⟨cs, hcs, rfl⟩ := h
  unfold Source.scan
  rw [hcs]
  rfl

/-- A source spells one text. -/
theorem Source.Spells.unique {source : Source} {path : Text} {text text' : List Char}
    (h : source.Spells path text) (h' : source.Spells path text') : text = text' := by
  obtain ⟨cs, hcs, rfl⟩ := h
  obtain ⟨cs', hcs', rfl⟩ := h'
  cases hcs.symm.trans hcs'
  rfl

theorem Source.exists_spells {source : Source} {path : Text} {scanned : Scanned}
    (h : source.scan path = .ok scanned) : ∃ text, source.Spells path text := by
  obtain ⟨cs, hcs, -⟩ := Run.ok_of_bind h
  exact ⟨_, cs, hcs, rfl⟩

theorem Text.head?_ofChars {cs : List Char} {c : Char} :
    (ofChars cs).head? = some (.ofChar c) ↔ cs.head? = some c := by
  cases cs with
  | nil => simp [ofChars]
  | cons c' cs => simp [ofChars, CodePoint.ofChar_injective.eq_iff]

/-- A text that starts with no byte order mark is what it spells. -/
theorem Source.spells_text {path : Text} {cs : List Char} (h : cs.head? ≠ some byteOrderMark) :
    (Source.text (.ofChars cs)).Spells path cs := by
  refine ⟨cs, ?_, ?_⟩
  · unfold characters
    simp only [Text.toChars?_ofChars]
  · cases cs with
    | nil => rfl
    | cons c cs =>
      have hc : c ≠ byteOrderMark := fun hc => h (by rw [hc]; rfl)
      exact (if_neg hc).symm

/-- A text that fails to be scanned for a fault, or that does not fail, is made of characters. -/
theorem Source.exists_chars {t path : Text}
    (h : (Source.text t).scan path ≠ .error .surrogateInSource) : ∃ cs, t = .ofChars cs := by
  cases hcs : t.toChars? with
  | some cs => exact ⟨cs, Text.eq_ofChars hcs⟩
  | none =>
    refine absurd ?_ h
    unfold Source.scan characters
    simp only [hcs]
    rfl

end RelaxCompact
