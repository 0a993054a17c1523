import RelaxCompact.Proofs.Parsing.Refusing
import RelaxCompact.Proofs.Scanning.Pieces

/-!
Escapes beyond 32 bits. Such an escape stops the reading of a source without a schema being refused;
so does a surrogate in a text. Nothing else does.
-/

namespace RelaxCompact

namespace Lexer

open Run

/-- The digits of an escape denote a number beyond 32 bits. -/
def Oversized (digits : List Char) : Prop :=
  ∃ n, Integer.read? 16 digits = some n ∧ (n < -0x80000000 ∨ 0x80000000 ≤ n)

/-- Somewhere in a text stands an escape whose number is beyond 32 bits. -/
def Overflowing (cs : List Char) : Prop :=
  ∃ digits, '\\' :: 'x' :: '{' :: (digits ++ ['}']) <:+: cs ∧ Oversized digits

theorem Overflowing.mono {cs cs' : List Char} (h : Overflowing cs) (hsub : cs <:+: cs') :
    Overflowing cs' := by
  obtain ⟨digits, hinfix, hover⟩ := h
  exact ⟨digits, hinfix.trans hsub, hover⟩

theorem oversized_of_codedPoint {digits : List Char}
    (h : codedPoint digits = .error .escapeOverflow) : Oversized digits := by
  unfold codedPoint at h
  split at h
  · cases h
  next n hn =>
    split at h
    · cases h
    · split at h
      · cases h
      next hrange => exact ⟨n, hn, by omega⟩

/-- Reading a literal overflows only at such an escape. -/
theorem overflowing_of_literalItems {d : Delimiter} {cs : List Char}
    (h : literalItems d cs = .error .escapeOverflow) : Overflowing cs := by
  fun_induction literalItems d cs with
  | case1 | case2 | case3 | case4 | case5 => cases h
  | case6 cs' c rest hdrop _ digits _ _ ih =>
    have hcs := escape_eq hdrop
    rcases error_of_bind h with h | ⟨point, -, h⟩
    · refine ⟨digits, ⟨[], rest, ?_⟩, oversized_of_codedPoint h⟩
      exact congrArg (fun cs => '\\' :: 'x' :: '{' :: cs) hcs.symm
    · rcases error_of_bind h with h | ⟨_, -, h⟩
      · refine (ih h).mono ⟨'\\' :: 'x' :: '{' :: (digits ++ ['}']), [], ?_⟩
        rw [List.append_nil]
        exact congrArg (fun cs => '\\' :: 'x' :: '{' :: cs) hcs.symm
      · cases h
  | case7 e cs' _ _ _ ih =>
    rcases error_of_bind h with h | ⟨_, -, h⟩
    · exact (ih h).mono (List.suffix_append ['\\', e] cs').isInfix
    · cases h
  | case8 c cs _ _ _ ih =>
    rcases error_of_bind h with h | ⟨_, -, h⟩
    · exact (ih h).mono (List.suffix_cons c cs).isInfix
    · cases h

theorem overflowing_of_piece {c : Char} {cs : List Char}
    (h : piece c cs = .error .escapeOverflow) : Overflowing (c :: cs) := by
  unfold piece at h
  split at h
  · cases h
  split at h
  · cases h
  split at h
  · rcases error_of_bind h with h | ⟨_, -, h⟩
    · exact (overflowing_of_literalItems h).mono (List.drop_suffix _ _).isInfix
    · cases h
  split at h
  · split at h <;> cases h
  split at h
  · cases h
  split at h <;> cases h

/-- A fault is refused, unless it is an overflow. -/
theorem failure_eq_schema (path : Text) (p : Position) {fault : Fault}
    (h : fault ≠ .escapeOverflow) : ∃ e, fault.failure path p = .schema e := by
  cases fault with
  | escapeOverflow => exact absurd rfl h
  | _ => exact ⟨_, rfl⟩

theorem fails_of_scanFrom {path : Text} {p : Position} {lastLine : Option Nat} {cs : List Char}
    {e : Failure} (h : scanFrom path p lastLine cs = .error e) :
    (∃ cause, e = .schema cause) ∨ e = .escapeOverflow ∧ Overflowing cs := by
  fun_induction scanFrom path p lastLine cs with
  | case1 => cases h
  | case2 p lastLine c cs fault hpiece =>
    cases h
    by_cases hf : fault = .escapeOverflow
    · subst hf
      exact .inr ⟨rfl, overflowing_of_piece hpiece⟩
    · exact .inl (failure_eq_schema path p hf)
  | case3 p lastLine c cs piece hpiece ih =>
    rcases error_of_bind h with h | ⟨_, -, h⟩
    · have hsub := (List.drop_suffix (piece.spelling.length - 1) cs).trans (List.suffix_cons c cs)
      rcases ih h with hcause | ⟨he, hover⟩
      · exact .inl hcause
      · exact .inr ⟨he, hover.mono hsub.isInfix⟩
    · cases h

theorem dropByteOrderMark_suffix (cs : List Char) : dropByteOrderMark cs <:+ cs := by
  cases cs with
  | nil => exact List.suffix_rfl
  | cons c cs =>
    change (if c = byteOrderMark then cs else c :: cs) <:+ c :: cs
    split
    · exact List.suffix_cons c cs
    · exact List.suffix_rfl

end Lexer

/-- A source with an escape whose number is beyond 32 bits. -/
def Source.Overflowing (source : Source) : Prop :=
  ∃ cs, Lexer.characters [] source = .ok cs ∧ Lexer.Overflowing cs

/-- A text with a surrogate. -/
def Source.HoldsSurrogate : Source → Prop
  | .text t => t.toChars? = none
  | .bytes _ => False

instance : DecidablePred Source.HoldsSurrogate
  | .text t => inferInstanceAs (Decidable (t.toChars? = none))
  | .bytes _ => inferInstanceAs (Decidable False)

namespace Lexer

/-- The path of a source matters only to the failure of its bytes. -/
theorem characters_ok {path : Text} {source : Source} {cs : List Char}
    (h : characters path source = .ok cs) : characters [] source = .ok cs := by
  cases source with
  | text t => exact h
  | bytes bs =>
    unfold characters at h ⊢
    dsimp only at h ⊢
    split at h <;> cases h
    rfl

theorem fails_of_characters {path : Text} {source : Source} {e : Failure}
    (h : characters path source = .error e) :
    (∃ cause, e = .schema cause) ∨ e = .surrogateInSource ∧ source.HoldsSurrogate := by
  unfold characters at h
  split at h
  next t =>
    split at h <;> cases h
    next ht => exact .inr ⟨rfl, ht⟩
  next bs =>
    dsimp only at h
    split at h <;> cases h
    exact .inl ⟨_, rfl⟩

end Lexer

/-- How reading a source fails: the schema is refused, or the source holds an escape beyond 32 bits,
or a surrogate. -/
theorem Source.fails_of_parse {source : Source} {path : Text} {e : Failure}
    (h : source.parse path = .error e) :
    (∃ cause, e = .schema cause) ∨ e = .escapeOverflow ∧ source.Overflowing ∨
      e = .surrogateInSource ∧ source.HoldsSurrogate := by
  rcases Run.error_of_bind h with h | ⟨scanned, -, h⟩
  · rcases Run.error_of_bind h with h | ⟨cs, hcs, h⟩
    · exact (Lexer.fails_of_characters h).imp_right .inr
    · have hsub := (Lexer.dropByteOrderMark_suffix cs).isInfix
      refine (Lexer.fails_of_scanFrom h).imp_right fun ⟨he, hover⟩ => .inl ⟨he, cs, ?_⟩
      exact ⟨Lexer.characters_ok hcs, hover.mono hsub⟩
  · cases hfile : Surface.File.ofTokens path scanned with
    | ok file =>
      rw [hfile] at h
      cases h
    | error cause =>
      rw [hfile] at h
      cases h
      exact .inl ⟨cause, rfl⟩

end RelaxCompact
