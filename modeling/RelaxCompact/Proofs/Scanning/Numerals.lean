import Mathlib.Tactic.Ring
import RelaxCompact.Token.Lexer

/-! Hexadecimal numerals, and that the lexer reads each of them in an escape as its number. -/

namespace RelaxCompact

/-- A digit of base sixteen, which may be a capital letter. -/
def HexDigit (c : Char) (d : Nat) : Prop :=
  ['0', '1', '2', '3', '4', '5', '6', '7', '8', '9', 'a', 'b', 'c', 'd', 'e', 'f'][d]? = some c ∨
    ['0', '1', '2', '3', '4', '5', '6', '7', '8', '9', 'A', 'B', 'C', 'D', 'E', 'F'][d]? = some c

/-- Digits of base sixteen, the most significant first, and the number that they denote. -/
inductive Hexadecimal : List Char → Nat → Prop
  | digit {c : Char} {d : Nat} : HexDigit c d → Hexadecimal [c] d
  | more {cs : List Char} {n : Nat} {c : Char} {d : Nat} :
    Hexadecimal cs n → HexDigit c d → Hexadecimal (cs ++ [c]) (n * 16 + d)

/-- A digit is read by its value, and is neither a blank nor a sign that an integer may hold. -/
theorem HexDigit.facts {c : Char} {d : Nat} (h : HexDigit c d) :
    Integer.isPadding c = false ∧ Integer.plainDigit c = c ∧ Integer.digit? 16 c = some d ∧
      c ∉ ['_', '}', 'x', 'X', '+', '-'] := by
  have hsmall : ∀ d : Fin 16,
      let c := ['0', '1', '2', '3', '4', '5', '6', '7', '8', '9', 'a', 'b', 'c', 'd', 'e', 'f'][d]
      Integer.isPadding c = false ∧ Integer.plainDigit c = c ∧ Integer.digit? 16 c = some d.val ∧
        c ∉ ['_', '}', 'x', 'X', '+', '-'] := by
    decide
  have hcapital : ∀ d : Fin 16,
      let c := ['0', '1', '2', '3', '4', '5', '6', '7', '8', '9', 'A', 'B', 'C', 'D', 'E', 'F'][d]
      Integer.isPadding c = false ∧ Integer.plainDigit c = c ∧ Integer.digit? 16 c = some d.val ∧
        c ∉ ['_', '}', 'x', 'X', '+', '-'] := by
    decide
  rcases h with h | h
  · obtain ⟨hlt, rfl⟩ := List.getElem?_eq_some_iff.mp h
    exact hsmall ⟨d, hlt⟩
  · obtain ⟨hlt, rfl⟩ := List.getElem?_eq_some_iff.mp h
    exact hcapital ⟨d, hlt⟩

namespace Hexadecimal

variable {cs : List Char} {n : Nat}

theorem forall_mem (h : Hexadecimal cs n) {P : Char → Prop}
    (hdigit : ∀ c d, HexDigit c d → P c) : ∀ c ∈ cs, P c := by
  induction h with
  | digit hc => exact List.forall_mem_singleton.mpr (hdigit _ _ hc)
  | more _ hc ih =>
    exact List.forall_mem_append.mpr ⟨ih, List.forall_mem_singleton.mpr (hdigit _ _ hc)⟩

theorem ne_nil (h : Hexadecimal cs n) : cs ≠ [] := by
  cases h with
  | digit => exact List.cons_ne_nil _ _
  | more => exact List.concat_ne_nil _ _

/-- The digits of a numeral are read on top of what was read before. -/
theorem digits?_append (h : Hexadecimal cs n) (value : Nat) (afterDigit : Bool) (rest : List Char) :
    Integer.digits? 16 value afterDigit (cs ++ rest) =
      Integer.digits? 16 (value * 16 ^ cs.length + n) true rest := by
  have step {c : Char} {d : Nat} (hc : HexDigit c d) (value : Nat) (afterDigit : Bool)
      (rest : List Char) : Integer.digits? 16 value afterDigit (c :: rest) =
        Integer.digits? 16 (value * 16 + d) true rest := by
    obtain ⟨-, -, hvalue, hsign⟩ := hc.facts
    have hbar : c ≠ '_' := fun he => hsign (he ▸ List.mem_cons_self)
    rw [Integer.digits?, if_neg hbar, hvalue]
  induction h generalizing value afterDigit rest with
  | digit hc => exact step hc value afterDigit rest
  | @more cs n c d _ hc ih =>
    rw [List.append_assoc, ih, List.singleton_append, step hc, List.length_append,
      List.length_singleton]
    congr 1
    ring

theorem digits? (h : Hexadecimal cs n) : Integer.digits? 16 0 false cs = some n := by
  have hdigits := h.digits?_append 0 false []
  rw [List.append_nil, Nat.zero_mul, Nat.zero_add] at hdigits
  exact hdigits

/-- Digits are no mark of their base. -/
theorem magnitude? (h : Hexadecimal cs n) : Integer.magnitude? 16 cs = some n := by
  have hmark : ∀ c ∈ cs, ¬(c = 'x' ∨ c = 'X') := h.forall_mem fun c d hc => by
    obtain ⟨-, -, -, hsign⟩ := hc.facts
    rintro (rfl | rfl) <;> exact hsign (by decide)
  unfold Integer.magnitude?
  split
  case h_1 x rest =>
    rw [if_neg fun hx => hmark x (by simp) hx.2]
    exact h.digits?
  case h_2 x rest _ =>
    rw [if_neg fun hx => hmark x (by simp) hx.2]
    exact h.digits?
  case h_3 => exact h.digits?

theorem dropWhile_of_forall {q : Char → Bool} (h : ∀ c ∈ cs, ¬ q c = true) :
    cs.dropWhile q = cs := by
  cases cs with
  | nil => rfl
  | cons c cs => exact List.dropWhile_cons_of_neg (h c List.mem_cons_self)

/-- A numeral is read as its number. -/
theorem read? (h : Hexadecimal cs n) : Integer.read? 16 cs = some (Int.ofNat n) := by
  have hpadding : ∀ c ∈ cs, ¬ Integer.isPadding c = true :=
    h.forall_mem fun c d hc => Bool.eq_false_iff.mp hc.facts.1
  have htrim : Integer.trim cs = cs := by
    have hreverse : ∀ c ∈ cs.reverse, ¬ Integer.isPadding c = true :=
      fun c hc => hpadding c (List.mem_reverse.mp hc)
    unfold Integer.trim
    rw [dropWhile_of_forall hpadding, dropWhile_of_forall hreverse, List.reverse_reverse]
  have hplain : cs.map Integer.plainDigit = cs :=
    (List.map_congr_left (h.forall_mem fun c d hc => hc.facts.2.1)).trans (List.map_id cs)
  have hsign : ∀ c ∈ cs, c ≠ '+' ∧ c ≠ '-' := h.forall_mem fun c d hc => by
    obtain ⟨-, -, -, hsign⟩ := hc.facts
    constructor <;> rintro rfl <;> exact hsign (by decide)
  unfold Integer.read?
  rw [htrim, hplain]
  split
  case h_1 => exact absurd rfl (hsign _ List.mem_cons_self).1
  case h_2 => exact absurd rfl (hsign _ List.mem_cons_self).2
  case h_3 =>
    rw [h.magnitude?]
    rfl

end Hexadecimal

namespace Lexer

theorem codedPoint_ok {digits : List Char} {n : Int} {p : CodePoint}
    (hn : Integer.read? 16 digits = some n) (hp : CodePoint.ofInt? n = some p) :
    codedPoint digits = .ok p := by
  unfold codedPoint
  rw [hn]
  simp only [hp]

theorem codedPoint_hexadecimal {digits : List Char} {p : CodePoint}
    (h : Hexadecimal digits p.val) : codedPoint digits = .ok p := by
  have hpoint : CodePoint.ofInt? (Int.ofNat p.val) = some p := by
    have hlt := p.isLt
    unfold CodePoint.ofInt?
    rw [dif_pos (by rw [Int.ofNat_eq_natCast]; omega)]
    rfl
  exact codedPoint_ok h.read? hpoint

theorem not_brace_of_hexadecimal {digits : List Char} {n : Nat} (h : Hexadecimal digits n) :
    '}' ∉ digits := by
  have hne : ∀ c ∈ digits, c ≠ '}' := h.forall_mem fun c d hc => by
    obtain ⟨-, -, -, hsign⟩ := hc.facts
    rintro rfl
    exact hsign (by decide)
  exact fun hmem => hne _ hmem rfl

end Lexer

end RelaxCompact
