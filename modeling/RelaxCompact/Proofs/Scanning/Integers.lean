import Mathlib.Data.List.TakeWhile
import RelaxCompact.Proofs.Scanning.Numerals

/-!
Which texts are read as integers of base sixteen. Beyond the hexadecimal numerals these are texts
with blanks around them, a sign, a mark of the base, single underscores between the digits, and
decimal digits of any script.
-/

namespace RelaxCompact.Integer

/-- A digit of base sixteen: one of ASCII, or a decimal digit of another script. -/
def Digit (c : Char) (d : Nat) : Prop :=
  HexDigit c d ∨ 0x80 ≤ c.toNat ∧ decimalDigit? c = some d

/-- Digits with single underscores between them, and their values. -/
inductive Digits : List Char → List Nat → Prop
  | digit {c : Char} {d : Nat} : Digit c d → Digits [c] [d]
  | more {c : Char} {d : Nat} {cs : List Char} {ds : List Nat} :
    Digit c d → Digits cs ds → Digits (c :: cs) (d :: ds)
  | barred {c : Char} {d : Nat} {cs : List Char} {ds : List Nat} :
    Digit c d → Digits cs ds → Digits (c :: '_' :: cs) (d :: ds)

/-- The number whose digits follow those of another number, the most significant first. -/
def numeral (above : Nat) (ds : List Nat) : Nat := ds.foldl (fun n d => n * 16 + d) above

/-- The mark of base sixteen: a zero of any script and an x, which an underscore may follow. -/
inductive Mark : List Char → Prop
  | none : Mark []
  | zero {zero x : Char} : Digit zero 0 → x = 'x' ∨ x = 'X' → Mark [zero, x]
  | barred {zero x : Char} : Digit zero 0 → x = 'x' ∨ x = 'X' → Mark [zero, x, '_']

/-- A number with the sign in front of it. -/
inductive Signed (n : Nat) : List Char → Int → Prop
  | none : Signed n [] n
  | plus : Signed n ['+'] n
  | minus : Signed n ['-'] (-n)

def Padding (cs : List Char) : Prop := ∀ c ∈ cs, isPadding c = true

/-- A text denotes an integer in base sixteen. -/
def Denotes (cs : List Char) (i : Int) : Prop :=
  ∃ front sign mark digits back ds, cs = front ++ (sign ++ (mark ++ digits)) ++ back ∧
    Padding front ∧ Padding back ∧ Mark mark ∧ Digits digits ds ∧ Signed (numeral 0 ds) sign i

/-! Digits -/

/-- A digit of any script stands for one of ASCII. -/
theorem decimalDigit?_eq_some {c : Char} {d : Nat} (h : decimalDigit? c = some d) :
    d < 10 ∧ isBlank c = false := by
  unfold decimalDigit? Ranges.find? at h
  obtain ⟨range, hrange, rfl⟩ := Option.map_eq_some_iff.mp h
  refine ⟨Nat.mod_lt _ (by decide), ?_⟩
  have hmem := List.mem_of_find?_eq_some hrange
  have hin := List.find?_some hrange
  simp only [Bool.and_eq_true, decide_eq_true_eq] at hin
  have hapart : ∀ range ∈ decimalDigitRanges, ∀ blank ∈ blankRanges,
      range.2 < blank.1 ∨ blank.2 < range.1 := by
    decide +kernel
  unfold isBlank Ranges.contains
  refine List.any_eq_false.mpr fun blank hblank hc => ?_
  simp only [Bool.and_eq_true, decide_eq_true_eq] at hc
  have := hapart range hmem blank hblank
  omega

theorem hexDigit_ofNat {d : Nat} (h : d < 10) : HexDigit (Char.ofNat ('0'.toNat + d)) d := by
  have hdigits : ∀ d : Fin 10, HexDigit (Char.ofNat ('0'.toNat + d)) d := by
    unfold HexDigit
    decide
  exact hdigits ⟨d, h⟩

theorem plainDigit_of_lt {c : Char} (h : c.toNat < 0x80) : plainDigit c = c := if_pos h

/-- A digit stands for a hexadecimal one, and is no blank. -/
theorem Digit.facts {c : Char} {d : Nat} (h : Digit c d) :
    HexDigit (plainDigit c) d ∧ isPadding c = false := by
  obtain h | ⟨hc, h⟩ := h
  · obtain ⟨hpadding, hplain, -, -⟩ := h.facts
    rw [hplain]
    exact ⟨h, hpadding⟩
  · obtain ⟨hd, hblank⟩ := decimalDigit?_eq_some h
    unfold plainDigit isPadding
    rw [if_neg (Nat.not_lt.mpr hc), if_neg (Nat.not_lt.mpr hc), h]
    exact ⟨hexDigit_ofNat hd, hblank⟩

/-- What is read as it stands is a digit or a letter of ASCII. -/
theorem toNat_lt_of_digit? {c : Char} {d : Nat} (h : digit? 16 c = some d) : c.toNat < 0x80 := by
  have hbelow {high : Char} (hhigh : high.toNat < 0x80) (hle : c.val ≤ high.val) :
      c.toNat < 0x80 :=
    Nat.lt_of_le_of_lt (UInt32.le_iff_toNat_le.mp hle) hhigh
  unfold digit? digitValue? at h
  split at h
  next hdigit =>
    exact @hbelow '9' (by decide) (of_decide_eq_true (Bool.and_eq_true_iff.mp hdigit).2)
  · split at h
    next hlower =>
      exact @hbelow 'z' (by decide) (of_decide_eq_true (Bool.and_eq_true_iff.mp hlower).2)
    · split at h
      next hupper => exact @hbelow 'Z' (by decide) (of_decide_eq_true hupper).2
      · cases h

theorem hexDigit_of_digit? {c : Char} {d : Nat} (h : digit? 16 c = some d) : HexDigit c d := by
  have hascii : ∀ n : Fin 0x80, ∀ d ∈ digit? 16 (Char.ofNat n), HexDigit (Char.ofNat n) d := by
    unfold HexDigit
    decide +kernel
  have hdigit := hascii ⟨c.toNat, toNat_lt_of_digit? h⟩
  rw [Char.ofNat_toNat] at hdigit
  exact hdigit d h

/-- A digit is what is read as one. -/
theorem digit_iff {c : Char} {d : Nat} : Digit c d ↔ digit? 16 (plainDigit c) = some d := by
  constructor
  · intro h
    obtain ⟨-, -, hvalue, -⟩ := h.facts.1.facts
    exact hvalue
  · intro h
    have hhex := hexDigit_of_digit? h
    unfold plainDigit at hhex h
    split at hhex
    · exact .inl hhex
    next hc =>
      split at hhex
      next d' hd' =>
        obtain ⟨-, -, hvalue, -⟩ := (hexDigit_ofNat (decimalDigit?_eq_some hd').1).facts
        rw [if_neg hc, hd'] at h
        rw [Option.some.inj (hvalue.symm.trans h)] at hd'
        exact .inr ⟨Nat.le_of_not_lt hc, hd'⟩
      · exact .inl hhex

/-- What stands for a character that is no digit is that character. -/
theorem plainDigit_eq {c c' : Char} (hc' : c'.isDigit = false) (h : plainDigit c = c') :
    c = c' := by
  unfold plainDigit at h
  split at h
  · exact h
  · split at h
    next d hd =>
      have hdigits : ∀ d : Fin 10, (Char.ofNat ('0'.toNat + d)).isDigit = true := by decide
      rw [← h, hdigits ⟨d, (decimalDigit?_eq_some hd).1⟩] at hc'
      cases hc'
    · exact h

theorem Digit.plain_ne {c c' : Char} {d : Nat} (h : Digit c d)
    (hc' : c' ∈ ['_', '}', 'x', 'X', '+', '-']) : plainDigit c ≠ c' := by
  rintro rfl
  obtain ⟨-, -, -, hsign⟩ := h.facts.1.facts
  exact hsign hc'

theorem digits?_digit {c : Char} {d : Nat} (h : Digit c d) (value : Nat) (afterDigit : Bool)
    (rest : List Char) :
    digits? 16 value afterDigit (plainDigit c :: rest) = digits? 16 (value * 16 + d) true rest := by
  rw [digits?, if_neg (h.plain_ne (by decide)), digit_iff.mp h]

theorem digits?_bar (value : Nat) (cs : List Char) :
    digits? 16 value true ('_' :: cs) = digits? 16 value false cs := by
  rw [digits?, if_pos rfl, if_pos rfl]

theorem Digits.digits? {cs : List Char} {ds : List Nat} (h : Digits cs ds) (value : Nat)
    (afterDigit : Bool) :
    digits? 16 value afterDigit (cs.map plainDigit) = some (numeral value ds) := by
  induction h generalizing value afterDigit with
  | digit hc => exact digits?_digit hc value afterDigit []
  | more hc _ ih => exact (digits?_digit hc value afterDigit _).trans (ih _ _)
  | barred hc _ ih =>
    exact (digits?_digit hc value afterDigit _).trans ((digits?_bar _ _).trans (ih _ _))

/-- What is read are digits; behind a digit there may be none, or an underscore in front of them. -/
theorem exists_digits {cs : List Char} {value n : Nat} {afterDigit : Bool}
    (h : digits? 16 value afterDigit (cs.map plainDigit) = some n) :
    (∃ ds, Digits cs ds ∧ n = numeral value ds) ∨
      afterDigit = true ∧ (cs = [] ∧ n = value ∨
        ∃ cs' ds, cs = '_' :: cs' ∧ Digits cs' ds ∧ n = numeral value ds) := by
  induction cs generalizing value afterDigit with
  | nil =>
    rw [List.map_nil, digits?] at h
    split at h
    next hafter => exact .inr ⟨hafter, .inl ⟨rfl, (Option.some.inj h).symm⟩⟩
    · cases h
  | cons c cs ih =>
    rw [List.map_cons, digits?] at h
    split at h
    next hbar =>
      cases plainDigit_eq (by decide) hbar
      split at h
      next hafter =>
        obtain ⟨ds, hds, hn⟩ | ⟨hfalse, -⟩ := ih h
        · exact .inr ⟨hafter, .inr ⟨cs, ds, rfl, hds, hn⟩⟩
        · cases hfalse
      · cases h
    · split at h
      next d hd =>
        have hc := digit_iff.mpr hd
        obtain ⟨ds, hds, hn⟩ | ⟨-, ⟨rfl, hn⟩ | ⟨cs', ds, rfl, hds, hn⟩⟩ := ih h
        · exact .inl ⟨d :: ds, .more hc hds, hn⟩
        · exact .inl ⟨[d], .digit hc, hn⟩
        · exact .inl ⟨d :: ds, .barred hc hds, hn⟩
      · cases h

theorem digits?_iff {cs : List Char} {n : Nat} :
    digits? 16 0 false (cs.map plainDigit) = some n ↔ ∃ ds, Digits cs ds ∧ n = numeral 0 ds := by
  constructor
  · intro h
    obtain hds | ⟨hfalse, -⟩ := exists_digits h
    · exact hds
    · cases hfalse
  · rintro ⟨ds, hds, rfl⟩
    exact hds.digits? 0 false

theorem Digits.forall_mem {cs : List Char} {ds : List Nat} (h : Digits cs ds) :
    ∀ c ∈ cs, c = '_' ∨ ∃ d, Digit c d := by
  induction h with
  | digit hc => exact List.forall_mem_singleton.mpr (.inr ⟨_, hc⟩)
  | more hc _ ih => exact List.forall_mem_cons.mpr ⟨.inr ⟨_, hc⟩, ih⟩
  | barred hc _ ih =>
    exact List.forall_mem_cons.mpr ⟨.inr ⟨_, hc⟩, List.forall_mem_cons.mpr ⟨.inl rfl, ih⟩⟩

/-- The first of the digits is one. -/
theorem Digits.exists_cons {cs : List Char} {ds : List Nat} (h : Digits cs ds) :
    ∃ c d rest, cs = c :: rest ∧ Digit c d := by
  cases h with
  | digit hc => exact ⟨_, _, _, rfl, hc⟩
  | more hc => exact ⟨_, _, _, rfl, hc⟩
  | barred hc => exact ⟨_, _, _, rfl, hc⟩

theorem Digits.exists_concat {cs : List Char} {ds : List Nat} (h : Digits cs ds) :
    ∃ front c d, cs = front ++ [c] ∧ Digit c d := by
  induction h with
  | digit hc => exact ⟨[], _, _, rfl, hc⟩
  | @more c _ _ _ _ _ ih =>
    obtain ⟨front, last, d, rfl, hlast⟩ := ih
    exact ⟨c :: front, last, d, rfl, hlast⟩
  | @barred c _ _ _ _ _ ih =>
    obtain ⟨front, last, d, rfl, hlast⟩ := ih
    exact ⟨c :: '_' :: front, last, d, rfl, hlast⟩

/-! The mark of the base -/

theorem magnitude?_of_forall {cs : List Char} (h : ∀ c ∈ cs, ¬(c = 'x' ∨ c = 'X')) :
    magnitude? 16 cs = digits? 16 0 false cs := by
  unfold magnitude?
  split
  case h_1 x rest => rw [if_neg fun hx => h x (by simp) hx.2]
  case h_2 x rest _ => rw [if_neg fun hx => h x (by simp) hx.2]
  case h_3 => rfl

theorem magnitude?_mark {x : Char} (hx : x = 'x' ∨ x = 'X') {rest : List Char}
    (hrest : rest.head? ≠ some '_') :
    magnitude? 16 ('0' :: x :: rest) = digits? 16 0 false rest := by
  unfold magnitude?
  split
  case h_1 heq =>
    cases heq
    exact absurd rfl hrest
  case h_2 heq =>
    cases heq
    exact if_pos ⟨rfl, hx⟩
  case h_3 _ hne => exact absurd rfl (hne _ _)

theorem plain_zero {c : Char} (h : Digit c 0) : plainDigit c = '0' := by
  have hzero := h.facts.1
  rcases hzero with hzero | hzero <;> exact (Option.some.inj hzero).symm

theorem plain_mark {x : Char} (h : x = 'x' ∨ x = 'X') : plainDigit x = x := by
  rcases h with rfl | rfl <;> rfl

theorem magnitude?_of_mark {mark digits : List Char} {ds : List Nat} (hmark : Mark mark)
    (h : Digits digits ds) :
    magnitude? 16 ((mark ++ digits).map plainDigit) = some (numeral 0 ds) := by
  cases hmark with
  | none =>
    rw [List.nil_append, magnitude?_of_forall]
    · exact h.digits? 0 false
    · intro c hc
      obtain ⟨c, hmem, rfl⟩ := List.mem_map.mp hc
      rintro (hx | hx)
      all_goals
        rcases h.forall_mem c hmem with rfl | ⟨d, hd⟩
        · exact absurd hx (by decide)
        · exact hd.plain_ne (by decide) hx
  | @zero zero x hzero hx =>
    have hhead : (digits.map plainDigit).head? ≠ some '_' := by
      obtain ⟨c, d, rest, rfl, hc⟩ := h.exists_cons
      exact fun hbar => hc.plain_ne (by decide) (Option.some.inj hbar)
    simp only [List.cons_append, List.nil_append, List.map_cons, plain_zero hzero, plain_mark hx]
    rw [magnitude?_mark hx hhead]
    exact h.digits? 0 false
  | @barred zero x hzero hx =>
    simp only [List.cons_append, List.nil_append, List.map_cons, plain_zero hzero, plain_mark hx]
    change (if _ then _ else _) = _
    rw [if_pos ⟨rfl, hx⟩]
    exact h.digits? 0 false

theorem exists_mark {cs : List Char} {n : Nat} (h : magnitude? 16 (cs.map plainDigit) = some n) :
    ∃ mark digits ds, cs = mark ++ digits ∧ Mark mark ∧ Digits digits ds ∧ n = numeral 0 ds := by
  have hplain (hdigits : digits? 16 0 false (cs.map plainDigit) = some n) :
      ∃ mark digits ds, cs = mark ++ digits ∧ Mark mark ∧ Digits digits ds ∧ n = numeral 0 ds := by
    obtain ⟨ds, hds, hn⟩ := digits?_iff.mp hdigits
    exact ⟨[], cs, ds, rfl, .none, hds, hn⟩
  have hzero {c : Char} (hc : plainDigit c = '0') : Digit c 0 := digit_iff.mpr (by rw [hc]; rfl)
  have hx {x : Char} (hx : plainDigit x = 'x' ∨ plainDigit x = 'X') : x = 'x' ∨ x = 'X' :=
    hx.imp (plainDigit_eq (by decide)) (plainDigit_eq (by decide))
  unfold magnitude? at h
  split at h
  next x rest heq =>
    obtain ⟨zero, cs, rfl, hz, hbehind⟩ := List.map_eq_cons_iff.mp heq
    obtain ⟨x, cs, rfl, rfl, hrest⟩ := List.map_eq_cons_iff.mp hbehind
    obtain ⟨bar, cs, rfl, hbar, rfl⟩ := List.map_eq_cons_iff.mp hrest
    cases plainDigit_eq (by decide) hbar
    split at h
    next hmark =>
      obtain ⟨ds, hds, hn⟩ := digits?_iff.mp h
      exact ⟨[zero, x, '_'], cs, ds, rfl, .barred (hzero hz) (hx hmark.2), hds, hn⟩
    · exact hplain h
  next x rest _ heq =>
    obtain ⟨zero, cs, rfl, hz, hbehind⟩ := List.map_eq_cons_iff.mp heq
    obtain ⟨x, cs, rfl, rfl, rfl⟩ := List.map_eq_cons_iff.mp hbehind
    split at h
    next hmark =>
      obtain ⟨ds, hds, hn⟩ := digits?_iff.mp h
      exact ⟨[zero, x], cs, ds, rfl, .zero (hzero hz) (hx hmark.2), hds, hn⟩
    · exact hplain h
  · exact hplain h

theorem magnitude?_iff {cs : List Char} {n : Nat} :
    magnitude? 16 (cs.map plainDigit) = some n ↔
      ∃ mark digits ds, cs = mark ++ digits ∧ Mark mark ∧ Digits digits ds ∧ n = numeral 0 ds := by
  constructor
  · exact exists_mark
  · rintro ⟨mark, digits, ds, rfl, hmark, hds, rfl⟩
    exact magnitude?_of_mark hmark hds

/-! Signs and blanks -/

/-- A text with blanks around it, which has none at its ends. -/
theorem trim_padding {front core back : List Char} {first last : Char} {inner inner' : List Char}
    (hfront : Padding front) (hback : Padding back) (hfirst : core = first :: inner)
    (hlast : core = inner' ++ [last]) (hf : isPadding first = false)
    (hl : isPadding last = false) : trim (front ++ core ++ back) = core := by
  unfold trim
  have hreverse : ∀ c ∈ back.reverse, isPadding c = true :=
    fun c hc => hback c (List.mem_reverse.mp hc)
  rw [List.append_assoc, List.dropWhile_append_of_pos hfront, hfirst, List.cons_append,
    List.dropWhile_cons_of_neg (Bool.eq_false_iff.mp hf), ← List.cons_append, ← hfirst,
    List.reverse_append, List.dropWhile_append_of_pos hreverse, hlast, List.reverse_append,
    List.reverse_singleton, List.singleton_append,
    List.dropWhile_cons_of_neg (Bool.eq_false_iff.mp hl)]
  simp

theorem exists_padding (cs : List Char) :
    ∃ front back, cs = front ++ trim cs ++ back ∧ Padding front ∧ Padding back := by
  refine ⟨cs.takeWhile isPadding,
    ((cs.dropWhile isPadding).reverse.takeWhile isPadding).reverse, ?_,
    fun c hc => List.mem_takeWhile_imp hc,
    fun c hc => List.mem_takeWhile_imp (List.mem_reverse.mp hc)⟩
  unfold trim
  rw [List.append_assoc, ← List.reverse_append, List.takeWhile_append_dropWhile,
    List.reverse_reverse, List.takeWhile_append_dropWhile]

theorem Mark.exists_first {mark digits : List Char} {ds : List Nat} (hmark : Mark mark)
    (h : Digits digits ds) : ∃ c d rest, mark ++ digits = c :: rest ∧ Digit c d := by
  cases hmark with
  | none => exact h.exists_cons
  | zero hzero => exact ⟨_, 0, _, rfl, hzero⟩
  | barred hzero => exact ⟨_, 0, _, rfl, hzero⟩

theorem read?_of_denotes {cs : List Char} {i : Int} (h : Denotes cs i) : read? 16 cs = some i := by
  obtain ⟨front, sign, mark, digits, back, ds, rfl, hfront, hback, hmark, hds, hsign⟩ := h
  obtain ⟨c, d, rest, hfirst, hc⟩ := hmark.exists_first hds
  obtain ⟨inner, last, d', hconcat, hlast⟩ := hds.exists_concat
  have hmagnitude := magnitude?_of_mark hmark hds
  have htrim : trim (front ++ (sign ++ (mark ++ digits)) ++ back) = sign ++ (mark ++ digits) := by
    have hend : sign ++ (mark ++ digits) = sign ++ (mark ++ inner) ++ [last] := by
      rw [hconcat, List.append_assoc, List.append_assoc]
    cases hsign with
    | none => exact trim_padding hfront hback hfirst hend hc.facts.2 hlast.facts.2
    | plus => exact trim_padding hfront hback rfl hend (by decide) hlast.facts.2
    | minus => exact trim_padding hfront hback rfl hend (by decide) hlast.facts.2
  unfold read?
  rw [htrim]
  cases hsign with
  | none =>
    rw [List.nil_append]
    split
    next heq =>
      rw [hfirst, List.map_cons] at heq
      exact absurd (List.cons.inj heq).1 (hc.plain_ne (by decide))
    next heq =>
      rw [hfirst, List.map_cons] at heq
      exact absurd (List.cons.inj heq).1 (hc.plain_ne (by decide))
    · rw [hmagnitude]
      rfl
  | plus =>
    change (magnitude? 16 ((mark ++ digits).map plainDigit)).map _ = _
    rw [hmagnitude]
    rfl
  | minus =>
    change (magnitude? 16 ((mark ++ digits).map plainDigit)).map _ = _
    rw [hmagnitude]
    rfl

theorem denotes_of_read? {cs : List Char} {i : Int} (h : read? 16 cs = some i) : Denotes cs i := by
  obtain ⟨front, back, hcs, hfront, hback⟩ := exists_padding cs
  have hdenotes {sign mark digits : List Char} {ds : List Nat}
      (hsplit : trim cs = sign ++ (mark ++ digits)) (hmark : Mark mark) (hds : Digits digits ds)
      (hsign : Signed (numeral 0 ds) sign i) : Denotes cs i :=
    ⟨front, sign, mark, digits, back, ds, hsplit ▸ hcs, hfront, hback, hmark, hds, hsign⟩
  unfold read? at h
  split at h
  next rest heq =>
    obtain ⟨plus, rest, htrim, hplus, rfl⟩ := List.map_eq_cons_iff.mp heq
    cases plainDigit_eq (by decide) hplus
    obtain ⟨n, hn, rfl⟩ := Option.map_eq_some_iff.mp h
    obtain ⟨mark, digits, ds, rfl, hmark, hds, rfl⟩ := magnitude?_iff.mp hn
    exact hdenotes htrim hmark hds .plus
  next rest heq =>
    obtain ⟨minus, rest, htrim, hminus, rfl⟩ := List.map_eq_cons_iff.mp heq
    cases plainDigit_eq (by decide) hminus
    obtain ⟨n, hn, rfl⟩ := Option.map_eq_some_iff.mp h
    obtain ⟨mark, digits, ds, rfl, hmark, hds, rfl⟩ := magnitude?_iff.mp hn
    exact hdenotes htrim hmark hds .minus
  · obtain ⟨n, hn, rfl⟩ := Option.map_eq_some_iff.mp h
    obtain ⟨mark, digits, ds, htrim, hmark, hds, rfl⟩ := magnitude?_iff.mp hn
    exact hdenotes htrim hmark hds .none

/-- A text is read as the integer that it denotes. -/
theorem read?_iff {cs : List Char} {i : Int} : read? 16 cs = some i ↔ Denotes cs i :=
  ⟨denotes_of_read?, read?_of_denotes⟩

theorem Denotes.unique {cs : List Char} {i j : Int} (h : Denotes cs i) (h' : Denotes cs j) :
    i = j :=
  Option.some.inj ((read?_iff.mpr h).symm.trans (read?_iff.mpr h'))

/-- A hexadecimal numeral denotes its number. -/
theorem denotes_hexadecimal {cs : List Char} {n : Nat} (h : Hexadecimal cs n) : Denotes cs n :=
  read?_iff.mp h.read?

end RelaxCompact.Integer
