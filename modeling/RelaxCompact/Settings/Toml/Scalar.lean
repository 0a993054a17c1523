import RelaxCompact.Settings.Reader

/-!
Scalars of TOML: strings of four kinds, numbers, dates and times. Each function looks at the front
of the characters and returns what it found and the characters after it.
-/

namespace RelaxCompact.Toml

def isBlank (c : Char) : Bool := c = ' ' || c = '\t'

def isLayout (c : Char) : Bool := isBlank c || c = '\n'

/-- Control characters have no place in strings and comments; a tab has, and a line feed in strings
of several lines. -/
def isIllegal (multiline : Bool) (c : Char) : Bool :=
  (c.toNat < 0x20 || c.toNat = 0x7F) && c ≠ '\t' && !(multiline && c = '\n')

/-! ### Strings -/

/-- A string between single quotes, after the opening one. -/
def literal? : List Char → Option (List Char × List Char)
  | [] => none
  | c :: rest =>
    if c = '\'' then some ([], rest)
    else if isIllegal false c then none
    else (literal? rest).map fun (tail, rest) => (c :: tail, rest)

/-- A string between triple single quotes, after the opening ones. -/
def multilineLiteral? : List Char → Option (List Char × List Char)
  | [] => none
  | '\'' :: '\'' :: '\'' :: rest => some ([], rest)
  | c :: rest =>
    if isIllegal true c then none
    else (multilineLiteral? rest).map fun (tail, rest) => (c :: tail, rest)

/-- The character for the one after a backslash. -/
def escaped? (c : Char) : Option Char :=
  match c with
  | '\"' | '\\' => some c
  | 'b' => some '\x08'
  | 'f' => some '\x0c'
  | 'n' => some '\n'
  | 'r' => some '\r'
  | 't' => some '\t'
  | _ => none

/-- How many digits a character code has after `u` and `U`. -/
def codeLength? (c : Char) : Option Nat :=
  if c = 'u' then some 4 else if c = 'U' then some 8 else none

/-- The character with a code of so many hexadecimal digits. -/
def coded? (length : Nat) (cs : List Char) : Option Char := do
  let digits := cs.take length
  let n ← if digits.length = length then Numerals.hex? digits else none
  if n.isValidChar then some (Char.ofNat n) else none

/-- What follows a line end that a backslash hides, and the blanks after it. -/
def hiddenLineEnd? (cs : List Char) : Option (List Char) :=
  match cs.dropWhile isBlank with
  | '\n' :: rest => some (rest.dropWhile isLayout)
  | _ => none

theorem length_dropWhile_le (p : Char → Bool) (cs : List Char) :
    (cs.dropWhile p).length ≤ cs.length :=
  (List.dropWhile_sublist p).length_le

theorem length_of_hiddenLineEnd? {cs rest : List Char} (h : hiddenLineEnd? cs = some rest) :
    rest.length < cs.length := by
  unfold hiddenLineEnd? at h
  split at h
  · rename_i after heq
    have hdrop := length_dropWhile_le isBlank cs
    have hafter := length_dropWhile_le isLayout after
    simp only [Option.some.injEq] at h
    subst h
    rw [heq] at hdrop
    simp only [List.length_cons] at hdrop
    omega
  · simp at h

/-- What the characters after a backslash stand for, and the characters behind them. -/
def escape? (multiline : Bool) (cs : List Char) : Option (List Char × List Char) :=
  match if multiline then hiddenLineEnd? cs else none with
  | some rest => some ([], rest)
  | none =>
    match cs with
    | [] => none
    | c :: rest =>
      match codeLength? c with
      | some length => (coded? length rest).map fun c => ([c], rest.drop length)
      | none => (escaped? c).map fun c => ([c], rest)

theorem length_of_escape? {multiline : Bool} {cs added rest : List Char}
    (h : escape? multiline cs = some (added, rest)) : rest.length < cs.length := by
  unfold escape? at h
  split at h
  · rename_i after heq
    cases h
    split at heq
    · exact length_of_hiddenLineEnd? heq
    · simp at heq
  · split at h
    · simp at h
    · split at h <;> simp only [Option.map_eq_some_iff, Prod.mk.injEq] at h
      · obtain ⟨_, _, _, rfl⟩ := h
        simp only [List.length_drop, List.length_cons]
        omega
      · obtain ⟨_, _, _, rfl⟩ := h
        simp

/-- A string between double quotes, one or three, after the opening ones. -/
def basic? (multiline : Bool) : List Char → Option (List Char × List Char)
  | [] => none
  | c :: rest =>
    if c = '\"' then
      if !multiline then some ([], rest)
      else if rest.take 2 = ['\"', '\"'] then some ([], rest.drop 2)
      else (basic? multiline rest).map fun (tail, rest) => (c :: tail, rest)
    else if c = '\\' then
      match h : escape? multiline rest with
      | some (added, after) =>
        have := length_of_escape? h
        (basic? multiline after).map fun (tail, rest) => (added ++ tail, rest)
      | none => none
    else if isIllegal multiline c then none
    else (basic? multiline rest).map fun (tail, rest) => (c :: tail, rest)
termination_by cs => cs.length

/-- Up to two quotes more than the three that end a string belong to it. -/
def withExtraQuotes (quote : Char) : List Char × List Char → List Char × List Char
  | (content, q :: r :: rest) =>
    if q = quote then
      if r = quote then (content ++ [quote, quote], rest) else (content ++ [quote], r :: rest)
    else (content, q :: r :: rest)
  | (content, [q]) => if q = quote then (content ++ [quote], []) else (content, [q])
  | (content, []) => (content, [])

/-- A line end right after the opening quotes does not count. -/
def dropLineEnd : List Char → List Char
  | '\n' :: rest => rest
  | cs => cs

/-- A string of one line, as a key can be. -/
def lineString? : List Char → Option (List Char × List Char)
  | '\"' :: rest => basic? false rest
  | '\'' :: rest => literal? rest
  | _ => none

def string? : List Char → Option (List Char × List Char)
  | '\"' :: '\"' :: '\"' :: rest => (basic? true (dropLineEnd rest)).map (withExtraQuotes '\"')
  | '\'' :: '\'' :: '\'' :: rest =>
    (multilineLiteral? (dropLineEnd rest)).map (withExtraQuotes '\'')
  | cs => lineString? cs

/-! ### Numbers -/

/-- Digits that may have single underscores before them. -/
def moreDigits (isDigit : Char → Bool) : List Char → List Char × List Char
  | '_' :: c :: rest =>
    if isDigit c then
      let (digits, rest) := moreDigits isDigit rest
      (c :: digits, rest)
    else ([], '_' :: c :: rest)
  | c :: rest =>
    if isDigit c then
      let (digits, rest) := moreDigits isDigit rest
      (c :: digits, rest)
    else ([], c :: rest)
  | [] => ([], [])

/-- Digits with single underscores between them. -/
def digits? (isDigit : Char → Bool) : List Char → Option (List Char × List Char)
  | c :: rest =>
    if isDigit c then
      let (digits, rest) := moreDigits isDigit rest
      some (c :: digits, rest)
    else none
  | [] => none

/-- The base that a letter after a zero stands for. -/
def base? (c : Char) : Option Nat :=
  if c = 'x' then some 16 else if c = 'o' then some 8 else if c = 'b' then some 2 else none

def digitBelow (base : Nat) (c : Char) : Bool := (Numerals.hexValue? c).any (· < base)

/-- An integer in another base than ten. -/
def based? : List Char → Option (Nat × List Char)
  | '0' :: letter :: rest => do
    let base ← base? letter
    let (digits, rest) ← digits? (digitBelow base) rest
    return (digits.foldl (fun n c => n * base + (Numerals.hexValue? c).getD 0) 0, rest)
  | _ => none

/-- A sign, if there is one: the number is negative. -/
def sign : List Char → Bool × List Char
  | '+' :: rest => (false, rest)
  | '-' :: rest => (true, rest)
  | cs => (false, cs)

def whole? : List Char → Option (List Char × List Char)
  | '0' :: rest => some (['0'], rest)
  | cs => digits? Char.isDigit cs

/-- The digits after a point. -/
def fraction : List Char → List Char × List Char
  | '.' :: rest => (digits? Char.isDigit rest).getD ([], '.' :: rest)
  | cs => ([], cs)

def exponent : List Char → Option Int × List Char
  | c :: rest =>
    let (negative, unsigned) := sign rest
    match if c = 'e' ∨ c = 'E' then digits? Char.isDigit unsigned else none with
    | some (digits, rest) =>
      let n : Int := Numerals.value digits
      (some (if negative then -n else n), rest)
    | none => (none, c :: rest)
  | [] => (none, [])

def decimal? (cs : List Char) : Option (Value.Written × List Char) := do
  let (negative, cs) := sign cs
  let (whole, rest) ← whole? cs
  let (fraction, rest) := fraction rest
  let (exponent, rest) := exponent rest
  return (⟨negative, whole, fraction, exponent⟩, rest)

/-- An infinity or no number. -/
def special? (cs : List Char) : Option (Value × List Char) :=
  match sign cs with
  | (negative, 'i' :: 'n' :: 'f' :: rest) => some (.real (.infinite negative), rest)
  | (_, 'n' :: 'a' :: 'n' :: rest) => some (.real .nan, rest)
  | _ => none

/-! ### Dates and times -/

/-- A number of exactly so many digits, within bounds. -/
def field? (length low high : Nat) (cs : List Char) : Option (Nat × List Char) :=
  let digits := cs.take length
  let n := Numerals.value digits
  if digits.length = length ∧ digits.all Char.isDigit ∧ low ≤ n ∧ n ≤ high then
    some (n, cs.drop length)
  else none

def mark? (c : Char) : List Char → Option (List Char)
  | next :: rest => if next = c then some rest else none
  | [] => none

def date? (cs : List Char) : Option (Date × List Char) := do
  let (year, cs) ← field? 4 0 9999 cs
  let (month, cs) ← field? 2 1 12 (← mark? '-' cs)
  let (day, cs) ← field? 2 1 31 (← mark? '-' cs)
  return (⟨year, month, day⟩, cs)

/-- The digits of a second's fraction count to the sixth. -/
def microseconds (digits : List Char) : Nat :=
  Numerals.value ((digits ++ List.replicate 6 '0').take 6)

def time? (cs : List Char) : Option (TimeOfDay × List Char) := do
  let (hour, cs) ← field? 2 0 23 cs
  let (minute, cs) ← field? 2 0 59 (← mark? ':' cs)
  let (second, cs) ← field? 2 0 59 (← mark? ':' cs)
  let (digits, cs) := Numerals.afterPoint cs
  return (⟨hour, minute, second, microseconds digits⟩, cs)

/-- An offset from universal time in minutes. -/
def offset? (cs : List Char) : Option (Int × List Char) := do
  let (negative, unsigned) := sign cs
  if unsigned.length = cs.length then none
  let (hours, rest) ← field? 2 0 23 unsigned
  let (minutes, rest) ← field? 2 0 59 (← mark? ':' rest)
  let n : Int := hours * 60 + minutes
  return (if negative then -n else n, rest)

def zone : List Char → Option Int × List Char
  | c :: rest =>
    if c = 'Z' ∨ c = 'z' then (some 0, rest)
    else match offset? (c :: rest) with
      | some (minutes, rest) => (some minutes, rest)
      | none => (none, c :: rest)
  | [] => (none, [])

/-- The time of day behind a date. -/
def timeBehind? : List Char → Option (TimeOfDay × List Char)
  | c :: rest => if c = 'T' ∨ c = 't' ∨ c = ' ' then time? rest else none
  | [] => none

/-- A date with or without a time; the calendar need not have it. -/
def dateTime? (cs : List Char) : Option ((Date × Moment) × List Char) := do
  let (date, rest) ← date? cs
  match timeBehind? rest with
  | some (time, rest) =>
    let (offset, rest) := zone rest
    return ((date, .dateTime date time offset), rest)
  | none => return ((date, .date date), rest)

end RelaxCompact.Toml
