import RelaxCompact.Text

/-!
Dates and times of day, as settings files can hold them, and their two written forms: the standard
one and the constructor call that makes the value.
-/

namespace RelaxCompact

structure Date where
  year : Nat
  month : Nat
  day : Nat
  deriving DecidableEq, Repr

structure TimeOfDay where
  hour : Nat
  minute : Nat
  second : Nat
  microsecond : Nat
  deriving DecidableEq, Repr

/-- A date, a time of day, or both; with both there may be an offset from universal time, in
minutes. -/
inductive Moment
  | date (date : Date)
  | time (time : TimeOfDay)
  | dateTime (date : Date) (time : TimeOfDay) (offset : Option Int)
  deriving DecidableEq, Repr

/-- Decimal digits, filled with zeros to a width. -/
def decimal (width n : Nat) : Text :=
  let digits := Nat.toDigits 10 n
  Text.ofChars (List.replicate (width - digits.length) '0' ++ digits)

namespace Date

def isLeap (year : Nat) : Bool := year % 4 = 0 && (year % 100 ≠ 0 || year % 400 = 0)

def daysIn (year month : Nat) : Nat :=
  if month = 2 then if isLeap year then 29 else 28
  else if month = 4 ∨ month = 6 ∨ month = 9 ∨ month = 11 then 30
  else 31

/-- The calendar has the date. There is no year zero. -/
def isValid (d : Date) : Bool :=
  1 ≤ d.year && 1 ≤ d.month && d.month ≤ 12 && 1 ≤ d.day && d.day ≤ daysIn d.year d.month

def text (d : Date) : Text :=
  decimal 4 d.year ++ "-" ++ decimal 2 d.month ++ "-" ++ decimal 2 d.day

def fields (d : Date) : List Nat := [d.year, d.month, d.day]

end Date

namespace TimeOfDay

/-- Microseconds are written where there are some. -/
def text (t : TimeOfDay) : Text :=
  let fraction : Text := if t.microsecond = 0 then [] else "." ++ decimal 6 t.microsecond
  decimal 2 t.hour ++ ":" ++ decimal 2 t.minute ++ ":" ++ decimal 2 t.second ++ fraction

/-- Hour and minute, and of seconds and microseconds what is needed. -/
def fields (t : TimeOfDay) : List Nat :=
  [t.hour, t.minute] ++
    if t.microsecond ≠ 0 then [t.second, t.microsecond] else if t.second ≠ 0 then [t.second] else []

end TimeOfDay

namespace Moment

def offsetText (minutes : Int) : Text :=
  (if minutes < 0 then "-" else "+" : Text) ++ decimal 2 (minutes.natAbs / 60) ++ ":" ++
    decimal 2 (minutes.natAbs % 60)

/-- The standard form, with a blank between date and time. -/
def text : Moment → Text
  | date d => d.text
  | time t => t.text
  | dateTime d t offset =>
    d.text ++ " " ++ t.text ++
      match offset with
      | some minutes => offsetText minutes
      | none => []

/-- A time zone as a call; seconds of an offset count from the whole day below it. -/
def zoneCall (minutes : Int) : Text :=
  if minutes = 0 then "datetime.timezone.utc"
  else
    let span : Text :=
      if minutes < 0 then "days=-1, seconds=" ++ Text.ofInt (86400 + minutes * 60)
      else "seconds=" ++ Text.ofInt (minutes * 60)
    "datetime.timezone(datetime.timedelta(" ++ span ++ "))"

def numbers (fields : List Nat) : Text := Text.join ", " (fields.map fun n : Nat => Text.ofInt n)

/-- The call that makes the value. -/
def call : Moment → Text
  | date d => "datetime.date(" ++ numbers d.fields ++ ")"
  | time t => "datetime.time(" ++ numbers t.fields ++ ")"
  | dateTime d t offset =>
    let zone : Text := match offset with
      | some minutes => ", tzinfo=" ++ zoneCall minutes
      | none => []
    "datetime.datetime(" ++ numbers (d.fields ++ t.fields) ++ zone ++ ")"

end Moment

end RelaxCompact
