import RelaxCompact.Decimal.Shortest
import RelaxCompact.Error
import RelaxCompact.Settings.Moment
import RelaxCompact.Text.Quoted

/-!
Values as settings files hold them, and what a setting of another kind makes of them: every value
counts as true or false and has a text, unless an integer in it is too long.
-/

namespace RelaxCompact

inductive Value
  | null
  | boolean (b : Bool)
  | integer (n : Int)
  | real (x : Binary64)
  | text (t : Text)
  | moment (m : Moment)
  | list (items : List Value)
  | table (entries : List (Text × Value))
  deriving Repr

namespace Value

instance : Inhabited Value := ⟨null⟩

/-- What is empty, zero or nothing counts as false. -/
def isTruthy : Value → Bool
  | null => false
  | boolean b => b
  | integer n => n ≠ 0
  | real x => !x.isZero
  | text t => !t.isEmpty
  | moment _ => true
  | list items => !items.isEmpty
  | table entries => !entries.isEmpty

/-- Numbers from a ten thousandth up to sixteen digits before the point have no exponent. -/
def realLayout : Decimal.Layout := ⟨-3, 16, 'e', 2⟩

/-- No decimal integer of more digits is read or written. -/
def longestInteger : Nat := 4300

/-- The text of an integer that is not too long. -/
def integerText (n : Int) : Except SettingsFault Text :=
  if (Nat.repr n.natAbs).length > longestInteger then .error .overlongInteger
  else .ok (Text.ofInt n)

mutual

/-- The text of a value inside another one: texts are quoted. -/
def inner : Value → Except SettingsFault Text
  | null => .ok "None"
  | boolean b => .ok (if b then "True" else "False")
  | integer n => integerText n
  | real x => .ok (x.text realLayout)
  | text t => .ok t.quoted
  | moment m => .ok m.call
  | list items => do return "[" ++ Text.join ", " (← innerItems items) ++ "]"
  | table entries => do return "\x7b" ++ Text.join ", " (← innerEntries entries) ++ "\x7d"

def innerItems : List Value → Except SettingsFault (List Text)
  | [] => .ok []
  | item :: items => do
    let first ← inner item
    return first :: (← innerItems items)

def innerEntries : List (Text × Value) → Except SettingsFault (List Text)
  | [] => .ok []
  | (key, value) :: entries => do
    let first ← inner value
    return (key.quoted ++ ": " ++ first) :: (← innerEntries entries)

end

/-- The text of a value; a text is its own. -/
def toText : Value → Except SettingsFault Text
  | text t => .ok t
  | moment m => .ok m.text
  | value => inner value

/-- The value of a key. -/
def get? (key : Text) : Value → Option Value
  | table entries => entries.lookup key
  | _ => none

end Value

end RelaxCompact
