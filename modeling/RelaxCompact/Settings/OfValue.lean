import RelaxCompact.FileTree
import RelaxCompact.Settings
import RelaxCompact.Settings.Reader
import RelaxCompact.Text.Integer

/-!
Settings from the value that a settings file spells: its table `loader`, each setting of which takes
values of other kinds too and has a default.
-/

namespace RelaxCompact

namespace Value

/-- The table of settings: an empty one if the value for it is missing or counts as false. -/
def section? (data : Value) : Except SettingsFault Value :=
  match data with
  | table _ =>
    match data.get? "loader" with
    | some (table entries) => .ok (table entries)
    | some other => if other.isTruthy then .error .notTable else .ok (table [])
    | none => .ok (table [])
  | _ => .error .notTable

/-- The values that one lists: a text is alone, a table lists its keys. -/
def listed (value : Value) : Except SettingsFault (List Value) :=
  if !value.isTruthy then .ok []
  else
    match value with
    | text t => .ok [text t]
    | list items => .ok items
    | table entries => .ok (entries.map fun (key, _) => text key)
    | _ => .error .notList

/-- A decimal digit of any script. -/
def isDigit (c : Char) : Bool := (Integer.digit? 10 (Integer.plainDigit c)).isSome

/-- The integer that a text of not too many decimal digits denotes. -/
def integerText? (t : Text) : Option Int := do
  let cs ← t.toChars?
  if cs.countP isDigit > longestInteger then none else Integer.read? 10 cs

/-- The integer that a value comes to; of a float the part before the point. -/
def toInteger : Value → Except SettingsFault Int
  | boolean b => .ok (if b then 1 else 0)
  | integer n => .ok n
  | real (.finite negative mantissa exponent) => .ok (Binary64.truncate negative mantissa exponent)
  | real (.infinite _) => .error .infiniteWorkers
  | real .nan => .error .notInteger
  | text t =>
    match integerText? t with
    | some n => .ok n
    | none => .error .notInteger
  | null | moment _ | list _ | table _ => .error .notNumber

end Value

namespace Settings

/-- At least one worker is needed. -/
def workers (value : Value) : Except SettingsFault Int := do
  let count ← value.toInteger
  if count < 1 then
    throw (.tooFewWorkers count)
  return count

def liftFault {α : Type} (result : Except SettingsFault α) : Except Failure α :=
  result.mapError .settings

/-- An include path; a relative one counts from the directory of the settings. -/
def includePath (tree : FileTree) (root : Path.Parts) (entry : Value) :
    Except Failure Path.Parts := do
  let path := Path.Parts.ofText (← liftFault entry.toText)
  if path.isAbsolute then return path else tree.resolve (root ++ path)

/-- The settings that a value spells, for the directory `root`. -/
def ofValue (tree : FileTree) (root : Path.Parts) (data : Value) : Except Failure Settings := do
  let given ← liftFault data.section?
  let defaults : Settings := {}
  let paths ← liftFault ((given.get? "include_paths").getD .null).listed
  let includePaths ← paths.mapM (includePath tree root)
  let maxWorkers ←
    liftFault (workers ((given.get? "max_workers").getD (.integer defaults.maxWorkers)))
  let encoding ← liftFault (((given.get? "encoding").filter Value.isTruthy).mapM Value.toText)
  return {
    encoding := encoding.getD defaults.encoding
    prefetch := ((given.get? "prefetch").map Value.isTruthy).getD defaults.prefetch
    maxWorkers
    includePaths
    strictOverrides :=
      ((given.get? "strict_overrides").map Value.isTruthy).getD defaults.strictOverrides }

end Settings

end RelaxCompact
