import RelaxCompact.Settings.Json
import RelaxCompact.Settings.OfValue
import RelaxCompact.Settings.Toml

/-!
The settings file of a directory: `rnc.toml`, or else `.rncrc`, which is JSON. Without one the
settings are the defaults.
-/

namespace RelaxCompact.Settings

open RelaxCompact.Path (Parts)

def candidates : List Parts := [Parts.ofText "rnc.toml", Parts.ofText ".rncrc"]

/-- The first of the paths that leads to something. -/
def firstPresent? (tree : FileTree) : List Parts → Except Failure (Option Parts)
  | [] => return none
  | path :: rest => do
    if ← tree.contains path then
      return some path
    firstPresent? tree rest

/-- The settings file of a directory; a file named outright takes the place of all others. -/
def locate (tree : FileTree) (root : Parts) (explicit : Option Parts) :
    Except Failure (Option Parts) :=
  match explicit with
  | some path => firstPresent? tree [path]
  | none => firstPresent? tree (candidates.map fun name => root ++ name)

/-- The value that a settings file spells; the extension of its name tells the format. -/
def readValue (path : Parts) (content : List UInt8) : Except SettingsFault Value :=
  match Encoding.decodeUtf8? content with
  | none => .error .undecodable
  | some chars => if path.extension = ".toml" then Toml.read chars else Json.read chars

/-- The settings for a directory. -/
def load (tree : FileTree) (root : Parts) (explicit : Option Parts) : Except Failure Settings := do
  let root ← tree.resolve root
  match ← locate tree root explicit with
  | none => return {}
  | some path =>
    match tree.content path with
    | .error .isDirectory => throw (.settings .directory)
    | .error _ => throw .pathRefused
    | .ok content =>
      let data ← liftFault (readValue path content)
      return { ← ofValue tree root data with source := some path }

end RelaxCompact.Settings
