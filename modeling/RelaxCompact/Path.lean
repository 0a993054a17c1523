import RelaxCompact.Text

/-!
Paths with `/` between segments. A path has a normal form without empty segments, `.`, and `..`
behind a name; a root may be one slash or exactly two.
-/

namespace RelaxCompact.Path

def slash : CodePoint := .ofChar '/'

def dot : Text := "."

def dotDot : Text := ".."

/-- The segments between slashes; there is always one more than slashes. -/
def segments : Text → List Text
  | [] => [[]]
  | p :: rest =>
    if p = slash then [] :: segments rest
    else
      match segments rest with
      | first :: others => (p :: first) :: others
      | [] => [[p]]

def isAbsolute (path : Text) : Bool := path.head? = some slash

/-- The root of a path: two slashes stay two, any other number of them counts as one. -/
def root (path : Text) : Text :=
  match path.takeWhile (· = slash) with
  | [] => []
  | [_, _] => [slash, slash]
  | _ => [slash]

/-- Adds a segment to those kept so far, the last one first. Nothing is above a root. -/
def push (rooted : Bool) (kept : List Text) (segment : Text) : List Text :=
  if segment = [] ∨ segment = dot then kept
  else if segment = dotDot then
    match kept with
    | [] => if rooted then [] else [dotDot]
    | last :: before => if last = dotDot then dotDot :: kept else before
  else segment :: kept

/-- The segments that a path comes down to. -/
def reduce (rooted : Bool) (parts : List Text) : List Text :=
  (parts.foldl (push rooted) []).reverse

/-- The normal form of a path; that of an empty one is `.`. -/
def normalize (path : Text) : Text :=
  let parts := reduce (isAbsolute path) (segments path)
  match root path ++ Text.join [slash] parts with
  | [] => dot
  | normal => normal

/-- All up to the last slash, without the slashes at its end unless there is nothing else. -/
def directory (path : Text) : Text :=
  let head := (path.reverse.dropWhile (· ≠ slash)).reverse
  match head.reverse.dropWhile (· = slash) with
  | [] => head
  | name => name.reverse

/-- A path seen from a directory. -/
def join (directory path : Text) : Text :=
  if isAbsolute path then path
  else if directory.isEmpty ∨ directory.getLast? = some slash then directory ++ path
  else directory ++ [slash] ++ path

end RelaxCompact.Path
