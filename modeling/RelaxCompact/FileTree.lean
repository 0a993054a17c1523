import RelaxCompact.Catalog
import RelaxCompact.Path.Parts
import RelaxCompact.Text.Encoding

/-!
A tree of files in memory, and the catalog of the grammar sources in it. A directory is there if
something is in it or if it is the working directory.
-/

namespace RelaxCompact

open RelaxCompact.Path (Parts)

/-- What a name in a tree stands for. -/
inductive FileEntry
  | file (content : List UInt8)
  | directory
  deriving DecidableEq, Repr

/-- Why a path leads to no content. -/
inductive AccessFault
  | missing
  | notDirectory
  | isDirectory
  | nameTooLong
  deriving DecidableEq, Repr

def AccessFault.reason : AccessFault → Text
  | missing => "No such file or directory"
  | notDirectory => "Not a directory"
  | isDirectory => "Is a directory"
  | nameTooLong => "File name too long"

/-- Files by the names that lead to them from the root, and the names that lead to the working
directory. -/
structure FileTree where
  files : Table (List Text) (List UInt8) := {}
  workingDirectory : List Text := []

namespace FileTree

/-- A byte that is no text stands in a path as one of these surrogates. -/
def isByteSurrogate (p : CodePoint) : Bool := 0xDC80 ≤ p.val && p.val < 0xDD00

/-- How many bytes spell a code point in a path. -/
def byteWidth (p : CodePoint) : Nat :=
  if isByteSurrogate p || p.val < 0x80 then 1
  else if p.val < 0x800 then 2
  else if p.val < 0x10000 then 3
  else 4

/-- How many bytes spell a text in a path. -/
def byteLength (t : Text) : Nat := t.foldl (fun n p => n + byteWidth p) 0

/-- A surrogate that stands for no byte. -/
def hasSurrogate (t : Text) : Bool := t.any fun p => p.toChar?.isNone && !isByteSurrogate p

def hasNul (t : Text) : Bool := t.contains (CodePoint.ofChar '\x00')

/-- A text that names nothing in any file system is refused. -/
def checkName (t : Text) : Except Failure Unit :=
  if hasSurrogate t then .error .surrogateInName
  else if hasNul t then .error .nulInName
  else .ok ()

def longestName : Nat := 255

/-- Paths are shorter than this many bytes. -/
def pathLimit : Nat := 4096

def entry? (tree : FileTree) (names : List Text) : Option FileEntry :=
  match tree.files.get? names with
  | some content => some (.file content)
  | none =>
    if names.isPrefixOf tree.workingDirectory || tree.files.keys.any names.isPrefixOf then
      some .directory
    else none

/-- Goes on from a place along names. Only from a directory a way leads on. -/
def walk (tree : FileTree) (place : List Text) : List Text → Except AccessFault FileEntry
  | [] =>
    match tree.entry? place with
    | some entry => .ok entry
    | none => .error .missing
  | name :: rest =>
    match tree.entry? place with
    | none => .error .missing
    | some (.file _) => .error .notDirectory
    | some .directory =>
      if name = Path.dotDot then tree.walk place.dropLast rest
      else if byteLength name > longestName then .error .nameTooLong
      else tree.walk (place ++ [name]) rest

/-- What a path leads to. -/
def find (tree : FileTree) (path : Parts) : Except AccessFault FileEntry :=
  if byteLength path.text < pathLimit then
    tree.walk (if path.isAbsolute then [] else tree.workingDirectory) path.names
  else .error .nameTooLong

/-- What a path leads to, if it leads to something. -/
def find? (tree : FileTree) (path : Parts) : Except Failure (Option FileEntry) :=
  match checkName path.text with
  | .error _ => .ok none
  | .ok () =>
    match tree.find path with
    | .ok entry => .ok (some entry)
    | .error .nameTooLong => .error .pathRefused
    | .error _ => .ok none

def contains (tree : FileTree) (path : Parts) : Except Failure Bool :=
  (tree.find? path).map Option.isSome

def isFile (tree : FileTree) (path : Parts) : Except Failure Bool :=
  (tree.find? path).map fun entry =>
    match entry with
    | some (.file _) => true
    | _ => false

/-- The content of the file that a path leads to. -/
def content (tree : FileTree) (path : Parts) : Except AccessFault (List UInt8) :=
  match tree.find path with
  | .ok (.file content) => .ok content
  | .ok .directory => .error .isDirectory
  | .error fault => .error fault

/-- The names from the root down that a path comes to. -/
def resolve (tree : FileTree) (path : Parts) : Except Failure Parts := do
  path.names.forM checkName
  return ⟨[Path.slash], path.resolve tree.workingDirectory⟩

/-- The source that the content of a file spells in an encoding. -/
def decode (encoding key : Text) (content : List UInt8) : Except Failure Source := do
  if Encoding.isPlainUtf8 encoding then
    return .bytes content
  if encoding.any fun p => p.toChar?.isNone then
    throw .surrogateInName
  if hasNul encoding then
    throw .nulInName
  if content.isEmpty then
    return .text []
  match Encoding.named? encoding with
  | none => throw .unknownEncoding
  | some known =>
    match known.decode content with
    | .ok text => return .text text
    | .error .illFormed => throw (.schema (.unreadable (.undecodable key encoding)))
    | .error fault => throw (.decoding fault)

/-- The source in the file at a path. -/
def readSource (tree : FileTree) (encoding key : Text) : Except Failure Source := do
  let path := Parts.ofText key
  checkName path.text
  match tree.content path with
  | .ok content => decode encoding key content
  | .error fault => throw (.schema (.unreadable (.unreadable key fault.reason)))

/-- The first of the paths that leads to a file. -/
def firstFile? (tree : FileTree) : List Parts → Except Failure (Option Parts)
  | [] => return none
  | path :: rest => do
    if ← tree.isFile path then
      return some path
    else tree.firstFile? rest

/-- The directory of the file that an href stands in. -/
def baseDirectory (tree : FileTree) (base : Text) : Parts :=
  if base.isEmpty ∨ base.head? = some (.ofChar '<') then ⟨[Path.slash], tree.workingDirectory⟩
  else (Parts.ofText base).parent

/-- The key for an href in a file: it is looked for beside the file and then in the include paths.
If it is in none of them, it counts as beside the file. -/
def canonicalize (tree : FileTree) (includePaths : List Parts) (href base : Text) :
    Except Failure Text := do
  let target := Parts.ofText href
  let beside := tree.baseDirectory base ++ target
  let found ←
    if target.isAbsolute then pure none
    else tree.firstFile? (beside :: includePaths.map fun directory => directory ++ target)
  return (← tree.resolve (found.getD beside)).text

/-- The grammar sources in a tree. -/
def catalog (tree : FileTree) (includePaths : List Parts) (encoding : Text) : Catalog where
  canonicalize := tree.canonicalize includePaths
  read := tree.readSource encoding
  size := tree.files.size

end FileTree

end RelaxCompact
