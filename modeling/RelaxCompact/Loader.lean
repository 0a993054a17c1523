import RelaxCompact.Assembly
import RelaxCompact.Resolution
import RelaxCompact.Settings.File

/-! Loading: from a path or a text to a schema. -/

namespace RelaxCompact

namespace Loader

/-- Assembles a root file, after prefetching if the settings ask for it. -/
def assembleRoot (catalog : Catalog) (settings : Settings) (root : Surface.File) (key : Text) :
    Fetch Assembled := do
  if settings.prefetch then
    let count ← Fragments.prefetch catalog (rootKey root (some key)) root settings.maxWorkers
    Fragments.report .loading .debug ("Prefetched " ++ Text.ofInt count ++ " fragments for " ++ key)
  assemble ⟨catalog, settings.strictOverrides⟩ root (some key)

/-- Assembles the grammar whose root is at a path. -/
def loadGrammar (catalog : Catalog) (settings : Settings) (path : Text) : Fetch Assembled := do
  let key ← liftExcept (catalog.canonicalize path [])
  let root ← Fragments.fetch catalog key
  assembleRoot catalog settings root key

/-- Resolves an assembled grammar and notes the size of the schema. -/
def resolve (a : Assembled) : Fetch Schema := do
  let schema ← liftExcept a.resolve
  let message : Text := "Resolved schema " ++ a.path ++ ": " ++ Text.ofInt schema.defines.size ++
    " definitions, " ++ Text.ofInt schema.nodes.size ++ " patterns"
  Fragments.report .resolution .info message
  return schema

/-- The schema whose root is at a path. -/
def loadSchema (catalog : Catalog) (settings : Settings) (path : Text) : Fetch Schema := do
  resolve (← loadGrammar catalog settings path)

/-- The schema whose root is a file in a tree, read with the settings of its directory. -/
def loadFile (tree : FileTree) (path : Text) : Fetch Schema := do
  let settings ← liftExcept (Settings.load tree (Path.Parts.ofText path).parent none)
  loadSchema (tree.catalog settings.includePaths settings.encoding) settings path

/-- The key of a root that is given as text: a name in angle brackets is no path. -/
def textKey (catalog : Catalog) (path : Text) : Except Failure Text :=
  if path.head? = some (.ofChar '<') then .ok path else catalog.canonicalize path []

/-- The schema whose root is given as text. -/
def parseSchema (catalog : Catalog) (settings : Settings) (source : Source) (path : Text) :
    Fetch Schema := do
  let key ← liftExcept (textKey catalog path)
  let root ← liftExcept (source.parse path)
  resolve (← assembleRoot catalog settings root key)

/-- The schema that a single text spells, without settings. -/
def resolveText (catalog : Catalog) (source : Source) (path : Text) : Fetch Schema := do
  let root ← liftExcept (source.parse path)
  resolve (← assemble ⟨catalog, true⟩ root none)

end Loader

end RelaxCompact
