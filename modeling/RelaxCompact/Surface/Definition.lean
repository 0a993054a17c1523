import RelaxCompact.Text

/-! What a definition is headed by: its name and its assignment operator. -/

namespace RelaxCompact

/-- The name of a definition; the start pattern is apart from a definition called `start`. -/
inductive DefineName
  | start
  | named (name : String)
  deriving DecidableEq, Repr

/-- The name as it is written in a source. -/
def DefineName.display : DefineName → String
  | start => "start"
  | named name => name

/-- The operators `=`, `|=` and `&=` of a definition. -/
inductive Assignment
  | single | choice | interleave
  deriving DecidableEq, Repr

def Assignment.spelling : Assignment → String
  | single => "="
  | choice => "|="
  | interleave => "&="

end RelaxCompact
