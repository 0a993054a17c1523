import RelaxCompact.Path.Parts

/-! Settings of a run. -/

namespace RelaxCompact

structure Settings where
  encoding : Text := "utf-8"
  prefetch : Bool := true
  maxWorkers : Int := 4
  includePaths : List Path.Parts := []
  /-- An override that suppresses no definition is an error. -/
  strictOverrides : Bool := true
  /-- The file that the settings come from. -/
  source : Option Path.Parts := none
  deriving DecidableEq, Repr

end RelaxCompact
