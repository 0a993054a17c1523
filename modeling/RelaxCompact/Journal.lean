import RelaxCompact.Text

/-! The journal: what a run reports about its progress. -/

namespace RelaxCompact

/-- The parts of a run that report. -/
inductive Reporter
  | fragments | assembly | resolution | loading
  deriving DecidableEq, Repr

inductive Severity
  | debug | info
  deriving DecidableEq, Repr

structure Record where
  reporter : Reporter
  severity : Severity
  message : Text
  deriving DecidableEq, Repr

abbrev Journal := List Record

end RelaxCompact
