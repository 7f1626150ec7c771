/-!
# Diagnostics

The log of what happened to requests, of which the newest `DIAGNOSTIC_HISTORY` entries are kept.
-/

set_option autoImplicit false

namespace SpanDashboard

/-- How much an entry matters: a `DiagnosticLevel`. -/
inductive DiagnosticLevel where
  | debug | note | failure
  deriving DecidableEq, Repr

/-- An entry of the log. -/
structure Diagnostic where
  level : DiagnosticLevel
  message : String
  deriving DecidableEq, Repr

namespace Diagnostic

/-- `DIAGNOSTIC_HISTORY`: how many entries are kept. -/
def historyLimit : Nat :=
  64

/-- The newest entries of a log, oldest first. -/
def newest (log : List Diagnostic) : List Diagnostic :=
  log.drop (log.length - historyLimit)

/-- The kept entries after one more: `record` puts it at the end and drops entries at the front
while there are too many. -/
def record (kept : List Diagnostic) (entry : Diagnostic) : List Diagnostic :=
  newest (kept ++ [entry])

theorem newest_eq (log : List Diagnostic) : newest log = log.drop (log.length - 64) := rfl

theorem record_eq (kept : List Diagnostic) (entry : Diagnostic) :
    record kept entry = (kept ++ [entry]).drop (kept.length + 1 - 64) := by
  rw [record, newest_eq, List.length_append, List.length_singleton]

/-- Entries that have been dropped make no difference to what is kept later. -/
theorem record_newest (log : List Diagnostic) (entry : Diagnostic) :
    record (newest log) entry = newest (log ++ [entry]) := by
  simp only [record, newest, List.length_append, List.length_drop, List.length_cons,
    List.length_nil]
  generalize historyLimit = limit
  rw [← List.drop_append_of_le_length (by omega), List.drop_drop]
  congr 1
  omega

end Diagnostic

end SpanDashboard
