/-
  WorkloadIdentity.Log ──── **WHAT IS SAID ABOUT A RUN.**

  ✓ `LogRecord` — level, message and named fields
-/

namespace WorkloadIdentity

/-- How much a record matters. -/
inductive LogLevel where
  /-- Of use when looking for a fault. -/
  | debug
  /-- Of use to whoever runs the program. -/
  | info
  /-- Something went wrong. -/
  | warn
  deriving DecidableEq

/-- One record of the log. -/
structure LogRecord where
  /-- How much it matters. -/
  level : LogLevel
  /-- What happened. -/
  message : String
  /-- With what. -/
  fields : List (String × String)
  deriving DecidableEq

/-- A record for looking for faults. -/
def LogRecord.debug (message : String) (fields : List (String × String)) : LogRecord :=
  ⟨.debug, message, fields⟩

end WorkloadIdentity
