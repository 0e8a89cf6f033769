import ScaleMetrics.Text.Quoted

/-!
# GatherError

Why a metric, or a whole run, has no result.  An error met inside an operation is kept, with the
operation as its context (`within`); the failure of a capability is known by its text (`fetch`).
-/

namespace ScaleMetrics

/-- An error of a metric or of a run. -/
inductive GatherError where
  /-- A metric specification has the wrong shape. -/
  | validation (reason : String)
  /-- A selector is malformed, or cannot be resolved. -/
  | selector (reason : String)
  /-- A capability failed. -/
  | fetch (context cause : String)
  /-- An operation failed because of another error. -/
  | within (context : String) (inner : GatherError)
  /-- The pod selector selects no pod. -/
  | noPods
  /-- A container does not request the resource. -/
  | missingRequest (resource : String)
  /-- A quantity cannot be read. -/
  | quantity (resource quantity reason : String)
  /-- A sum cannot be held. -/
  | overflow (what : String)
  /-- No specification of a run has a metric. -/
  | aggregate (invalid total : Nat) (first : GatherError)
  deriving Repr, DecidableEq

namespace GatherError

/-- The text of an error: the contexts from the outside in, then the cause. -/
def message : GatherError → String
  | .validation reason => reason
  | .selector reason => reason
  | .fetch context cause => context ++ ": " ++ cause
  | .within context inner => context ++ ": " ++ inner.message
  | .noPods => "no pods returned by selector while calculating replica count"
  | .missingRequest resource => "missing request for " ++ resource
  | .quantity resource text reason =>
    "invalid quantity " ++ Text.quoted text ++ " for " ++ resource ++ ": " ++ reason
  | .overflow what => what ++ " overflows a 64-bit milli value"
  | .aggregate invalid total first =>
    "invalid metrics (" ++ toString invalid ++ " invalid out of " ++ toString total ++
      "), first error is: " ++ first.message

end GatherError

end ScaleMetrics
