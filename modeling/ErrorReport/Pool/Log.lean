import ErrorReport.Event
import ErrorReport.Log
import ErrorReport.Pool

/-!
# What a pool writes to the log

Workers write about single events, callers about events refused and workers that did not finish.
-/

set_option autoImplicit false

namespace ErrorReport.PoolEffect

/-- What a worker writes. -/
def workerRecord? : PoolEffect Event → Option LogRecord
  | .delivered event (.failed error) =>
    some ⟨.warn, "failed to send event " ++ event.id.simple ++ ": " ++ error.message⟩
  | .discarded event =>
    some ⟨.debug, "discarding event " ++ event.id.simple ++ " after shutdown timeout"⟩
  | _ => none

/-- What a caller of sending or closing writes. -/
def callerRecord? (config : PoolConfig) : PoolEffect Event → Option LogRecord
  | .warnedOfDrops reason count =>
    some ⟨.warn, "async transport " ++ reason.words ++ "; dropped " ++ toString count ++ " events"⟩
  | .warnedOfBusy workers =>
    some ⟨.warn, toString workers ++ " async transport workers still busy after "
      ++ Text.durationText config.shutdownTimeout ++ "; pending events are discarded"⟩
  | .warnedAtEnd count =>
    some ⟨.warn, "async transport dropped " ++ toString count ++ " events before closing"⟩
  | _ => none

end ErrorReport.PoolEffect
