import ErrorReport.Transport.Error

/-!
# Transports that follow a script

A `Script` says how each call of a transport ends, so that clients and pools can be tried out without a
network.
-/

set_option autoImplicit false

namespace ErrorReport

/-- How the calls of a transport end. -/
structure Script where
  /-- How sending ends, over and over again; always well if nothing is listed. -/
  results : List Outcome := []
  /-- How closing ends. -/
  closeResult : Outcome := .done

/-- How the call of sending after so many others ends. -/
def Script.result (s : Script) (earlier : Nat) : Outcome :=
  (s.results[earlier % s.results.length]?).getD .done

end ErrorReport
