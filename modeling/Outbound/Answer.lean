import Outbound.Failure

/-! # Judging answers

An answer is judged by its status: only the expected one counts as success. Too many requests and
server errors are told apart from other unexpected statuses, in the same way as retries tell them
apart.

* `Failure.ofStatus` is the failure of an unexpected status.
* `Answer.judge` is the payload of an answer with the expected status; `Answer.confirm` asks for
  the status alone. -/

namespace Outbound

/-- A decoded answer. -/
structure Answer (α : Type) where
  /-- The status. -/
  status : Status
  /-- The payload, if there is one. -/
  payload : Option α
  /-- The attempts made, if they ran out. -/
  attempts : Option Nat := none

/-- The failure of an answer with a status other than the expected one. -/
def Failure.ofStatus (operation : String) (expected actual : Status) (attempts : Option Nat) :
    Failure :=
  if actual = .tooManyRequests then .rateLimited operation attempts
  else if actual.isServerError then .server operation actual attempts
  else .unexpectedStatus operation expected actual

namespace Answer

/-- The payload of an answer with the expected status. -/
def judge {α : Type} (operation : String) (expected : Status) :
    Except Failure (Answer α) → Except Failure α
  | .error failure => .error (.within operation failure)
  | .ok answer =>
      if answer.status ≠ expected then
        .error (.ofStatus operation expected answer.status answer.attempts)
      else
        match answer.payload with
        | some payload => .ok payload
        | none => .error (.emptyResponse operation)

/-- Success for the expected status, whatever the payload. -/
def confirm (operation : String) (expected : Status) :
    Except Failure Status → Except Failure Unit
  | .error failure => .error (.within operation failure)
  | .ok status =>
      if status ≠ expected then .error (.ofStatus operation expected status none) else .ok ()

end Answer

end Outbound
