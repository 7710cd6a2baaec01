/-!
# Failures

Every operation of the fleet that fails says why. Only an endpoint that cannot
be reached is worth trying again.
-/

namespace BuildFleet

inductive Failure where
  | invalidTarget (message : String)
  | invalidPayload (message : String)
  | notFound (message : String)
  /-- Another worker holds a live lease. -/
  | conflict (message : String)
  /-- The caller no longer owns the lease. -/
  | rejected (message : String)
  | alreadyTerminal (message : String)
  | timeout (message : String)
  /-- All attempts are used up. -/
  | lost (message : String)
  | executionFailed (message : String)
  /-- The store, the queue or a front-end cannot be reached. -/
  | unavailable (message : String)
  | internal (message : String)
deriving DecidableEq, Repr, Inhabited

namespace Failure

/-- The text without its heading. -/
def message : Failure → String
  | invalidTarget message | invalidPayload message | notFound message | conflict message
  | rejected message | alreadyTerminal message | timeout message | lost message
  | executionFailed message | unavailable message | internal message => message

/-- The name of the kind of a failure. -/
def kind : Failure → String
  | invalidTarget _ => "InvalidTarget"
  | invalidPayload _ => "InvalidPayload"
  | notFound _ => "NotFound"
  | conflict _ => "Conflict"
  | rejected _ => "Rejected"
  | alreadyTerminal _ => "AlreadyTerminal"
  | timeout _ => "Timeout"
  | lost _ => "Lost"
  | executionFailed _ => "ExecutionFailed"
  | unavailable _ => "Unavailable"
  | internal _ => "Internal"

/-- All kinds of failures with one text. -/
def ofEveryKind (message : String) : List Failure :=
  [invalidTarget message, invalidPayload message, notFound message, conflict message,
    rejected message, alreadyTerminal message, timeout message, lost message,
    executionFailed message, unavailable message, internal message]

/-- The failure of a kind with a text. -/
def ofKind? (kind message : String) : Option Failure :=
  (ofEveryKind message).find? (·.kind == kind)

/-- What a failure is called in front of its text. -/
def heading : Failure → String
  | invalidTarget _ => "invalid target"
  | invalidPayload _ => "invalid payload"
  | notFound _ => "not found"
  | conflict _ => "conflict"
  | rejected _ => "rejected"
  | alreadyTerminal _ => "already terminal"
  | timeout _ => "timeout"
  | lost _ => "lost"
  | executionFailed _ => "execution failed"
  | unavailable _ => "unavailable"
  | internal _ => "internal error"

/-- The full text of a failure. -/
def text (failure : Failure) : String := failure.heading ++ ": " ++ failure.message

/-- Whether the same operation may succeed later. -/
def isTransient : Failure → Bool
  | unavailable _ => true
  | invalidTarget _ | invalidPayload _ | notFound _ | conflict _ | rejected _
  | alreadyTerminal _ | timeout _ | lost _ | executionFailed _ | internal _ => false

end Failure

/-- How an operation ends: with a value, with a failure, or because a time it
computes lies outside the calendar. -/
inductive Outcome (α : Type) where
  | done (value : α)
  | failed (failure : Failure)
  | outOfTime
deriving DecidableEq, Repr, Inhabited

namespace Outcome

def map (transform : α → β) : Outcome α → Outcome β
  | done value => done (transform value)
  | failed failure => failed failure
  | outOfTime => outOfTime

end Outcome

end BuildFleet
