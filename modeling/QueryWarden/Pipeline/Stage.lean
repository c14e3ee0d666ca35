import QueryWarden.Response

/-! The stages of one request and the steps between them, and its end. -/
namespace QueryWarden.Pipeline

inductive Stage where
  | start
  | schemaResolved
  | generated
  | validated
  | rejected
  | executed
  | executionFailed
  | completed
  | errored
deriving Repr, DecidableEq

namespace Stage

def isTerminal : Stage → Bool
  | .completed | .errored => true
  | _ => false

/-- Whether a request may go from one stage to the next. -/
def canAdvance : Stage → Stage → Bool
  | here, .errored => !here.isTerminal
  | .start, .schemaResolved => true
  | .schemaResolved, .generated => true
  | .generated, .validated => true
  | .generated, .rejected => true
  | .validated, .executed => true
  | .validated, .executionFailed => true
  | .executed, .completed => true
  | .executionFailed, .completed => true
  | .rejected, .completed => true
  | _, _ => false

def all : List Stage :=
  [.start, .schemaResolved, .generated, .validated, .rejected, .executed, .executionFailed,
    .completed, .errored]

def name : Stage → String
  | .start => "Start"
  | .schemaResolved => "SchemaResolved"
  | .generated => "Generated"
  | .validated => "Validated"
  | .rejected => "Rejected"
  | .executed => "Executed"
  | .executionFailed => "ExecutionFailed"
  | .completed => "Completed"
  | .errored => "Errored"

def ofName? (text : String) : Option Stage := all.find? (·.name == text)

end Stage

/-! How a request ends, and the response each end gives. -/

def securityAlertMessage : String := "Destructive intent detected by AI."

def blockedQuery : String := "N/A (blocked by AI)"

/-- The end of a request. -/
inductive Outcome where
  /-- The guard approved the candidate and it ran. -/
  | success (question candidate : String) (result : ResultSet)
  /-- The guard refused the candidate; it did not run. -/
  | rejected (question candidate reason : String) (kind : Option String)
  /-- The question was blank; nothing ran. -/
  | inputError (message : String)
  /-- The generator reported destructive intent; guard and executor never saw it. -/
  | securityAlert (message : String)
  /-- Schema, generator or executor failed; the details are not part of the outcome. -/
  | executionError

def Outcome.response : Outcome → Response
  | .success question candidate result => .answer question candidate result
  | .rejected _ candidate reason _ => .rejection reason candidate
  | .securityAlert message => .rejection message blockedQuery
  | .inputError message => .invalidInput message
  | .executionError => .internalError

end QueryWarden.Pipeline
