/-! Failures of a request or of a command: six kinds, each with a stable code and a wording. -/
namespace QueryWarden

/-- What went wrong; the text is the detail for whoever reads the log. -/
inductive Failure where
  /-- The input is invalid or lacks something. -/
  | invalidInput (detail : String)
  /-- The text generator failed. -/
  | generation (detail : String)
  /-- Running a query or reading the schema failed. -/
  | execution (detail : String)
  /-- The database could not be opened. -/
  | connection (detail : String)
  /-- A collaborator took longer than it may. -/
  | timeout (detail : String)
  /-- The configuration is unusable. -/
  | configuration (detail : String)
deriving Repr, DecidableEq

namespace Failure

def code : Failure → String
  | .invalidInput _ => "INVALID_INPUT"
  | .generation _ => "GENERATION_FAILED"
  | .execution _ => "EXECUTION_FAILED"
  | .connection _ => "CONNECTION_FAILED"
  | .timeout _ => "TIMEOUT"
  | .configuration _ => "CONFIG_ERROR"

def message : Failure → String
  | .invalidInput detail => "Invalid input: " ++ detail
  | .generation detail => "Generation failed: " ++ detail
  | .execution detail => "Execution failed: " ++ detail
  | .connection detail => "Connection failed: " ++ detail
  | .timeout detail => "Timed out: " ++ detail
  | .configuration detail => "Configuration error: " ++ detail

end Failure
end QueryWarden
