import QueryWarden.ResultSet
import QueryWarden.Failure
import QueryWarden.Wire.Shape

/-! Requests and response bodies: an answer, a rejection, or an error that gives nothing away. Each
response has a class from which transports take their status. -/
namespace QueryWarden
open Wire

def askRequest : Shape := .record "AskRequest" false <| .required "text" .plainText .nil

def checkRequest : Shape := .record "CheckRequest" false <| .required "sql" .plainText .nil

inductive ResponseClass where
  | ok
  | badRequest
  | internalError
deriving Repr, DecidableEq

def ResponseClass.exitCode : ResponseClass → Nat
  | .ok => 0
  | .internalError => 1
  | .badRequest => 2

def ResponseClass.name : ResponseClass → String
  | .ok => "Ok"
  | .badRequest => "BadRequest"
  | .internalError => "InternalError"

def safetyLabel : String := "Safety Protocol Engaged"

def internalMessage : String := "An internal error occurred."

def rejectionBody : Shape :=
  .record "RejectionBody" false <|
    .required "error" .plainText <|
    .required "details" .plainText <|
    .required "queryAttempted" .plainText .nil

def errorInfo : Shape :=
  .record "ErrorInfo" false <| .required "code" .plainText <| .required "message" .plainText .nil

def errorEnvelope : Shape := .record "ErrorEnvelope" false <| .required "error" errorInfo .nil

inductive ResponseBody where
  | answer (question query : String) (data : ResultSet)
  | rejection (details query : String)
  | error (code message : String)

def ResponseBody.toJson : ResponseBody → Json
  | .answer question query data =>
    .obj [("question", .str question), ("generatedQuery", .str query), ("data", data.toJson)]
  | .rejection details query => rejectionBody.encode (safetyLabel, details, query, ())
  | .error code message => errorEnvelope.encode ((code, message, ()), ())

/-- A body and its class. -/
structure Response where
  responseClass : ResponseClass
  body : ResponseBody

namespace Response

def answer (question query : String) (data : ResultSet) : Response :=
  ⟨.ok, .answer question query data⟩

def rejection (details query : String) : Response := ⟨.badRequest, .rejection details query⟩

def invalidInput (message : String) : Response := ⟨.badRequest, .error "INVALID_INPUT" message⟩

def internalError : Response := ⟨.internalError, .error "INTERNAL_ERROR" internalMessage⟩

def isOk (r : Response) : Bool := r.responseClass == .ok

end Response
end QueryWarden
