import QueryWarden.Json.Printer
import QueryWarden.Wire.Shape

/-! Messages of the Model Context Protocol: JSON-RPC 2.0, one message a line. -/
namespace QueryWarden.Mcp
open Wire

def protocolVersion : String := "2024-11-05"

def serverName : String := "sqlsentry"

def serverVersion : String := "0.1.0"

abbrev requestShape : Shape :=
  .record "JsonRpcRequest" false <|
    .required "jsonrpc" .plainText <|
    .optional "id" .any <|
    .required "method" .plainText <|
    .optional "params" .any .nil

/-- A request; one without an identity is a notification. -/
structure Request where
  identity : Option Json
  method : String
  params : Option Json

def Request.ofLine (line : String) : Except Json.Fault Request :=
  (requestShape.ofText line).map fun (_, identity, method, params, ()) => ⟨identity, method, params⟩

inductive Reply where
  | result (value : Json)
  | error (code : Int) (message : String)

def parseErrorCode : Int := -32700

def internalErrorCode : Int := -32603

def Reply.toJson (identity : Option Json) (reply : Reply) : Json :=
  .obj (("jsonrpc", .str "2.0") :: ("id", identity.getD .null) ::
    match reply with
    | .result value => [("result", value)]
    | .error code message =>
      [("error", .obj [("code", .int code), ("message", .str message)])])

/-- Whether a reply is sent: all are, save results of notifications. -/
def Reply.isSent (identity : Option Json) : Reply → Bool
  | .result _ => identity.isSome
  | .error _ _ => true

end QueryWarden.Mcp
