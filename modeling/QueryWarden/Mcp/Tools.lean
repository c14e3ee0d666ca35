import QueryWarden.Guard.Verdict
import QueryWarden.Mcp.Message
import QueryWarden.Response

/-! The two tools: `ask` answers a question, and `check` has the guard judge a text. -/
namespace QueryWarden.Mcp
open Wire

inductive Tool where
  | ask
  | check
deriving Repr, DecidableEq

namespace Tool

def all : List Tool := [.ask, .check]

def name : Tool → String
  | .ask => "ask"
  | .check => "check"

def ofName? (text : String) : Option Tool := all.find? (·.name == text)

def description : Tool → String
  | .ask => "Answer a question about the database in plain language. The question is translated to a single read-only SELECT, checked by an SQL guard, and executed only if it passes. Requests to change data are refused with a 'Safety Protocol Engaged' body."
  | .check => "Check whether a SQL statement would be allowed to run. Parses the statement and reports the verdict and the detected statement kind. Never executes anything."

def textSchema (title description field about : String) : Json :=
  .obj [("$schema", .str "http://json-schema.org/draft-07/schema#"),
    ("description", .str description),
    ("properties", .obj [(field, .obj [("description", .str about), ("type", .str "string")])]),
    ("required", .arr [.str field]),
    ("title", .str title),
    ("type", .str "object")]

def argumentSchema : Tool → Json
  | .ask => textSchema "AskRequest" "Incoming question" "text"
      "Natural-language question about the data"
  | .check => textSchema "CheckRequest" "Incoming guard-only check" "sql"
      "SQL text to validate (never executed)"

def toJson (t : Tool) : Json :=
  .obj [("description", .str t.description), ("inputSchema", t.argumentSchema),
    ("name", .str t.name)]

end Tool

inductive ToolCall where
  | ask (text : String)
  | check (sql : String)
deriving Repr, DecidableEq

def ToolCall.ofArguments (tool : Tool) (arguments : Json) : Except Json.Fault ToolCall :=
  match tool with
  | .ask => (askRequest.ofJson arguments).map fun (text, ()) => .ask text
  | .check => (checkRequest.ofJson arguments).map fun (sql, ()) => .check sql

def ToolCall.ofParams (params : Option Json) : Except String ToolCall :=
  match params with
  | none => .error "Missing params"
  | some params =>
    match (params.member? "name").bind Json.text? with
    | none => .error "Missing tool name"
    | some name =>
      match Tool.ofName? name with
      | none => .error ("Unknown tool: " ++ name)
      | some tool =>
        (ofArguments tool ((params.member? "arguments").getD .null)).mapError fun f =>
          "Invalid arguments for " ++ name ++ ": " ++ f.message

def toolResult (document : Json) (isError : Bool) : Json :=
  .obj [("content", .arr [.obj [("text", .str document.pretty), ("type", .str "text")]]),
    ("isError", .bool isError)]

def greeting : Json :=
  .obj [("capabilities", .obj [("tools", .obj [])]), ("protocolVersion", .str protocolVersion),
    ("serverInfo", .obj [("name", .str serverName), ("version", .str serverVersion)])]

def toolList : Json := .obj [("tools", .arr (Tool.all.map Tool.toJson))]

end QueryWarden.Mcp
