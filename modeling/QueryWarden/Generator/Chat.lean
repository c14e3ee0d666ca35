import QueryWarden.Config.Settings
import QueryWarden.Generator.Candidate
import QueryWarden.Url.Basic

/-! The generator behind a chat server: one request holds the instructions and the question, and the
first choice of the answer holds the reply. -/
namespace QueryWarden.Generator
open Wire

/-! ### Instructions -/

def rules : String :=
"You are a Senior SQL Expert specializing in SQLite.
Your task is to convert the user's natural language question into a valid SQL query.

RULES:
1. Use ONLY the provided database schema.
2. Return ONLY the raw SQL query. Do not use Markdown blocks (```sql), do not add explanations.
3. The query must be a Read-Only SELECT statement.
4. If the user asks to MODIFY data (INSERT, UPDATE, DELETE, DROP, ALTER) or perform destructive actions, YOU MUST RETURN EXACTLY: '" ++ sentinel ++ "'.
5. Do NOT generate SQL if the intent is destructive.
6. If the request cannot be satisfied with the schema, return 'SELECT NULL'.
7. Always use 'SELECT DISTINCT' when retrieving lists of names or entities to avoid duplicates.
8. Use meaningful aliases for tables (e.g., 'p' for Products, 'o' for Orders) instead of T1, T2.
9. For string comparisons, prefer the LIKE operator to handle potential case sensitivity issues (e.g. WHERE Region LIKE 'Milano').

DB SCHEMA:
"

/-- The system message for a schema text. -/
def systemPrompt (schema : String) : String := rules ++ schema ++ "\n"

/-! ### Status codes -/

def phrases : List (Nat × String) := [
  (100, "Continue"), (101, "Switching Protocols"), (102, "Processing"), (200, "OK"),
  (201, "Created"), (202, "Accepted"), (203, "Non Authoritative Information"),
  (204, "No Content"), (205, "Reset Content"), (206, "Partial Content"), (207, "Multi-Status"),
  (208, "Already Reported"), (226, "IM Used"), (300, "Multiple Choices"),
  (301, "Moved Permanently"), (302, "Found"), (303, "See Other"), (304, "Not Modified"),
  (305, "Use Proxy"), (307, "Temporary Redirect"), (308, "Permanent Redirect"),
  (400, "Bad Request"), (401, "Unauthorized"), (402, "Payment Required"), (403, "Forbidden"),
  (404, "Not Found"), (405, "Method Not Allowed"), (406, "Not Acceptable"),
  (407, "Proxy Authentication Required"), (408, "Request Timeout"), (409, "Conflict"),
  (410, "Gone"), (411, "Length Required"), (412, "Precondition Failed"),
  (413, "Payload Too Large"), (414, "URI Too Long"), (415, "Unsupported Media Type"),
  (416, "Range Not Satisfiable"), (417, "Expectation Failed"), (418, "I'm a teapot"),
  (421, "Misdirected Request"), (422, "Unprocessable Entity"), (423, "Locked"),
  (424, "Failed Dependency"), (426, "Upgrade Required"), (428, "Precondition Required"),
  (429, "Too Many Requests"), (431, "Request Header Fields Too Large"),
  (451, "Unavailable For Legal Reasons"), (500, "Internal Server Error"),
  (501, "Not Implemented"), (502, "Bad Gateway"), (503, "Service Unavailable"),
  (504, "Gateway Timeout"), (505, "HTTP Version Not Supported"),
  (506, "Variant Also Negotiates"), (507, "Insufficient Storage"), (508, "Loop Detected"),
  (510, "Not Extended"), (511, "Network Authentication Required")]

def statusText (code : Nat) : String :=
  toString code ++ " " ++ (phrases.lookup code).getD "<unknown status code>"

def refusal? (code : Nat) : Option String :=
  if 400 ≤ code && code < 500 then some "HTTP status client error"
  else if 500 ≤ code && code < 600 then some "HTTP status server error"
  else none

def isBodiless (code : Nat) : Bool := code == 101 || code == 204 || code == 304

/-! ### Requests and answers -/

structure Chat where
  model : String
  endpoint : String
  key : Option String
deriving Repr, DecidableEq

structure Request where
  url : Url
  key : Option String
  body : Json

/-- What comes of a request: an answer, or nothing because the connection broke. -/
inductive Exchange where
  | answered (status : Nat) (body : List UInt8)
  | broken

namespace Chat

def ofSettings (ai : Config.AiSettings) (readVariable : String → Option String) : Except Failure Chat := do
  if Text.trim ai.modelId == "" then
    throw (.configuration "AI model_id is missing in configuration")
  if Text.trim ai.endpoint == "" then
    throw (.configuration "AI endpoint is missing in configuration")
  return ⟨ai.modelId, Text.dropTrailing '/' ai.endpoint, ← ai.resolveKey readVariable⟩

def address (c : Chat) : String := c.endpoint ++ "/chat/completions"

def message (role content : String) : Json :=
  .obj [("role", .str role), ("content", .str content)]

def body (c : Chat) (question schema : String) : Json :=
  .obj [("model", .str c.model),
    ("messages", .arr [message "system" (systemPrompt schema), message "user" question]),
    ("temperature", .real 0)]

def requestFailure (detail : String) : Failure :=
  .generation ("Chat completion request failed: " ++ detail)

def isHeaderText (s : String) : Bool :=
  s.toList.all fun c => (0x20 ≤ c.toNat && c.toNat != 0x7F) || c == '\t'

def request (c : Chat) (question schema : String) : Except Failure Request := do
  let url ← match Url.ofText c.address with
    | .ok url => pure url
    | .error f => throw (requestFailure ("builder error: " ++ f.message))
  let refused : Failure :=
    requestFailure ("builder error for url (" ++ url.text ++ "): URL scheme is not allowed")
  if url.host.isNone then throw refused
  unless (c.key.getD "") |> isHeaderText do
    throw (requestFailure "builder error: failed to parse header value")
  unless ["http", "https"].contains url.scheme do throw refused
  return ⟨url, c.key, c.body question schema⟩

def answer : Shape :=
  .record "ChatResponse" false <|
    .required "choices" (.list <| .record "ChatChoice" false <|
      .required "message" (.record "ChatReply" false <| .optional "content" .plainText .nil) .nil) .nil

def firstChoice : answer.Value → String
  | (choices, ()) =>
    match choices with
    | [] => ""
    | (reply, ()) :: _ =>
      match reply with
      | (content, ()) => content.getD ""

/-- The reply that an exchange gives. -/
def reply (r : Request) : Exchange → Except Failure String
  | .broken => .error (requestFailure ("error sending request for url (" ++ r.url.text ++ ")"))
  | .answered status body =>
    match refusal? status with
    | some lead => .error (.generation ("Chat completion rejected: " ++ lead ++ " (" ++
        statusText status ++ ") for url (" ++ r.url.text ++ ")"))
    | none =>
      match answer.ofDocument (.ofGlyphs (Text.Utf8.glyphs (if isBodiless status then [] else body))) with
      | .ok v => .ok (clean (Text.trim (firstChoice v)))
      | .error f => .error (.generation
          ("Malformed chat completion: error decoding response body: " ++ f.message))

end Chat

end QueryWarden.Generator
