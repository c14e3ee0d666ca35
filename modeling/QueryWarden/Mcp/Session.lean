import QueryWarden.Mcp.Tools
import QueryWarden.Text.Blank
import QueryWarden.Text.Utf8

/-! A session: the lines of the input are answered one by one, in order. Blank lines are passed over, a
line that is no request gets an error, and a line that is no text ends the session. -/
namespace QueryWarden.Mcp

/-- What stands behind the tools: how a question is answered and how a text is judged. Either may
crash, with a message. -/
structure Backend (σ : Type) where
  ask : σ → String → σ × Except String Response
  check : σ → String → Except String Guard.Verdict

inductive Ending where
  /-- The input is at its end. -/
  | finished
  /-- A line of the input is no text. -/
  | unreadable (message : String)
  /-- A request crashed. -/
  | crashed (message : String)
deriving Repr, DecidableEq

/-- What a session has come to: the backend's state, the lines written, and how it ended. -/
structure Transcript (σ : Type) where
  state : σ
  lines : List String
  ending : Ending

section
variable {σ : Type}

def callTool (b : Backend σ) (s : σ) (params : Option Json) : σ × Except String Reply :=
  match ToolCall.ofParams params with
  | .error message => (s, .ok (.error internalErrorCode message))
  | .ok (.ask text) =>
    let (s, r) := b.ask s text
    (s, r.map fun r => .result (toolResult r.body.toJson (!r.isOk)))
  | .ok (.check sql) => (s, (b.check s sql).map fun v => .result (toolResult v.toJson false))

def meet (b : Backend σ) (s : σ) (r : Request) : σ × Except String Reply :=
  if r.method = "initialize" then (s, .ok (.result greeting))
  else if r.method = "notifications/initialized" then (s, .ok (.result .null))
  else if r.method = "tools/list" then (s, .ok (.result toolList))
  else if r.method = "tools/call" then callTool b s r.params
  else (s, .ok (.error internalErrorCode ("Unknown method: " ++ r.method)))

/-- Answers a line: what is written for it, if anything. -/
def answerLine (b : Backend σ) (s : σ) (line : String) : σ × Except String (Option String) :=
  if Text.trim line = "" then (s, .ok none)
  else
    let written (identity : Option Json) (reply : Reply) : Option String :=
      if reply.isSent identity then some (reply.toJson identity).compact else none
    match Request.ofLine line with
    | .error f => (s, .ok (written none (.error parseErrorCode ("Parse error: " ++ f.message))))
    | .ok r =>
      let (s, reply) := meet b s r
      (s, reply.map (written r.identity))

def rawLines : List UInt8 → List (List UInt8)
  | [] => []
  | c :: rest =>
    if c = 10 then [10] :: rawLines rest
    else
      match rawLines rest with
      | [] => [[c]]
      | line :: lines => (c :: line) :: lines

def withoutLineEnd (line : List Char) : List Char :=
  match line.reverse with
  | '\n' :: '\r' :: rest => rest.reverse
  | '\n' :: rest => rest.reverse
  | _ => line

def serveLines (b : Backend σ) (s : σ) : List (List UInt8) → Transcript σ
  | [] => ⟨s, [], .finished⟩
  | line :: rest =>
    match Text.Utf8.decode line with
    | .error (index, f) => ⟨s, [], .unreadable (f.message index)⟩
    | .ok chars =>
      match answerLine b s (String.ofList (withoutLineEnd chars)) with
      | (s, .error message) => ⟨s, [], .crashed message⟩
      | (s, .ok written) =>
        let later := serveLines b s rest
        { later with lines := written.toList ++ later.lines }

/-- A whole session over an input. -/
def serve (b : Backend σ) (s : σ) (input : List UInt8) : Transcript σ :=
  serveLines b s (rawLines input)

end
end QueryWarden.Mcp
