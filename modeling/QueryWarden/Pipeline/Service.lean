import QueryWarden.Mcp.Session
import QueryWarden.Pipeline.Scenario

/-! A pipeline in service: it handles one request after the other and keeps its cache between them. -/
namespace QueryWarden.Pipeline
open Clock

/-- A pipeline in service: its run, how many requests have begun, and the notes of all of them. -/
structure Service where
  run : Run
  requests : Nat
  notes : List Note

namespace Service

def start (life : Duration) : Service := ⟨.start life 0, 0, []⟩

def handleAll (rules : Rules) (c : Collaborators) (s : Service) (requests : List Request) :
    Service × List (Option Phase) :=
  let played := Scenario.play rules c s.run s.requests requests
  (⟨played.run, s.requests + requests.length, s.notes ++ played.notes⟩, played.ends)

def outcomeOf : Option Phase → Except String Outcome
  | some (.ended outcome) => .ok outcome
  | some (.broken message) => .error message
  | _ => .error "the request was not answered"

/-- One request whose caller waits. -/
def handle (rules : Rules) (c : Collaborators) (s : Service) (text : String) :
    Service × Except String Outcome :=
  let (s, ends) := s.handleAll rules c [⟨text, none⟩]
  (s, outcomeOf (ends.head?.getD none))

/-- The service behind the tools. -/
def backend (rules : Rules) (c : Collaborators) : Mcp.Backend Service where
  ask s text :=
    let (s, outcome) := s.handle rules c text
    (s, outcome.map Outcome.response)
  check _ sql := Guard.inspect rules.dialect sql

end Service
end QueryWarden.Pipeline
