import QueryWarden.Pipeline.Run

/-! Scenarios: requests that share one thread and one pipeline, with collaborators of which it is known
what they answer and when. Their run is one of the runs of the pipeline; the schedule decides which
event comes next. -/
namespace QueryWarden.Pipeline
open Clock

structure Request where
  text : String
  patience : Option Duration

/-- A scenario under way: the rules and the collaborators, the run and its notes, when the requests
began, the name of the first, and the requests. -/
structure Scenario where
  rules : Rules
  collaborators : Collaborators
  run : Run
  notes : List Note
  origin : Moment
  first : TaskId
  texts : List Request

namespace Scenario

def cancelled? (s : Scenario) (request : Request) : Option Moment :=
  request.patience.map (s.origin + ·)

def awaited? (s : Scenario) (task : TaskId) : Option (Option Moment × Event × Moment) :=
  match s.run.requests task with
  | some (.resolving _ (.fetching number since)) =>
    let answer := s.collaborators.introspect number
    some (answer.due? since, .introspected task answer.answer, since + s.rules.limits.execution)
  | some (.generating question schema since) =>
    let answer := s.collaborators.generate question schema
    some (answer.due? since, .generated task answer.answer, since + s.rules.limits.generation)
  | some (.executing _ candidate since) =>
    let answer := s.collaborators.execute candidate
    some (answer.due? since, .executed task answer.answer, since + s.rules.limits.execution)
  | _ => none

/-- The event that happens next to a request at a moment. An answer that is there counts before the
limit, and both before its caller's patience. -/
def next? (s : Scenario) (now : Moment) (task : TaskId) (request : Request) : Option Event :=
  let giveUp := if hasCome now (s.cancelled? request) then some (Event.cancel task) else none
  match s.run.requests task with
  | none => some (.ask task request.text)
  | some (.resolving _ .waiting) =>
    if s.run.cache.holder = some task then some (.resume task) else giveUp
  | some (.resolving _ (.storing _)) => some (.store task)
  | some _ =>
    match s.awaited? task with
    | none => none
    | some (due, answered, limit) =>
      if hasCome now due then some answered
      else if limit ≤ now then some (.expire task)
      else giveUp

def alarms (s : Scenario) (task : TaskId) (request : Request) : List Moment :=
  match s.run.requests task with
  | some (.resolving _ .waiting) => (s.cancelled? request).toList
  | _ =>
    match s.awaited? task with
    | none => []
    | some (due, _, limit) => due.toList ++ [limit] ++ (s.cancelled? request).toList

def happen (s : Scenario) (e : Event) : Scenario :=
  let (run, notes) := s.run.step s.rules e
  { s with run, notes := s.notes ++ notes }

def proceed (task : TaskId) (request : Request) (now : Moment) :
    (bound : Nat) → Scenario → List TaskId → Scenario × List TaskId
  | 0, s, woken => (s, woken)
  | bound + 1, s, woken =>
    match s.next? now task request with
    | none => (s, woken)
    | some e =>
      let after := s.happen e
      let handed := if after.run.cache.holder = s.run.cache.holder then none else after.run.cache.holder
      proceed task request now bound after (woken ++ (handed.filter (· != task)).toList)

def turn (s : Scenario) (now : Moment) (task : TaskId) : Turn Scenario :=
  let s := s.happen (.pass (now - s.run.now))
  match s.texts[task - s.first]? with
  | none => ⟨s, [], []⟩
  | some request =>
    let (s, woken) := proceed task request now 12 s []
    ⟨s, woken, s.alarms task request⟩

/-- All requests of a scenario, from a run and the name of the first. -/
def play (rules : Rules) (c : Collaborators) (r : Run) (first : TaskId) (requests : List Request) :
    Scenario :=
  let s : Scenario := ⟨rules, c, r, [], r.now, first, requests⟩
  let last := Schedule.steps turn (24 * (requests.length + 1))
    ⟨s, r.now, (List.range requests.length).map (first + ·), []⟩
  last.state.happen (.pass (last.now - last.state.run.now))

def ends (s : Scenario) : List (Option Phase) :=
  (List.range s.texts.length).map fun i => s.run.requests (s.first + i)

end Scenario
end QueryWarden.Pipeline
