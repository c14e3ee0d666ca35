import QueryWarden.Cache.Run
import QueryWarden.Clock.Moment

/-! Scenarios: calls that share one thread, each with the time at which it begins, the answer that its
fetch will get, and how long its caller waits. Their run is one of the runs of the cache; the schedule
decides which event comes next. -/
namespace QueryWarden.Cache
open Clock

structure Script where
  /-- How long after the others the call begins. -/
  start : Duration
  answer : Paced (Except Failure Schema.Snapshot)
  /-- How long the caller waits, if not for ever. -/
  patience : Option Duration

/-- A scenario under way: the run, its notes, when it began, the name of its first call, and the parts
of the calls. -/
structure Scenario where
  run : Run
  notes : List (Moment × Note)
  origin : Moment
  first : TaskId
  scripts : List Script

namespace Scenario

def script? (s : Scenario) (task : TaskId) : Option Script := s.scripts[task - s.first]?

def cancelled? (s : Scenario) (script : Script) : Option Moment :=
  script.patience.map (s.origin + script.start + ·)

def look (s : Scenario) (task : TaskId) (event : Event) : Event :=
  if s.run.asked (.call task) = none then .ask (.call task) else event

/-- The event that happens next to a call at a moment. What it waits for counts before its caller's
patience. -/
def next? (s : Scenario) (now : Moment) (task : TaskId) (script : Script) : Option Event :=
  let giveUp := if hasCome now (s.cancelled? script) then some (Event.cancel task) else none
  match s.run.calls task with
  | none => if s.origin + script.start ≤ now then some (s.look task (.call task)) else none
  | some (.pending .waiting) =>
    if s.run.cache.holder = some task then some (s.look task (.resume task)) else giveUp
  | some (.pending (.fetching _ since)) =>
    if hasCome now (script.answer.due? since) then some (.fetched task script.answer.answer)
    else giveUp
  | some (.pending (.storing _)) => some (.store task)
  | some _ => none

def alarms (s : Scenario) (task : TaskId) (script : Script) : List Moment :=
  match s.run.calls task with
  | none => [s.origin + script.start]
  | some (.pending (.fetching _ since)) =>
    (script.answer.due? since).toList ++ (s.cancelled? script).toList
  | some (.pending _) => (s.cancelled? script).toList
  | some _ => []

def happen (s : Scenario) (now : Moment) (e : Event) : Scenario :=
  let (run, notes) := s.run.step e
  { s with run, notes := s.notes ++ notes.map (now, ·) }

def proceed (task : TaskId) (script : Script) (now : Moment) :
    (bound : Nat) → Scenario → List TaskId → Scenario × List TaskId
  | 0, s, woken => (s, woken)
  | bound + 1, s, woken =>
    match s.next? now task script with
    | none => (s, woken)
    | some e =>
      let after := s.happen now e
      let handed := if after.run.cache.holder = s.run.cache.holder then none else after.run.cache.holder
      proceed task script now bound after (woken ++ (handed.filter (· != task)).toList)

def turn (s : Scenario) (now : Moment) (task : TaskId) : Turn Scenario :=
  let s := s.happen now (.pass (now - s.run.now))
  match s.script? task with
  | none => ⟨s, [], []⟩
  | some script =>
    let (s, woken) := proceed task script now 8 s []
    ⟨s, woken, s.alarms task script⟩

/-- The whole scenario, from a run and the name of the first call. -/
def play (r : Run) (first : TaskId) (scripts : List Script) : Scenario :=
  let s : Scenario := ⟨r, [], r.now, first, scripts⟩
  let last := Schedule.steps turn (16 * (scripts.length + 1))
    ⟨s, r.now, (List.range scripts.length).map (first + ·), []⟩
  last.state.happen last.now (.pass (last.now - last.state.run.now))

def ends (s : Scenario) : List (Option Progress) :=
  (List.range s.scripts.length).map fun i => s.run.calls (s.first + i)

end Scenario
end QueryWarden.Cache
