import QueryWarden.Cache.Basic
import QueryWarden.Generator.Candidate
import QueryWarden.Guard.Inspection
import QueryWarden.Pipeline.Collaborators
import QueryWarden.Pipeline.Stage

/-! Runs of a pipeline: any number of requests, begun, answered, timed out and dropped in any order,
over one cache. A request gets the schema from the cache, asks the generator once, has the guard judge
the candidate unless it reports destructive intent, and runs it only if the guard finds it safe. An
event that does not fit where its request stands changes nothing. Every run leaves notes of what could
be seen of it: the calls to the collaborators, the stages, and the ends of the requests. -/
namespace QueryWarden.Pipeline
open Clock

/-- What stays the same throughout a run: the guard's dialect and the limits. -/
structure Rules where
  dialect : Sql.Dialect
  limits : Limits
deriving Repr, DecidableEq

/-- Where a request stands. -/
inductive Phase where
  /-- On the way to the schema. -/
  | resolving (question : String) (stand : Cache.Stand)
  /-- The generator has been asked since a moment. -/
  | generating (question schema : String) (since : Moment)
  /-- The candidate has been running since a moment. -/
  | executing (question candidate : String) (since : Moment)
  | ended (outcome : Outcome)
  /-- Its caller gave it up. -/
  | dropped
  /-- It crashed. -/
  | broken (message : String)

inductive Event where
  /-- A request begins. -/
  | ask (task : TaskId) (text : String)
  /-- A request that was handed the population lock goes on. -/
  | resume (task : TaskId)
  /-- The schema that a request asked for is there. -/
  | introspected (task : TaskId) (answer : Except Failure Schema.Snapshot)
  /-- A request stores the schema in the cache. -/
  | store (task : TaskId)
  /-- The generator has answered. -/
  | generated (task : TaskId) (answer : Except Failure String)
  /-- The executor has answered. -/
  | executed (task : TaskId) (answer : Except Failure ResultSet)
  /-- A collaborator has taken as long as it may. -/
  | expire (task : TaskId)
  /-- A request is dropped by its caller. -/
  | cancel (task : TaskId)
  /-- The guard alone judges a text. -/
  | check (sql : String)
  | invalidate
  /-- Time passes. -/
  | pass (time : Duration)

/-- What can be seen of a run. -/
inductive Note where
  | introspecting (task : TaskId) (number : Nat)
  | generating (task : TaskId) (question schema : String)
  /-- The generator's answer reached the request. -/
  | replied (task : TaskId) (answer : Except Failure String)
  | executing (task : TaskId) (candidate : String)
  | reached (task : TaskId) (stage : Stage)
  | ended (task : TaskId) (outcome : Outcome)
  | dropped (task : TaskId)
  | broken (task : TaskId) (message : String)
  | checked (sql : String) (verdict : Except String Guard.Verdict)
  | invalidated

/-- A run: the cache, the clock, and where each request stands. -/
structure Run where
  cache : Cache
  now : Moment
  requests : TaskId → Option Phase

namespace Run

def start (life : Duration) (now : Moment) : Run := ⟨.empty life, now, fun _ => none⟩

def put (r : Run) (task : TaskId) (phase : Phase) : Run :=
  { r with requests := fun t => if t = task then some phase else r.requests t }

def finish (r : Run) (task : TaskId) (stages : List Stage) (outcome : Outcome) : Run × List Note :=
  (r.put task (.ended outcome), stages.map (.reached task) ++ [.ended task outcome])

def crash (r : Run) (task : TaskId) (message : String) : Run × List Note :=
  (r.put task (.broken message), [.broken task message])

/-- A request has come to something on the way to the schema. -/
def resolve (r : Run) (task : TaskId) (question : String) (result : Cache × Cache.Progress) :
    Run × List Note :=
  let r := { r with cache := result.1 }
  match result.2 with
  | .pending stand =>
    (r.put task (.resolving question stand),
      match stand with
      | .fetching number _ => [.introspecting task number]
      | _ => [])
  | .got held =>
    let schema := Schema.promptText held.snapshot.tables
    (r.put task (.generating question schema r.now),
      [.reached task .schemaResolved, .generating task question schema])
  | .failed _ => r.finish task [.errored] .executionError
  | .broken message => r.crash task message
  | .dropped => (r.put task .dropped, [.dropped task])

/-- A request has got its candidate. -/
def judge (rules : Rules) (r : Run) (task : TaskId) (question candidate : String) :
    Run × List Note :=
  if Generator.isViolation candidate then
    r.finish task [.generated, .rejected, .completed] (.securityAlert securityAlertMessage)
  else
    match Guard.inspect rules.dialect candidate with
    | .error message =>
      let (r, notes) := r.crash task message
      (r, .reached task .generated :: notes)
    | .ok verdict =>
      if verdict.safe then
        (r.put task (.executing question candidate r.now),
          [.reached task .generated, .reached task .validated, .executing task candidate])
      else
        r.finish task [.generated, .rejected, .completed]
          (.rejected question candidate (verdict.reason.getD "") verdict.kind)

def step (rules : Rules) (r : Run) : Event → Run × List Note
  | .ask task text =>
    match r.requests task with
    | some _ => (r, [])
    | none =>
      match Question.ofText? text with
      | none => r.finish task [] (.inputError emptyQuestionMessage)
      | some q => r.resolve task q.text (r.cache.enter r.now task)
  | .resume task =>
    match r.requests task with
    | some (.resolving question .waiting) =>
      if r.cache.holder = some task then r.resolve task question (r.cache.resume r.now r.now) else (r, [])
    | _ => (r, [])
  | .introspected task answer =>
    match r.requests task with
    | some (.resolving question (.fetching number _)) =>
      r.resolve task question (r.cache.fetched r.now number answer)
    | _ => (r, [])
  | .store task =>
    match r.requests task with
    | some (.resolving question (.storing entry)) => r.resolve task question (r.cache.store entry)
    | _ => (r, [])
  | .generated task answer =>
    match r.requests task with
    | some (.generating question _ _) =>
      let (r, notes) := match answer with
        | .error _ => r.finish task [.errored] .executionError
        | .ok candidate => r.judge rules task question candidate
      (r, .replied task answer :: notes)
    | _ => (r, [])
  | .executed task answer =>
    match r.requests task with
    | some (.executing question candidate _) =>
      match answer with
      | .error _ => r.finish task [.executionFailed, .completed] .executionError
      | .ok result => r.finish task [.executed, .completed] (.success question candidate result)
    | _ => (r, [])
  | .expire task =>
    match r.requests task with
    | some (.resolving _ (.fetching _ since)) =>
      if since + rules.limits.execution ≤ r.now then
        { r with cache := r.cache.release }.finish task [.errored] .executionError
      else (r, [])
    | some (.generating _ _ since) =>
      if since + rules.limits.generation ≤ r.now then r.finish task [.errored] .executionError
      else (r, [])
    | some (.executing _ _ since) =>
      if since + rules.limits.execution ≤ r.now then
        r.finish task [.executionFailed, .completed] .executionError
      else (r, [])
    | _ => (r, [])
  | .cancel task =>
    match r.requests task with
    | some (.resolving _ _) =>
      ({ r with cache := r.cache.leave task }.put task .dropped, [.dropped task])
    | some (.generating ..) | some (.executing ..) => (r.put task .dropped, [.dropped task])
    | _ => (r, [])
  | .check sql => (r, [.checked sql (Guard.inspect rules.dialect sql)])
  | .invalidate => ({ r with cache := r.cache.invalidate }, [.invalidated])
  | .pass time => ({ r with now := r.now + time }, [])

def after (rules : Rules) (r : Run) : List Event → Run × List (Moment × Note)
  | [] => (r, [])
  | e :: es =>
    let (next, notes) := r.step rules e
    let (last, later) := next.after rules es
    (last, notes.map (r.now, ·) ++ later)

end Run
end QueryWarden.Pipeline
