import QueryWarden.Cache.Basic

/-! Runs of the cache: any number of calls, begun, going on, answered and dropped in any order, mixed with
looks at the cache, invalidations and the passing of time. What one does between two points at which it
may have to wait is one event; so whoever looks reads the clock in one event and the entry in another,
and anything may happen in between. An event that does not fit changes nothing. Every run leaves notes of
what could be seen of it. -/
namespace QueryWarden.Cache
open Clock

/-- Who looks for a snapshot: a call, or someone who does no more than look. -/
inductive Looker where
  | call (task : TaskId)
  | watcher (name : Nat)
deriving Repr, DecidableEq

inductive Event where
  /-- Someone is about to look and reads the clock; a call begins with that. -/
  | ask (who : Looker)
  /-- A call looks for the first time. -/
  | call (task : TaskId)
  /-- A call that has the lock looks again. -/
  | resume (task : TaskId)
  /-- The fetch of a call has an end. -/
  | fetched (task : TaskId) (answer : Except Failure Schema.Snapshot)
  /-- A call stores what it has fetched. -/
  | store (task : TaskId)
  /-- A call is dropped by its caller. -/
  | cancel (task : TaskId)
  /-- A watcher looks whether there is a good snapshot. -/
  | peek (name : Nat)
  | invalidate
  /-- Time passes. -/
  | pass (time : Duration)

/-- What can be seen of a run. -/
inductive Note where
  | asked (who : Looker)
  /-- What has become of a call. -/
  | moved (task : TaskId) (progress : Progress)
  | looked (name : Nat) (found : Option Held)
  | invalidated
deriving Repr, DecidableEq

/-- A run: the cache, the clock, what has become of each call, and when those who are about to look have
read the clock. -/
structure Run where
  cache : Cache
  now : Moment
  calls : TaskId → Option Progress
  asked : Looker → Option Moment

namespace Run

def start (life : Duration) (now : Moment) : Run := ⟨.empty life, now, fun _ => none, fun _ => none⟩

def ask (r : Run) (who : Looker) : Run :=
  { r with asked := fun w => if w = who then some r.now else r.asked w }

def forget (r : Run) (who : Looker) : Run :=
  { r with asked := fun w => if w = who then none else r.asked w }

def settle (r : Run) (task : TaskId) (result : Cache × Progress) : Run × List Note :=
  ({ r.forget (.call task) with
      cache := result.1
      calls := fun t => if t = task then some result.2 else r.calls t },
    [.moved task result.2])

def looksNext (r : Run) : Looker → Bool
  | .watcher _ => true
  | .call task =>
    match r.calls task with
    | none => true
    | some (.pending .waiting) => r.cache.holder = some task
    | some _ => false

def step (r : Run) : Event → Run × List Note
  | .ask who =>
    if r.asked who = none ∧ r.looksNext who then (r.ask who, [.asked who]) else (r, [])
  | .call task =>
    match r.calls task, r.asked (.call task) with
    | none, some asked => r.settle task (r.cache.arrive asked task)
    | _, _ => (r, [])
  | .resume task =>
    match r.calls task, r.asked (.call task) with
    | some (.pending .waiting), some asked =>
      if r.cache.holder = some task then r.settle task (r.cache.resume asked r.now) else (r, [])
    | _, _ => (r, [])
  | .fetched task answer =>
    match r.calls task with
    | some (.pending (.fetching number _)) =>
      r.settle task (r.cache.fetched r.now number answer)
    | _ => (r, [])
  | .store task =>
    match r.calls task with
    | some (.pending (.storing entry)) => r.settle task (r.cache.store entry)
    | _ => (r, [])
  | .cancel task =>
    match r.calls task, r.asked (.call task) with
    | some (.pending _), _ | none, some _ => r.settle task (r.cache.leave task, .dropped)
    | _, _ => (r, [])
  | .peek name =>
    match r.asked (.watcher name) with
    | some asked => (r.forget (.watcher name), [.looked name (r.cache.peek asked)])
    | none => (r, [])
  | .invalidate => ({ r with cache := r.cache.invalidate }, [.invalidated])
  | .pass time => ({ r with now := r.now + time }, [])

def after (r : Run) : List Event → Run × List (Moment × Note)
  | [] => (r, [])
  | e :: es =>
    let (next, notes) := r.step e
    let (last, later) := next.after es
    (last, notes.map (r.now, ·) ++ later)

end Run
end QueryWarden.Cache
