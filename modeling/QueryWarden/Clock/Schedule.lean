import QueryWarden.Clock.Moment

/-! Tasks that share one thread and one clock. A task runs until it has to wait; it may set alarms for
itself and wake other tasks. Woken tasks run in the order in which they were woken, and only when none
is left does the clock move, to the next alarm. Alarms of one moment ring in the order in which they
were set. -/
namespace QueryWarden.Clock

abbrev TaskId := Nat

structure Turn (σ : Type) where
  state : σ
  wakes : List TaskId
  alarms : List Moment

/-- The tasks of one thread: their common state, the clock, the woken tasks in order, and the alarms in
the order in which they were set. -/
structure Schedule (σ : Type) where
  state : σ
  now : Moment
  ready : List TaskId
  alarms : List (Moment × TaskId)

namespace Schedule

variable {σ : Type}

def rearm (task : TaskId) (wanted : List Moment) (alarms : List (Moment × TaskId)) :
    List (Moment × TaskId) :=
  let kept := alarms.filter fun (at_, t) => t != task || wanted.contains at_
  kept ++ (wanted.filter fun at_ => !kept.contains (at_, task)).map (·, task)

def wake (ready : List TaskId) : List TaskId → List TaskId
  | [] => ready
  | t :: ts => wake (if ready.contains t then ready else ready ++ [t]) ts

def nextAlarm? : List (Moment × TaskId) → Option Moment
  | [] => none
  | (m, _) :: rest =>
    match nextAlarm? rest with
    | none => some m
    | some n => some (min m n)

def ring (s : Schedule σ) (m : Moment) : Schedule σ :=
  let due := (s.alarms.filter (·.1 ≤ m)).mergeSort fun a b => a.1 ≤ b.1
  { s with
    now := m
    ready := wake s.ready (due.map (·.2))
    alarms := s.alarms.filter fun a => m < a.1 }

/-- One step: the first woken task runs, or else the clock moves; `none` if nothing can happen any
more. -/
def step (run : σ → Moment → TaskId → Turn σ) (s : Schedule σ) : Option (Schedule σ) :=
  match s.ready with
  | task :: rest =>
    let turn := run s.state s.now task
    some ⟨turn.state, s.now, wake rest turn.wakes, rearm task turn.alarms s.alarms⟩
  | [] => (nextAlarm? s.alarms).map s.ring

def steps (run : σ → Moment → TaskId → Turn σ) : (bound : Nat) → Schedule σ → Schedule σ
  | 0, s => s
  | bound + 1, s =>
    match s.step run with
    | none => s
    | some s => s.steps run bound

end Schedule
end QueryWarden.Clock
