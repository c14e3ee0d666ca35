/-! Moments on a clock that only goes forward, and lengths of time, both in nanoseconds. The clock can
name moments up to a last one. -/
namespace QueryWarden.Clock

/-- A moment: nanoseconds since the clock's own beginning. -/
abbrev Moment := Nat

abbrev Duration := Nat

def millisecond : Duration := 1000000

def second : Duration := 1000 * millisecond

def year : Duration := 365 * 24 * 60 * 60 * second

def lastMoment : Moment := Nat.pow 2 63 * second - 1

/-- The moment that comes a length of time after another, if the clock can name it. -/
def later? (m : Moment) (d : Duration) : Option Moment :=
  if m + d ≤ lastMoment then some (m + d) else none

theorem later?_eq_some {m n : Moment} {d : Duration} :
    later? m d = some n ↔ m + d ≤ lastMoment ∧ n = m + d := by
  simp [later?, eq_comm]

/-! Answers that take their time. -/

/-- An answer that comes after a delay, or never if there is none. -/
structure Paced (α : Type) where
  delay : Option Duration
  answer : α

def Paced.atOnce {α : Type} (answer : α) : Paced α := ⟨some 0, answer⟩

def Paced.due? {α : Type} (p : Paced α) (asked : Moment) : Option Moment := p.delay.map (asked + ·)

def hasCome (now : Moment) : Option Moment → Bool
  | none => false
  | some m => m ≤ now

def Paced.inTime? {α : Type} (p : Paced α) (limit : Duration) : Option α :=
  if p.delay.any (· ≤ limit) then some p.answer else none

end QueryWarden.Clock
