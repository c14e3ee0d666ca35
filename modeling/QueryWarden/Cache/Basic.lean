import QueryWarden.Clock.Schedule
import QueryWarden.Failure
import QueryWarden.Schema.Basic

/-! The cache of the schema: one snapshot that is good for a time. Whoever finds none has to hold the
population lock before fetching one; who comes while it is held stands in line, first come first
served, and looks again once the lock is handed on, so that one fetch serves all of them. A failed
fetch stores nothing, and a call that is dropped leaves the line or hands the lock on. -/
namespace QueryWarden
open Clock

namespace Cache

def usualLife : Duration := 60 * 60 * second

def longestLife : Duration := 100 * year

def entryKey : String := "DbSchemaDefinition"

/-- When a snapshot stored at a moment runs out: after its life, or after the longest one if the clock
cannot name that moment. `none` if it cannot name even that. -/
def expiry? (stored : Moment) (life : Duration) : Option Moment :=
  match later? stored life with
  | some m => some m
  | none => later? stored longestLife

def clockOverflow : String := "overflow when adding duration to instant"

structure Held where
  fetch : Nat
  snapshot : Schema.Snapshot
deriving Repr, DecidableEq

/-- What is stored: a snapshot, when it was stored, and when it runs out. -/
structure Entry where
  held : Held
  stored : Moment
  expiry : Moment
deriving Repr, DecidableEq

def Entry.isFresh (e : Entry) (now : Moment) : Bool := now < e.expiry

/-- Where a call stands that has not got its snapshot yet. -/
inductive Stand where
  /-- In line for the population lock, or next to look again once it has been handed the lock. -/
  | waiting
  /-- Holds the lock; its fetch has been under way since a moment. -/
  | fetching (number : Nat) (since : Moment)
  /-- Holds the lock and is about to store what it has fetched. -/
  | storing (entry : Entry)
deriving Repr, DecidableEq

/-- What has become of a call: it still stands somewhere, or it is over. -/
inductive Progress where
  | pending (stand : Stand)
  | got (held : Held)
  | failed (failure : Failure)
  /-- The clock could not name a moment that was needed. -/
  | broken (message : String)
  /-- Its caller gave it up. -/
  | dropped
deriving Repr, DecidableEq

end Cache

/-- The cache: how long a snapshot is good for, the entry, who holds the population lock, who stands in
line for it, and how many fetches have been started. -/
structure Cache where
  life : Duration
  entry : Option Cache.Entry
  holder : Option TaskId
  line : List TaskId
  fetches : Nat
deriving Repr, DecidableEq

namespace Cache

def empty (life : Duration) : Cache := ⟨life, none, none, [], 0⟩

/-- The snapshot, if there is one that is good at a moment. Whoever looks reads the clock first and has to
wait for the entry then, so that the moment may have passed. -/
def peek (c : Cache) (now : Moment) : Option Held :=
  match c.entry with
  | none => none
  | some e => if e.isFresh now then some e.held else none

def invalidate (c : Cache) : Cache := { c with entry := none }

/-- The cache once the lock is given back: the first in line holds it. -/
def release (c : Cache) : Cache := { c with holder := c.line.head?, line := c.line.tail }

def beginFetch (c : Cache) (now : Moment) : Cache × Progress :=
  ({ c with fetches := c.fetches + 1 }, .pending (.fetching c.fetches now))

def queue (c : Cache) (task : TaskId) : Cache :=
  match c.holder with
  | none => { c with holder := some task }
  | some _ => { c with line := c.line ++ [task] }

/-- A call looks for the first time; it had read the clock before, and goes by that. -/
def arrive (c : Cache) (asked : Moment) (task : TaskId) : Cache × Progress :=
  match c.peek asked with
  | some held => (c, .got held)
  | none => (c.queue task, .pending .waiting)

/-- A call that has the lock looks again, by the clock as it had read it once more: a good snapshot ends
it, else its fetch begins. -/
def resume (c : Cache) (asked now : Moment) : Cache × Progress :=
  match c.peek asked with
  | some held => (c.release, .got held)
  | none => c.beginFetch now

/-- All that a call does before its fetch, where nobody comes in between: a good snapshot ends it; else it
takes the lock and fetches, or stands in line. -/
def enter (c : Cache) (now : Moment) (task : TaskId) : Cache × Progress :=
  match c.peek now with
  | some held => (c, .got held)
  | none =>
    match c.holder with
    | none => { c with holder := some task }.beginFetch now
    | some _ => ({ c with line := c.line ++ [task] }, .pending .waiting)

/-- The fetch of the call that holds the lock has an end. -/
def fetched (c : Cache) (now : Moment) (number : Nat) :
    Except Failure Schema.Snapshot → Cache × Progress
  | .error f => (c.release, .failed f)
  | .ok snapshot =>
    match expiry? now c.life with
    | none => (c.release, .broken clockOverflow)
    | some expiry => (c, .pending (.storing ⟨⟨number, snapshot⟩, now, expiry⟩))

def store (c : Cache) (entry : Entry) : Cache × Progress :=
  ({ c with entry := some entry }.release, .got entry.held)

/-- A call is dropped: it leaves the line, or gives the lock back. -/
def leave (c : Cache) (task : TaskId) : Cache :=
  if c.holder = some task then c.release else { c with line := c.line.filter (· != task) }

end Cache
end QueryWarden
