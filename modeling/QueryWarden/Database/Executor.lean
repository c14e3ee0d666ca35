import QueryWarden.Config.Settings
import QueryWarden.Database.File
import QueryWarden.Pipeline.Collaborators

/-! The executor over a database file: every question about the layout and every statement opens the file
anew for reading and closes it afterwards. -/
namespace QueryWarden.Database
open Files

namespace Executor

def ofSettings (s : Config.Settings) : Executor :=
  ⟨s.database.file, s.limits.maxRows.map UInt64.toNat, s.limits.busyTimeoutMs.map UInt64.toNat⟩

def longestWait : Nat := Nat.pow 2 31 - 1

def connect (e : Executor) (files : Tree) (task : String) : Except Failure Contents := do
  let d ← openReading files e.file
  if e.busyTimeout.any (longestWait < ·) then throw (.execution (task ++ " task failed: too big"))
  return d

/-- The layout of the database. -/
def introspect (e : Executor) (files : Tree) : Except Failure (List Schema.Table) := do
  (← e.connect files "Introspection").introspect

def lookUp (e : Executor) (files : Tree) (now : Wire.Instant) : Tree × Except Failure (List Schema.Table) :=
  match e.connect files "Introspection" with
  | .error f => (files, .error f)
  | .ok d =>
    let (after, found) := d.lookUp now (canAttach files false)
    (closing files (filePlace files e.file) d after, found)

/-- Runs a statement, and leaves the files as the connection leaves them when it is closed. -/
def execute (e : Executor) (files : Tree) (now : Wire.Instant) (sql : String) :
    Tree × Except Failure ResultSet :=
  match e.connect files "Execution" with
  | .error f => (files, .error f)
  | .ok d =>
    let (after, result) := d.execute now (canAttach files false) e.maxRows sql
    (closing files (filePlace files e.file) d after, result)

/-- The collaborators of a pipeline over the file; `now` is when the layout is looked up and the
statement runs. -/
def collaborators (e : Executor) (files : Tree) (now : Wire.Instant)
    (generate : String → String → Clock.Paced (Except Failure String)) : Pipeline.Collaborators where
  introspect _ := .atOnce ((e.lookUp files now).2.map fun tables => ⟨tables, now⟩)
  generate := generate
  execute sql := .atOnce (e.execute files now sql).2

end Executor
end QueryWarden.Database
