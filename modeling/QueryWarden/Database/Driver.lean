import QueryWarden.Database.Value
import QueryWarden.Failure
import QueryWarden.ResultSet
import QueryWarden.Schema.Basic

/-! What an executor asks of the library that knows the format of a database file: the layout, and the result of
one statement. The library is a parameter here. It opens a file for reading, prepares statements, says of each
whether it is read-only, and takes one step after the other; a statement that it does not call read-only is refused
before its first step. -/
namespace QueryWarden.Database

def charactersAt (column : Nat) (bytes : List UInt8) : Except String String :=
  match Text.Utf8.decode bytes with
  | .ok cs => .ok (String.ofList cs)
  | .error (index, fault) =>
    .error ("Conversion error from type Text at index: " ++ toString column ++ ", " ++ fault.message index)

def Value.cell (column : Nat) (v : Value) : Except Failure Cell :=
  match v with
  | .null => .ok .null
  | .integer n => .ok (.integer n)
  | .real x => .ok (.real x)
  | .blob bs => .ok (.binary bs)
  | .text bs =>
    match charactersAt column bs with
    | .ok found => .ok (.text found)
    | .error message => .error (.execution ("Failed to read row: " ++ message))

def cellsFrom (place : Nat) : (columns : List String) → List Value → Except Failure (List (String × Cell))
  | [], _ => .ok []
  | c :: cs, vs => do
    let cell ← (vs.head?.getD Value.null).cell place
    return (c, cell) :: (← cellsFrom (place + 1) cs vs.tail)

/-- A database file, how many rows of a result are wanted, and for how many milliseconds a connection waits
for others. -/
structure Executor where
  file : String
  maxRows : Option Nat
  busyTimeout : Option Nat
deriving Repr, DecidableEq

/-- How a call into the library goes wrong: it says why, or it takes the whole task down. -/
inductive Mishap where
  | told (message : String)
  | crashed (message : String)

/-- A library for database files. Only a step may leave another world behind: whatever else is asked for is no
more than an answer, or concerns the connection alone. -/
structure Driver where
  /-- All that outlasts a connection: the files, and whatever else an answer depends on. -/
  World : Type
  Connection : Type
  Statement : Type
  /-- Where a statement that runs has come to. -/
  Cursor : Type
  connect : World → String → Except Mishap Connection
  /-- Tells a connection for how many milliseconds it may wait for others. -/
  await : Connection → Nat → Except Mishap Connection
  prepare : World → Connection → String → Connection × Except Mishap Statement
  isReadOnly : Statement → Bool
  columns : Statement → List String
  /-- Gives a statement the values that it asks for. -/
  bind : Statement → List Value → Except Mishap Cursor
  step : World → Connection → Statement → Cursor → World × Connection × Except Mishap (Option (List Value × Cursor))
  /-- The text in a column of a row. -/
  text : Statement → List Value → Nat → Except String String

def tablesQuery : String :=
  "SELECT name FROM sqlite_master\n             WHERE type = 'table'\n" ++
    "             AND name NOT LIKE 'sqlite_%'\n             ORDER BY name"

def columnsQuery : String := "SELECT name, type FROM pragma_table_info(?1) ORDER BY cid"

/-- Why something has no result: it failed, or it has not come to its end. -/
inductive Halt where
  | failed (f : Failure)
  | pending

namespace Driver
variable (D : Driver) {α : Type}

abbrev Use := ExceptT Halt (StateM (D.World × D.Connection))

def failure (task about : String) : Mishap → Failure
  | .told message => .execution (about ++ message)
  | .crashed message => .execution (task ++ " task failed: " ++ message)

variable {D}

def answered (blame : Mishap → Failure) : Except Mishap α → D.Use α
  | .ok a => pure a
  | .error m => throw (.failed (blame m))

def prepared (blame : Mishap → Failure) (sql : String) : D.Use D.Statement := do
  let (w, c) ← get
  let (c, answer) := D.prepare w c sql
  set (w, c)
  answered blame answer

def stepped (blame : Mishap → Failure) (st : D.Statement) (at_ : D.Cursor) :
    D.Use (Option (List Value × D.Cursor)) := do
  let (w, c) ← get
  let (w, c, answer) := D.step w c st at_
  set (w, c)
  answered blame answer

/-- The rows of a statement as they are read, no more than a limit; `steps` bounds how far it has come. The row
behind the limit is still asked for. -/
def rows (blame : Mishap → Failure) (read : List Value → Except Failure α) (st : D.Statement) :
    (steps : Nat) → (limit : Option Nat) → D.Cursor → D.Use (List α)
  | 0, _, _ => throw .pending
  | steps + 1, limit, at_ => do
    match ← stepped blame st at_ with
    | none => return []
    | some (row, next) =>
      if limit = some 0 then return []
      match read row with
      | .error f => throw (.failed f)
      | .ok a => return a :: (← rows blame read st steps (limit.map (· - 1)) next)

def texts (about : String) (st : D.Statement) (columns : List Nat) (row : List Value) : Except Failure (List String) :=
  columns.mapM fun i => (D.text st row i).mapError fun message => .execution (about ++ message)

/-- The rows of texts that a query for the layout gives. -/
def asked (steps : Nat) (sql : String) (values : List Value) (columns : List Nat)
    (unprepared unanswered uncollected : String) : D.Use (List (List String)) := do
  let task := failure "Introspection"
  let st ← prepared (task unprepared) sql
  let first ← answered (task unanswered) (D.bind st values)
  rows (task uncollected) (texts uncollected st columns) st steps none first

def columnsOf (steps : Nat) (table : String) : D.Use (List Schema.Column) := do
  let found ← asked steps columnsQuery [.ofString table] [0, 1] ("Failed to prepare table_info for " ++ table ++ ": ")
    ("Failed to query columns for " ++ table ++ ": ") ("Failed to collect columns for " ++ table ++ ": ")
  return found.map fun texts => ⟨texts[0]?.getD "", texts[1]?.getD ""⟩

def layout (steps : Nat) : D.Use (List Schema.Table) := do
  let found ← asked steps tablesQuery [] [0] "Failed to query tables: " "Failed to fetch table names: "
    "Failed to collect table names: "
  found.mapM fun texts => do
    let name := texts[0]?.getD ""
    return ⟨name, ← columnsOf steps name⟩

def result (steps : Nat) (limit : Option Nat) (sql : String) : D.Use ResultSet := do
  let task := failure "Execution"
  let st ← prepared (task "Failed to prepare query: ") sql
  if !D.isReadOnly st then throw (.failed (.execution "Statement is not read-only"))
  let first ← answered (task "Failed to execute query: ") (D.bind st [])
  let found ← rows (task "Failed to fetch row: ") (cellsFrom 0 (D.columns st)) st steps limit first
  return ⟨D.columns st, found.map Row.mk⟩

variable (D)

def opened (e : Executor) (task : String) (w : D.World) : Except Failure D.Connection := do
  let blame (about : String) : Mishap → Failure
    | .told message => .connection (about ++ message)
    | m => failure task about m
  let c ← (D.connect w e.file).mapError (blame "Failed to open SQLite database: ")
  match e.busyTimeout with
  | none => return c
  | some wait => (D.await c wait).mapError (blame "Failed to set busy timeout: ")

def visit (e : Executor) (task : String) (use : D.Use α) (w : D.World) : D.World × Except Halt α :=
  match D.opened e task w with
  | .error f => (w, .error (.failed f))
  | .ok c =>
    let (answer, left) := use.run.run (w, c)
    (left.1, answer)

/-- The executor runs a statement. -/
def execute (e : Executor) (steps : Nat) (sql : String) : D.World → D.World × Except Halt ResultSet :=
  D.visit e "Execution" (result steps e.maxRows sql)

/-- The executor looks up the layout. -/
def introspect (e : Executor) (steps : Nat) : D.World → D.World × Except Halt (List Schema.Table) :=
  D.visit e "Introspection" (layout steps)

end Driver
end QueryWarden.Database
