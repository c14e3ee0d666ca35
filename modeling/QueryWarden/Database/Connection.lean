import QueryWarden.Database.Driver
import QueryWarden.Database.Script

/-! What is asked over a connection that only reads: the layout of a database, and the result of one
statement. A statement that may change anything is refused before it runs. -/
namespace QueryWarden.Database

/-- The rows of a stream as a result set, no more than a limit. The row behind the limit is still asked
for, so that a fault there shows, but it is not read. -/
def fetched (columns : List String) : (limit : Option Nat) → Rows (List Value) → Except Failure (List Row)
  | _, .done => .ok []
  | _, .fault f => .error (.execution ("Failed to fetch row: " ++ f.message))
  | some 0, .row _ _ => .ok []
  | limit, .row vs rest => do
    let cells ← cellsFrom 0 columns vs
    return ⟨cells⟩ :: (← fetched columns (limit.map (· - 1)) (rest ()))

/-- The result set of a stream of rows. -/
def resultSet (columns : List String) (limit : Option Nat) (rows : Rows (List Value)) :
    Except Failure ResultSet :=
  (fetched columns limit rows).map fun rs => ⟨columns, rs⟩

/-- Whether a name begins like those that are reserved and goes on with any character. -/
def isHidden (name : String) : Bool :=
  match name.toList.splitAt 6 with
  | (_, []) => false
  | (start, _ :: _) => sameName (String.ofList start) "sqlite"

def Table.layout (t : Table) : Schema.Table :=
  ⟨t.name, (t.columns.filter (·.generated.isNone)).map fun c => ⟨c.name, c.type⟩⟩

def Contents.introspect (d : Contents) : Except Failure (List Schema.Table) :=
  match d.unreadable with
  | some message => .error (.execution ("Failed to query tables: " ++ message))
  | none =>
    .ok (((d.tables.filter (!isHidden ·.name)).mergeSort fun a b => !(b.name < a.name)).map Table.layout)

/-- What asks over a connection; a failure leaves the connection as it has come. -/
abbrev Asking := ExceptT Failure (StateM Session)

def textAt (row : List Value) (column : Nat) : Except String String :=
  match row[column]? with
  | some (.text bytes) => charactersAt column bytes
  | some v => .error ("Invalid column type " ++ v.className ++ " at index: " ++ toString column)
  | none => .error ("Invalid column index: " ++ toString column)

def taken {α : Type} (about : String) (read : List Value → Except Failure α) :
    (limit : Option Nat) → Rows (List Value) → Except Failure (List α)
  | _, .done => .ok []
  | _, .fault f => .error (.execution (about ++ f.message))
  | some 0, .row _ _ => .ok []
  | limit, .row row rest => do
    let here ← read row
    return here :: (← taken about read (limit.map (· - 1)) (rest ()))

def textsOf (about : String) (columns : List Nat) : Rows (List Value) → Except Failure (List (List String)) :=
  taken about (fun row => columns.mapM fun i =>
    (textAt row i).mapError fun message => .execution (about ++ message)) none

/-- The texts that a query gives, with what is given for its variable. -/
def asked (there : String → Bool) (sql : String) (given : Value) (columns : List Nat)
    (unprepared uncollected : String) : Asking (List (List String)) := .mk fun s =>
  match s.database.prepareFirst there sql with
  | .error f => (.error (.execution (unprepared ++ f.worded sql)), s)
  | .ok (none, _) => (.error (.execution (uncollected ++ "not an error")), s)
  | .ok (some p, _) =>
    match p.run.run { s with given := given } with
    | (.error f, s) => (.error (.execution (uncollected ++ f.message)), s)
    | (.ok rows, s) => (textsOf uncollected columns rows, s)

def columnsAsked (there : String → Bool) (table : String) : Asking (List Schema.Column) := do
  let found ← asked there columnsQuery (.ofString table) [0, 1] ("Failed to prepare table_info for " ++ table ++ ": ")
    ("Failed to collect columns for " ++ table ++ ": ")
  return found.map fun texts => ⟨texts[0]?.getD "", texts[1]?.getD ""⟩

def tableAsked (there : String → Bool) (name : String) : Asking Schema.Table := do
  return ⟨name, ← columnsAsked there name⟩

def layoutAsked (there : String → Bool) : Asking (List Schema.Table) := do
  let found ← asked there tablesQuery .null [0] "Failed to query tables: " "Failed to collect table names: "
  found.mapM fun texts => tableAsked there (texts[0]?.getD "")

/-- Looks up the layout over a connection of its own. Gives the database when the connection is closed. -/
def Contents.lookUp (d : Contents) (now : Wire.Instant) (there : String → Bool) :
    Contents × Except Failure (List Schema.Table) :=
  let (found, s) := (layoutAsked there).run.run (Session.start d (Moment.countOf now))
  (s.closed, found)

def Contents.carryOut (d : Contents) (now : Wire.Instant) (limit : Option Nat) (values : Nat) (p : Prepared) :
    Contents × Except Failure ResultSet :=
  if !p.isReadOnly then (d, .error (.execution "Statement is not read-only"))
  else
    match values with
    | 0 =>
      match p.run.run (Session.start d (Moment.countOf now)) with
      | (.error f, s) => (s.closed, .error (.execution ("Failed to fetch row: " ++ f.message)))
      | (.ok rows, s) => (s.closed, resultSet p.columns limit rows)
    | n => (d, .error (.execution
        ("Failed to execute query: Wrong number of parameters passed to query. Got 0, needed " ++ toString n)))

/-- Runs the first statement of a text; the others count for nothing. Gives the database when the connection is
closed, and the result. -/
def Contents.execute (d : Contents) (now : Wire.Instant) (there : String → Bool) (limit : Option Nat) (sql : String) :
    Contents × Except Failure ResultSet :=
  match d.prepareFirst there sql with
  | .error f => (d, .error (.execution ("Failed to prepare query: " ++ f.worded sql)))
  | .ok (none, _) => (d, .error (.execution "Failed to fetch row: not an error"))
  | .ok (some p, ending) => d.carryOut now limit (variableCount sql ending) p

end QueryWarden.Database
