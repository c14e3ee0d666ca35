import QueryWarden.Database.Definition
import QueryWarden.Database.Evaluation

/-! A connection that may write: the database as it stands, what it was when the transaction and its
savepoints began, and what the last statements have done. A fault tells what becomes of the changes of
its statement. -/
namespace QueryWarden.Database

/-- A connection that may write. -/
structure Session where
  database : Contents
  /-- The count of the present moment. -/
  now : Int
  /-- The database when the transaction began, if one is open. -/
  before : Option Contents
  /-- The savepoints with the database at each, the youngest first. -/
  savepoints : List (String × Contents)
  lastNumber : Int
  changes : Int
  totalChanges : Int
  /-- What is given for the variable of the statement; no statement that runs has more than one. -/
  given : Value
  /-- Whether references between tables are kept. -/
  keepsReferences : Bool
  /-- Whether a trigger may fire itself. -/
  recursiveTriggers : Bool
  /-- The rows that the statement has written, with their tables. -/
  written : List (String × Int)
  /-- The tables of which the statement has taken keys away. -/
  reduced : List String

def Session.start (d : Contents) (now : Int) : Session := ⟨d, now, none, [], 0, 0, 0, .null, true, false, [], []⟩

/-- What changes a session and may fail; changes made before a fault are still there. -/
abbrev Writing := ExceptT Fault (StateM Session)

namespace Session

def surroundings (s : Session) (frames : List Frame) : Surroundings :=
  ⟨s.database, s.now, s.lastNumber, s.changes, s.totalChanges, s.given, frames, []⟩

end Session

def evalDepth : Nat := 20000

def leftOut : Fault := ⟨"", none, .ignore⟩

def firstOf (vs : List Value) : Value := vs.head?.getD .null

def Stored.at (r : Stored) (i : Nat) : Value := r.values[i]?.getD .null

def attempt {α : Type} (e : Except Fault α) : Writing α :=
  match e with
  | .ok a => pure a
  | .error f => throw f

def valueOf (frames : List Frame) (t : Term) : Writing Value := do
  attempt (t.eval evalDepth ((← get).surroundings frames))

def rowsOf (frames : List Frame) (p : Plan) : Writing (List (List Value)) := do
  attempt (p.rows evalDepth ((← get).surroundings frames)).collect

def change (f : Contents → Contents) : Writing Unit :=
  modify fun s => { s with database := f s.database }

def tableNow (name : String) : Writing Table := do
  match (← get).database.table? name with
  | some t => return t
  | none => throw (.of ("no such table: " ++ name))

def Stored.frame (r : Stored) : Frame := .of (r.values ++ [Value.integer r.number]).toArray

def Table.with (t : Table) (r : Stored) : List Stored :=
  if t.rows.getLast?.all (·.number < r.number) then t.rows ++ [r]
  else t.rows.takeWhile (·.number < r.number) ++ r :: t.rows.dropWhile (·.number < r.number)

def Table.nextNumber (t : Table) : Int := (t.rows.getLast?.elim 0 (·.number)) + 1

def Table.converted (t : Table) (values : List Value) : List Value :=
  (t.columns.zip values).map fun (c, v) => c.affinity.read (c.affinity.apply v)

def Table.misfit? (t : Table) (values : List Value) : Option String :=
  if !t.strict then none
  else (t.columns.zip values).findSome? fun (c, v) =>
    let fits := match v with
      | .null => true
      | .integer _ => c.affinity.isNumeric || sameName c.type "ANY"
      | .real _ => sameName c.type "REAL" || sameName c.type "ANY"
      | .text _ => sameName c.type "TEXT" || sameName c.type "ANY"
      | .blob _ => sameName c.type "BLOB" || sameName c.type "ANY"
    if fits then none
    else some ("cannot store " ++ String.ofList (v.className.toList.map Char.toUpper) ++ " value in " ++
      String.ofList (c.type.toList.map Char.toUpper) ++ " column " ++ t.name ++ "." ++ c.name)

def Index.key (i : Index) (t : Table) (r : Stored) : Writing (Option (List Value)) := do
  let s ← get
  let x := t.context s.database
  let inside (e : Expr) : Writing Value := do valueOf [r.frame] (← attempt (e.term x))
  let held ← match i.filter with
    | none => pure true
    | some e => do pure ((← inside e).truth? = some true)
  if !held then return none
  return some (← i.parts.mapM fun p =>
    match p.column with
    | some c => pure (r.at c)
    | none => inside p.term)

def Index.rivals (i : Index) (t : Table) (r : Stored) (itself : Option Int) : Writing (List Stored) := do
  if i.unique.isNone then return []
  match ← i.key t r with
  | none => return []
  | some key =>
    if key.any Value.isNull then return []
    let cs := i.parts.map (·.collation)
    t.rows.filterM fun q => do
      if some q.number = itself then return false
      match ← i.key t q with
      | some other => return compareRows cs key other = .eq
      | none => return false

def Index.clash (i : Index) (t : Table) : String :=
  if i.parts.any (·.column.isNone) then "UNIQUE constraint failed: index '" ++ i.name ++ "'"
  else "UNIQUE constraint failed: " ++ ", ".intercalate (i.parts.map fun p =>
    t.name ++ "." ++ (((p.column.bind (t.columns[·]?)).map (·.name)).getD ""))

def Table.numberClash (t : Table) : String :=
  "UNIQUE constraint failed: " ++ t.name ++ "." ++
    (((t.numberColumn.bind (t.columns[·]?)).map (·.name)).getD "rowid")

def Table.generate (t : Table) (r : Stored) : Writing Stored := do
  if t.columns.all (·.generated.isNone) then return r
  let x := t.context (← get).database
  let pass (r : Stored) : Writing Stored :=
    t.columns.zipIdx.foldlM (fun r (c, i) => do
      match c.generated with
      | none => return r
      | some (e, _) =>
        let v ← valueOf [r.frame] (← attempt (e.term x))
        return { r with values := r.values.set i (c.affinity.read (c.affinity.apply v)) }) r
  pass (← pass r)

def Column.default? (c : Column) : Writing Value := do
  match c.default with
  | none => return .null
  | some (e, _) =>
    valueOf [] (← attempt (e.term ⟨(← get).database, [], [], [], false⟩))

def ForeignKey.targets (k : ForeignKey) (target : Table) : List (Option Nat) :=
  if k.targetColumns.isEmpty then target.keyColumns.map some
  else k.targetColumns.map target.column?

def ForeignKey.fits (k : ForeignKey) (d : Contents) (target : Table) : Bool :=
  let places := k.targets target
  places.length == k.columns.length && places.all Option.isSome &&
    ((places.length == 1 && places.head? == some target.numberColumn && target.numberColumn.isSome) ||
      (d.indexesOf target.name).any fun i =>
        i.unique.isSome && i.filter.isNone && i.parts.length == places.length &&
          places.all fun c => i.parts.any (·.column == c))

def ForeignKey.holds (k : ForeignKey) (target : Table) (r : Stored) : Bool :=
  let key := k.columns.map fun c => r.at c
  if key.any Value.isNull then true
  else
    let columns := (k.targets target).map fun c => c.bind (target.columns[·]?)
    let key := (key.zip columns).map fun (v, c) => c.elim v fun c => c.affinity.apply v
    let cs := columns.map fun c => (c.map (·.collation)).getD .binary
    target.rows.any fun q =>
      compareRows cs key ((k.targets target).map fun c => (c.bind (q.values[·]?)).getD .null) = .eq

def Contents.referencesHold (d : Contents) (t : Table) (only : Option String) (rows : List Stored) : Bool :=
  t.references.all fun k =>
    if only.any (!sameName · k.target) then true
    else
      match d.table? k.target with
      | some target => rows.all (k.holds target)
      | none => rows.all fun r => k.columns.any fun c => (r.at c).isNull

def Session.referencesHold (s : Session) : Bool :=
  (s.written.all fun (name, number) =>
    match s.database.table? name with
    | some t => t.references.isEmpty || s.database.referencesHold t none ((t.row? number).toList)
    | none => true) &&
  s.reduced.all fun name => s.database.tables.all fun t =>
    s.database.referencesHold t (some name) t.rows

def Contents.referencesTo (d : Contents) (name : String) : List (Table × ForeignKey) :=
  d.tables.flatMap fun t => (t.references.filter fun k => sameName k.target name).map fun k => (t, k)

end QueryWarden.Database
