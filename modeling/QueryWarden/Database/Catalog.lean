import QueryWarden.Database.Numeral
import QueryWarden.Database.Tree

/-! What a database holds: tables with their rows, indexes, views and triggers, in the order in which
they were made. -/
namespace QueryWarden.Database

structure Column where
  name : String
  /-- The type as it was declared. -/
  type : String
  affinity : Affinity
  collation : Collation
  /-- What happens to a row without a value here, where one is needed. -/
  notNull : Option Resolution
  /-- The value where none is given, and what was written for it. -/
  default : Option (Expr × String)
  /-- How the value follows from the others, and whether it is kept. -/
  generated : Option (Expr × Bool)
  /-- The place in the primary key, counted from one; zero if it is not part of it. -/
  keyPlace : Nat

structure IndexPart where
  /-- The column, unless the part is an expression. -/
  column : Option Nat
  term : Expr
  collation : Collation
  descending : Bool

inductive IndexOrigin where
  | created
  | unique
  | primaryKey
deriving Repr, DecidableEq

structure Index where
  name : String
  table : String
  parts : List IndexPart
  /-- What happens to a row whose key is there already, where keys have to differ. -/
  unique : Option Resolution
  filter : Option Expr
  origin : IndexOrigin
  sql : Option String

structure ForeignKey where
  columns : List Nat
  target : String
  /-- The columns there; none for the primary key. -/
  targetColumns : List String
  onDelete : String
  onUpdate : String

structure Check where
  name : Option String
  term : Expr
  written : String

structure Stored where
  number : Int
  values : List Value

/-- A table with its rows, ordered by their numbers. -/
structure Table where
  name : String
  columns : List Column
  /-- The column that is the number of the row. -/
  numberColumn : Option Nat
  /-- What happens if the number of a row is there already. -/
  numberConflict : Resolution
  /-- Whether numbers are never used again. -/
  increasing : Bool
  withoutRowid : Bool
  strict : Bool
  checks : List Check
  references : List ForeignKey
  sql : String
  rows : List Stored

structure View where
  name : String
  columns : List String
  query : Query
  sql : String

structure Trigger where
  name : String
  table : String
  time : TriggerTime
  event : TriggerEvent
  condition : Option Expr
  steps : List TriggerStep
  sql : String

inductive Object where
  | table (t : Table)
  | index (i : Index)
  | view (v : View)
  | trigger (t : Trigger)

namespace Object

def name : Object → String
  | table t => t.name
  | index i => i.name
  | view v => v.name
  | trigger t => t.name

def tableName : Object → String
  | table t => t.name
  | index i => i.table
  | view v => v.name
  | trigger t => t.table

def kind : Object → String
  | table _ => "table"
  | index _ => "index"
  | view _ => "view"
  | trigger _ => "trigger"

def sql? : Object → Option String
  | table t => some t.sql
  | index i => i.sql
  | view v => some v.sql
  | trigger t => some t.sql

end Object

/-- An object in its place: the number of its first page, and whether it goes away with the
connection. -/
structure Entry where
  object : Object
  page : Nat
  temporary : Bool

structure Contents where
  entries : List Entry
  userVersion : Int
  applicationId : Int
  /-- How often the objects have changed. -/
  version : Nat
  /-- What is said when something is asked for that the file should hold, if nobody can read it. -/
  unreadable : Option String

namespace Contents

def empty : Contents := ⟨[], 0, 0, 0, none⟩

def ofUnreadable (message : String) : Contents := { empty with unreadable := some message }

def objects (d : Contents) : List Object := d.entries.map (·.object)

def tables (d : Contents) : List Table :=
  d.objects.filterMap fun
    | .table t => some t
    | _ => none

def table? (d : Contents) (name : String) : Option Table :=
  (found true).or (found false)
where
  /-- The table among those that go away, or among the others. -/
  found (temporary : Bool) : Option Table :=
    d.entries.findSome? fun e =>
      match e.object with
      | .table t => if sameName t.name name && e.temporary == temporary then some t else none
      | _ => none

def view? (d : Contents) (name : String) : Option View :=
  d.objects.findSome? fun
    | .view v => if sameName v.name name then some v else none
    | _ => none

def index? (d : Contents) (name : String) : Option Index :=
  d.objects.findSome? fun
    | .index i => if sameName i.name name then some i else none
    | _ => none

def trigger? (d : Contents) (name : String) : Option Trigger :=
  d.objects.findSome? fun
    | .trigger t => if sameName t.name name then some t else none
    | _ => none

def indexesOf (d : Contents) (table : String) : List Index :=
  d.objects.filterMap fun
    | .index i => if sameName i.table table then some i else none
    | _ => none

def triggersOf (d : Contents) (table : String) : List Trigger :=
  (d.objects.filterMap fun
    | .trigger t => if sameName t.table table then some t else none
    | _ => none).reverse

def freePage (d : Contents) : Nat :=
  let taken := d.entries.map (·.page)
  ((List.range (taken.length + 1)).find? fun n => !taken.contains (n + 2)).getD 0 + 2

def isClustered (d : Contents) (i : Index) : Bool :=
  i.origin == .primaryKey && (d.table? i.table).any (·.withoutRowid)

def pageFor (d : Contents) (o : Object) : Nat :=
  match o with
  | .index i =>
    if d.isClustered i then (d.entries.find? (sameName ·.object.name i.table)).elim 0 (·.page)
    else d.freePage
  | .table _ => d.freePage
  | _ => 0

def add (d : Contents) (o : Object) (temporary : Bool) : Contents :=
  { d with entries := d.entries ++ [⟨o, d.pageFor o, temporary⟩], version := d.version + 1 }

def remove (d : Contents) (gone : Object → Bool) : Contents :=
  { d with entries := d.entries.filter fun e => !gone e.object }

def mapObjects (d : Contents) (f : Object → Object) : Contents :=
  { d with entries := d.entries.map fun e => { e with object := f e.object } }

def mapTable (d : Contents) (name : String) (f : Table → Table) : Contents :=
  d.mapObjects fun
    | .table t => .table (if sameName t.name name then f t else t)
    | o => o

def isListed (d : Contents) : Object → Bool
  | .index i => !d.isClustered i
  | _ => true

def catalogue (d : Contents) (temporary : Bool) : List (List Value) :=
  (d.entries.filter fun e => e.temporary == temporary && d.isListed e.object).map fun e =>
    [.ofString e.object.kind, .ofString e.object.name, .ofString e.object.tableName,
      .integer e.page, (e.object.sql?.map Value.ofString).getD .null]

end Contents

def Table.column? (t : Table) (name : String) : Option Nat :=
  t.columns.findIdx? (sameName ·.name name)

def Table.keyColumns (t : Table) : List Nat :=
  ((t.columns.zipIdx.filter fun (c, _) => 0 < c.keyPlace).mergeSort
    fun a b => a.1.keyPlace ≤ b.1.keyPlace).map (·.2)

def Table.row? (t : Table) (number : Int) : Option Stored := t.rows.find? (·.number = number)

end QueryWarden.Database
