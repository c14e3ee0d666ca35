import QueryWarden.Database.Value

/-! Statements of the database's own language as trees. -/
namespace QueryWarden.Database

structure Name where
  text : String
  raw : String
  offset : Nat
  /-- Whether it stands in double quotes, where it may be a text after all. -/
  doubtful : Bool
deriving Repr, DecidableEq

inductive BinaryOp where
  | or
  | and
  | equal
  | unequal
  | less
  | lessEqual
  | greater
  | greaterEqual
  | is
  | isNot
  | bitAnd
  | bitOr
  | shiftLeft
  | shiftRight
  | add
  | subtract
  | multiply
  | divide
  | remainder
  | concat
  | extract
  | extractText
deriving Repr, DecidableEq

inductive UnaryOp where
  | plus
  | minus
  | complement
  | not
deriving Repr, DecidableEq

inductive PatternOp where
  | like
  | glob
  | regexp
  | matches
deriving Repr, DecidableEq

inductive SetOp where
  | union
  | unionAll
  | intersect
  | except
deriving Repr, DecidableEq

def SetOp.title : SetOp → String
  | .union => "UNION"
  | .unionAll => "UNION ALL"
  | .intersect => "INTERSECT"
  | .except => "EXCEPT"

inductive JoinKind where
  | inner
  /-- The same, but never in another order. -/
  | cross
  | left
  | right
  | full
deriving Repr, DecidableEq

inductive Resolution where
  | abort
  | rollback
  | fail
  | ignore
  | replace
deriving Repr, DecidableEq

inductive FrameUnit where
  | rows
  | groups
  | range
deriving Repr, DecidableEq

inductive FrameGap where
  | nothing
  | row
  | peers
  | ties
deriving Repr, DecidableEq

mutual
inductive Expr where
  | value (v : Value)
  | name (parts : List Name)
  | variable
  | unary (op : UnaryOp) (e : Expr)
  | binary (op : BinaryOp) (left right : Expr)
  | isNull (negated : Bool) (e : Expr)
  | between (negated : Bool) (e low high : Expr)
  | inList (negated : Bool) (e : Expr) (items : List Expr)
  | inQuery (negated : Bool) (e : Expr) (q : Query)
  | pattern (op : PatternOp) (negated : Bool) (e p : Expr) (escape : Option Expr)
  | case (base : Option Expr) (arms : List (Expr × Expr)) (other : Option Expr)
  | cast (e : Expr) (type : String)
  | collate (e : Expr) (collation : String)
  | call (function : Name) (distinct star : Bool) (arguments : List Expr) (order : List OrderTerm)
      (filter : Option Expr)
  | window (function : Name) (distinct star : Bool) (arguments : List Expr) (filter : Option Expr)
      (w : WindowSpec)
  | exists (q : Query)
  | scalar (q : Query)
  | tuple (items : List Expr)
  | raise (action : Resolution) (message : String)
inductive FrameBound where
  | first
  | before (e : Expr)
  | here
  | behind (e : Expr)
  | last
inductive FrameSpec where
  | mk (unit : FrameUnit) (start stop : FrameBound) (gap : FrameGap)
/-- How rows are put apart and ordered for a function over the rows around each, starting from a window
that has a name, if any; `bare` tells whether there is nothing but the name. -/
inductive WindowSpec where
  | mk (base : Option Name) (bare : Bool) (partition : List Expr) (order : List OrderTerm)
      (frame : Option FrameSpec)
/-- A query: the names it defines, its body, the order of its rows, and how many of them. -/
inductive Query where
  | mk (tables : List CommonTable) (body : QueryBody) (order : List OrderTerm)
      (limit offset : Option Expr)
inductive CommonTable where
  | mk (name : Name) (columns : List String) (query : Query)
inductive OrderTerm where
  | mk (e : Expr) (descending : Bool) (nullsFirst : Option Bool)
inductive QueryBody where
  | select (distinct : Bool) (results : List ResultItem) (sources : List Source)
      (filter : Option Expr) (groups : List Expr) (having : Option Expr)
      (windows : List (Name × WindowSpec))
  | values (rows : List (List Expr))
  | compound (op : SetOp) (left right : QueryBody)
inductive ResultItem where
  | all
  | allOf (table : Name)
  /-- An expression, its name if it has been given one, and what was written for it. -/
  | expr (e : Expr) (label : Option String) (span : String)
inductive Source where
  | mk (kind : JoinKind) (natural : Bool) (what : SourceKind) (label : Option String)
      (on : Option Expr) (common : List String)
inductive SourceKind where
  | table (schema : Option Name) (name : Name)
  | function (name : Name) (arguments : List Expr)
  | query (q : Query)
  | group (sources : List Source)
end

structure Reference where
  table : String
  columns : List String
  onDelete : String
  onUpdate : String

inductive ColumnRule where
  | primaryKey (descending autoIncrement : Bool) (onConflict : Option Resolution)
  | notNull (onConflict : Option Resolution)
  | unique (onConflict : Option Resolution)
  | check (name : Option String) (e : Expr) (span : String)
  | default (e : Expr) (span : String)
  | collate (collation : String)
  | references (r : Reference)
  | generated (e : Expr) (stored : Bool)

structure ColumnDef where
  name : Name
  type : String
  rules : List ColumnRule

inductive TableRule where
  | primaryKey (columns : List (String × Option String)) (autoIncrement : Bool)
      (onConflict : Option Resolution)
  | unique (columns : List (String × Option String)) (onConflict : Option Resolution)
  | check (name : Option String) (e : Expr) (span : String)
  | foreignKey (columns : List String) (r : Reference)

inductive InsertSource where
  | query (q : Query)
  | defaults

structure Upsert where
  columns : List Expr
  /-- The columns that are set, if any. -/
  sets : Option (List (List String × Expr))
  filter : Option Expr

inductive TriggerTime where
  | before
  | after
  | insteadOf
deriving Repr, DecidableEq

inductive TriggerEvent where
  | insert
  | delete
  | update (columns : List String)
deriving Repr, DecidableEq

inductive ObjectKind where
  | table
  | view
  | index
  | trigger
deriving Repr, DecidableEq

inductive Change where
  | insert (tables : List CommonTable) (table : Name) (onConflict : Option Resolution)
      (columns : List Name) (source : InsertSource) (upserts : List Upsert)
      (returning : List ResultItem)
  | update (tables : List CommonTable) (onConflict : Option Resolution) (table : Name)
      (label : Option String) (sets : List (List Name × Expr)) (sources : List Source)
      (filter : Option Expr) (returning : List ResultItem)
  | delete (tables : List CommonTable) (table : Name) (label : Option String)
      (filter : Option Expr) (returning : List ResultItem)

inductive TriggerStep where
  | change (c : Change)
  | query (q : Query)

inductive Statement where
  | query (q : Query)
  | change (c : Change)
  | createTable (temporary ifMissing : Bool) (name : Name) (columns : List ColumnDef)
      (rules : List TableRule) (withoutRowid strict : Bool) (sql : String)
  | createTableAs (temporary ifMissing : Bool) (name : Name) (q : Query)
  | createView (temporary ifMissing : Bool) (name : Name) (columns : List String) (q : Query)
      (sql : String)
  | createIndex (unique ifMissing : Bool) (name table : Name)
      (columns : List (Expr × Option String × Bool)) (filter : Option Expr) (sql : String)
  | createTrigger (temporary ifMissing : Bool) (name : Name) (time : TriggerTime)
      (event : TriggerEvent) (table : Name) (condition : Option Expr) (steps : List TriggerStep)
      (sql : String)
  | drop (kind : ObjectKind) (ifThere : Bool) (schema : Option Name) (name : Name)
  | renameTable (table newName : Name)
  | renameColumn (table column newName : Name)
  | addColumn (table : Name) (column : ColumnDef) (sql : String)
  | dropColumn (table column : Name)
  | pragma (schema : Option Name) (name : Name) (argument : Option String)
  | begin (immediate : Bool)
  | commit
  | rollback (savepoint : Option String)
  | savepoint (name : String)
  | release (name : String)
  | attach (file name : Expr)
  | detach (name : Expr)
  | vacuum
  | analyze (name : Option Name)
  | reindex (name : Option Name)
  | explain (plan : Bool) (s : Statement)

end QueryWarden.Database
