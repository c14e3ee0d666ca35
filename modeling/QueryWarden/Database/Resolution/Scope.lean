import QueryWarden.Database.Plan
import QueryWarden.Database.Reader

/-! Where names are looked up: the sources of the query at hand, the names that it gives to its results,
and then the same of the queries around it. -/
namespace QueryWarden.Database

def Contents.refuseUnreadable {m : Type → Type} [Monad m] [MonadExcept Fault m] (d : Contents) : m Unit :=
  match d.unreadable with
  | some message => throw (.of message)
  | none => pure ()

structure Field where
  name : String
  affinity : Option Affinity
  collation : Option Collation
  /-- The type as it was declared. -/
  type : String

structure Origin where
  label : String
  fields : List Field
  start : Nat
  /-- The cell with the number of the row. -/
  number : Option Nat
  /-- Columns that a join by common names has merged with earlier ones. -/
  merged : List String
  table : Option Table

inductive AggregateUse where
  | allowed
  /-- Not in a condition on single rows, where the query has none elsewhere. -/
  | forbidden
  /-- Not in a condition on single rows. -/
  | misplaced
  /-- Not in what rows are put into groups by. -/
  | grouping
deriving Repr, DecidableEq

structure Scope where
  origins : List Origin
  /-- The names given to results. -/
  aliases : List (String × Term)
  /-- Columns that two sources have in common and of which either may be missing. -/
  shared : List (String × Term)
  aggregates : AggregateUse
  /-- The windows that have a name; none where no function over windows may stand. -/
  windows : Option (List (Name × WindowSpec))

def Scope.blank : Scope := ⟨[], [], [], .forbidden, none⟩

inductive Known where
  /-- Another query. -/
  | query (t : CommonTable)
  /-- The rows that a recursive query has found last. -/
  | working (id : Nat) (fields : List Field)

structure KnownGroup where
  names : List (String × Known)
  depth : Nat

/-- What a query is resolved in: the database, the scopes around it, the innermost first, names for
queries, those names that are being resolved, and whether faults have a place. -/
structure Context where
  database : Contents
  scopes : List Scope
  known : List KnownGroup
  pending : List String
  placeless : Bool

/-- What resolving a query gathers: its functions over rows and windows, and a number for the next
recursive query. -/
structure Gathered where
  calls : List AggregateCall
  windows : List Window
  nextId : Nat

abbrev Resolver := StateT Gathered (Except Fault)

def Context.fault (x : Context) (message : String) (offset : Nat) : Fault :=
  if x.placeless || offset = 0 then .of message else .near message offset

def Context.forbidding (x : Context) : Context :=
  match x.scopes with
  | s :: rest => { x with scopes := { s with aggregates := .forbidden, windows := none } :: rest }
  | [] => x

def Context.windowless (x : Context) : Context :=
  match x.scopes with
  | s :: rest => { x with scopes := { s with windows := none } :: rest }
  | [] => x

def Origin.cell (o : Origin) (level i : Nat) (f : Field) : Term :=
  .cell level (o.start + i) f.affinity f.collation

def Origin.find (o : Origin) (level : Nat) (name : String) (merged : Bool) : List Term :=
  if !merged && o.merged.any (sameName · name) then []
  else
    match o.fields.findIdx? (sameName ·.name name) with
    | some i => (o.fields[i]?).elim [] fun f => [o.cell level i f]
    | none => []

def isNumberName (name : String) : Bool :=
  sameName name "rowid" || sameName name "_rowid_" || sameName name "oid"

def Scope.numbers (s : Scope) (level : Nat) : List Term :=
  s.origins.filterMap fun o => o.number.map fun i => .cell level i (some .integer) (some .binary)

def Scope.plain (s : Scope) (level : Nat) (name : String) : List Term :=
  match s.shared.find? (sameName ·.1 name) with
  | some (_, t) => if level = 0 then [t] else []
  | none =>
    match s.origins.flatMap (·.find level name false) with
    | [] =>
      match if isNumberName name then s.numbers level else [] with
      | [] =>
        match s.aliases.find? (sameName ·.1 name) with
        | some (_, t) => if level = 0 then [t] else []
        | none => []
      | ts => ts
    | ts => ts

def Scope.labelled (s : Scope) (level : Nat) (label name : String) : List Term :=
  let origins := s.origins.filter (sameName ·.label label)
  match origins.flatMap (·.find level name true) with
  | [] => if isNumberName name then ({ s with origins := origins }).numbers level else []
  | ts => ts

def lookUp (meanings : Scope → Nat → List Term) : (level : Nat) → List Scope → List Term
  | _, [] => []
  | level, s :: rest =>
    match meanings s level with
    | [] => lookUp meanings (level + 1) rest
    | ts => ts

def Context.name (x : Context) (parts : List Name) : Except Fault Term :=
  let written := ".".intercalate (parts.map (·.text))
  let offset := (parts.head?.map (·.offset)).getD 0
  let found := match parts with
    | [n] => lookUp (fun s level => s.plain level n.text) 0 x.scopes
    | [t, n] => lookUp (fun s level => s.labelled level t.text n.text) 0 x.scopes
    | [d, t, n] =>
      if sameName d.text "main" || sameName d.text "temp" then
        lookUp (fun s level => s.labelled level t.text n.text) 0 x.scopes
      else []
    | _ => []
  match found with
  | [t] => .ok t
  | [] =>
    match parts with
    | [n] =>
      if n.doubtful then .ok (.value (.ofString n.text))
      else if n.raw = n.text && sameName n.text "true" then .ok (.value (.integer 1))
      else if n.raw = n.text && sameName n.text "false" then .ok (.value (.integer 0))
      else .error (x.fault ("no such column: " ++ written) offset)
    | _ => .error (x.fault ("no such column: " ++ written) offset)
  | _ => .error (x.fault ("ambiguous column name: " ++ written) offset)

def Column.field (c : Column) : Field := ⟨c.name, some c.affinity, some c.collation, c.type⟩

def catalogueFields : List Field :=
  [⟨"type", some .text, some .binary, "TEXT"⟩, ⟨"name", some .text, some .binary, "TEXT"⟩,
    ⟨"tbl_name", some .text, some .binary, "TEXT"⟩, ⟨"rootpage", some .integer, some .binary, "INT"⟩,
    ⟨"sql", some .text, some .binary, "TEXT"⟩]

def catalogueNamed? (name : String) : Option Bool :=
  if sameName name "sqlite_master" || sameName name "sqlite_schema" then some false
  else if sameName name "sqlite_temp_master" || sameName name "sqlite_temp_schema" then some true
  else none

def distinctNames (names : List String) : List String :=
  names.foldl (fun seen n => seen ++ [fresh seen n 1 4]) []
where
  /-- A name that none of others is; `bound` bounds the number of attempts. -/
  fresh (seen : List String) (n : String) (count : Nat) : (bound : Nat) → String
    | 0 => n
    | bound + 1 =>
      if seen.any (sameName · n) then
        fresh seen (base n ++ ":" ++ toString count) (count + 1) bound
      else n
  /-- A name without a number behind it. -/
  base (n : String) : String :=
    let cs := n.toList.reverse
    match cs.dropWhile Char.isDigit with
    | ':' :: rest => if rest.isEmpty || !cs.any Char.isDigit then n else String.ofList rest.reverse
    | _ => n

end QueryWarden.Database
