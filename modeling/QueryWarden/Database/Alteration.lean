import QueryWarden.Database.Change
import QueryWarden.Database.Grammar.Statement

/-! Changing what a database holds: making and dropping tables, indexes, views and triggers, and altering
tables. An alteration also changes the statements that the catalogue keeps, token by token. What a statement
cannot do is known before it runs; what its rows do not allow shows when it runs. -/
namespace QueryWarden.Database

def refuseTaken (d : Contents) (kind : String) (n : Name) : Except Fault Unit := do
  if (d.table? n.text).isSome then throw (.near (kind ++ " " ++ n.raw ++ " already exists") n.offset)
  if (d.view? n.text).isSome then throw (.near ("view " ++ n.raw ++ " already exists") n.offset)
  if (d.index? n.text).isSome then
    throw (.of ("there is already an index named " ++ n.text))

def statementOf (sql : String) : Except Fault Statement := do
  match ← Grammar.firstStatement sql with
  | (some s, _) => return s
  | _ => throw (.of "malformed database schema")

def tableOf (d : Contents) (name sql : String) : Except Fault (Table × List Index) := do
  match ← statementOf sql with
  | .createTable _ _ _ columns rules withoutRowid strict _ =>
    Table.define d name columns rules withoutRowid strict sql
  | _ => throw (.of "malformed database schema")

def sequenceTable : Table :=
  let column (n : String) : Column := ⟨n, "", .blob, .binary, none, none, none, 0⟩
  ⟨"sqlite_sequence", [column "name", column "seq"], none, .abort, false, false, false, [], [],
    "CREATE TABLE sqlite_sequence(name,seq)", []⟩

def Contents.addTable (d : Contents) (t : Table) (indexes : List Index) (temporary : Bool) : Contents :=
  let e := indexes.foldl (fun e i => e.add (.index i) temporary) (d.add (.table t) temporary)
  let e := if t.increasing && (e.table? "sqlite_sequence").isNone then
      e.add (.table sequenceTable) temporary
    else e
  { e with version := d.version + 1 }

def Contents.createTable (d : Contents) (temporary ifMissing : Bool) (n : Name) (columns : List ColumnDef)
    (rules : List TableRule) (withoutRowid strict : Bool) (sql : String) : Except Fault (Writing Unit) := do
  checkName n.text
  if ifMissing && ((d.table? n.text).isSome || (d.view? n.text).isSome) then return pure ()
  refuseTaken d "table" n
  let (t, indexes) ← Table.define d n.text columns rules withoutRowid strict sql
  return change fun d => d.addTable t indexes temporary

def Contents.createTableAs (d : Contents) (temporary ifMissing : Bool) (n : Name) (q : Query) :
    Except Fault (Writing Unit) := do
  checkName n.text
  if ifMissing && ((d.table? n.text).isSome || (d.view? n.text).isSome) then return pure ()
  refuseTaken d "table" n
  let a ← q.answer ⟨d, [], [], [], false⟩
  return do
    let rows ← rowsOf [] a.plan
    let t := Table.ofFields n.text a.fields
    let stored := rows.zipIdx.map fun (r, i) => (⟨Int.ofNat i + 1, t.converted r⟩ : Stored)
    change fun d => d.addTable { t with rows := stored } [] temporary

def Contents.createView (d : Contents) (temporary ifMissing : Bool) (n : Name) (columns : List String) (q : Query)
    (sql : String) : Except Fault (Writing Unit) := do
  checkName n.text
  if ifMissing && ((d.table? n.text).isSome || (d.view? n.text).isSome) then return pure ()
  refuseTaken d "table" n
  return change fun d => d.add (.view ⟨n.text, columns, q, sql⟩) temporary

def Contents.createIndex (d : Contents) (unique ifMissing : Bool) (n table : Name)
    (columns : List (Expr × Option String × Bool)) (filter : Option Expr) (sql : String) :
    Except Fault (Writing Unit) := do
  let some t := d.table? table.text
    | if (d.view? table.text).isSome then throw (.of "views may not be indexed")
      throw (.of ("no such table: main." ++ table.text))
  if (isReserved t.name) then throw (.of ("table " ++ t.name ++ " may not be indexed"))
  checkName n.text
  if (d.table? n.text).isSome then throw (.of ("there is already a table named " ++ n.text))
  if (d.index? n.text).isSome then
    if ifMissing then return pure ()
    throw (.of ("index " ++ n.text ++ " already exists"))
  let parts ← columns.mapM fun (e, c, down) => indexPart d t e c down
  if let some f := filter then let _ ← f.term (t.context d)
  let index : Index :=
    ⟨n.text, t.name, parts, if unique then some .abort else none, filter, .created, some sql⟩
  return do
    let t ← tableNow table.text
    t.rows.forM fun r => do
      unless (← index.rivals t r (some r.number)).isEmpty do throw (.of (index.clash t))
    change fun d => d.add (.index index) false

def Contents.createTrigger (d : Contents) (temporary ifMissing : Bool) (g : Trigger) (n : Name) :
    Except Fault (Writing Unit) := do
  checkName n.text
  let isTable := (d.table? g.table).isSome
  let isView := (d.view? g.table).isSome
  if !isTable && !isView then throw (.of ("no such table: main." ++ g.table))
  if (d.trigger? n.text).isSome then
    if ifMissing then return pure ()
    throw (.near ("trigger " ++ n.raw ++ " already exists") n.offset)
  if isReserved g.table then throw (.of "cannot create trigger on system table")
  if isView && g.time ≠ .insteadOf then
    throw (.of ("cannot create " ++ (if g.time = .before then "BEFORE" else "AFTER") ++
      " trigger on view: " ++ g.table))
  if isTable && g.time = .insteadOf then
    throw (.of ("cannot create INSTEAD OF trigger on table: " ++ g.table))
  return change fun d => d.add (.trigger g) temporary

def dropTable (t : Table) : Writing Unit := do
  let s ← get
  if s.keepsReferences && !(s.database.referencesTo t.name).isEmpty then
    t.rows.forM fun r => orLeftOut (deleteRow evalDepth .outermost t.name r.number false)
  unless (← get).referencesHold do throw (.of "FOREIGN KEY constraint failed")
  change fun d =>
    let d := d.mapTable "sqlite_sequence" fun s =>
      { s with rows := s.rows.filter fun r => !((r.at 0).compare .binary (.ofString t.name) = .eq) }
    { d.remove fun o => sameName o.tableName t.name && (match o with
        | .view _ => false
        | _ => true) with version := d.version + 1 }

def Contents.drop (d : Contents) (kind : ObjectKind) (ifThere : Bool) (schema : Option Name) (n : Name) :
    Except Fault (Writing Unit) := do
  let written := match schema with
    | some s => s.text ++ "." ++ n.text
    | none => n.text
  let missing (what : String) : Except Fault (Writing Unit) :=
    if ifThere then return pure () else throw (.of ("no such " ++ what ++ ": " ++ written))
  let removed (gone : Object → Bool) : Writing Unit :=
    change fun d => { d.remove gone with version := d.version + 1 }
  match kind with
  | .table =>
    match d.table? n.text, d.view? n.text with
    | some t, _ =>
      if isReserved t.name && !sameName (String.ofList (t.name.toList.take 11)) "sqlite_stat" then
        throw (.of ("table " ++ t.name ++ " may not be dropped"))
      return dropTable t
    | none, some v => throw (.of ("use DROP VIEW to delete view " ++ v.name))
    | none, none =>
      if (catalogueNamed? n.text).isSome then
        throw (.of ("table " ++ n.text ++ " may not be dropped"))
      missing "table"
  | .view =>
    match d.view? n.text, d.table? n.text with
    | some v, _ =>
      return removed fun
        | .view w => sameName w.name v.name
        | .trigger g => sameName g.table v.name
        | _ => false
    | none, some t => throw (.of ("use DROP TABLE to delete table " ++ t.name))
    | none, none => missing "view"
  | .index =>
    match d.index? n.text with
    | some i =>
      if i.origin ≠ .created then
        throw (.of "index associated with UNIQUE or PRIMARY KEY constraint cannot be dropped")
      return removed fun
        | .index j => sameName j.name i.name
        | _ => false
    | none => missing "index"
  | .trigger =>
    match d.trigger? n.text with
    | some g =>
      return removed fun
        | .trigger h => sameName h.name g.name
        | _ => false
    | none => missing "trigger"

def editTokens (sql : String) (edit : (before : Option Token) → Token → String) : String :=
  let tokens := Token.ofText sql
  let shown := (tokens.foldl (fun (before, out) t => (some t, out ++ [t.gap ++ edit before t]))
    ((none : Option Token), ([] : List String))).2
  String.join shown

def Token.names (t : Token) (name : String) : Bool :=
  (t.kind = .word || t.kind = .quotedName) && sameName t.value name

def renamedTable (old new sql : String) : String :=
  editTokens sql fun _ t => if t.names old then quotedName new else t.raw

def renamedIndex (old new : String) (i : Index) : Index :=
  let start := "sqlite_autoindex_" ++ old
  { i with
    table := new
    sql := i.sql.map (renamedTable old new)
    name := if i.origin = .created || !sameName (String.ofList (i.name.toList.take start.length)) start then i.name
      else "sqlite_autoindex_" ++ new ++ String.ofList (i.name.toList.drop start.length) }

def Object.refreshed (o : Object) (d : Contents) : Object :=
  match o with
  | .table t =>
    match tableOf d t.name t.sql with
    | .ok (made, _) => .table { made with rows := t.rows }
    | .error _ => o
  | .view v =>
    match statementOf v.sql with
    | .ok (.createView _ _ n columns q sql) => .view ⟨n.text, columns, q, sql⟩
    | _ => o
  | .trigger g =>
    match statementOf g.sql with
    | .ok (.createTrigger _ _ n time event on condition steps sql) =>
      .trigger ⟨n.text, on.text, time, event, condition, steps, sql⟩
    | _ => o
  | .index i =>
    match i.sql.map statementOf, d.table? i.table with
    | some (.ok (.createIndex unique _ n _ columns filter sql)), some t =>
      match columns.mapM fun (e, c, down) => indexPart d t e c down with
      | .ok parts =>
        .index ⟨n.text, t.name, parts, if unique then some .abort else none, filter, .created, some sql⟩
      | .error _ => o
    | _, _ => o

def Contents.withTableNamed (d : Contents) (old new : String) : Contents :=
  let d := d.mapObjects fun
    | .table t =>
      if sameName t.name old then .table { t with name := new, sql := renamedTable old new t.sql }
      else if t.references.any fun k => sameName k.target old then
        .table { t with sql := renamedTable old new t.sql }
      else if t.name = "sqlite_sequence" then
        .table { t with rows := t.rows.map fun r =>
          if (r.at 0).compare .noCase (.ofString old) = .eq then ⟨r.number, [.ofString new, r.at 1]⟩ else r }
      else .table t
    | .index i => if sameName i.table old then .index (renamedIndex old new i) else .index i
    | .view v => .view { v with sql := renamedTable old new v.sql }
    | .trigger g =>
      .trigger { g with sql := renamedTable old new g.sql
                        table := if sameName g.table old then new else g.table }
  { d.mapObjects (·.refreshed d) with version := d.version + 1 }

def tablePieces (tokens : List Token) : List (Nat × Nat) :=
  let opened := (tokens.findIdx? (·.isSymbol "(")).getD 0
  let walk := (tokens.zipIdx.drop opened).foldl
    (fun (depth, start, pieces) (t, i) =>
      if t.isSymbol "(" then (depth + 1, if depth = 0 then i + 1 else start, pieces)
      else if t.isSymbol ")" then
        if depth = 1 then (0, start, pieces ++ [(start, i)]) else (depth - 1, start, pieces)
      else if t.isSymbol "," && depth = 1 then (depth, i + 1, pieces ++ [(start, i)])
      else (depth, start, pieces)) (0, 0, ([] : List (Nat × Nat)))
  walk.2.2

def spelled (tokens : List Token) : String := String.join (tokens.map fun t => t.gap ++ t.raw)

def withColumn (t : Table) (column : String) : String :=
  let tokens := Token.ofText t.sql
  let pieces := tablePieces tokens
  match pieces[t.columns.length - 1]? with
  | some (_, stop) => spelled (tokens.take stop) ++ ", " ++ column ++ spelled (tokens.drop stop)
  | none => t.sql

def withoutColumn (t : Table) (i : Nat) : String :=
  let tokens := Token.ofText t.sql
  let pieces := tablePieces tokens
  match pieces[i]?, pieces[i + 1]? with
  | some (start, _), some (next, _) =>
    if i + 1 < t.columns.length then
      spelled (tokens.take start) ++ ((tokens[start]?).map (·.gap)).getD "" ++
        ((spelled (tokens.drop next)).toList.dropWhile (· == ' ') |> String.ofList)
    else
      match pieces[i - 1]? with
      | some (_, stop) => spelled (tokens.take stop) ++ spelled (tokens.drop (next - 1))
      | none => t.sql
  | some (_, stop), none =>
    match pieces[i - 1]? with
    | some (_, last) => spelled (tokens.take last) ++ spelled (tokens.drop stop)
    | none => t.sql
  | _, _ => t.sql

def renamedColumn (old : String) (new : Name) (sql : String) : String :=
  let quoted := new.raw ≠ new.text
  editTokens sql fun before t =>
    if t.names old && !before.any (fun b => b.isWord "TABLE" || b.isWord "ON" || b.isWord "INDEX") then
      if t.kind = .word && !quoted then new.text else quotedName new.text
    else t.raw

def Expr.isLiteral : Expr → Bool
  | .value _ | .name _ => true
  | .unary .minus e | .unary .plus e | .cast e _ => e.isLiteral
  | _ => false

def Contents.addColumn (d : Contents) (table : Name) (column : ColumnDef) (written : String) :
    Except Fault (Writing Unit) := do
  let some t := d.table? table.text
    | if (d.view? table.text).isSome then throw (.of "Cannot add a column to a view")
      throw (.of ("no such table: " ++ table.text))
  if isReserved t.name then throw (.of ("table " ++ t.name ++ " may not be altered"))
  if (t.column? column.name.text).isSome then
    throw (.of ("duplicate column name: " ++ column.name.text))
  let made ← column.column
  if column.rules.any fun | .primaryKey _ _ _ => true | _ => false then
    throw (.of "Cannot add a PRIMARY KEY column")
  if column.rules.any fun | .unique _ => true | _ => false then
    throw (.of "Cannot add a UNIQUE column")
  let constant := made.default.all (·.1.isLiteral)
  let value ← match made.default with
    | some (e, _) =>
      if constant then do
        let v ← (← e.term ⟨d, [], [], [], false⟩).eval evalDepth ((Session.start d 0).surroundings [])
        pure (made.affinity.read (made.affinity.apply v))
      else pure Value.null
    | none => pure Value.null
  let sql := withColumn t written
  let (fresh, _) ← tableOf d t.name sql
  return do
    let t ← tableNow table.text
    if !t.rows.isEmpty then
      if made.generated.any (·.2) then throw (.of "cannot add a STORED column")
      let refers := column.rules.any fun | .references _ => true | _ => false
      if refers && !(constant && value.isNull) then
        throw (.of "Cannot add a REFERENCES column with non-NULL default value")
      if made.notNull.isSome && constant && value.isNull && made.generated.isNone then
        throw (.of "Cannot add a NOT NULL column with default value NULL")
      if !constant then throw (.of "Cannot add a column with non-constant default")
    let rows ← t.rows.mapM fun r => fresh.generate ⟨r.number, r.values ++ [value]⟩
    change fun d =>
      { d.mapTable t.name fun _ => { fresh with rows := rows } with version := d.version + 1 }

def Contents.dropColumn (d : Contents) (table column : Name) : Except Fault (Writing Unit) := do
  let some t := d.table? table.text
    | if (d.view? table.text).isSome then
        throw (.of ("cannot drop column from view \"" ++ table.text ++ "\""))
      throw (.of ("no such table: " ++ table.text))
  if isReserved t.name then throw (.of ("table " ++ t.name ++ " may not be altered"))
  let some i := t.column? column.text
    | throw (.of ("no such column: \"" ++ column.raw ++ "\""))
  let place := ((t.columns[i]?).map (·.keyPlace)).getD 0
  if 0 < place then throw (.of ("cannot drop PRIMARY KEY column: \"" ++ column.text ++ "\""))
  if (d.indexesOf t.name).any fun x => x.origin == .unique && x.parts.any (·.column == some i) then
    throw (.of ("cannot drop UNIQUE column: \"" ++ column.text ++ "\""))
  if t.columns.length = 1 then
    throw (.of ("cannot drop column \"" ++ column.text ++ "\": no other columns exist"))
  let sql := withoutColumn t i
  let after (message : String) : Fault :=
    .of ("error in table " ++ t.name ++ " after drop column: " ++ message)
  let (fresh, _) ← match tableOf d t.name sql with
    | .ok r => pure r
    | .error f => throw (after f.message)
  if let some x := (d.indexesOf t.name).find? fun x =>
      x.origin == .created && x.parts.any (·.column == some i) then
    throw (.of ("error in index " ++ x.name ++ " after drop column: no such column: " ++ column.text))
  return do
    let t ← tableNow table.text
    change fun d =>
      let d := d.mapTable t.name fun t =>
        { fresh with rows := t.rows.map fun r => ⟨r.number, r.values.eraseIdx i⟩ }
      let moved := d.mapObjects fun
        | .index x =>
          if sameName x.table t.name then
            .index { x with parts := x.parts.map fun p =>
              { p with column := p.column.map fun c => if i < c then c - 1 else c } }
          else .index x
        | o => o
      { moved with version := d.version + 1 }

def Contents.renameColumn (d : Contents) (table column new : Name) : Except Fault (Writing Unit) := do
  let some t := d.table? table.text
    | if (d.view? table.text).isSome then
        throw (.of ("cannot rename columns of view \"" ++ table.text ++ "\""))
      throw (.of ("no such table: " ++ table.text))
  if isReserved t.name then throw (.of ("table " ++ t.name ++ " may not be altered"))
  let some i := t.column? column.text
    | throw (.of ("no such column: \"" ++ column.raw ++ "\""))
  if (t.column? new.text).any (· != i) then
    throw (.of ("error in table " ++ t.name ++ " after rename: duplicate column name: " ++ new.text))
  return change fun d =>
    let d := d.mapObjects fun
      | .table u =>
        if sameName u.name t.name then .table { u with sql := renamedColumn column.text new u.sql }
        else .table u
      | .index x =>
        if sameName x.table t.name then .index { x with sql := x.sql.map (renamedColumn column.text new) }
        else .index x
      | .view v => .view { v with sql := renamedColumn column.text new v.sql }
      | .trigger g => .trigger { g with sql := renamedColumn column.text new g.sql }
    let d := d.mapObjects fun
      | .table u => (Object.table u).refreshed d
      | o => o
    { d.mapObjects (·.refreshed d) with version := d.version + 1 }

def Contents.renameTable (d : Contents) (table new : Name) : Except Fault (Writing Unit) := do
  let some t := d.table? table.text
    | if (d.view? table.text).isSome then
        throw (.of ("view " ++ table.text ++ " may not be altered"))
      throw (.of ("no such table: " ++ table.text))
  if isReserved t.name then throw (.of ("table " ++ t.name ++ " may not be altered"))
  if (d.table? new.text).isSome || (d.view? new.text).isSome || (d.index? new.text).isSome then
    throw (.of ("there is already another table or index with this name: " ++ new.text))
  checkName new.text
  return change fun d => d.withTableNamed t.name new.text

end QueryWarden.Database
