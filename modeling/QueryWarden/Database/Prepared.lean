import QueryWarden.Database.Alteration

/-! Statements ready to run: the columns of their rows, and whether they leave the database as it is. -/
namespace QueryWarden.Database

/-- A statement ready to run. -/
structure Prepared where
  /-- Whether it leaves the database as it is. -/
  isReadOnly : Bool
  columns : List String
  run : Writing (Rows (List Value))

namespace Prepared

def fixed (columns : List String) (rows : List (List Value)) : Prepared :=
  ⟨true, columns, return .ofList rows⟩

def act (isReadOnly : Bool) (w : Writing Unit) : Prepared := ⟨isReadOnly, [], do w; return .done⟩

def query (a : Answer) : Prepared :=
  ⟨true, a.columns.map (·.shown), do
    return a.plan.rows evalDepth ((← get).surroundings [])⟩

end Prepared

def keepingReferences (w : Writing Unit) : Writing Unit := do
  w
  let s ← get
  if s.keepsReferences && !s.referencesHold then throw (.of "FOREIGN KEY constraint failed")

def Session.undo (start : Session) (f : Fault) : Writing Unit := do
  match f.resolution with
  | .fail => throw f
  | .ignore => pure ()
  | .rollback =>
    modify fun s => { s with database := start.before.getD start.database, before := none, savepoints := [] }
    throw f
  | _ =>
    modify fun s => { s with database := start.database }
    throw f

/-- Runs a change so that a fault undoes what it asks to undo. -/
def atomically (w : Writing Unit) : Writing Unit := do
  let start ← get
  set { start with written := [], reduced := [], changes := 0 }
  tryCatch (keepingReferences w) start.undo

def Plan.explained (p : Plan) : List (List Value) :=
  match p with
  | .select _ joins _ _ _ _ _ _ _ _ =>
    if joins.isEmpty then [[.integer 1, .integer 0, .integer 0, .ofString "SCAN CONSTANT ROW"]]
    else joins.zipIdx.filterMap fun
      | (.mk _ _ _ (.scan table _) _, i) =>
        some [.integer (2 + i), .integer 0, .integer 216, .ofString ("SCAN " ++ table)]
      | _ => none
  | .values rows =>
    if rows.length = 1 then
      [[.integer 1, .integer 0, .integer 0, .ofString "SCAN CONSTANT ROW"]]
    else [[.integer 1, .integer 0, .integer 0, .ofString (toString rows.length ++ "-ROW VALUES CLAUSE")]]
  | _ => []

def looseSettings : List String :=
  ["busy_timeout", "locking_mode", "mmap_size", "wal_autocheckpoint", "secure_delete",
    "journal_size_limit", "threads", "soft_heap_limit", "hard_heap_limit", "max_page_count",
    "analysis_limit"]

def saysYes (s : String) : Bool :=
  ["on", "yes", "true"].any (sameName s) || (s.toInt?).any (· ≠ 0)

def pragmaOfSetting (d : Contents) (name : String) (argument : Option String) : Option Prepared :=
  let is (n : String) : Bool := sameName name n
  let number : Int := (argument.bind String.toInt?).getD 0
  match argument with
  | none =>
    (d.setting? name).map fun v =>
      let shown := TableFunction.named?.lower name
      { Prepared.fixed [if is "busy_timeout" then "timeout" else shown] [[v]] with
        isReadOnly := !is "journal_mode" }
  | some a =>
    if is "user_version" then
      some (.act false (change fun d => { d with userVersion := number }))
    else if is "application_id" then
      some (.act false (change fun d => { d with applicationId := number }))
    else if is "schema_version" then
      some (.act false (change fun d => { d with version := number.toNat }))
    else if is "foreign_keys" then
      some (.act true (modify fun s =>
        if s.before.isSome then s else { s with keepsReferences := saysYes a }))
    else if is "recursive_triggers" then
      some (.act true (modify fun s => { s with recursiveTriggers := saysYes a }))
    else if is "journal_mode" then
      some { Prepared.fixed ["journal_mode"] [[.ofString (TableFunction.named?.lower a)]] with isReadOnly := false }
    else if looseSettings.any is then
      some (.fixed [if is "busy_timeout" then "timeout" else TableFunction.named?.lower name]
        [[if a.toInt?.isSome then .integer number else .ofString a]])
    else (d.setting? name).map fun _ => .fixed [] []

def brokenReferences (d : Contents) (only : Option String) : List (List Value) :=
  d.tables.flatMap fun t =>
    if only.any (!sameName · t.name) then []
    else t.references.zipIdx.flatMap fun (k, i) =>
      (t.rows.filter fun r =>
        !d.referencesHold { t with references := [k] } none [r]).map fun r =>
          [.ofString t.name, .integer r.number, .ofString k.target, .integer i]

def viewColumns (d : Contents) (generated : Bool) (name : Name) : List (List Value) :=
  match (Query.mk [] (.select false [.all] [.mk .inner false (.table none name) none none []] none [] none [])
      [] none none).answer ⟨d, [], [], [], true⟩ with
  | .ok a => (a.fields.zip a.columns).zipIdx.map fun ((f, _), i) =>
      [.integer i, .ofString f.name, .ofString f.type, .integer 0, .null, .integer 0] ++
        (if generated then [.integer 0] else [])
  | .error _ => []

def Contents.pragma (d : Contents) (n : Name) (argument : Option String) : Prepared :=
  let is (m : String) : Bool := sameName n.text m
  if is "integrity_check" || is "quick_check" then
    .fixed [TableFunction.named?.lower n.text] [[.ofString "ok"]]
  else if is "foreign_key_check" then
    .fixed ["table", "rowid", "parent", "fkid"] (brokenReferences d argument)
  else if is "wal_checkpoint" then
    { Prepared.fixed ["busy", "log", "checkpointed"] [[.integer 0, .integer (-1), .integer (-1)]] with
      isReadOnly := false }
  else if is "incremental_vacuum" then .act false (pure ())
  else if is "default_cache_size" then
    if argument.isSome then .act false (pure ()) else .fixed ["cache_size"] [[.integer (-2000)]]
  else if is "collation_list" then
    .fixed ["seq", "name"] [[.integer 0, .ofString "RTRIM"], [.integer 1, .ofString "NOCASE"],
      [.integer 2, .ofString "BINARY"]]
  else
    match TableFunction.named? n.text with
    | none => .fixed [] []
    | some (.setting _) => (pragmaOfSetting d n.text argument).getD (.fixed [] [])
    | some f =>
      let columns := f.fields.map (·.1)
      match f, argument with
      | .tableList, none => .fixed columns (f.rows d [])
      | _, none => .fixed columns []
      | .columns generated, some a =>
        if (d.view? a).isSome && (d.table? a).isNone then
          .fixed columns (viewColumns d generated ⟨a, a, 0, false⟩)
        else .fixed columns (f.rows d [.ofString a])
      | f, some a => .fixed columns (f.rows d [.ofString a])

def beginTransaction : Writing Unit := do
  if (← get).before.isSome then throw (.of "cannot start a transaction within a transaction")
  modify fun s => { s with before := some s.database }

def commitTransaction : Writing Unit := do
  if (← get).before.isNone then throw (.of "cannot commit - no transaction is active")
  modify fun s => { s with before := none, savepoints := [] }

def rollBack (savepoint : Option String) : Writing Unit := do
  let s ← get
  match savepoint with
  | none =>
    match s.before with
    | none => throw (.of "cannot rollback - no transaction is active")
    | some d => set { s with database := d, before := none, savepoints := [] }
  | some n =>
    match s.savepoints.dropWhile fun p => !sameName p.1 n with
    | [] => throw (.of ("no such savepoint: " ++ n))
    | p :: rest => set { s with database := p.2, savepoints := p :: rest }

def setSavepoint (n : String) : Writing Unit :=
  modify fun s =>
    { s with before := s.before.or (some s.database)
             savepoints := (if s.before.isNone then (n, s.database) :: ("", s.database) :: s.savepoints
               else (n, s.database) :: s.savepoints) }

def releaseSavepoint (n : String) : Writing Unit := do
  let s ← get
  match s.savepoints.dropWhile fun p => !sameName p.1 n with
  | [] => throw (.of ("no such savepoint: " ++ n))
  | _ :: rest =>
    match rest with
    | [("", _)] => set { s with savepoints := [], before := none }
    | rest => set { s with savepoints := rest }

def attachFile (there : String → Bool) (file : Term) : Writing Unit := do
  let v ← valueOf [] file
  let path := match Text.Utf8.decode (v.bytes?.getD []) with
    | .ok cs => String.ofList cs
    | .error _ => ""
  unless path.isEmpty || path = ":memory:" || there path do
    throw (.of ("unable to open database: " ++ path))

def keptSettings : List String :=
  ["user_version", "application_id", "schema_version", "data_version", "freelist_count"]

def settingsOfObjects : List String :=
  ["cache_size", "synchronous", "auto_vacuum", "journal_mode", "max_page_count", "wal_checkpoint",
    "encoding", "incremental_vacuum", "integrity_check", "quick_check", "foreign_key_check", "default_cache_size"]

def asksForObjects (setting : String) : Bool :=
  settingsOfObjects.any (sameName · setting) ||
    match TableFunction.named? setting with
    | none | some (.setting _) => false
    | some _ => true

/-- Whether the objects of a database have to be known before a statement runs. A query finds out by
itself. -/
def Statement.asksForObjects : Statement → Bool
  | .query _ | .explain _ _ | .begin _ | .commit | .rollback _ | .savepoint _ | .release _ | .attach _ _
  | .detach _ | .vacuum => false
  | .pragma _ n _ => Database.asksForObjects n.text
  | _ => true

def Prepared.lookingInto (d : Contents) (p : Prepared) : Prepared :=
  { p with run := do
      d.refuseUnreadable
      p.run }

def Contents.reindexed (d : Contents) : Option Name → List Index
  | none => d.tables.flatMap (d.indexesOf ·.name)
  | some n =>
    match Collation.named? n.text with
    | some c => (d.tables.flatMap (d.indexesOf ·.name)).filter fun i =>
        i.parts.any fun p => p.column.isSome && p.collation == c
    | none => if (d.table? n.text).isSome then d.indexesOf n.text else (d.index? n.text).toList

def Prepared.explained (isReadOnly plan : Bool) : Prepared :=
  ⟨isReadOnly, if plan then ["id", "parent", "notused", "detail"]
    else ["addr", "opcode", "p1", "p2", "p3", "p4", "p5", "comment"], return .done⟩

/-- A statement ready to run on a database that can be read; `there` tells which files can be opened. -/
def Statement.ready (d : Contents) (there : String → Bool) (s : Statement) : Except Fault Prepared := do
  let x : Context := ⟨d, [], [], [], false⟩
  match s with
  | .query q => return .query (← q.answer x)
  | .change c =>
    let p ← c.resolve x
    return .act false (atomically (p.run evalDepth .outermost))
  | .createTable temporary ifMissing n columns rules withoutRowid strict sql =>
    return .act false (atomically (← d.createTable temporary ifMissing n columns rules withoutRowid strict sql))
  | .createTableAs temporary ifMissing n q =>
    return .act false (atomically (← d.createTableAs temporary ifMissing n q))
  | .createView temporary ifMissing n columns q sql =>
    return .act false (atomically (← d.createView temporary ifMissing n columns q sql))
  | .createIndex unique ifMissing n table columns filter sql =>
    return .act false (atomically (← d.createIndex unique ifMissing n table columns filter sql))
  | .createTrigger temporary ifMissing n time event table condition steps sql =>
    return .act (ifMissing && (d.trigger? n.text).isSome) (atomically (← d.createTrigger temporary ifMissing
      ⟨n.text, table.text, time, event, condition, steps, sql⟩ n))
  | .drop kind ifThere schema n =>
    return .act (kind == .trigger && (d.trigger? n.text).isNone) (atomically (← d.drop kind ifThere schema n))
  | .renameTable table n => return .act false (atomically (← d.renameTable table n))
  | .renameColumn table column n => return .act false (atomically (← d.renameColumn table column n))
  | .addColumn table column sql => return .act false (atomically (← d.addColumn table column sql))
  | .dropColumn table column => return .act false (atomically (← d.dropColumn table column))
  | .pragma _ n argument =>
    let p := d.pragma n argument
    return if keptSettings.any (sameName · n.text) then p.lookingInto d else p
  | .begin immediate => return .act (!immediate) beginTransaction
  | .commit => return .act true commitTransaction
  | .rollback name? => return .act true (rollBack name?)
  | .savepoint n => return .act true (setSavepoint n)
  | .release n => return .act true (releaseSavepoint n)
  | .attach file _ => return .act true (attachFile there (← file.term x))
  | .detach e => return .act true do
    let v ← valueOf [] (← attempt (e.term x))
    let name := String.ofList ((v.bytes?.getD []).map charOf)
    throw (.of ("no such database: " ++ name))
  | .vacuum => return (Prepared.act false (pure ())).lookingInto d
  | .analyze n | .reindex n =>
    if let some n := n then
      if (d.table? n.text).isNone && (d.index? n.text).isNone && (Collation.named? n.text).isNone &&
          !sameName n.text "main" then
        throw (.of (match s with
          | .analyze _ => "no such table: " ++ n.text
          | _ => "unable to identify the object to be reindexed"))
    return match s with
      | .reindex n => .act (d.reindexed n).isEmpty (pure ())
      | _ => .act false (pure ())
  | .explain plan (.query q) =>
    let a ← q.answer x
    return if plan then .fixed ["id", "parent", "notused", "detail"] a.plan.explained else .explained true plan
  | .explain _ (.change c) =>
    let _ ← c.resolve x
    return .act false (pure ())
  | .explain plan (.pragma _ n argument) => return .explained (d.pragma n argument).isReadOnly plan
  | .explain plan (.begin immediate) => return .explained (!immediate) plan
  | .explain plan .commit | .explain plan (.rollback _) | .explain plan (.savepoint _)
  | .explain plan (.release _) => return .explained true plan
  | .explain _ _ => return .act false (pure ())

def Statement.prepare (d : Contents) (there : String → Bool) (s : Statement) : Except Fault Prepared := do
  if s.asksForObjects then d.refuseUnreadable
  s.ready d there

end QueryWarden.Database
