import QueryWarden.Database.Grammar.Query

/-! Reading statements. -/
namespace QueryWarden.Database.Grammar
open Reader

def onConflict : Reader (Option Resolution) := do
  if ← words ["ON", "CONFLICT"] then return some (← resolution) else return none

def descending : Reader Bool := do
  if ← word "DESC" then return true
  let _ ← word "ASC"
  return false

def referenceAction : Reader String := do
  if ← words ["SET", "NULL"] then return "SET NULL"
  if ← words ["SET", "DEFAULT"] then return "SET DEFAULT"
  if ← word "CASCADE" then return "CASCADE"
  if ← word "RESTRICT" then return "RESTRICT"
  if ← words ["NO", "ACTION"] then return "NO ACTION"
  fail

def deferral : Reader Unit := do
  let _ ← words ["NOT", "DEFERRABLE"]
  let _ ← word "DEFERRABLE"
  if ← word "INITIALLY" then
    if ← word "DEFERRED" then return
    expect "IMMEDIATE"

def reference : Reader Reference := do
  let table ← name
  let columns ← if (← peek).any (·.isSymbol "(") then names else pure []
  let actions ← many (do
    if ← words ["ON", "DELETE"] then return some (true, ← referenceAction)
    if ← words ["ON", "UPDATE"] then return some (false, ← referenceAction)
    if ← word "MATCH" then
      let _ ← name
      return some (false, "")
    return none) ((← left) + 1)
  deferral
  let last (ofDelete : Bool) : String :=
    ((actions.filter fun a => a.1 = ofDelete && a.2 ≠ "").getLast?.map (·.2)).getD "NO ACTION"
  return ⟨table.text, columns.map (·.text), last true, last false⟩

def columnRule? : Reader (Option ColumnRule) := do
  let named ← if ← word "CONSTRAINT" then some <$> name else pure none
  if ← words ["PRIMARY", "KEY"] then
    let down ← descending
    let conflict ← onConflict
    return some (.primaryKey down (← word "AUTOINCREMENT") conflict)
  if ← words ["NOT", "NULL"] then return some (.notNull (← onConflict))
  if ← word "NULL" then
    let _ ← onConflict
    return some (.default (.value .null) "")
  if ← word "UNIQUE" then return some (.unique (← onConflict))
  if ← word "CHECK" then
    expectSymbol "("
    let (e, written) ← spanned anyExpression
    expectSymbol ")"
    return some (.check (named.map (·.text)) e written)
  if ← word "DEFAULT" then
    if ← symbol "(" then
      let (e, written) ← spanned anyExpression
      expectSymbol ")"
      return some (.default e written)
    if (← peek).any fun t => t.isSymbol "-" || t.isSymbol "+" then
      let (e, written) ← spanned (operand depthLimit)
      return some (.default e written)
    let some t ← peek | fail
    if let some v := literal? t then
      let _ ← take fun _ => true
      return some (.default (.value v) t.raw)
    let n ← take Token.isLooseName
    if clockWords.any (n.isWord ·) then return some (.default (.call (nameOf n) false false [] [] none) n.raw)
    return some (.default (.value (.ofString n.value)) n.raw)
  if ← word "COLLATE" then return some (.collate (← take fun t => t.isLooseName || t.kind = .text).value)
  if ← word "REFERENCES" then return some (.references (← reference))
  let generated ← words ["GENERATED", "ALWAYS"]
  if ← word "AS" then
    expectSymbol "("
    let e ← anyExpression
    expectSymbol ")"
    if ← word "STORED" then return some (.generated e true)
    let _ ← word "VIRTUAL"
    return some (.generated e false)
  if generated || named.isSome then fail
  if ((← peek).any (·.isWord "DEFERRABLE")) || (← words ["NOT", "DEFERRABLE"]) then
    deferral
    return some (.default (.value .null) "")
  return none

def plainTypes : List String := ["ANY", "BLOB", "INT", "INTEGER", "REAL", "TEXT"]

def cleanType (written : String) : String :=
  let tokens := Token.ofText written
  let kept := match tokens.reverse with
    | a :: g :: rest => if a.isWord "ALWAYS" && g.isWord "GENERATED" then rest.reverse else tokens
    | _ => tokens
  let shown := match kept with
    | [t] => if t.kind = .word then t.raw else t.value
    | ts => Token.span ts
  (plainTypes.find? (sameName · shown)).getD shown

def column : Reader ColumnDef := do
  let n ← name
  let written ← Reader.type
  let rules ← many columnRule? ((← left) + 1)
  return ⟨n, cleanType written, rules⟩

def keyColumns : Reader (List (String × Option String)) := do
  expectSymbol "("
  let cs ← listOf do
    let e ← anyExpression
    let _ ← descending
    match e with
    | .name [n] => return (n.text, none)
    | .collate (.name [n]) c => return (n.text, some c)
    | _ => throw (Fault.of "expressions prohibited in PRIMARY KEY and UNIQUE constraints")
  expectSymbol ")"
  return cs

def tableRule? : Reader (Option TableRule) := do
  let named ← if ← word "CONSTRAINT" then some <$> name else pure none
  if ← words ["PRIMARY", "KEY"] then
    expectSymbol "("
    let cs ← listOf do
      let e ← anyExpression
      let _ ← descending
      match e with
      | .name [n] => return (n.text, (none : Option String))
      | .collate (.name [n]) c => return (n.text, some c)
      | _ => throw (Fault.of "expressions prohibited in PRIMARY KEY and UNIQUE constraints")
    let auto ← word "AUTOINCREMENT"
    expectSymbol ")"
    return some (.primaryKey cs auto (← onConflict))
  if ← word "UNIQUE" then
    let cs ← keyColumns
    return some (.unique cs (← onConflict))
  if ← word "CHECK" then
    expectSymbol "("
    let (e, written) ← spanned anyExpression
    expectSymbol ")"
    let _ ← onConflict
    return some (.check (named.map (·.text)) e written)
  if ← words ["FOREIGN", "KEY"] then
    let cs ← names
    expect "REFERENCES"
    return some (.foreignKey (cs.map (·.text)) (← reference))
  if named.isSome then fail
  return none

def tableParts (first : ColumnDef) : Reader (List ColumnDef × List TableRule) := do
  let parts ← many (do
    let comma ← symbol ","
    match ← tableRule? with
    | some r => return some (Sum.inr r)
    | none => if comma then return some (Sum.inl (← column)) else return none) ((← left) + 1)
  return (first :: parts.filterMap (fun | .inl c => some c | .inr _ => none),
    parts.filterMap fun | .inr r => some r | .inl _ => none)

def tableOptions : Reader (Bool × Bool) := do
  let one : Reader (Bool × Bool) := do
    if ← word "WITHOUT" then
      let t ← take fun t => t.isName
      if t.isWord "ROWID" then return (true, false)
      throw (Fault.of ("unknown table option: " ++ t.raw))
    let t ← take fun t => t.isName
    if t.isWord "STRICT" then return (false, true)
    throw (Fault.of ("unknown table option: " ++ t.raw))
  match ← peek with
  | none => return (false, false)
  | some t =>
    if t.isSymbol ";" then return (false, false)
    let os ← listOf one
    return (os.any (·.1), os.any (·.2))

def qualified : Reader Name := do
  let first ← name
  if ← symbol "." then name else return first

def assignment : Reader (List Name × Expr) := do
  let targets ← if (← peek).any (·.isSymbol "(") then names else (fun n => [n]) <$> name
  expectSymbol "="
  return (targets, ← anyExpression)

def returning : Reader (List ResultItem) := do
  if ← word "RETURNING" then listOf (resultItem depthLimit) else return []

def upsert? : Reader (Option Upsert) := do
  unless ← words ["ON", "CONFLICT"] do return none
  let columns ← if ← symbol "(" then do
      let cs ← listOf (do let e ← anyExpression; let _ ← descending; return e)
      expectSymbol ")"
      pure cs
    else pure []
  if ← word "WHERE" then let _ ← anyExpression
  expect "DO"
  if ← word "NOTHING" then return some ⟨columns, none, none⟩
  expect "UPDATE"
  expect "SET"
  let sets ← listOf assignment
  let filter ← if ← word "WHERE" then some <$> anyExpression else pure none
  return some ⟨columns, some (sets.map fun (ns, e) => (ns.map (·.text), e)), filter⟩

def orResolution : Reader (Option Resolution) := do
  if ← word "OR" then return some (← resolution) else return none

def change (tables : List CommonTable) : Reader Change := do
  let replaces ← word "REPLACE"
  let inserts ← if replaces then pure true else word "INSERT"
  if inserts then
    let conflict ← if replaces then pure (some Resolution.replace) else orResolution
    expect "INTO"
    let table ← qualified
    if ← word "AS" then let _ ← name
    let columns ← if (← peek).any (·.isSymbol "(") then names else pure []
    if ← words ["DEFAULT", "VALUES"] then
      return .insert tables table conflict columns .defaults [] (← returning)
    let q ← anyQuery
    let upserts ← many upsert? ((← left) + 1)
    return .insert tables table conflict columns (.query q) upserts (← returning)
  if ← word "UPDATE" then
    let conflict ← orResolution
    let table ← qualified
    let label ← if ← word "AS" then (fun n => some n.text) <$> name else pure none
    expect "SET"
    let sets ← listOf assignment
    let sources ← if ← word "FROM" then sourceList depthLimit else pure []
    let filter ← if ← word "WHERE" then some <$> anyExpression else pure none
    return .update tables conflict table label sets sources filter (← returning)
  expect "DELETE"
  expect "FROM"
  let table ← qualified
  let label ← if ← word "AS" then (fun n => some n.text) <$> name else pure none
  let filter ← if ← word "WHERE" then some <$> anyExpression else pure none
  return .delete tables table label filter (← returning)

def beginsChange (t : Option Token) : Bool :=
  match t with
  | some t => ["INSERT", "REPLACE", "UPDATE", "DELETE"].any (t.isWord ·)
  | none => false

def queryOrChange : Reader Statement := do
  if beginsChange (← peek) then return .change (← change [])
  if (← peek).any (·.isWord "WITH") then
    let start ← get
    let tables ← commonTables depthLimit
    if beginsChange (← peek) then return .change (← change tables)
    set start
  return .query (← anyQuery)

def createTable (temporary : Bool) : Reader Statement := do
  let ifMissing ← words ["IF", "NOT", "EXISTS"]
  let start ← get
  let n ← qualified
  if ← word "AS" then return .createTableAs temporary ifMissing n (← anyQuery)
  expectSymbol "("
  let (columns, rules) ← tableParts (← column)
  expectSymbol ")"
  let (withoutRowid, strict) ← tableOptions
  let stop ← get
  return .createTable temporary ifMissing n columns rules withoutRowid strict
    ("CREATE TABLE " ++ Token.span (start.take (start.length - stop.length)))

def createView (temporary : Bool) : Reader Statement := do
  let ifMissing ← words ["IF", "NOT", "EXISTS"]
  let start ← get
  let n ← qualified
  let columns ← if (← peek).any (·.isSymbol "(") then names else pure []
  expect "AS"
  let q ← anyQuery
  let stop ← get
  return .createView temporary ifMissing n (columns.map (·.text)) q
    ("CREATE VIEW " ++ Token.span (start.take (start.length - stop.length)))

def createIndex (unique : Bool) : Reader Statement := do
  let ifMissing ← words ["IF", "NOT", "EXISTS"]
  let start ← get
  let n ← qualified
  expect "ON"
  let table ← name
  expectSymbol "("
  let columns ← listOf do
    let e ← anyExpression
    let down ← descending
    match e with
    | .collate e c => return (e, some c, down)
    | e => return (e, none, down)
  expectSymbol ")"
  let filter ← if ← word "WHERE" then some <$> anyExpression else pure none
  let stop ← get
  return .createIndex unique ifMissing n table columns filter
    ((if unique then "CREATE UNIQUE INDEX " else "CREATE INDEX ") ++
      Token.span (start.take (start.length - stop.length)))

def triggerSteps : Reader (List TriggerStep) := do
  let first ← step
  let rest ← many (do
    if (← peek).any (·.isWord "END") then return none else return some (← step)) ((← left) + 1)
  return first :: rest
where
  /-- One step with its semicolon. -/
  step : Reader TriggerStep := do
    let s ← queryOrChange
    expectSymbol ";"
    match s with
    | .change c => return .change c
    | .query q => return .query q
    | _ => fail

def createTrigger (temporary : Bool) : Reader Statement := do
  let ifMissing ← words ["IF", "NOT", "EXISTS"]
  let start ← get
  let n ← qualified
  let time ←
    if ← word "BEFORE" then pure TriggerTime.before
    else if ← words ["INSTEAD", "OF"] then pure .insteadOf
    else do
      let _ ← word "AFTER"
      -- The time of a trigger that names none.
      pure (TriggerTime.after)
  let event ←
    if ← word "INSERT" then pure TriggerEvent.insert
    else if ← word "DELETE" then pure .delete
    else do
      expect "UPDATE"
      if ← word "OF" then pure (.update ((← listOf name).map (·.text))) else pure (.update [])
  expect "ON"
  let table ← qualified
  let _ ← words ["FOR", "EACH", "ROW"]
  let condition ← if ← word "WHEN" then some <$> anyExpression else pure none
  expect "BEGIN"
  let steps ← triggerSteps
  expect "END"
  let stop ← get
  return .createTrigger temporary ifMissing n time event table condition steps
    ("CREATE TRIGGER " ++ Token.span (start.take (start.length - stop.length)))

def create : Reader Statement := do
  let temporary ← if ← word "TEMP" then pure true else word "TEMPORARY"
  if ← word "TABLE" then return ← createTable temporary
  if ← word "VIEW" then return ← createView temporary
  if ← word "TRIGGER" then return ← createTrigger temporary
  if temporary then fail
  if ← words ["UNIQUE", "INDEX"] then return ← createIndex true
  if ← word "INDEX" then return ← createIndex false
  fail

def drop : Reader Statement := do
  let kind ←
    if ← word "TABLE" then pure ObjectKind.table
    else if ← word "VIEW" then pure .view
    else if ← word "INDEX" then pure .index
    else do
      expect "TRIGGER"
      pure .trigger
  let ifThere ← words ["IF", "EXISTS"]
  let first ← name
  if ← symbol "." then return .drop kind ifThere (some first) (← name)
  return .drop kind ifThere none first

def alter : Reader Statement := do
  expect "TABLE"
  let table ← qualified
  if ← word "RENAME" then
    if ← word "TO" then return .renameTable table (← name)
    let _ ← word "COLUMN"
    let old ← name
    expect "TO"
    return .renameColumn table old (← name)
  if ← word "ADD" then
    let _ ← word "COLUMN"
    let (c, written) ← spanned column
    return .addColumn table c written
  expect "DROP"
  let _ ← word "COLUMN"
  return .dropColumn table (← name)

def pragma : Reader Statement := do
  let first ← name
  let (schema, n) ← if ← symbol "." then pure (some first, ← name) else pure (none, first)
  let value : Reader String := do
    if (← peek).any fun t => t.isSymbol "-" || t.isSymbol "+" || t.kind = .integer || t.kind = .real then
      signedNumber
    else
      return (← take fun t => t.isName || t.kind = .text || t.isWord "ON" || t.isWord "DELETE" ||
        t.isWord "DEFAULT").value
  if ← symbol "=" then return .pragma schema n (some (← value))
  if ← symbol "(" then
    let v ← value
    expectSymbol ")"
    return .pragma schema n (some v)
  return .pragma schema n none

def plainStatement : Reader Statement := do
  let some t ← peek | fail
  if beginsQuery (some t) || beginsChange (some t) then return ← queryOrChange
  if ← word "CREATE" then return ← create
  if ← word "DROP" then return ← drop
  if ← word "ALTER" then return ← alter
  if ← word "PRAGMA" then return ← pragma
  if ← word "BEGIN" then
    let immediate ←
      if ← word "DEFERRED" then pure false
      else if ← word "IMMEDIATE" then pure true
      else word "EXCLUSIVE"
    if ← word "TRANSACTION" then let _ ← looseName?
    return .begin immediate
  if t.isWord "COMMIT" || t.isWord "END" then
    let _ ← take fun _ => true
    if ← word "TRANSACTION" then let _ ← looseName?
    return .commit
  if ← word "ROLLBACK" then
    if ← word "TRANSACTION" then
      if !(← peek).any (·.isWord "TO") then let _ ← looseName?
    if ← word "TO" then
      let _ ← word "SAVEPOINT"
      return .rollback (some (← name).text)
    return .rollback none
  if ← word "SAVEPOINT" then return .savepoint (← name).text
  if ← word "RELEASE" then
    let _ ← word "SAVEPOINT"
    return .release (← name).text
  if ← word "ATTACH" then
    let _ ← word "DATABASE"
    let file ← anyExpression
    expect "AS"
    return .attach file (← anyExpression)
  if ← word "DETACH" then
    let _ ← word "DATABASE"
    return .detach (← anyExpression)
  if ← word "VACUUM" then
    let _ ← looseName?
    if ← word "INTO" then let _ ← anyExpression
    return .vacuum
  let object : Reader (Option Name) := do
    if (← peek).any (·.isName) then return some (← qualified) else return none
  if ← word "ANALYZE" then return .analyze (← object)
  if ← word "REINDEX" then return .reindex (← object)
  fail

def statement : Reader Statement := do
  if ← word "EXPLAIN" then
    let plan ← words ["QUERY", "PLAN"]
    return .explain plan (← plainStatement)
  plainStatement

/-- The first statement of a text, if it has one, and how many bytes of the text it takes. -/
def firstStatement (sql : String) : Except Fault (Option Statement × Nat) :=
  let tokens := (Token.ofText sql).dropWhile (·.isSymbol ";")
  match tokens with
  | [] => .ok (none, sql.utf8ByteSize)
  | _ =>
    match statement tokens with
    | .error f => .error f
    | .ok (s, []) => .ok (some s, sql.utf8ByteSize)
    | .ok (s, t :: rest) =>
      if t.isSymbol ";" then .ok (some s, t.offset + 1) else .error (unfit (t :: rest))

end QueryWarden.Database.Grammar
