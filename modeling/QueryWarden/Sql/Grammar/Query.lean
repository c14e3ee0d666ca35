import QueryWarden.Sql.Grammar.Select

/-! Queries, and the changes of tables that may stand in their place. -/
namespace QueryWarden.Sql.Grammar
open Sql.Parser

variable (g : Grammar)

def cte : Parser Cte := do
  let name ← ident
  let columns ← if (← keyAt 0) == "AS" then pure [] else g.columnList?
  expectWord "AS"
  if g.speaks [.postgres] then
    unless ← word? "MATERIALIZED" do
      let _ ← words? ["NOT", "MATERIALIZED"]
  let q ← g.parenQuery
  let _ ← after? "FROM" ident
  return ⟨⟨name, columns⟩, q⟩

def with? : Parser (List Cte) := do
  if ← word? "WITH" then
    let _ ← word? "RECURSIVE"
    g.commas g.cte
  else return []

/-- A table in place of a query, at its keyword. Three tokens are passed behind it, even where the name
is one word. -/
def namedQuery : Parser ObjectName := do
  if (← symbolAt 2) == "." then
    match ← peekAt 1, ← peekAt 3 with
    | some (.word schema), some (.word table) =>
      passTable
      return [schema.ident, table.ident]
    | some (.word _), _ => skips 3; expected "Table name"
    | _, _ => skip; expected "Schema name"
  else
    match ← peekAt 1 with
    | some (.word table) =>
      passTable
      return [table.ident]
    | _ => skip; expected "Table name"

def bodyPart : Parser SetExpr := do
  if (← keyAt 0) == "SELECT" then return .select (← g.select)
  else if ← mark? "(" then
    let q ← g.query
    expectMark ")"
    return .query q
  else if ← word? "VALUES" then return .values (← g.valueRowsOrNone)
  else if (← keyAt 0) == "TABLE" then return .table (← namedQuery)
  else expected "SELECT, VALUES, or a subquery in the query body"

def setQuantifier? : Parser Unit := do
  unless ← words? ["DISTINCT", "BY", "NAME"] <||> words? ["BY", "NAME"] do
    if ← word? "ALL" then
      let _ ← words? ["BY", "NAME"]
    else
      let _ ← word? "DISTINCT"

def intersections (first : SetExpr) : Parser SetExpr :=
  extend g.budget (fun left => do
    if ← word? "INTERSECT" then
      setQuantifier?
      return some (.setOperation .intersect left (← g.bodyPart))
    else return none) first

def body : Parser SetExpr := do
  let first ← g.intersections (← g.bodyPart)
  extend g.budget (fun left => do
    match ← wordOf? ["UNION", "EXCEPT"] with
    | some k =>
      setQuantifier?
      let right ← g.intersections (← g.bodyPart)
      return some (.setOperation (if k == "UNION" then .union else .except) left right)
    | none => return none) first

def interpolate? : Parser Unit := do
  if ← g.onlyIn [.generic] (word? "INTERPOLATE") then
    if ← mark? "(" then
      let _ ← listOrNone g.budget ")" do
        let _ ← ident
        after? "AS" g.expr
      expectMark ")"

def queryOrder? : Parser (List Expr) := do
  if ← words? ["ORDER", "BY"] then
    let items ← g.orderItems
    g.interpolate?
    return items
  else return []

def rowUnit? : Parser Unit := do
  let _ ← wordOf? ["ROW", "ROWS"]

/-- How many rows are taken and how many left out, in either order and each at most once. Behind a
comma the first number counts the rows that are left out. -/
def limits (limited skipped : Bool) (found : List Expr) : Nat → Parser (List Expr)
  | 0 => return found
  | rounds + 1 => do
    let limit ← following? (provided (!limited) (word? "LIMIT"))
      (do if ← word? "ALL" then return none else return some (← g.expr))
    let limit := limit.bind id
    let offset ← following? (provided (!skipped) (word? "OFFSET")) (do
      let e ← g.expr
      rowUnit?
      return e)
    let limited := limited || limit.isSome
    let skipped := skipped || offset.isSome
    let second ← following?
      (provided (limited && !skipped && g.speaks [.generic, .mysql, .sqlite]) (mark? ",")) g.expr
    limits limited (skipped || second.isSome)
      (found ++ limit.toList ++ offset.toList ++ second.toList) rounds

def fetchRows : Parser (List Expr) := do
  let _ ← expectWordOf ["FIRST", "NEXT"]
  let quantity ← if ← word? "ROW" <||> word? "ROWS" then pure [] else do
    let v ← g.value
    let _ ← word? "PERCENT"
    let _ ← expectWordOf ["ROW", "ROWS"]
    pure [.literal v]
  unless ← word? "ONLY" do
    unless ← words? ["WITH", "TIES"] do
      expected "one of ONLY or WITH TIES"
  return quantity

def parenText : Parser Unit := do
  let _ ← inParens g.literalString

def forXml : Parser Unit := do
  match ← wordOf? ["RAW", "AUTO", "EXPLICIT", "PATH"] with
  | some k => if ["RAW", "PATH"].contains k && (← symbolAt 0) == "(" then g.parenText
  | none => fail "expected FOR XML [RAW | AUTO | EXPLICIT | PATH ]"
  let _ ← many g.budget do
    if ← mark? "," then
      match ← wordOf? ["ELEMENTS", "BINARY", "ROOT", "TYPE"] with
      | some "BINARY" => expectWord "BASE64"
      | some "ROOT" => g.parenText
      | _ => Parser.pure ()
      return some ()
    else return none

def forJson : Parser Unit := do
  if (← wordOf? ["AUTO", "PATH"]).isNone then fail "expected FOR JSON [AUTO | PATH ]"
  let _ ← many g.budget do
    if ← mark? "," then
      match ← wordOf? ["ROOT", "INCLUDE_NULL_VALUES", "WITHOUT_ARRAY_WRAPPER"] with
      | some "ROOT" => g.parenText
      | _ => Parser.pure ()
      return some ()
    else return none

def forDocument? : Parser Bool := do
  if ← word? "XML" then g.forXml; return true
  else if ← word? "JSON" then g.forJson; return true
  else word? "BROWSE"

def rowLock : Parser Unit := do
  let _ ← expectWordOf ["UPDATE", "SHARE"]
  let _ ← after? "OF" g.objectName
  unless ← word? "NOWAIT" do
    let _ ← words? ["SKIP", "LOCKED"]

def forClauses? : Parser Unit := do
  let _ ← many g.budget do
    if ← word? "FOR" then
      if ← g.forDocument? then return none
      else
        g.rowLock
        return some ()
    else return none

def format? : Parser Unit := do
  if ← g.onlyIn [.generic] (word? "FORMAT") then
    unless ← word? "NULL" do
      let _ ← ident

def reading (ctes : List Cte) : Parser Query := do
  let body ← g.body
  let order ← g.queryOrder?
  let rows ← g.limits false false [] 2
  let keys ← following? (g.onlyIn [.generic] (word? "BY")) g.exprs
  let _ ← g.tableSettings?
  let fetched ← after? "FETCH" g.fetchRows
  g.forClauses?
  g.format?
  return ⟨ctes, body, order, rows ++ keys.getD [] ++ fetched.getD []⟩

def assignment : Parser Unit := do
  if ← mark? "(" then
    let _ ← g.objectNames
    expectMark ")"
  else
    let _ ← g.objectName
  expectMark "="
  let _ ← g.expr

def returning? : Parser Unit := do
  let _ ← after? "RETURNING" g.selectItems

def update : Parser TableWithJoins := do
  let target ← g.tableWithJoins
  expectWord "SET"
  let _ ← g.commas g.assignment
  let sources ← word? "FROM"
  if sources && !g.speaks [.mysql] then
    let _ ← g.tableWithJoins
  let _ ← after? "WHERE" g.expr
  g.returning?
  return target

def conflictClause? : Parser Unit := do
  if g.speaks [.sqlite] then
    unless ← orWord "REPLACE" <||> orWord "ROLLBACK" <||> orWord "ABORT" <||> orWord "FAIL"
        <||> orWord "IGNORE" do
      let _ ← word? "REPLACE"
where
  orWord (k : String) : Parser Bool := words? ["OR", k]

def fileFormat : Parser Unit := do
  if (← wordOf? ["AVRO", "JSONFILE", "ORC", "PARQUET", "RCFILE", "SEQUENCEFILE", "TEXTFILE"]).isNone
  then expected "fileformat"

def onConflict? : Parser Unit := do
  if ← word? "ON" then
    if ← word? "CONFLICT" then
      if ← words? ["ON", "CONSTRAINT"] then
        let _ ← g.objectName
      else if (← symbolAt 0) == "(" then
        let _ ← g.columnList
      expectWord "DO"
      unless ← word? "NOTHING" do
        expectWords ["UPDATE", "SET"]
        let _ ← g.commas g.assignment
        let _ ← after? "WHERE" g.expr
    else
      expectWords ["DUPLICATE", "KEY", "UPDATE"]
      let _ ← g.commas g.assignment

def insert : Parser Insertion := do
  g.conflictClause?
  if g.speaks [.mysql, .generic] then
    let _ ← wordOf? ["LOW_PRIORITY", "DELAYED", "HIGH_PRIORITY"]
    let _ ← word? "IGNORE"
  let _ ← word? "OVERWRITE"
  let _ ← word? "INTO"
  let _ ← word? "LOCAL"
  if ← word? "DIRECTORY" then
    let path ← g.literalString
    if ← words? ["STORED", "AS"] then fileFormat
    return .directory path (← g.query)
  else
    let _ ← word? "TABLE"
    let name ← g.objectName
    let _ ← following? (g.onlyIn [.postgres] (word? "AS")) ident
    let source ← if ← words? ["DEFAULT", "VALUES"] then pure none else rows
    if ← g.onlyIn [.mysql, .generic] (word? "AS") then
      let _ ← g.objectName
      let _ ← g.columnList?
    g.onConflict?
    g.returning?
    return .table name source
where
  rows : Parser (Option Query) := do
    let _ ← if g.speaks [.mysql] then g.columnListOrNone? else g.columnList?
    if ← word? "PARTITION" then
      let _ ← inParens g.exprs
    return some (← g.query)

def queryRule : Parser Query := do
  let ctes ← g.with?
  if ← word? "INSERT" then return ⟨ctes, .insert (← g.insert), [], []⟩
  else if ← word? "UPDATE" then return ⟨ctes, .update (← g.update), [], []⟩
  else g.reading ctes

def atDepth (d : Dialect) (budget : Nat) : Nat → Grammar
  | 0 => ⟨d, budget, false, fun _ _ => tooDeep, fun _ => tooDeep⟩
  | depth + 1 =>
    let inner := atDepth d budget depth
    ⟨d, budget, false,
      fun prior precedence => Grammar.operation { inner with prior := prior } precedence,
      fun prior => Grammar.queryRule { inner with prior := prior }⟩

end QueryWarden.Sql.Grammar
