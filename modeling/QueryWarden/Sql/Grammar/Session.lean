import QueryWarden.Sql.Grammar.Definition

/-! Statements about the session: its settings, transactions, cursors and prepared statements, and what
it can be asked about the database. -/
namespace QueryWarden.Sql.Grammar
open Sql.Parser

variable (g : Grammar)

def isolationLevel : Parser Unit := do
  unless ← words? ["READ", "UNCOMMITTED"] <||> words? ["READ", "COMMITTED"] <||>
      words? ["REPEATABLE", "READ"] <||> word? "SERIALIZABLE" do
    expected "isolation level"

def transactionModes (required : Bool := false) (budget : Nat := g.budget) : Parser Unit :=
  match budget with
  | 0 => tooDeep
  | budget + 1 => do
    if ← words? ["ISOLATION", "LEVEL"] then
      isolationLevel
      transactionModes (← mark? ",") budget
    else if ← words? ["READ", "ONLY"] <||> words? ["READ", "WRITE"] then
      transactionModes (← mark? ",") budget
    else if required then expected "transaction mode"

def startTransaction : Parser StatementKind := do
  expectWord "TRANSACTION"
  g.transactionModes
  return .startTransaction

def transactionWord? : Parser Unit := do
  let _ ← wordOf? ["TRANSACTION", "WORK"]

def beginTransaction : Parser StatementKind := do
  if g.speaks [.sqlite, .generic] then
    let _ ← wordOf? ["DEFERRED", "IMMEDIATE", "EXCLUSIVE"]
  transactionWord?
  g.transactionModes
  return .startTransaction

def transactionEnd : Parser Unit := do
  transactionWord?
  if ← word? "AND" then
    let _ ← word? "NO"
    expectWord "CHAIN"

def commit : Parser StatementKind := do
  transactionEnd
  return .commit

def rollback : Parser StatementKind := do
  transactionEnd
  if ← word? "TO" then
    let _ ← word? "SAVEPOINT"
    let _ ← ident
  return .rollback

def releaseSavepoint : Parser StatementKind := do
  let _ ← word? "SAVEPOINT"
  let _ ← ident
  return .releaseSavepoint

def sessionRole? : Parser Bool := do
  let role ← attempt do
    expectWord "ROLE"
    unless ← word? "NONE" do
      let _ ← ident
  return role.isSome

def settingNames : Parser (ObjectName × Bool) := do
  if ← words? ["TIME", "ZONE"] then return ([⟨"TIMEZONE", none⟩], false)
  else if ← g.onlyIn [.generic] (mark? "(") then
    let names ← g.idents
    expectMark ")"
    return (names, true)
  else return (← g.objectName, false)

def settingValue : Parser Unit := do
  if ← queryAhead then
    let _ ← g.query
  else if (← attempt g.expr).isNone then
    expectedPast "variable value"

def isPlainWord (name : ObjectName) (word : String) : Bool :=
  match name with
  | [⟨value, none⟩] => Text.equalsIgnoringCase value word
  | _ => false

def setNames : Parser StatementKind := do
  if ← word? "DEFAULT" then return .setNamesDefault
  else
    let _ ← g.literalString
    let _ ← after? "COLLATE" g.literalString
    return .setNames

def setSpecial (name : ObjectName) (inScope : Bool) : Parser StatementKind := do
  if isPlainWord name "TIMEZONE" then
    if (← attempt g.expr).isNone then expectedPast "timezone value"
    return .setTimeZone
  else if name == [⟨"CHARACTERISTICS", none⟩] then
    expectWords ["AS", "TRANSACTION"]
    g.transactionModes
    return .setTransaction
  else if name == [⟨"TRANSACTION", none⟩] && !inScope then
    if ← word? "SNAPSHOT" then
      let _ ← g.value
    else g.transactionModes
    return .setTransaction
  else expected "equals sign or TO"

def setStatement : Parser StatementKind := do
  let scope ← wordOf? ["SESSION", "LOCAL", "HIVEVAR"]
  if scope == some "HIVEVAR" then expectMark ":"
  if ← provided (scope != some "HIVEVAR") sessionRole? then return .setRole
  else
    let (names, several) ← g.settingNames
    if !several && isPlainWord names "NAMES" && g.speaks [.mysql, .generic] then g.setNames
    else if ← mark? "=" <||> word? "TO" then
      if several then inParens (do let _ ← g.commas g.settingValue)
      else
        let _ ← g.commas g.settingValue
      return .setVariable
    else if several then expected "set variable"
    else g.setSpecial names scope.isSome

def showFilter? : Parser Unit := do
  if ← word? "LIKE" <||> word? "ILIKE" then
    let _ ← g.literalString
  else if ← word? "WHERE" then
    let _ ← g.expr
  else
    let _ ← attempt g.literalString

def shownPlace? : Parser Unit := do
  if (← wordOf? ["FROM", "IN"]).isSome then
    let _ ← ident

def showColumns : Parser StatementKind := do
  let _ ← expectWordOf ["FROM", "IN"]
  let _ ← g.objectName
  shownPlace?
  g.showFilter?
  return .showColumns

def showAll (kind : StatementKind) (placed : Bool) : Parser StatementKind := do
  if placed then shownPlace?
  g.showFilter?
  return kind

def showCreate : Parser StatementKind := do
  let _ ← expectWordOf ["TABLE", "TRIGGER", "FUNCTION", "PROCEDURE", "EVENT", "VIEW"]
  let _ ← g.objectName
  return .showCreate

def show? : Parser (Option StatementKind) := do
  let extended ← word? "EXTENDED"
  let full ← word? "FULL"
  let _ ← word? "SESSION"
  let _ ← word? "GLOBAL"
  if ← word? "COLUMNS" <||> word? "FIELDS" then some <$> g.showColumns
  else if ← word? "TABLES" then some <$> g.showAll .showTables true
  else if ← words? ["MATERIALIZED", "VIEWS"] <||> word? "VIEWS" then
    some <$> g.showAll .showViews true
  else if ← word? "FUNCTIONS" then some <$> g.showAll .showFunctions false
  else if extended || full then
    fail "EXTENDED/FULL are not supported with this type of SHOW query"
  else if ← word? "CREATE" then some <$> g.showCreate
  else if ← word? "COLLATION" then some <$> g.showAll .showCollation false
  else if (← word? "VARIABLES") && g.speaks [.mysql, .generic] then
    some <$> g.showAll .showVariables false
  else if (← word? "STATUS") && g.speaks [.mysql, .generic] then
    some <$> g.showAll .showStatus false
  else if ← word? "DATABASES" then some <$> g.showAll .showDatabases false
  else if ← word? "SCHEMAS" then some <$> g.showAll .showSchemas false
  else return none

def declareCursor : Parser StatementKind := do
  let _ ← ident
  let _ ← word? "BINARY"
  let _ ← wordOf? ["INSENSITIVE", "ASENSITIVE"]
  unless ← word? "SCROLL" do
    let _ ← words? ["NO", "SCROLL"]
  expectWord "CURSOR"
  if (← wordOf? ["WITH", "WITHOUT"]).isSome then expectWord "HOLD"
  expectWord "FOR"
  let _ ← g.query
  return .declare

/-- A variable and the token behind it, which is passed whatever it is; whether that is a comma. -/
def declareVariable : Rule Bool := do
  let name ← ident
  unless name.value.startsWith "@" do fail "Invalid MsSql variable declaration."
  unless ← word? "CURSOR" do
    let _ ← word? "AS"
    let _ ← g.dataType
  let _ ← following? (mark? "=") g.expr
  let comma := (← symbolAt 0) == ","
  Rule.pass
  return comma

def declareVariables : Nat → Rule StatementKind
  | 0 => Rule.ofParser tooDeep
  | budget + 1 => do
    if ← g.declareVariable then declareVariables budget else return .declare

def declare : Rule StatementKind :=
  if g.speaks [.mssql] then g.declareVariables g.budget else g.declareCursor

def fetch : Parser StatementKind := do
  match ← wordOf? ["NEXT", "PRIOR", "FIRST", "LAST", "ABSOLUTE", "RELATIVE", "FORWARD", "BACKWARD",
      "ALL"] with
  | none => number
  | some k =>
    if ["ABSOLUTE", "RELATIVE"].contains k then number
    else if ["FORWARD", "BACKWARD"].contains k then
      unless ← word? "ALL" do number
  let _ ← expectWordOf ["FROM", "IN"]
  let _ ← ident
  let _ ← after? "INTO" g.objectName
  return .fetch
where
  number : Parser Unit := do
    let _ ← g.numberValue

def close : Parser StatementKind := do
  unless ← word? "ALL" do
    let _ ← ident
  return .close

def execute : Parser StatementKind := do
  let _ ← g.objectName
  if (← symbolAt 0) == "(" then
    let _ ← g.exprTuple
  else
    match ← peek with
    | none => Parser.pure ()
    | some (.word w) =>
      if w.key != "USING" then
        let _ ← g.exprs
    | some _ =>
      let _ ← g.exprs
  let _ ← after? "USING" g.exprs
  return .execute

def deallocate : Parser StatementKind := do
  let _ ← word? "PREPARE"
  let _ ← ident
  return .deallocate

def callStatement : Parser StatementKind := do
  let name ← g.objectName
  if (← symbolAt 0) == "(" then
    let _ ← g.call (g.intervalWith (g.operandAt g.budget)) name
  return .call

def assertion : Parser StatementKind := do
  let _ ← g.expr
  let _ ← after? "AS" g.expr
  return .assert

def discard : Parser StatementKind := do
  if (← wordOf? ["ALL", "PLANS", "SEQUENCES", "TEMP", "TEMPORARY"]).isNone then
    expected "ALL, PLANS, SEQUENCES, TEMP or TEMPORARY after DISCARD"
  return .discard

def notify : Parser StatementKind := do
  let _ ← ident
  let _ ← following? (mark? ",") g.literalString
  return .notify

def lockedTable : Parser Unit := do
  let _ ← ident
  let _ ← alias? ["READ", "WRITE", "LOW_PRIORITY"]
  if ← word? "READ" then
    let _ ← word? "LOCAL"
  else unless ← word? "WRITE" <||> words? ["LOW_PRIORITY", "WRITE"] do
    expected "an lock type in LOCK TABLES"

def lockTables : Parser StatementKind := do
  let _ ← g.commas lockedTable
  return .lockTables

end QueryWarden.Sql.Grammar
