import QueryWarden.Sql.Grammar.Definition

/-! Changes of what is defined: the statements that begin with `ALTER`, without those for roles. -/
namespace QueryWarden.Sql.Grammar
open Sql.Parser

variable (g : Grammar)

def parenExprs : Parser (List Expr) := inParens g.exprs

def columnPosition? : Parser Unit := do
  unless ← g.onlyIn [.mysql, .generic] (word? "FIRST") do
    let _ ← following? (g.onlyIn [.mysql, .generic] (word? "AFTER")) ident

def addedProjection : Parser Unit := do
  let _ ← ifNotExists?
  let _ ← ident
  inParens do
    expectWord "SELECT"
    let _ ← g.selectItems
    let _ ← g.groupBy?
    let _ ← g.queryOrder?

def addition : Parser Unit := do
  unless ← g.tableConstraint? do
    if ← g.onlyIn [.generic] (word? "PROJECTION") then g.addedProjection
    else
      let _ ← ifNotExists?
      let parts ← many g.budget (after? "PARTITION" g.parenExprs)
      if parts.isEmpty then
        let _ ← word? "COLUMN"
        let _ ← g.onlyIn [.postgres, .generic] ifNotExists?
        g.column
        g.columnPosition?

def newName : Parser Unit := do
  if ← g.onlyIn [.postgres] (word? "CONSTRAINT") then fromTo
  else if ← word? "TO" then
    let _ ← g.objectName
  else
    let _ ← word? "COLUMN"
    fromTo
where
  fromTo : Parser Unit := do
    let _ ← ident
    expectWord "TO"
    let _ ← ident

def disabling : Parser Unit := do
  unless ← words? ["ROW", "LEVEL", "SECURITY"] do
    if ← word? "RULE" <||> word? "TRIGGER" then
      let _ ← ident
    else expected "ROW LEVEL SECURITY, RULE, or TRIGGER after DISABLE"

def enabling : Parser Unit := do
  if ← words? ["ALWAYS", "RULE"] <||> words? ["ALWAYS", "TRIGGER"] then named
  else if ← words? ["ROW", "LEVEL", "SECURITY"] then return
  else if ← words? ["REPLICA", "RULE"] <||> words? ["REPLICA", "TRIGGER"] <||> word? "RULE" <||>
      word? "TRIGGER" then named
  else expected "ALWAYS, REPLICA, ROW LEVEL SECURITY, RULE, or TRIGGER after ENABLE"
where
  named : Parser Unit := do
    let _ ← ident

def storedProjection : Parser Unit := do
  let _ ← ifExists?
  let _ ← ident
  let _ ← afterAll? ["IN", "PARTITION"] ident

/-- What is taken from a table. The keywords of a part that the dialect does not know are passed all
the same, and what follows them is looked at. -/
def subtraction : Parser Unit := do
  if ← words? ["IF", "EXISTS", "PARTITION"] <||> word? "PARTITION" then
    let _ ← g.parenExprs
  else if ← word? "CONSTRAINT" then dropped
  else if (← words? ["PRIMARY", "KEY"]) && g.speaks [.mysql, .generic] then return
  else if (← word? "PROJECTION") && g.speaks [.generic] then
    let _ ← ifExists?
    let _ ← ident
  else
    let _ ← word? "COLUMN"
    dropped
where
  dropped : Parser Unit := do
    let _ ← ifExists?
    let _ ← ident
    let _ ← word? "CASCADE"

def retyping : Parser Unit := do
  let _ ← g.dataType
  let _ ← many g.budget do
    if ← g.columnProperty? then return some () else return none
  g.columnPosition?

def columnChange : Parser Unit := do
  if ← words? ["SET", "NOT", "NULL"] <||> words? ["DROP", "NOT", "NULL"] then return
  else if ← words? ["SET", "DEFAULT"] then
    let _ ← g.expr
  else if ← words? ["DROP", "DEFAULT"] then return
  else if ← words? ["SET", "DATA", "TYPE"] <||> g.onlyIn [.postgres] (word? "TYPE") then
    let _ ← g.dataType
    let _ ← following? (g.onlyIn [.postgres] (word? "USING")) g.expr
  else if ← words? ["ADD", "GENERATED"] then
    unless ← word? "ALWAYS" do
      let _ ← words? ["BY", "DEFAULT"]
    expectWords ["AS", "IDENTITY"]
    if (← symbolAt 0) == "(" then
      inParens g.sequenceOptions
  else if g.speaks [.postgres] then
    expected "SET/DROP NOT NULL, SET DEFAULT, SET DATA TYPE, or ADD GENERATED after ALTER COLUMN"
  else expected "SET/DROP NOT NULL, SET DEFAULT, or SET DATA TYPE after ALTER COLUMN"

def tablePart : Parser Unit := do
  let _ ← expectWordOf ["PART", "PARTITION"]
  let _ ← g.expr

def rareTableChange : Parser Unit := do
  if ← word? "SWAP" then
    expectWord "WITH"
    let _ ← g.objectName
  else if ← g.onlyIn [.postgres, .generic] (words? ["OWNER", "TO"]) then owner
  else if ← g.onlyIn [.generic] (word? "ATTACH" <||> word? "DETACH") then g.tablePart
  else if ← g.onlyIn [.generic] (word? "FREEZE" <||> word? "UNFREEZE") then
    g.tablePart
    if ← word? "WITH" then
      expectWord "NAME"
      let _ ← ident
  else if ← words? ["SET", "TBLPROPERTIES"] then
    let _ ← inParens (g.commas g.setting)
  else expected "ADD, RENAME, PARTITION, SWAP, DROP, or SET TBLPROPERTIES after ALTER TABLE"

def tableChange : Parser Unit := do
  if ← word? "ADD" then g.addition
  else if ← word? "RENAME" then g.newName
  else if ← word? "DISABLE" then disabling
  else if ← word? "ENABLE" then enabling
  else if (← words? ["CLEAR", "PROJECTION"]) && g.speaks [.generic] then storedProjection
  else if (← words? ["MATERIALIZE", "PROJECTION"]) && g.speaks [.generic] then storedProjection
  else if ← word? "DROP" then g.subtraction
  else if ← word? "PARTITION" then
    let _ ← g.parenExprs
    expectWord "RENAME"
    expectWords ["TO", "PARTITION"]
    let _ ← g.parenExprs
  else if ← word? "CHANGE" then
    let _ ← word? "COLUMN"
    let _ ← ident
    let _ ← ident
    g.retyping
  else if ← word? "MODIFY" then
    let _ ← word? "COLUMN"
    let _ ← ident
    g.retyping
  else if ← word? "ALTER" then
    let _ ← word? "COLUMN"
    let _ ← ident
    g.columnChange
  else g.rareTableChange

def alterTable : Parser StatementKind := do
  let _ ← ifExists?
  let _ ← word? "ONLY"
  let _ ← g.objectName
  onCluster?
  let _ ← g.commas g.tableChange
  let _ ← following? (word? "LOCATION" <||> words? ["SET", "LOCATION"]) ident
  return .alterTable

def alterView : Parser StatementKind := do
  let _ ← g.objectName
  let _ ← g.columnList?
  g.settings? "WITH"
  expectWord "AS"
  let _ ← g.query
  return .alterView

def alterIndex : Parser StatementKind := do
  let _ ← g.objectName
  unless ← word? "RENAME" do expected "RENAME after ALTER INDEX"
  unless ← word? "TO" do expected "TO after RENAME"
  let _ ← g.objectName
  return .alterIndex

def alterPolicy : Parser StatementKind := do
  let _ ← ident
  expectWord "ON"
  let _ ← g.objectName
  if ← word? "RENAME" then
    expectWord "TO"
    let _ ← ident
  else g.policyClauses
  return .alterPolicy

end QueryWarden.Sql.Grammar
