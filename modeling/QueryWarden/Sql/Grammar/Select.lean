import QueryWarden.Sql.Grammar.Table

/-! A `SELECT` and its clauses. -/
namespace QueryWarden.Sql.Grammar
open Sql.Parser

variable (g : Grammar)

def top : Parser Unit := do
  if ← mark? "(" then
    let _ ← g.expr
    expectMark ")"
  else
    let _ ← natural
  let _ ← word? "PERCENT"
  let _ ← words? ["WITH", "TIES"]

def distinct? : Parser Unit := do
  if ← allOrDistinct then
    if ← word? "ON" then
      let _ ← inParens (listOrNone g.budget ")" g.expr)

def renamed : Parser Unit := do
  let _ ← ident
  expectWord "AS"
  let _ ← ident

def starOptions : Parser Unit := do
  unless ← g.onlyIn [.generic] ilike? do
    if ← g.onlyIn [.generic] (word? "EXCLUDE") then
      if (← symbolAt 0) == "(" then
        let _ ← g.identList
      else
        let _ ← ident
  if ← g.onlyIn [.generic] (word? "EXCEPT") then
    if (← symbolAt 0) == "(" then
      let _ ← g.columnList
    else
      let _ ← ident
  if ← g.onlyIn [.generic] (word? "REPLACE") then
    if ← mark? "(" then
      let _ ← g.commas do
        let _ ← g.expr
        let _ ← word? "AS"
        ident
      expectMark ")"
    else expected "( after REPLACE but"
  if ← g.onlyIn [.generic] (word? "RENAME") then
    if (← symbolAt 0) == "(" then
      let _ ← inParens (g.commas renamed)
    else renamed
where
  ilike? : Parser Bool := do
    if ← word? "ILIKE" then
      match ← peek with
      | some (.literal .single _) => skip; return true
      | _ => expected "ilike pattern"
    else return false

/-- An item of a `SELECT`. In some dialects a comparison with a name on the left gives the name as an
alias. -/
def selectItem : Parser SelectItem := do
  match ← g.exprOrStar with
  | .allColumns =>
    g.starOptions
    return .allColumns
  | .allColumnsOf table =>
    g.starOptions
    return .allColumnsOf table
  | .name [⟨value, none⟩] =>
    if value.toLower == "from" then failHere ("Expected an expression, found: " ++ value)
    else itemOf (.name [⟨value, none⟩])
  | .binary operator (.name [label]) e =>
    if g.speaks [.mssql] && (operator == "=" || operator == "==") then return .aliased e label
    else itemOf (.binary operator (.name [label]) e)
  | e => itemOf e
where
  itemOf (e : Expr) : Parser SelectItem := do
    match ← alias? reservedForColumnAlias with
    | some label => return .aliased e label
    | none => return .unnamed e

def selectItems : Parser (List SelectItem) := g.commas g.selectItem

def into? : Parser (Option ObjectName) := do
  if ← word? "INTO" then
    let _ ← wordOf? ["TEMP", "TEMPORARY"]
    let _ ← word? "UNLOGGED"
    let _ ← word? "TABLE"
    return some (← g.objectName)
  else return none

def lateralViews : Parser (List Expr) :=
  many g.budget do
    if ← words? ["LATERAL", "VIEW"] then
      let _ ← word? "OUTER"
      let e ← g.expr
      let _ ← g.objectName
      let _ ← g.commas (alias? ["WHERE", "GROUP", "CLUSTER", "HAVING", "LATERAL"])
      return some e
    else return none

def exprTuple : Parser (List Expr) := inParens (listOrNone g.budget ")" g.expr)

def exprTupleOrOne : Parser (List Expr) := do
  if (← symbolAt 0) == "(" then g.exprTuple else return [← g.expr]

def groupItem : Parser Expr := do
  if g.speaks [.postgres, .generic] then
    if ← words? ["GROUPING", "SETS"] then
      let sets ← inParens (g.commas g.exprTuple)
      return .form "GROUPING SETS" (sets.map .tuple)
    else if ← word? "CUBE" then
      let sets ← inParens (g.commas g.exprTupleOrOne)
      return .form "CUBE" (sets.map .tuple)
    else if ← word? "ROLLUP" then
      let sets ← inParens (g.commas g.exprTupleOrOne)
      return .form "ROLLUP" (sets.map .tuple)
    else if ← marks? ["(", ")"] then return .tuple []
    else g.expr
  else g.expr

def groupBy? : Parser (List Expr) := do
  if ← words? ["GROUP", "BY"] then
    let items ← if ← word? "ALL" then pure [] else g.commas g.groupItem
    let _ ← many g.budget do
      if ← g.onlyIn [.generic] (word? "WITH") then
        return some (← expectWordOf ["ROLLUP", "CUBE", "TOTALS"])
      else return none
    return items
  else return []

def namedWindow : Parser Unit := do
  let _ ← ident
  expectWord "AS"
  if ← mark? "(" then
    let _ ← g.window (g.intervalWith (g.operandAt g.budget))
  else if g.speaks [.generic] then
    let _ ← ident
  else expected "("

def windows? : Parser (List Expr) := do
  if ← word? "WINDOW" then
    let _ ← g.commas g.namedWindow
    return (← after? "QUALIFY" g.expr).toList
  else
    match ← after? "QUALIFY" g.expr with
    | some e =>
      let _ ← after? "WINDOW" (g.commas g.namedWindow)
      return [e]
    | none => return []

def connectBy? : Parser (List Expr) := do
  let k ← keyAt 0
  if g.speaks [.mssql, .generic] && (k == "START" || k == "CONNECT") then
    if ← words? ["CONNECT", "BY"] then
      let relations ← relations
      expectWords ["START", "WITH"]
      return relations ++ [← g.expr]
    else
      expectWords ["START", "WITH"]
      let e ← g.expr
      expectWords ["CONNECT", "BY"]
      return e :: (← relations)
  else return []
where
  relations : Parser (List Expr) := g.commas (g.exprIn true 0)

def exprsBy? (first : String) : Parser (List Expr) := do
  return (← afterAll? [first, "BY"] g.exprs).getD []

def select : Parser Select := do
  expectWord "SELECT"
  g.distinct?
  if ← word? "TOP" then g.top
  let projection ← g.selectItems
  let into ← g.into?
  let tables ← after? "FROM" (g.commas g.tableWithJoins)
  let views ← g.lateralViews
  let before ← following? (g.onlyIn [.generic] (word? "PREWHERE")) g.expr
  let condition ← after? "WHERE" g.expr
  let groups ← g.groupBy?
  let clusters ← g.exprsBy? "CLUSTER"
  let parts ← g.exprsBy? "DISTRIBUTE"
  let sorts ← g.exprsBy? "SORT"
  let having ← after? "HAVING" g.expr
  let windows ← g.windows?
  let connections ← g.connectBy?
  return ⟨projection, into, tables.getD [], views ++ before.toList ++ condition.toList ++ groups ++
    clusters ++ parts ++ sorts ++ having.toList ++ windows ++ connections⟩

end QueryWarden.Sql.Grammar
