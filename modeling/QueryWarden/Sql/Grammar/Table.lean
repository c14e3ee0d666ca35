import QueryWarden.Sql.Grammar.Operation

/-! Tables, what stands in place of them, and joins. -/
namespace QueryWarden.Sql.Grammar
open Sql.Parser

variable (g : Grammar)

def derivedTable (lateral : Bool) : Parser TableFactor := do
  let q ← g.query
  expectMark ")"
  return .derived lateral q (← g.tableAlias?)

def tableSettings? : Parser Bool := do
  if ← g.onlyIn [.generic] (word? "SETTINGS") then
    let _ ← g.commas do
      let _ ← ident
      expectMark "="
      let _ ← g.value
    return true
  else return false

def tableArguments : Parser (List Expr) := do
  if ← mark? ")" then return []
  let args ← arguments g.budget []
  expectMark ")"
  return args
where
  arguments (budget : Nat) (found : List Expr) : Parser (List Expr) :=
    match budget with
    | 0 => tooDeep
    | budget + 1 => do
      if ← g.tableSettings? then return found.reverse
      let e ← g.argument
      if ← mark? "," then arguments budget (e :: found) else return (e :: found).reverse

def missingValue? : Parser Bool := do
  if ← word? "NULL" then expectWord "ON"; return true
  else if ← word? "ERROR" then expectWord "ON"; return true
  else if ← word? "DEFAULT" then
    let _ ← g.value
    expectWord "ON"
    return true
  else return false

def documentColumn : Nat → Parser Unit
  | 0 => tooDeep
  | depth + 1 => do
    if ← word? "NESTED" then
      let _ ← word? "PATH"
      let _ ← g.value
      expectWord "COLUMNS"
      let _ ← inParens (g.commas (documentColumn depth))
    else
      let _ ← ident
      if ← word? "FOR" then expectWord "ORDINALITY"
      else
        let _ ← g.dataType
        let _ ← word? "EXISTS"
        expectWord "PATH"
        let _ ← g.value
        let _ ← many g.budget do
          if ← g.missingValue? then
            unless ← word? "EMPTY" do expectWord "ERROR"
            return some ()
          else return none

def jsonTable : Parser TableFactor := do
  let document ← g.expr
  expectMark ","
  let _ ← g.value
  expectWord "COLUMNS"
  let _ ← inParens (g.commas (g.documentColumn g.budget))
  expectMark ")"
  return .jsonTable document (← g.tableAlias?)

def namedExpr : Parser Expr := do
  let e ← g.expr
  let _ ← after? "AS" ident
  return e

def aggregate : Parser Expr := do
  match ← peek with
  | some (.word w) =>
    skip
    let e ← g.call (g.intervalWith (g.operandAt g.budget)) [⟨w.value, none⟩]
    let _ ← after? "AS" ident
    return e
  | _ => expectedPast "a function identifier"

def pivot (table : TableFactor) : Parser TableFactor := do
  expectMark "("
  let aggregates ← g.commas g.aggregate
  expectWord "FOR"
  let _ ← g.objectName
  expectWord "IN"
  inParens do
    if ← word? "ANY" then
      let _ ← g.orderBy?
    else if ← queryAhead then
      let _ ← g.query
    else
      let _ ← g.commas g.namedExpr
  if ← words? ["DEFAULT", "ON", "NULL"] then
    let _ ← g.parenExpr
  expectMark ")"
  return .pivot table aggregates (← g.tableAlias?)

def unpivot (table : TableFactor) : Parser TableFactor := do
  let columns ← inParens do
    let _ ← ident
    expectWord "FOR"
    let _ ← ident
    expectWord "IN"
    g.columnList
  return .unpivot table columns (← g.tableAlias?)

def turned (table : TableFactor) : Parser TableFactor :=
  extend g.budget (fun table => do
    if ← word? "PIVOT" then return some (← g.pivot table)
    else if ← word? "UNPIVOT" then return some (← g.unpivot table)
    else return none) table

def repetitionCount (place : Nat) : Parser Unit := do
  match ← peekAt place with
  | some (.number digits _) =>
    match readNatural (Nat.pow 2 32) digits.toList with
    | .ok _ => Parser.pure ()
    | .error why => failHere ("Could not parse '" ++ digits ++ "' as u32: " ++ why)
  | _ => Parser.pure ()

def repetitionRange : Parser Unit := do
  match ← peek with
  | some (.symbol ",") =>
    match ← peekAt 1 with
    | some (.number ..) =>
      if (← symbolAt 2) == "\x7d" then repetitionCount 1; skips 3
      else skips 2; expectMark "\x7d"
    | _ => skip; expected "literal number"
  | some (.number ..) =>
    if (← symbolAt 1) == "," then
      match ← peekAt 2 with
      | some (.number ..) =>
        if (← symbolAt 3) == "\x7d" then repetitionCount 0; repetitionCount 2; skips 4
        else skips 3; expectMark "\x7d"
      | some (.symbol "\x7d") => repetitionCount 0; skips 3
      | _ => skips 2; expected "\x7d or upper bound"
    else if (← symbolAt 1) == "\x7d" then repetitionCount 0; skips 2
    else skip; expectMark "\x7d"
  | _ => expected "quantifier range"

def rowPattern : Nat → Parser Unit
  | 0 => tooDeep
  | depth + 1 => do
    repeated depth
    let _ ← many g.budget do
      if [")", "|"].contains (← symbolAt 0) then return none
      else
        repeated depth
        return some ()
    if ← mark? "|" then rowPattern depth
where
  repeated (depth : Nat) : Parser Unit := do
    base depth
    let _ ← many g.budget do
      match ← peek with
      | some (.symbol "*") | some (.symbol "+") | some (.placeholder "?") => skip; return some ()
      | some (.symbol "\x7b") => skip; repetitionRange; return some ()
      | _ => return none
  base (depth : Nat) : Parser Unit := do
    match ← peek with
    | some (.symbol "^") | some (.placeholder "$") => skip
    | some (.symbol "\x7b") =>
      skip
      expectMark "-"
      let _ ← ident
      expectMark "-"
      expectMark "\x7d"
    | some (.symbol "(") => inParens (rowPattern depth)
    | some (.word w) =>
      skip
      if w.value == "PERMUTE" && w.quote.isNone then
        let _ ← g.identList
    | _ =>
      let _ ← ident

def rowsPerMatch? : Parser Unit := do
  unless ← words? ["ONE", "ROW", "PER", "MATCH"] do
    if ← words? ["ALL", "ROWS", "PER", "MATCH"] then
      unless ← words? ["SHOW", "EMPTY", "MATCHES"] <||> words? ["OMIT", "EMPTY", "MATCHES"] do
        let _ ← words? ["WITH", "UNMATCHED", "ROWS"]

def afterMatch? : Parser Unit := do
  if ← words? ["AFTER", "MATCH", "SKIP"] then
    unless ← words? ["PAST", "LAST", "ROW"] <||> words? ["TO", "NEXT", "ROW"] do
      if ← words? ["TO", "FIRST"] <||> words? ["TO", "LAST"] then
        let _ ← ident
      else expected "after match skip option"

def matchRecognize (table : TableFactor) : Parser TableFactor := do
  let definitions ← inParens do
    let _ ← afterAll? ["PARTITION", "BY"] g.exprs
    let _ ← g.orderBy?
    let _ ← after? "MEASURES" <| g.commas do
      let _ ← g.expr
      let _ ← word? "AS"
      ident
    rowsPerMatch?
    afterMatch?
    expectWord "PATTERN"
    inParens (g.rowPattern g.budget)
    expectWord "DEFINE"
    g.commas do
      let _ ← ident
      expectWord "AS"
      g.expr
  return .matchRecognize table definitions (← g.tableAlias?)

/-- The values of an array in place of a table, behind the keyword. The keyword `WITH` is passed even
if no `OFFSET` follows it. -/
def unnest : Parser TableFactor := do
  let arrays ← inParens g.exprs
  let _ ← words? ["WITH", "ORDINALITY"]
  let label ← g.tableAlias?
  let offset ← if ← word? "WITH" <&&> word? "OFFSET" then alias? reservedForColumnAlias
    else pure none
  return .unnest arrays label offset

def namedTable : Parser TableFactor := do
  let name ← g.objectName
  if ← g.onlyIn [.mysql, .generic] (word? "PARTITION") then
    let _ ← g.identList
  if ← g.onlyIn [.mssql] (words? ["FOR", "SYSTEM_TIME", "AS", "OF"]) then
    let _ ← g.expr
  let args ← following? (mark? "(") g.tableArguments
  let _ ← words? ["WITH", "ORDINALITY"]
  let label ← g.tableAlias?
  if ← marksAheadOfWith then
    skip
    let _ ← inParens g.exprs
  let table ← g.turned (.table name (args.getD []) label)
  if ← g.onlyIn [.generic] (word? "MATCH_RECOGNIZE") then g.matchRecognize table
  else return table
where
  marksAheadOfWith : Parser Bool := do
    return (← keyAt 0) == "WITH" && (← symbolAt 1) == "("

def joinCondition (natural : Bool) : Parser (List Expr) := do
  if natural then return []
  else if ← word? "ON" then return [← g.expr]
  else if ← word? "USING" then
    let columns ← g.columnList
    return columns.map fun i => .name [i]
  else return []

def sideJoin (side : String) : Parser Unit := do
  match ← wordOf? ["OUTER", "SEMI", "ANTI", "JOIN"] with
  | some "JOIN" => Parser.pure ()
  | some _ => expectWord "JOIN"
  | none => fail ("expected OUTER, SEMI, ANTI or JOIN after " ++ side)

def join? (factor : Parser TableFactor) : Parser (Option Join) := do
  let _ ← word? "GLOBAL"
  if ← word? "CROSS" then
    if (← wordOf? ["JOIN", "APPLY"]).isNone then expected "JOIN or APPLY after CROSS"
    return some ⟨← factor, []⟩
  else if ← word? "OUTER" then
    expectWord "APPLY"
    return some ⟨← factor, []⟩
  else if ← word? "ASOF" then
    expectWord "JOIN"
    let relation ← factor
    expectWord "MATCH_CONDITION"
    let condition ← g.parenExpr
    return some ⟨relation, condition :: (← g.joinCondition false)⟩
  else
    let natural ← word? "NATURAL"
    match ← keyAt 0 with
    | "INNER" | "JOIN" =>
      let _ ← word? "INNER"
      expectWord "JOIN"
      joined natural
    | "LEFT" => skip; sideJoin "LEFT"; joined natural
    | "RIGHT" => skip; sideJoin "RIGHT"; joined natural
    | "FULL" =>
      skip
      let _ ← word? "OUTER"
      expectWord "JOIN"
      joined natural
    | "OUTER" => expected "LEFT, RIGHT, or FULL"
    | _ => if natural then expected "a join type after NATURAL" else return none
where
  joined (natural : Bool) : Parser (Option Join) := do
    let relation ← factor
    return some ⟨relation, ← g.joinCondition natural⟩

def tableWithJoinsBy (factor : Parser TableFactor) : Parser TableWithJoins := do
  let relation ← factor
  return ⟨relation, ← many g.budget (g.join? factor)⟩

def valueRows : Parser (List (List Expr)) := rows false
where
  rows (orNone : Bool) : Parser (List (List Expr)) :=
    g.commas do
      let _ ← word? "ROW"
      inParens (if orNone then listOrNone g.budget ")" g.expr else g.exprs)

def valueRowsOrNone : Parser (List (List Expr)) := valueRows.rows g (g.speaks [.mysql])

/-- A table or what stands in place of one. Parentheses hold a derived table, or joined tables; where
a table stands alone in them, only some dialects take it, and then it gets the alias behind them.
Parentheses hold others, at most `depth` of them in each other. -/
def tableFactorAt : Nat → Parser TableFactor
  | 0 => tooDeep
  | depth + 1 => do
    if ← word? "LATERAL" then
      if ← mark? "(" then g.derivedTable true
      else
        let name ← g.objectName
        expectMark "("
        let args ← g.plainArguments
        return .function name args (← g.tableAlias?)
    else if ← word? "TABLE" then
      let e ← g.parenExpr
      return .tableFunction e (← g.tableAlias?)
    else if ← mark? "(" then
      match ← attempt (g.derivedTable false) with
      | some table => g.turned table
      | none => nested (← g.tableWithJoinsBy (tableFactorAt depth))
    else if ← g.onlyIn [.generic] (return (← keyAt 0) == "VALUES" && (← symbolAt 1) == "(") then
      skip
      let rows ← g.valueRows
      return .derived false ⟨[], .values rows, [], []⟩ (← g.tableAlias?)
    else if ← g.onlyIn [.postgres, .generic] (word? "UNNEST") then g.unnest
    else if (← keyAt 0) == "JSON_TABLE" && (← symbolAt 1) == "(" then
      skips 2
      g.jsonTable
    else g.namedTable
where
  nested (inner : TableWithJoins) : Parser TableFactor := do
    match inner with
    | ⟨.nestedJoin .., []⟩ | ⟨_, _ :: _⟩ =>
      expectMark ")"
      return .nestedJoin inner (← g.tableAlias?)
    | ⟨relation, []⟩ =>
      if g.speaks [.generic] then
        expectMark ")"
        match ← g.tableAlias?, relation.label with
        | none, _ => return relation
        | some label, none => return relation.withAlias (some label)
        | some _, some label => fail ("duplicate alias " ++ label.text)
      else expected "joined table"

def tableFactor : Parser TableFactor := g.tableFactorAt g.budget

def tableWithJoins : Parser TableWithJoins := g.tableWithJoinsBy g.tableFactor

end QueryWarden.Sql.Grammar
