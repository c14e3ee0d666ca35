import QueryWarden.Sql.Grammar.Precedence
import QueryWarden.Sql.Grammar.Type

/-! Calls of functions, with their windows, and the parts of time that some of them take. The bounds
of a window may be intervals, whose rule is handed in. -/
namespace QueryWarden.Sql.Grammar
open Sql.Parser

variable (g : Grammar)

def intervalUnits : List String := [
  "YEAR", "MONTH", "WEEK", "DAY", "HOUR", "MINUTE", "SECOND", "CENTURY", "DECADE", "DOW", "DOY",
  "EPOCH", "ISODOW", "ISOYEAR", "JULIAN", "MICROSECOND", "MICROSECONDS", "MILLENIUM", "MILLENNIUM",
  "MILLISECOND", "MILLISECONDS", "NANOSECOND", "NANOSECONDS", "QUARTER", "TIMEZONE",
  "TIMEZONE_HOUR", "TIMEZONE_MINUTE"]

def timeFields : List String :=
  intervalUnits ++ ["DAYOFWEEK", "DAYOFYEAR", "DATE", "DATETIME", "ISOWEEK", "TIME", "TIMEZONE_ABBR",
    "TIMEZONE_REGION"]

def timeField : Parser String := do
  match ← peek with
  | some (.word w) =>
    if timeFields.contains w.key then
      skip
      if ← provided (w.key == "WEEK" && g.speaks [.generic]) (mark? "(") then
        let _ ← ident
        expectMark ")"
      return w.key
    else if g.speaks [.generic, .postgres] then skip; return ""
    else expected "date/time field"
  | some (.literal .single _) =>
    if g.speaks [.generic, .postgres] then skip; return "" else expected "date/time field"
  | _ => expected "date/time field"

def intervalRange : Parser Unit := do
  let unit ← if intervalUnits.contains (← keyAt 0) then g.timeField
    else if g.speaks [.mysql] then failHere "INTERVAL requires a unit after the literal value"
    else pure ""
  if unit == "SECOND" then
    let _ ← digits?
  else
    let _ ← precision?
    if ← word? "TO" then
      if (← g.timeField) == "SECOND" then
        let _ ← precision?

def intervalWith (operand : Parser Expr) : Parser Expr := do
  let e ← if g.speaks [.mysql] then g.expr else operand
  g.intervalRange
  return .form "INTERVAL" [e]

def orderItem : Parser Expr := do
  let e ← g.expr
  direction?
  unless ← words? ["NULLS", "FIRST"] do
    let _ ← words? ["NULLS", "LAST"]
  if ← g.onlyIn [.generic] (words? ["WITH", "FILL"]) then
    let _ ← after? "FROM" g.expr
    let _ ← after? "TO" g.expr
    let _ ← after? "STEP" g.expr
  return e

def orderItems : Parser (List Expr) := g.commas g.orderItem

def orderBy? : Parser (List Expr) := do
  if ← words? ["ORDER", "BY"] then g.orderItems else return []

def windowBound (interval : Parser Expr) : Parser Unit := do
  unless ← words? ["CURRENT", "ROW"] do
    unless ← word? "UNBOUNDED" do
      match ← peek with
      | some (.literal .single _) =>
        let _ ← interval
      | _ =>
        let _ ← g.expr
    if (← wordOf? ["PRECEDING", "FOLLOWING"]).isNone then expected "PRECEDING or FOLLOWING"

def windowFrame (interval : Parser Expr) : Parser Unit := do
  if (← wordOf? ["ROWS", "RANGE", "GROUPS"]).isNone then expected "ROWS, RANGE, GROUPS"
  if ← word? "BETWEEN" then
    g.windowBound interval
    expectWord "AND"
  g.windowBound interval

def window (interval : Parser Expr) : Parser (List Expr) := do
  match ← peek with
  | some (.word w) => if w.isOrdinary then skip
  | _ => Parser.pure ()
  let parts ← if ← words? ["PARTITION", "BY"] then g.exprs else pure []
  let order ← g.orderBy?
  unless ← mark? ")" do
    g.windowFrame interval
    expectMark ")"
  return parts ++ order

def nullTreatment? : Parser Bool := do
  match ← wordOf? ["RESPECT", "IGNORE"] with
  | some _ => expectWord "NULLS"; return true
  | none => return false

def allOrDistinct : Parser Bool :=
  (·.2) <$> checked (do return (← word? "ALL", ← word? "DISTINCT"))
    fun both => if both == (true, true) then some "Cannot specify both ALL and DISTINCT" else none

def starredName? : Parser (Option ObjectName) :=
  orNothing do
    match ← peek with
    | some (.word _) | some (.literal .single _) =>
      let first ← ident
      parts g.budget [first]
    | _ => return none
where
  parts (budget : Nat) (found : List Ident) : Parser (Option ObjectName) :=
    match budget with
    | 0 => tooDeep
    | budget + 1 => do
      if ← mark? "." then
        match ← peek with
        | some (.word w) => skip; parts budget (w.ident :: found)
        | some (.literal .single s) => skip; parts budget (⟨s, some '\''⟩ :: found)
        | some (.symbol "*") => skip; return some found.reverse
        | _ => expected "an identifier or a '*' after '.'"
      else return none

def exprOrStar : Parser Expr := do
  if ← mark? "*" then return .allColumns
  match ← g.starredName? with
  | some table => return .allColumnsOf table
  | none => g.expr

def argument : Parser Expr := do
  let operator ← symbolAt 1
  if operator == "=>" || (operator == ":=" && g.speaks [.generic]) then
    let _ ← ident
    expectMark operator
  g.exprOrStar

def overflow? : Parser Unit := do
  if ← words? ["ON", "OVERFLOW"] then
    unless ← word? "ERROR" do
      expectWord "TRUNCATE"
      match ← peek with
      | some (.word w) =>
        unless w.key == "WITH" || w.key == "WITHOUT" do
          expected "either filler, WITH, or WITHOUT in LISTAGG"
      | some (.literal .single _) | some (.literal .escaped _) | some (.literal .unicode _)
      | some (.literal .national _) | some (.literal .hex _) =>
        let _ ← g.expr
      | _ => expected "either filler, WITH, or WITHOUT in LISTAGG"
      if (← wordOf? ["WITH", "WITHOUT"]).isNone then expected "either WITH or WITHOUT in LISTAGG"
      expectWord "COUNT"

def arguments : Parser (List Expr × Bool) := do
  if ← mark? ")" then return ([], false)
  let _ ← allOrDistinct
  let args ← g.commas g.argument
  let treated ← if g.speaks [.generic] then nullTreatment? else pure false
  let order ← g.orderBy?
  let _ ← after? "LIMIT" g.expr
  if ← g.onlyIn [.generic] (word? "HAVING") then
    let _ ← expectWordOf ["MIN", "MAX"]
    let _ ← g.expr
  if ← g.onlyIn [.generic, .mysql] (word? "SEPARATOR") then
    let _ ← g.value
  g.overflow?
  expectMark ")"
  return (args ++ order, treated)

def plainArguments : Parser (List Expr) := do
  if ← mark? ")" then return []
  let args ← g.commas g.argument
  expectMark ")"
  return args

/-- A call of a function behind its name. The keyword `FILTER` and what follows it are passed as far
as they are a filter. -/
def call (interval : Parser Expr) (name : ObjectName) : Parser Expr := do
  expectMark "("
  let (first, treatedFirst) ← g.arguments
  let (args, treated) ← if ← g.onlyIn [.generic] (mark? "(") then g.arguments
    else pure (first, treatedFirst)
  let group ← if ← words? ["WITHIN", "GROUP"] then
      inParens do
        expectWords ["ORDER", "BY"]
        g.orderItems
    else pure []
  if ← g.onlyIn [.sqlite, .postgres, .generic] (word? "FILTER" <&&> mark? "(" <&&> word? "WHERE") then
    let _ ← g.expr
    expectMark ")"
  unless treated do
    let _ ← nullTreatment?
  if ← word? "OVER" then
    if ← mark? "(" then
      let _ ← g.window interval
    else
      let _ ← ident
  return .call name (args ++ group)

end QueryWarden.Sql.Grammar
