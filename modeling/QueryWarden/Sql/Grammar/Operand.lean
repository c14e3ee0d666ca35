import QueryWarden.Sql.Grammar.Call

/-! The operands of expressions: names, written values, calls, and the phrases that begin with a word
of their own. -/
namespace QueryWarden.Sql.Grammar
open Sql.Parser

variable (g : Grammar)

def parenQuery : Parser Query := inParens g.query

def queryAhead : Parser Bool := do
  let k ← keyAt 0
  return k == "SELECT" || k == "WITH"

def existsTest : Parser Expr := do return .form "EXISTS" [.subquery (← g.parenQuery)]

def negation : Parser Expr := do
  if ← word? "EXISTS" then g.existsTest
  else return .unary "NOT" (← g.subexpr (g.precedence .not))

def caseExpr : Parser Expr := do
  let operand ← if ← word? "WHEN" then pure [] else do
    let e ← g.expr
    expectWord "WHEN"
    pure [e]
  let branches ← branches g.budget []
  let otherwise ← after? "ELSE" g.expr
  expectWord "END"
  return .form "CASE" (operand ++ branches ++ otherwise.toList)
where
  branches (budget : Nat) (found : List Expr) : Parser (List Expr) :=
    match budget with
    | 0 => tooDeep
    | budget + 1 => do
      let condition ← g.expr
      expectWord "THEN"
      let result ← g.expr
      let found := result :: condition :: found
      if ← word? "WHEN" then branches budget found else return found.reverse

def castExpr : Parser Expr :=
  inParens do
    let e ← g.expr
    expectWord "AS"
    let type ← g.dataType
    if ← word? "FORMAT" then
      let _ ← g.value
      if ← words? ["AT", "TIME", "ZONE"] then
        let _ ← g.value
    return .cast e type

def convertExpr : Parser Expr :=
  inParens do
    if g.speaks [.mssql] then
      let type ← g.dataType
      expectMark ","
      let e ← g.expr
      if ← mark? "," then
        let _ ← g.exprs
      return .cast e type
    else
      let e ← g.expr
      if ← word? "USING" then
        let _ ← g.objectName
        return .form "CONVERT" [e]
      else
        expectMark ","
        let type ← g.dataType
        if ← words? ["CHARACTER", "SET"] then
          let _ ← g.objectName
        return .cast e type

def extractExpr : Parser Expr :=
  inParens do
    let _ ← g.timeField
    unless ← word? "FROM" do
      let comma ← mark? ","
      unless comma && g.speaks [.generic] do fail "Expected 'FROM' or ','"
    return .form "EXTRACT" [← g.expr]

def roundExpr : Parser Expr :=
  inParens do
    let e ← g.expr
    if ← word? "TO" then
      let _ ← g.timeField
    else if ← mark? "," then
      match ← g.value with
      | .number _ => Parser.pure ()
      | _ => fail "Scale field can only be of number type"
    return .form "ROUND" [e]

def positionExpr (interval : Parser Expr) (name : Ident) : Parser Expr := do
  let found ← attempt <| inParens do
    let e ← g.subexpr (g.precedence .between)
    expectWord "IN"
    return .form "POSITION" [e, ← g.expr]
  match found with
  | some e => return e
  | none => g.call interval [name]

def substringExpr : Parser Expr :=
  inParens do
    let e ← g.expr
    let first ← following? (mark? "," <||> word? "FROM") g.expr
    let size ← following? (word? "FOR" <||> mark? ",") g.expr
    return .form "SUBSTRING" (e :: first.toList ++ size.toList)

def overlayExpr : Parser Expr :=
  inParens do
    let e ← g.expr
    expectWord "PLACING"
    let what ← g.expr
    expectWord "FROM"
    let first ← g.expr
    let size ← after? "FOR" g.expr
    return .form "OVERLAY" (e :: what :: first :: size.toList)

def trimExpr : Parser Expr :=
  inParens do
    let _ ← wordOf? ["BOTH", "LEADING", "TRAILING"]
    let e ← g.expr
    if ← word? "FROM" then return .form "TRIM" [e, ← g.expr]
    else
      let comma ← mark? ","
      if comma && g.speaks [.generic] then return .form "TRIM" (e :: (← g.exprs))
      else return .form "TRIM" [e]

def arrayItems : Parser Expr := do
  let items ← listOrNone g.budget "]" g.expr
  expectMark "]"
  return .form "ARRAY" items

def matchAgainst : Parser Expr := do
  let columns ← g.columnList
  expectWord "AGAINST"
  inParens do
    let sought ← g.value
    if ← words? ["IN", "NATURAL", "LANGUAGE", "MODE"] then
      let _ ← words? ["WITH", "QUERY", "EXPANSION"]
    else unless ← words? ["IN", "BOOLEAN", "MODE"] do
      let _ ← words? ["WITH", "QUERY", "EXPANSION"]
    return .form "MATCH" (columns.map (fun i => .name [i]) ++ [.literal sought])

def structExpr : Parser Expr := do
  let (typed, half) ← g.structWith (g.typeAt g.budget)
  if half then failHere "unmatched > in STRUCT literal"
  inParens do
    let fields ← g.commas do
      let e ← g.expr
      if (← keyAt 0) == "AS" then
        if typed then failHere "Typed syntax does not allow AS"
        skip
        let _ ← ident
      return e
    return .form "STRUCT" fields

def dictionary (key : Parser Unit) : Parser Expr := do
  expectMark "\x7b"
  let values ← listOrNone g.budget "\x7d" do
    key
    expectMark ":"
    g.expr
  expectMark "\x7d"
  return .form "MAP" values

def longName (interval : Parser Expr) (first : Ident) : Parser Expr := do
  let (name, starred) ← parts g.budget [first]
  if starred then return .allColumnsOf name
  else if (← symbolAt 0) == "(" then
    if ← g.onlyIn [.mssql] (marks? ["(", "+", ")"]) then return .form "OUTER" [.name name]
    else g.call interval name
  else return .name name
where
  parts (budget : Nat) (found : List Ident) : Parser (ObjectName × Bool) :=
    match budget with
    | 0 => tooDeep
    | budget + 1 => do
      if ← mark? "." then
        match ← peek with
        | some (.word w) => skip; parts budget (w.ident :: found)
        | some (.literal .single s) => skip; parts budget (⟨s, some '\''⟩ :: found)
        | some (.symbol "*") =>
          if g.speaks [.postgres] then skip; return (found.reverse, true)
          else expected "an identifier after '.'"
        | _ => expected "an identifier or a '*' after '.'"
      else return (found.reverse, false)

def namedOperand (interval : Parser Expr) (w : Word) : Parser Expr := do
  match ← peek with
  | some (.symbol "(") | some (.symbol ".") => g.longName interval w.ident
  | some (.literal .single s) | some (.literal .double s) | some (.literal .hex s) =>
    if w.value.startsWith "_" then skip; return .form w.value [.literal (.text .single s)]
    else return .name [w.ident]
  | _ => return .name [w.ident]

def wordOperand (interval : Parser Expr) (w : Word) : Parser Expr := do
  match w.key with
  | "TRUE" => return .literal (.boolean true)
  | "FALSE" => return .literal (.boolean false)
  | "NULL" => return .literal .null
  | "CURRENT_CATALOG" | "CURRENT_USER" | "SESSION_USER" | "USER" =>
    if g.speaks [.postgres, .generic] then return .call [w.ident] []
    else g.namedOperand interval w
  | "CURRENT_TIMESTAMP" | "CURRENT_TIME" | "CURRENT_DATE" | "LOCALTIME" | "LOCALTIMESTAMP" =>
    if ← mark? "(" then return .call [w.ident] (← g.arguments).1
    else return .call [w.ident] []
  | "CASE" => g.caseExpr
  | "CONVERT" => g.convertExpr
  | "TRY_CONVERT" =>
    if g.speaks [.mssql, .generic] then g.convertExpr else g.namedOperand interval w
  | "CAST" | "TRY_CAST" | "SAFE_CAST" => g.castExpr
  | "EXISTS" => g.existsTest
  | "EXTRACT" => g.extractExpr
  | "CEIL" | "FLOOR" => g.roundExpr
  | "POSITION" =>
    if (← symbolAt 0) == "(" then g.positionExpr interval w.ident else g.namedOperand interval w
  | "SUBSTRING" => g.substringExpr
  | "OVERLAY" => g.overlayExpr
  | "TRIM" => g.trimExpr
  | "INTERVAL" => interval
  | "ARRAY" =>
    if ← mark? "[" then g.arrayItems
    else if (← symbolAt 0) == "(" then return .call [w.ident] [.subquery (← g.parenQuery)]
    else g.namedOperand interval w
  | "NOT" => g.negation
  | "MATCH" => if g.speaks [.mysql, .generic] then g.matchAgainst else g.namedOperand interval w
  | "PRIOR" =>
    if g.prior then return .unary "PRIOR" (← g.subexpr (g.precedence .sum))
    else g.namedOperand interval w
  | "MAP" =>
    if g.speaks [.generic] && (← symbolAt 0) == "\x7b" then
      g.dictionary (do let _ ← g.expr)
    else g.namedOperand interval w
  | _ => g.namedOperand interval w

def parenOperand : Parser Expr := do
  let e ← if ← queryAhead then (do return .subquery (← g.query)) else contents
  expectMark ")"
  if ← mark? "." then
    match ← peek with
    | some (.word w) => skip; return .form "FIELD" [e, .name [w.ident]]
    | _ => failFound "Expected identifier, found: "
  else return e
where
  contents : Parser Expr := do
    match ← g.exprs with
    | [e] => return .nested e
    | es => return .tuple es

def sign? (symbol : String) : Option Binding :=
  if symbol == "-" || symbol == "+" then some .product
  else if g.speaks [.postgres] && ["!!", "|/", "||/", "@", "~"].contains symbol then some .sum
  else none

def symbolOperand (symbol : String) : Parser Expr := do
  match g.sign? symbol with
  | some b =>
    skip
    return .unary symbol (← g.subexpr (g.precedence b))
  | none =>
    match symbol with
    | "[" => skip; g.arrayItems
    | "(" => skip; g.parenOperand
    | ":" | "@" => return .literal (← g.value)
    | "\x7b" =>
      if g.speaks [.generic] then g.dictionary (do let _ ← ident)
      else expected "an expression"
    | _ => expected "an expression"

def typedLiteral? (interval : Parser Expr) : Parser (Option Expr) :=
  attempt do
    match ← g.dataType with
    | .interval => interval
    | .custom _ => fail ""
    | type => return .typed type (← g.literalString)

def bareOperand (interval : Parser Expr) : Parser Expr := do
  match ← peek with
  | some (.word w) =>
    if w.key == "STRUCT" && g.speaks [.generic] then g.structExpr
    else
      skip
      g.wordOperand interval w
  | some (.symbol s) => g.symbolOperand s
  | some (.number ..) | some (.placeholder _) | some (.dollarQuoted ..) =>
    return .literal (← g.value)
  | some (.literal .escaped _) =>
    if g.speaks [.postgres, .generic] then return .literal (← g.value)
    else expected "an expression"
  | some (.literal ..) => return .literal (← g.value)
  | _ => expected "an expression"

/-- An operand. A typed literal ends where it ends; any other operand may have an order of its texts
behind it. Intervals hold operands, at most `depth` of them in each other. -/
def operandAt : Nat → Parser Expr
  | 0 => tooDeep
  | depth + 1 => do
    let _ ← peek
    let interval := g.intervalWith (operandAt depth)
    match ← g.typedLiteral? interval with
    | some e => return e
    | none =>
      let e ← g.bareOperand interval
      if ← word? "COLLATE" then
        let _ ← g.objectName
        return .form "COLLATE" [e]
      else return e

end QueryWarden.Sql.Grammar
