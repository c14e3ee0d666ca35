import QueryWarden.Sql.Grammar.Operand

/-! Expressions: operands and the operators between and behind them. -/
namespace QueryWarden.Sql.Grammar
open Sql.Parser

variable (g : Grammar)

def commonOperators : List String := [
  "<=>", "==", "=", "<>", ">", ">=", "<", "<=", "+", "-", "*", "%", "||", "|", "^", "&", "/", "//",
  "~", "~*", "!~", "!~*", "~~", "~~*", "!~~", "!~~*", "->", "->>", "#>", "#>>", "@>", "<@", "#-",
  "@?", "@@", "?", "?&", "?|"]

def knowsOperator (symbol : String) : Bool :=
  commonOperators.contains symbol ||
  (["<<", ">>", "^@"].contains symbol && g.speaks [.postgres, .generic]) ||
  (["#", "&&"].contains symbol && g.speaks [.postgres])

def symbolName (symbol : String) : String :=
  match symbol with
  | "<<" => "ShiftLeft"
  | ">>" => "ShiftRight"
  | "#" => "Sharp"
  | "&&" => "Overlap"
  | "^@" => "CaretAt"
  | s => s

def operatorName : Token → String
  | .word w =>
    "Word(Word \x7b value: " ++ Text.quoted w.value ++ ", quote_style: None, keyword: " ++ w.key ++ " \x7d)"
  | .symbol s => symbolName s
  | t => t.text

def unknownOperator {α : Type} (t : Token) : Parser α :=
  failHere ("No infix parser for token " ++ operatorName t)

def comparisons : List String := [">", "<", ">=", "<=", "=", "==", "<>"]

/-- The right operand of an operator, behind it: an operand, or the values of a set, which only some
operators may have. The flag says whether there is a set. -/
def rightOperand (precedence : Nat) : Parser (Expr × Bool) := do
  match ← wordOf? ["ANY", "ALL"] with
  | none => return (← g.subexpr precedence, false)
  | some _ =>
    if (← symbolAt 0) == "(" then
      let k ← keyAt 1
      if k == "SELECT" || k == "WITH" then return (← g.subexpr precedence, true)
      else
        skip
        let e ← g.subexpr precedence
        expectMark ")"
        return (e, true)
    else expected "("

def binary (left : Expr) (operator : Parser String) (precedence : Nat) : Parser Expr := do
  let (text, right, set) ← checked (do return (← operator, ← g.rightOperand precedence))
    fun (text, _, set) =>
      if set && !comparisons.contains text then
        some ("Expected one of [=, >, <, =>, =<, !=] as comparison operator, found: " ++ text)
      else none
  return if set then .form (text ++ " SET") [left, right] else .binary text left right

def oneToken (text : String) : Parser String := do
  skip
  return text

def namedOperator : Parser String := do
  if (← symbolAt 1) == "(" then
    let parts ← passPath
    expectMark ")"
    return "OPERATOR(" ++ ".".intercalate parts ++ ")"
  else
    skip
    expected "("

def isTest (left : Expr) : Parser Expr := do
  let negated ← negated
  match ← wordOf? ["NULL", "TRUE", "FALSE", "UNKNOWN"] with
  | some k => return .form (negated ++ k) [left]
  | none =>
    if ← words? ["DISTINCT", "FROM"] then
      return .form (negated ++ "DISTINCT FROM") [left, ← g.expr]
    else expected "[NOT] NULL or TRUE|FALSE or [NOT] DISTINCT FROM after IS"
where
  negated : Parser String := do
    let k ← keyAt 1
    if (← keyAt 0) == "NOT" then
      if ["NULL", "TRUE", "FALSE", "UNKNOWN"].contains k then skip; return "IS NOT "
      else if ← wordsAhead ["NOT", "DISTINCT", "FROM"] then skip; return "IS NOT "
      else return "IS "
    else return "IS "

def inTest (left : Expr) : Parser Expr := do
  if ← word? "UNNEST" then return .form "IN UNNEST" [left, ← g.parenExpr]
  else
    inParens do
      if ← queryAhead then return .form "IN" [left, .subquery (← g.query)]
      else if g.speaks [.sqlite] then
        return .form "IN" (left :: (← listOrNone g.budget ")" g.expr))
      else return .form "IN" (left :: (← g.exprs))

def escape? : Parser Unit := do
  let _ ← after? "ESCAPE" g.literalString

def patternTest (left : Expr) : Parser Expr := do
  let negated := if ← word? "NOT" then "NOT " else ""
  let byExpression ← word? "REGEXP"
  let likeExpression ← word? "RLIKE"
  if byExpression || likeExpression then
    return .form (negated ++ "REGEXP") [left, ← g.subexpr (g.precedence .like)]
  else if ← word? "IN" then g.inTest left
  else if ← word? "BETWEEN" then
    let low ← g.subexpr (g.precedence .between)
    expectWord "AND"
    let high ← g.subexpr (g.precedence .between)
    return .form (negated ++ "BETWEEN") [left, low, high]
  else if ← word? "LIKE" <||> word? "ILIKE" then
    let _ ← word? "ANY"
    pattern (negated ++ "LIKE")
  else if ← words? ["SIMILAR", "TO"] then pattern (negated ++ "SIMILAR TO")
  else expected "IN or BETWEEN after NOT"
where
  pattern (name : String) : Parser Expr := do
    let p ← g.subexpr (g.precedence .like)
    g.escape?
    return .form name [left, p]

def slice (left : Expr) : Parser Expr := do
  if ← mark? ":" then
    if ← mark? "]" then return .form "SLICE" [left] else upper [left]
  else
    let low ← g.expr
    if ← mark? "]" then return .form "ELEMENT" [left, low]
    else
      expectMark ":"
      if ← mark? "]" then return .form "SLICE" [left, low] else upper [left, low]
where
  upper (found : List Expr) : Parser Expr := do
    let high ← g.expr
    if ← mark? "]" then return .form "SLICE" (found ++ [high])
    else
      expectMark ":"
      if ← mark? "]" then return .form "SLICE" (found ++ [high])
      else
        let step ← g.expr
        expectMark "]"
        return .form "SLICE" (found ++ [high, step])

def elements (left : Expr) : Parser Expr := do
  let first ← g.expr
  expectMark "]"
  let more ← many g.budget do
    if ← mark? "[" then
      let e ← g.expr
      expectMark "]"
      return some e
    else return none
  return .form "ELEMENT" (left :: first :: more)

def extended (left : Expr) (precedence : Nat) : Parser Expr := do
  match ← peek with
  | some (.word w) =>
    if w.key == "DIV" && g.speaks [.mysql] then
      skip
      return .binary "DIV" left (← insist g.expr)
    else if ["AND", "OR", "XOR"].contains w.key then
      g.binary left (oneToken w.key) precedence
    else if w.key == "OPERATOR" && g.speaks [.postgres, .generic] then
      g.binary left namedOperator precedence
    else if w.key == "IS" then skip; g.isTest left
    else if w.key == "AT" then
      skip
      expectWords ["TIME", "ZONE"]
      return .form "AT TIME ZONE" [left, ← g.subexpr precedence]
    else if ["NOT", "IN", "BETWEEN", "LIKE", "ILIKE", "SIMILAR", "REGEXP", "RLIKE"].contains w.key then
      g.patternTest left
    else unknownOperator (.word w)
  | some (.symbol s) =>
    if g.knowsOperator s then g.binary left (oneToken s) precedence
    else if s == "::" then
      skip
      return .cast left (← g.dataType)
    else if s == "!" then
      skip
      return .unary "!" left
    else if s == "[" then
      skip
      if g.speaks [.postgres, .generic] then g.slice left else g.elements left
    else unknownOperator (.symbol s)
  | some (.operator s) => g.binary left (oneToken s) precedence
  | some t => unknownOperator t
  | none => return left

def operation (precedence : Nat) : Parser Expr := do
  let first ← g.operandAt g.budget
  extend g.budget (fun left => do
    let next ← g.nextPrecedence
    if precedence < next then return some (← g.extended left next) else return none) first

end QueryWarden.Sql.Grammar
