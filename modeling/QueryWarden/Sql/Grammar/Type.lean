import QueryWarden.Sql.Grammar.Column

/-! The types of values. A type that opens angle brackets may be closed by the first half of a `>>`;
the rules carry whether the second half is still to be used. -/
namespace QueryWarden.Sql.Grammar
open Sql.Parser

def typeText : DataType → String
  | .interval => "INTERVAL"
  | .custom name => ".".intercalate (name.map Ident.text)
  | .builtin name => name
  | .array element => "ARRAY<" ++ typeText element ++ ">"

variable (g : Grammar)

def precision? : Parser String := do
  if ← mark? "(" then
    let n ← natural
    expectMark ")"
    return "(" ++ toString n ++ ")"
  else return ""

def lengthText : Parser String := do
  if ← word? "MAX" then return "MAX"
  let n ← natural
  match ← wordOf? ["CHARACTERS", "OCTETS"] with
  | some unit => return toString n ++ " " ++ unit
  | none => return toString n

def length? : Parser String := do
  if ← mark? "(" then
    let text ← lengthText
    expectMark ")"
    return "(" ++ text ++ ")"
  else return ""

def afterComma? (p : Parser String) : Parser String := do
  if ← mark? "," then return "," ++ (← p) else return ""

def digits? : Parser String := do
  if ← mark? "(" then
    let n ← natural
    let scale ← afterComma? (do return toString (← natural))
    expectMark ")"
    return "(" ++ toString n ++ scale ++ ")"
  else return ""

def zone? : Parser String := do
  match ← wordOf? ["WITH", "WITHOUT"] with
  | some k =>
    expectWords ["TIME", "ZONE"]
    return " " ++ k ++ " TIME ZONE"
  | none => return ""

def texts : Parser String := do
  expectMark "("
  let found ← following g.budget []
  return "(" ++ ", ".intercalate (found.map fun s => "'" ++ s ++ "'") ++ ")"
where
  following (budget : Nat) (found : List String) : Parser (List String) :=
    match budget with
    | 0 => tooDeep
    | budget + 1 => do
      match ← peek with
      | some (.literal .single s) =>
        skip
        if ← mark? "," then following budget (s :: found)
        else if ← mark? ")" then return (s :: found).reverse
        else expected ", or \x7d"
      | _ => expected "a string"

def modifiers? : Parser Unit := do
  if ← mark? "(" then
    let _ ← many g.budget do
      match ← peek with
      | some (.word _) | some (.number ..) | some (.literal .single _) | some (.symbol ",") =>
        skip
        return some ()
      | some (.symbol ")") => return none
      | _ => expected "type modifiers"
    expectMark ")"

def closingAngle (half : Bool) : Parser Bool := do
  if half then return false
  else if ← mark? ">" then return false
  else if ← mark? ">>" then return true
  else expected ">"

def fieldWith (type : Parser (DataType × Bool)) : Parser Bool := do
  match ← peekAt 0, ← peekAt 1 with
  | some (.word _), some (.word _) => skip
  | _, _ => return (← type).2
  return (← type).2

/-- The fields of a structure, and whether they used half of a `>>`. The first flag says whether there
are any. -/
def structWith (type : Parser (DataType × Bool)) : Parser (Bool × Bool) := do
  let fields ← checked (do
      expectWord "STRUCT"
      if ← mark? "<" then return some (← fields g.budget) else return none)
    fun | some none => some "unmatched > in STRUCT definition" | _ => none
  match fields with
  | some (some half) => return (true, ← closingAngle half)
  | _ => return (false, false)
where
  fields (budget : Nat) : Parser (Option Bool) :=
    match budget with
    | 0 => tooDeep
    | budget + 1 => do
      let half ← fieldWith type
      if ← mark? "," then (if half then return none else fields budget) else return some half

def plainTypes : List String := [
  "BOOLEAN", "BOOL", "REAL", "FLOAT4", "FLOAT32", "FLOAT64", "FLOAT8", "INT16", "INT32", "INT64",
  "INT128", "INT256", "UINT8", "UINT16", "UINT32", "UINT64", "UINT128", "UINT256", "UUID", "DATE",
  "DATE32", "JSON", "JSONB", "REGCLASS", "TEXT", "BYTEA", "TRIGGER"]

def preciseTypes : List String := [
  "FLOAT", "CLOB", "BINARY", "VARBINARY", "BLOB", "BYTES", "DATETIME", "TIMESTAMPTZ", "TIMETZ",
  "STRING"]

def integerTypes : List String := [
  "TINYINT", "INT2", "SMALLINT", "MEDIUMINT", "INT", "INT4", "INT8", "INTEGER", "BIGINT"]

def decimalTypes : List String := ["NUMERIC", "DECIMAL", "DEC", "BIGNUMERIC", "BIGDECIMAL"]

/-- A type that other types may stand in, at most `depth` levels of them; and whether it used half of
a `>>`. -/
def typeAt : Nat → Parser (DataType × Bool)
  | 0 => tooDeep
  | depth + 1 => do
    match ← peek with
    | some (.word w) =>
      let inner := typeAt depth
      let (base, half) ← baseType w.key inner (wholeType inner)
      let type ← extend g.budget (fun (type : DataType) => do
        if ← mark? "[" then
          if g.speaks [.generic, .postgres] then
            let _ ← attempt natural
          expectMark "]"
          return some (.array type)
        else return none) base
      return (type, half)
    | _ => expected "a data type name"
where
  wholeType (inner : Parser (DataType × Bool)) : Parser DataType := do
    let (type, half) ← inner
    if half then failBefore ("unmatched > after parsing data type " ++ typeText type)
    else return type
  plain (name : String) : Parser (DataType × Bool) := return (.builtin name, false)
  baseType (key : String) (inner : Parser (DataType × Bool)) (whole : Parser DataType) :
      Parser (DataType × Bool) := do
    if plainTypes.contains key then
      skip
      plain key
    else if preciseTypes.contains key then
      skip
      plain (key ++ (← precision?))
    else if integerTypes.contains key then
      skip
      let size ← precision?
      plain (key ++ size ++ (if ← word? "UNSIGNED" then " UNSIGNED" else ""))
    else if decimalTypes.contains key then
      skip
      plain (key ++ (← digits?))
    else if key == "INTERVAL" then
      skip
      return (.interval, false)
    else if key == "DOUBLE" then
      skip
      plain (if ← word? "PRECISION" then "DOUBLE PRECISION" else "DOUBLE")
    else if key == "VARCHAR" || key == "NVARCHAR" then
      skip
      plain (key ++ (← length?))
    else if key == "CHARACTER" || key == "CHAR" then
      skip
      if ← word? "VARYING" then plain (key ++ " VARYING" ++ (← length?))
      else if ← words? ["LARGE", "OBJECT"] then plain (key ++ " LARGE OBJECT" ++ (← precision?))
      else plain (key ++ (← length?))
    else if key == "TIMESTAMP" || key == "TIME" then
      skip
      let size ← precision?
      plain (key ++ size ++ (← zone?))
    else if key == "DATETIME64" then
      skip
      expectMark "("
      let n ← natural
      let zone ← afterComma? (do return " '" ++ (← g.literalString) ++ "'")
      expectMark ")"
      plain ("DateTime64(" ++ toString n ++ zone ++ ")")
    else if key == "FIXEDSTRING" then
      skip
      let n ← inParens natural
      plain ("FixedString(" ++ toString n ++ ")")
    else if key == "ENUM" || key == "SET" then
      skip
      plain (key ++ (← g.texts))
    else if key == "ARRAY" then
      skip
      expectMark "<"
      let (element, half) ← inner
      return (.array element, ← closingAngle half)
    else if key == "STRUCT" && g.speaks [.generic] then
      let (_, half) ← g.structWith inner
      return (.builtin "STRUCT", half)
    else if key == "UNION" && g.speaks [.generic] then
      skip
      let _ ← inParens (g.commas do
        let _ ← ident
        whole)
      plain "UNION"
    else if (key == "NULLABLE" || key == "LOWCARDINALITY") && g.speaks [.generic] then
      skip
      let type ← inParens whole
      plain (key ++ "(" ++ typeText type ++ ")")
    else if key == "MAP" && g.speaks [.generic] then
      skip
      inParens do
        let _ ← whole
        expectMark ","
        let _ ← whole
      plain "Map"
    else if key == "NESTED" && g.speaks [.generic] then
      skip
      let _ ← inParens (g.commas (g.columnWith whole))
      plain "Nested"
    else if key == "TUPLE" && g.speaks [.generic] then
      skip
      let _ ← inParens (g.commas (fieldWith inner))
      plain "Tuple"
    else
      let name ← g.objectName
      g.modifiers?
      return (.custom name, false)

def dataType : Parser DataType := typeAt.wholeType (g.typeAt g.budget)

def column : Parser Unit := g.columnWith g.dataType

end QueryWarden.Sql.Grammar
