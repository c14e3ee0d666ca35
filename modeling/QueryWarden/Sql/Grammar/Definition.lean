import QueryWarden.Sql.Grammar.Query
import QueryWarden.Sql.Rule
import QueryWarden.Sql.Statement

/-! Definitions: the statements that begin with `CREATE`, without those that hold statements. -/
namespace QueryWarden.Sql.Grammar
open Sql.Parser

variable (g : Grammar)

def ifNotExists? : Parser Bool := words? ["IF", "NOT", "EXISTS"]

def ifExists? : Parser Bool := words? ["IF", "EXISTS"]

def anyIdent : Rule Bool := do
  let named ← match ← peek with
    | some (.word _) | some (.literal .single _) | some (.literal .double _) => pure true
    | _ => pure false
  Rule.pass
  return named

def anyName : Rule Unit := parts g.budget
where
  parts : Nat → Rule Unit
    | 0 => Rule.ofParser tooDeep
    | budget + 1 => do
      if ← anyIdent <&&> mark? "." then parts budget

def onCluster? : Parser Unit := do
  let _ ← afterAll? ["ON", "CLUSTER"] ident

def indexMethod? : Parser Bool := do
  if ← word? "USING" then
    if (← wordOf? ["BTREE", "HASH"]).isNone then expected "index type \x7bBTREE | HASH\x7d"
    return true
  else return false

def indexOptions : Parser Unit := do
  let _ ← many g.budget do
    if ← indexMethod? then return some ()
    else if ← word? "COMMENT" then
      let _ ← g.literalString
      return some ()
    else return none

def indexColumns : Parser Unit := do
  let _ ← attempt ident
  let _ ← indexMethod?
  let _ ← g.columnList

def tableConstraint? : Parser Bool := do
  let name ← after? "CONSTRAINT" ident
  let k ← keyAt 0
  if k == "UNIQUE" then
    skip
    let display ← wordOf? ["KEY", "INDEX"]
    if display.isSome && !g.speaks [.generic, .mysql] then
      expected "\x60index_name\x60 or \x60(column_name [, ...])\x60"
    g.indexColumns
    g.indexOptions
    constraintTiming
    return true
  else if k == "PRIMARY" then
    skip
    expectWord "KEY"
    g.indexColumns
    g.indexOptions
    constraintTiming
    return true
  else if k == "FOREIGN" then
    skip
    expectWord "KEY"
    let _ ← g.columnList
    expectWord "REFERENCES"
    let _ ← g.objectName
    let _ ← g.columnList
    references.actions false false 2
    constraintTiming
    return true
  else if k == "CHECK" then
    skip
    let _ ← g.parenExpr
    return true
  else if (k == "INDEX" || k == "KEY") && g.speaks [.generic, .mysql] && name.isNone then
    skip
    if (← keyAt 0) == "USING" then
      let _ ← indexMethod?
      let _ ← g.columnList
    else g.indexColumns
    return true
  else if (k == "FULLTEXT" || k == "SPATIAL") && g.speaks [.generic, .mysql] then
    match name with
    | some name =>
      failHere ("Expected: FULLTEXT or SPATIAL option without constraint name, found: " ++ name.text)
    | none =>
      skip
      let _ ← wordOf? ["KEY", "INDEX"]
      let _ ← attempt ident
      let _ ← g.columnList
      return true
  else if name.isSome then expected "PRIMARY, UNIQUE, FOREIGN, or CHECK"
  else return false

def tableColumns : Parser Unit := do
  if ← mark? "(" then
    unless ← mark? ")" do columns g.budget
where
  columns : Nat → Parser Unit
    | 0 => tooDeep
    | budget + 1 => do
      unless ← g.tableConstraint? do
        match ← peek with
        | some (.word _) => g.column
        | _ => expected "column name or constraint definition"
      let comma ← mark? ","
      let close := (← symbolAt 0) == ")"
      if !comma && !close then expected "',' or ')' after column definition"
      if close && !comma then skip else columns budget

def distribution? : Parser Unit := do
  if ← words? ["PARTITIONED", "BY"] then
    let _ ← inParens (g.commas g.column)

def rowFormat : Parser Unit := do
  expectWord "FORMAT"
  match ← wordOf? ["SERDE", "DELIMITED"] with
  | some "SERDE" =>
    let _ ← g.literalString
  | _ =>
    let _ ← many g.budget do
      match ← wordOf? ["FIELDS", "COLLECTION", "MAP", "LINES", "NULL"] with
      | some "FIELDS" =>
        if ← words? ["TERMINATED", "BY"] then
          let _ ← ident
          let _ ← afterAll? ["ESCAPED", "BY"] ident
          return some ()
        else return none
      | some "COLLECTION" => named ["ITEMS", "TERMINATED", "BY"]
      | some "MAP" => named ["KEYS", "TERMINATED", "BY"]
      | some "LINES" => named ["TERMINATED", "BY"]
      | some "NULL" => named ["DEFINED", "AS"]
      | _ => return none
where
  named (ks : List String) : Parser (Option Unit) := do
    if ← words? ks then
      let _ ← ident
      return some ()
    else return none

def storage? : Parser Unit := do
  let _ ← many g.budget do
    if ← word? "ROW" then
      g.rowFormat
      return some ()
    else if ← word? "STORED" then
      expectWord "AS"
      if ← word? "INPUTFORMAT" then
        let _ ← g.expr
        expectWord "OUTPUTFORMAT"
        let _ ← g.expr
      else fileFormat
      return some ()
    else if ← word? "LOCATION" then
      let _ ← g.literalString
      return some ()
    else if ← words? ["WITH", "SERDEPROPERTIES"] then
      let _ ← inParens (g.commas g.setting)
      return some ()
    else return none

def clusteredBy? : Parser Unit := do
  if ← g.onlyIn [.generic] (words? ["CLUSTERED", "BY"]) then
    let _ ← g.columnList
    if ← words? ["SORTED", "BY"] then
      let _ ← inParens g.orderItems
    expectWord "INTO"
    let _ ← g.numberValue
    expectWord "BUCKETS"

def assignedWord : Parser Unit := do
  expectMark "="
  match ← peek with
  | some (.word _) => skip
  | _ => expected "identifier"

def tableOptions : Parser Unit := do
  let _ ← words? ["WITHOUT", "ROWID"]
  g.distribution?
  g.clusteredBy?
  g.storage?
  g.settings? "WITH"
  g.settings? "TBLPROPERTIES"
  if ← word? "ENGINE" then
    assignedWord
    if (← symbolAt 0) == "(" then
      let _ ← g.identList
  if ← word? "AUTO_INCREMENT" then
    let _ ← mark? "="
    let _ ← naturalBelow "u32" (Nat.pow 2 32) "literal int"
  let _ ← following? (g.onlyIn [.generic] (words? ["PRIMARY", "KEY"])) g.expr
  if ← words? ["ORDER", "BY"] then
    let _ ← g.exprTupleOrOne
  let _ ← following? (g.onlyIn [.postgres, .generic] (words? ["PARTITION", "BY"])) g.expr
  if g.speaks [.generic] then
    let _ ← afterAll? ["CLUSTER", "BY"] g.idents
    g.settings? "OPTIONS"
  if ← words? ["DEFAULT", "CHARSET"] then assignedWord
  if ← word? "COLLATE" then assignedWord
  if ← words? ["ON", "COMMIT"] then
    unless ← words? ["DELETE", "ROWS"] <||> words? ["PRESERVE", "ROWS"] <||> word? "DROP" do
      failBefore "Expecting DELETE ROWS, PRESERVE ROWS or DROP"
  let _ ← word? "STRICT"
  if ← word? "COMMENT" then
    let _ ← mark? "="
    match ← peek with
    | some (.literal .single _) => skip
    | _ => expected "comment"

def createTable : Rule StatementKind := do
  let _ ← ifNotExists?
  let _ ← g.objectName
  onCluster?
  if ← word? "LIKE" <||> word? "ILIKE" then g.anyName
  if ← word? "CLONE" then g.anyName
  g.tableColumns
  g.tableOptions
  let _ ← after? "AS" g.query
  return .createTable

def createExternalTable : Parser StatementKind := do
  expectWord "TABLE"
  let _ ← ifNotExists?
  let _ ← g.objectName
  g.tableColumns
  g.distribution?
  g.storage?
  g.settings? "TBLPROPERTIES"
  return .createTable

def viewColumn : Parser Unit := do
  let _ ← ident
  if g.speaks [.generic] && ["OPTIONS", "COMMENT"].contains (← keyAt 0) then
    let _ ← g.columnProperty?

def createView : Parser StatementKind := do
  let _ ← word? "MATERIALIZED"
  expectWord "VIEW"
  let _ ← g.onlyIn [.sqlite, .generic] ifNotExists?
  let _ ← g.objectName
  if (← symbolAt 0) == "(" then
    let _ ← inParens (listOrNone g.budget ")" g.viewColumn)
  g.settings? "WITH"
  if ← word? "CLUSTER" then
    expectWord "BY"
    let _ ← g.columnList?
  if g.speaks [.generic] then
    g.settings? "OPTIONS"
    let _ ← after? "TO" g.objectName
    if ← word? "COMMENT" then
      expectMark "="
      match ← peek with
      | some (.literal .single _) => skip
      | _ => expected "string literal"
  expectWord "AS"
  let _ ← g.query
  let _ ← g.onlyIn [.generic] (words? ["WITH", "NO", "SCHEMA", "BINDING"])
  return .createView

def owner : Parser Unit := do
  if (← wordOf? ["CURRENT_USER", "CURRENT_ROLE", "SESSION_USER"]).isNone then
    match ← peek with
    | some (.word _) | some (.literal .single _) | some (.literal .double _) => skip
    | _ => failFound ("Expected: CURRENT_USER, CURRENT_ROLE, SESSION_USER or identifier after OWNER TO. "
        ++ "sql parser error: Expected: identifier, found: ")

def policyClauses : Parser Unit := do
  let _ ← after? "TO" (g.commas owner)
  let _ ← after? "USING" g.parenExpr
  let _ ← afterAll? ["WITH", "CHECK"] g.parenExpr

def createPolicy : Parser StatementKind := do
  let _ ← ident
  expectWord "ON"
  let _ ← g.objectName
  let _ ← after? "AS" (expectWordOf ["PERMISSIVE", "RESTRICTIVE"])
  let _ ← after? "FOR" (expectWordOf ["ALL", "SELECT", "INSERT", "UPDATE", "DELETE"])
  g.policyClauses
  return .createPolicy

def parameter : Parser Unit := do
  let _ ← wordOf? ["IN", "OUT", "INOUT"]
  match ← g.dataType with
  | .custom _ =>
    let _ ← g.dataType
  | _ => Parser.pure ()
  let _ ← following? (word? "DEFAULT" <||> mark? "=") g.expr

def signature : Parser Unit := do
  let _ ← g.objectName
  if (← symbolAt 0) == "(" then
    let _ ← inParens (listOrNone g.budget ")" g.parameter)

structure FunctionParts where
  body : Bool
  language : Bool
  behaviour : Bool
  nulls : Bool
  parallel : Bool

def functionPart? (seen : FunctionParts) : Parser (Option FunctionParts) := do
  if ← word? "AS" then
    once seen.body "AS"
    match ← peek with
    | some (.dollarQuoted ..) => skip
    | _ =>
      let _ ← g.literalString
    return some { seen with body := true }
  else if ← word? "LANGUAGE" then
    once seen.language "LANGUAGE"
    let _ ← ident
    return some { seen with language := true }
  else if (← wordOf? ["IMMUTABLE", "STABLE", "VOLATILE"]).isSome then
    once seen.behaviour "IMMUTABLE | STABLE | VOLATILE"
    return some { seen with behaviour := true }
  else if ← words? ["CALLED", "ON", "NULL", "INPUT"] <||>
      words? ["RETURNS", "NULL", "ON", "NULL", "INPUT"] <||> word? "STRICT" then
    once seen.nulls "CALLED ON NULL INPUT | RETURNS NULL ON NULL INPUT | STRICT"
    return some { seen with nulls := true }
  else if ← word? "PARALLEL" then
    once seen.parallel "PARALLEL \x7b UNSAFE | RESTRICTED | SAFE \x7d"
    if (← wordOf? ["UNSAFE", "RESTRICTED", "SAFE"]).isNone then
      expected "one of UNSAFE | RESTRICTED | SAFE"
    return some { seen with parallel := true }
  else if ← word? "RETURN" then
    once seen.body "RETURN"
    let _ ← g.expr
    return some { seen with body := true }
  else return none
where
  once (seen : Bool) (name : String) : Parser Unit := do
    if seen then fail (name ++ " specified more than once")

def createFunction : Parser StatementKind := do
  let _ ← g.objectName
  let _ ← inParens (listOrNone g.budget ")" g.parameter)
  let _ ← after? "RETURNS" g.dataType
  let _ ← extend g.budget g.functionPart? ⟨false, false, false, false, false⟩
  return .createFunction

def triggerEvent : Parser Unit := do
  if (← expectWordOf ["INSERT", "UPDATE", "DELETE", "TRUNCATE"]) == "UPDATE" then
    let _ ← after? "OF" g.idents

def triggerEvents : Nat → Parser Unit
  | 0 => tooDeep
  | budget + 1 => do
    g.triggerEvent
    if ← word? "OR" then triggerEvents budget

def createTrigger : Rule StatementKind := do
  let _ ← g.objectName
  if (← expectWordOf ["BEFORE", "AFTER", "INSTEAD"]) == "INSTEAD" then expectWord "OF"
  g.triggerEvents g.budget
  expectWord "ON"
  let _ ← g.objectName
  if ← word? "FROM" then g.anyName
  constraintTiming
  if ← word? "REFERENCING" then
    let _ ← many g.budget do
      if (← wordOf? ["OLD", "NEW"]).isSome then
        if ← word? "TABLE" then
          let _ ← word? "AS"
          return some (← g.objectName)
        else return none
      else return none
  expectWord "FOR"
  let _ ← word? "EACH"
  let _ ← expectWordOf ["ROW", "STATEMENT"]
  let _ ← after? "WHEN" g.expr
  expectWord "EXECUTE"
  let _ ← expectWordOf ["FUNCTION", "PROCEDURE"]
  g.signature
  return .createTrigger

def createMacro : Parser StatementKind := do
  let _ ← g.objectName
  let _ ← inParens <| listOrNone g.budget ")" do
    let _ ← ident
    following? (mark? ":=" <||> mark? "=>") g.expr
  expectWord "AS"
  if ← word? "TABLE" then
    let _ ← g.query
  else
    let _ ← g.expr
  return .createMacro

def createSecret : Rule StatementKind := do
  let _ ← ifNotExists?
  if (← symbolAt 0) != "(" then
    let behindIn ← word? "IN"
    let named ← anyIdent
    if ← provided (!(behindIn && named)) (word? "IN") then Rule.pass
  Rule.ofParser <| inParens do
    expectWord "TYPE"
    let _ ← ident
    if ← mark? "," then
      let _ ← g.commas do
        let _ ← ident
        ident
  return .createSecret

def createExtension : Parser StatementKind := do
  let _ ← ifNotExists?
  let _ ← ident
  if ← word? "WITH" then
    let _ ← after? "SCHEMA" ident
    let _ ← after? "VERSION" ident
    let _ ← word? "CASCADE"
  return .createExtension

def createIndex : Parser StatementKind := do
  let _ ← word? "CONCURRENTLY"
  let conditional ← ifNotExists?
  if conditional || !(← word? "ON") then
    let _ ← g.objectName
    expectWord "ON"
  let _ ← g.objectName
  let _ ← after? "USING" ident
  let _ ← inParens g.orderItems
  let _ ← after? "INCLUDE" g.identList
  if ← word? "NULLS" then
    let _ ← word? "NOT"
    expectWord "DISTINCT"
  if ← g.onlyIn [.postgres, .generic] (word? "WITH") then
    let _ ← inParens g.exprs
  let _ ← after? "WHERE" g.expr
  return .createIndex

def createVirtualTable : Parser StatementKind := do
  expectWord "TABLE"
  let _ ← ifNotExists?
  let _ ← g.objectName
  expectWord "USING"
  let _ ← ident
  let _ ← g.columnList?
  return .createVirtualTable

def createSchema : Parser StatementKind := do
  let _ ← ifNotExists?
  if (← keyAt 0) != "AUTHORIZATION" then
    let _ ← g.objectName
  let _ ← after? "AUTHORIZATION" ident
  return .createSchema

def createDatabase : Parser StatementKind := do
  let _ ← ifNotExists?
  let _ ← g.objectName
  let _ ← many g.budget do
    match ← wordOf? ["LOCATION", "MANAGEDLOCATION"] with
    | some _ => return some (← g.literalString)
    | none => return none
  return .createDatabase

def createSequence : Parser StatementKind := do
  let _ ← ifNotExists?
  let _ ← g.objectName
  let _ ← after? "AS" g.dataType
  g.sequenceOptions
  if ← words? ["OWNED", "BY"] then
    unless ← word? "NONE" do
      let _ ← g.objectName
  return .createSequence

def trailing (definition : Parser Unit) (what : String) : Parser Unit := do
  if ← mark? "(" then
    unless ← mark? ")" do definitions g.budget
where
  definitions : Nat → Parser Unit
    | 0 => tooDeep
    | budget + 1 => do
      definition
      let comma ← mark? ","
      unless ← mark? ")" do
        if comma then definitions budget
        else expected ("',' or ')' after " ++ what ++ " definition")

def enumeration? : Parser Bool := do
  if g.speaks [.postgres] then
    let found ← attempt do
      let _ ← g.objectName
      expectWords ["AS", "ENUM"]
    return found.isSome
  else return false

def createType (plain : Bool) : Parser StatementKind := do
  if ← provided plain g.enumeration? then
    unless ← mark? "(" do expected "'(' after CREATE TYPE AS ENUM"
    let _ ← listOrNone g.budget ")" ident
    unless ← mark? ")" do expected "')' after CREATE TYPE AS ENUM"
  else
    let _ ← g.objectName
    expectWord "AS"
    g.trailing (do
      let _ ← ident
      let _ ← g.dataType
      let _ ← after? "COLLATE" g.objectName) "attribute"
  return .createType

end QueryWarden.Sql.Grammar
