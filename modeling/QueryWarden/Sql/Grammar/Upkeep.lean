import QueryWarden.Sql.Grammar.Definition

/-! Statements that look after a database: its files, statistics, caches and comments. -/
namespace QueryWarden.Sql.Grammar
open Sql.Parser

variable (g : Grammar)

def analyzeTable : Parser StatementKind := do
  expectWord "TABLE"
  let _ ← g.objectName
  let _ ← many g.budget do
    match ← wordOf? ["PARTITION", "FOR", "CACHE", "NOSCAN", "COMPUTE"] with
    | none => return none
    | some k =>
      match k with
      | "PARTITION" =>
        let _ ← inParens g.exprs
      | "FOR" =>
        expectWord "COLUMNS"
        let _ ← attempt g.idents
      | "CACHE" => expectWord "METADATA"
      | "COMPUTE" => expectWord "STATISTICS"
      | _ => Parser.pure ()
      return some ()
  return .analyze

def attach : Parser StatementKind := do
  let _ ← word? "DATABASE"
  let _ ← g.expr
  expectWord "AS"
  let _ ← ident
  return .attachDatabase

def detach : Parser StatementKind := do
  let _ ← word? "DATABASE"
  let _ ← ifExists?
  let _ ← ident
  return .detachDatabase

def checkParts : Parser StatementKind := do
  let _ ← word? "REPAIR"
  expectWord "TABLE"
  let _ ← g.objectName
  let _ ← attempt do
    let _ ← wordOf? ["ADD", "DROP", "SYNC"]
    expectWord "PARTITIONS"
  return .msck

def optimizeTable : Parser StatementKind := do
  expectWord "TABLE"
  let _ ← g.objectName
  onCluster?
  if ← word? "PARTITION" then
    if ← word? "ID" then
      let _ ← ident
    else
      let _ ← g.expr
  let _ ← word? "FINAL"
  if ← word? "DEDUPLICATE" then
    let _ ← after? "BY" g.expr
  return .optimizeTable

def uncache : Parser StatementKind := do
  expectWord "TABLE"
  let _ ← ifExists?
  let _ ← g.objectName
  return .uncache

def kill : Parser StatementKind := do
  let what ← wordOf? ["CONNECTION", "QUERY", "MUTATION"]
  let _ ← natural
  if what == some "MUTATION" && !g.speaks [.generic] then
    expected "Unsupported type for KILL, allowed: CONNECTION | QUERY"
  return .kill

def flushedTables : Rule Unit := do
  let _ ← many g.budget do
    match ← peek with
    | some (.word w) =>
      if w.isOrdinary then
        let _ ← g.objectNames
      else
        skip
        if w.key == "WITH" then
          let _ ← words? ["READ", "LOCK"]
        else if w.key == "FOR" then
          let _ ← word? "EXPORT"
      return some ()
    | _ => return none
  Rule.pass

def flushable : String :=
  "BINARY LOGS, ENGINE LOGS, ERROR LOGS, GENERAL LOGS, HOSTS, LOGS, PRIVILEGES, OPTIMIZER_COSTS,"
    ++ "RELAY LOGS [FOR CHANNEL channel], SLOW LOGS, STATUS, USER_RESOURCES"

def flush : Rule StatementKind := do
  unless g.speaks [.mysql, .generic] do failHere "Unsupported statement FLUSH"
  let _ ← wordOf? ["NO_WRITE_TO_BINLOG", "LOCAL"]
  if ← words? ["BINARY", "LOGS"] <||> words? ["ENGINE", "LOGS"] <||> words? ["ERROR", "LOGS"] <||>
      words? ["GENERAL", "LOGS"] <||> word? "HOSTS" <||> word? "PRIVILEGES" <||>
      word? "OPTIMIZER_COSTS" <||> words? ["SLOW", "LOGS"] <||> word? "STATUS" <||>
      word? "USER_RESOURCES" <||> word? "LOGS" then
    return .flush
  else if ← words? ["RELAY", "LOGS"] then
    let _ ← afterAll? ["FOR", "CHANNEL"] (insist g.objectName)
    return .flush
  else if ← word? "TABLES" then
    g.flushedTables
    return .flush
  else expected flushable

def comment : Parser StatementKind := do
  let _ ← ifExists?
  expectWord "ON"
  if (← wordOf? ["COLUMN", "TABLE", "EXTENSION"]).isNone then expected "comment object_type"
  let _ ← g.objectName
  expectWord "IS"
  unless ← word? "NULL" do
    let _ ← g.literalString
  return .comment

def pragmaValue : Parser Unit := do
  let found ← orNothing do
    match ← g.value with
    | .text .single _ | .text .double _ | .number _ | .placeholder _ => return some ()
    | _ => return none
  if found.isNone then expected "number or string or ? placeholder"

def pragma : Parser StatementKind := do
  let _ ← g.objectName
  if (← symbolAt 0) == "(" then inParens g.pragmaValue
  else if ← mark? "=" then g.pragmaValue
  return .pragma

def explainSettings : Parser Unit := do
  let _ ← inParens <| g.commas do
    let _ ← ident
    unless [",", ")"].contains (← symbolAt 0) do
      let _ ← g.expr

def explainFormat? : Parser Unit := do
  if ← word? "FORMAT" then
    if (← wordOf? ["TEXT", "GRAPHVIZ", "JSON"]).isNone then expected "fileformat"

def explainWords (settings : Bool) : Parser Unit := do
  if ← provided (settings && g.speaks [.generic, .postgres]) (marksAhead ["("]) then
    g.explainSettings
  else unless ← words? ["QUERY", "PLAN"] do
    let _ ← word? "ANALYZE"
    let _ ← word? "VERBOSE"
    explainFormat?

def explainTable : Parser StatementKind := do
  let _ ← wordOf? ["EXTENDED", "FORMATTED"]
  let _ ← g.objectName
  return .explainTable

end QueryWarden.Sql.Grammar
