import QueryWarden.Sql.Grammar.Access
import QueryWarden.Sql.Grammar.Alteration
import QueryWarden.Sql.Grammar.Change
import QueryWarden.Sql.Grammar.Removal
import QueryWarden.Sql.Grammar.Session
import QueryWarden.Sql.Grammar.Upkeep
import QueryWarden.Sql.Tokens

/-! Scripts: the statements of a text, with terminators between them. A statement that begins like a
query is read by the parser for queries; of any other statement only its kind is kept, and a few of
them look beyond the terminator. -/
namespace QueryWarden.Sql

open Sql.Parser Grammar in
def Parser.queryStarts : Parser Bool := do
  return ["SELECT", "WITH", "VALUES"].contains (← keyAt 0) || (← symbolAt 0) == "("

namespace Grammar
open Sql.Parser

variable (g : Grammar)

def copy : Rule StatementKind := do
  if ← g.copyHead then
    match ← get with
    | t :: rest =>
      if t.token = .terminator then set (Rule.copiedRows rest)
      else Rule.ofParser (expected ";")
    | [] => Rule.ofParser (expected ";")
  return .copy

def shownSetting : Rule StatementKind := do
  modify fun ts => ts.dropWhile (·.token ≠ .symbol "=")
  return .showVariable

def showStatement : Rule StatementKind := do
  match ← g.show? with
  | some kind => return kind
  | none => shownSetting

def cachedQuery? : Rule Unit := do
  unless ← Rule.atEnd do
    if (← keyAt 0) == "OPTIONS" then g.settings? "OPTIONS"
    unless ← Rule.atEnd do
      match ← peek with
      | some (.word _) =>
        let _ ← word? "AS"
        let _ ← g.query
      | _ => Rule.ofParser (expected "a QUERY statement")

/-- A table that is kept in memory. At the end of a text a missing keyword is reported at the last
token. -/
def cache : Rule StatementKind := do
  unless ← word? "TABLE" do
    let before ← get
    let _ ← g.objectName
    unless ← word? "TABLE" do
      if ← Rule.atEnd then set before.getLast?.toList
      Rule.ofParser (expected "a \x60TABLE\x60 keyword")
  let _ ← g.objectName
  g.cachedQuery?
  return .cache

def explain (statement : Rule Statement) (settings : Bool) : Rule StatementKind := do
  g.explainWords settings
  match ← Rule.attempt statement with
  | some (.other .explain) | some (.other .explainTable) =>
    Rule.ofParser (fail "Explain must be root of the plan")
  | some _ => return .explain
  | none => g.explainTable

def prepare (statement : Rule Statement) : Rule StatementKind := do
  let _ ← ident
  if (← symbolAt 0) == "(" then
    let _ ← inParens (g.commas g.dataType)
  expectWord "AS"
  let _ ← statement
  return .prepare

/-- Statements with terminators between them, up to the end of the text or to an `END` where a
terminator could stand. -/
def script (statement : Rule Statement) (budget : Nat := g.budget) (delimited : Bool := true)
    (found : List Statement := []) : Rule (List Statement) :=
  match budget with
  | 0 => Rule.ofParser tooDeep
  | budget + 1 => do
    let delimited := (← Rule.terminators) || delimited
    if ← Rule.atEnd then return found.reverse
    else if delimited then
      let s ← statement
      script statement budget false (s :: found)
    else if (← keyAt 0) == "END" then return found.reverse
    else Rule.ofParser (expected "end of statement")

def procedureParameters : Parser Unit := do
  if ← mark? "(" then
    unless ← mark? ")" do parameters g.budget
where
  parameters : Nat → Parser Unit
    | 0 => tooDeep
    | budget + 1 => do
      match ← peek with
      | some (.word _) =>
        let _ ← ident
        let _ ← g.dataType
      | _ => Parser.pure ()
      let comma ← mark? ","
      unless ← mark? ")" do
        if comma then parameters budget
        else expected "',' or ')' after parameter definition"

def createProcedure (statement : Rule Statement) : Rule StatementKind := do
  let _ ← g.objectName
  g.procedureParameters
  expectWords ["AS", "BEGIN"]
  let _ ← g.script statement
  expectWord "END"
  return .createProcedure

def createWords : Parser (Bool × Bool) := do
  let replacing ← words? ["OR", "REPLACE"]
  let altering ← words? ["OR", "ALTER"]
  let isLocal ← word? "LOCAL"
  let isGlobal ← word? "GLOBAL"
  let transient ← word? "TRANSIENT"
  let temporary ← wordOf? ["TEMP", "TEMPORARY"]
  return (replacing, !(replacing || altering || isLocal || isGlobal || transient || temporary.isSome))

def replaceable? : Rule (Option StatementKind) := do
  let k ← keyAt 0
  if k == "TABLE" then skip; some <$> g.createTable
  else if k == "MATERIALIZED" || k == "VIEW" then some <$> g.createView
  else if k == "POLICY" then skip; some <$> g.createPolicy
  else if k == "EXTERNAL" then skip; some <$> g.createExternalTable
  else if k == "FUNCTION" then
    if g.speaks [.postgres, .generic] then skip; some <$> g.createFunction
    else expected "an object type after CREATE"
  else if ← wordsAhead ["TRIGGER"] <||> wordsAhead ["CONSTRAINT", "TRIGGER"] then
    let _ ← word? "CONSTRAINT"
    if g.speaks [.postgres, .generic] then skip; some <$> g.createTrigger
    else expected "an object type after CREATE"
  else if k == "MACRO" then
    if g.speaks [.generic] then skip; some <$> g.createMacro
    else expected "an object type after CREATE"
  else if k == "SECRET" then skip; some <$> g.createSecret
  else return none

def create (statement : Rule Statement) : Rule StatementKind := do
  let (replacing, plain) ← createWords
  match ← g.replaceable? with
  | some kind => return kind
  | none =>
    if replacing then Rule.ofParser (expected
      "[EXTERNAL] TABLE or [MATERIALIZED] VIEW or FUNCTION after CREATE OR REPLACE")
    else if ← word? "EXTENSION" then createExtension
    else if ← word? "INDEX" <||> words? ["UNIQUE", "INDEX"] then g.createIndex
    else if ← word? "VIRTUAL" then g.createVirtualTable
    else if ← word? "SCHEMA" then g.createSchema
    else if ← word? "DATABASE" then g.createDatabase
    else if ← word? "ROLE" then g.createRole
    else if ← word? "SEQUENCE" then g.createSequence
    else if ← word? "TYPE" then g.createType plain
    else if ← word? "PROCEDURE" then g.createProcedure statement
    else Rule.ofParser (expected "an object type after CREATE")

def alter : Rule StatementKind := do
  match ← expectWordOf ["VIEW", "TABLE", "INDEX", "ROLE", "POLICY"] with
  | "VIEW" => g.alterView
  | "TABLE" => g.alterTable
  | "INDEX" => g.alterIndex
  | "ROLE" => g.alterRole
  | _ => g.alterPolicy

def named (kind : StatementKind) : Parser StatementKind := do
  let _ ← ident
  return kind

def rule? (key : String) : Option (Rule StatementKind) :=
  match key with
  | "KILL" => some g.kill
  | "FLUSH" => some g.flush
  | "ANALYZE" => some g.analyzeTable
  | "TRUNCATE" => some g.truncate
  | "ATTACH" => some g.attach
  | "DETACH" => only [.generic] detach
  | "MSCK" => some g.checkParts
  | "DROP" => some g.drop
  | "DISCARD" => some discard
  | "DECLARE" => some g.declare
  | "FETCH" => some g.fetch
  | "DELETE" => some g.delete
  | "INSERT" => some g.insertStatement
  | "REPLACE" => some g.replaceStatement
  | "UNCACHE" => some g.uncache
  | "UPDATE" => some g.updateStatement
  | "ALTER" => some g.alter
  | "CALL" => some g.callStatement
  | "CLOSE" => some close
  | "SET" => some g.setStatement
  | "USE" => some (do
      let _ ← g.objectName
      return .use)
  | "GRANT" => some g.grant
  | "REVOKE" => some g.revoke
  | "START" => some g.startTransaction
  | "BEGIN" => some g.beginTransaction
  | "END" | "COMMIT" => some commit
  | "SAVEPOINT" => some (named .savepoint)
  | "RELEASE" => some releaseSavepoint
  | "ROLLBACK" => some rollback
  | "ASSERT" => some g.assertion
  | "DEALLOCATE" => some deallocate
  | "EXECUTE" | "EXEC" => some g.execute
  | "MERGE" => some g.merge
  | "LISTEN" => only [.postgres] (named .listen)
  | "NOTIFY" => only [.postgres] g.notify
  | "COMMENT" => only [.postgres] g.comment
  | "PRAGMA" => some g.pragma
  | "UNLOAD" => some g.unload
  | "INSTALL" => only [.generic] (named .install)
  | "LOAD" => only [.generic] (named .load)
  | "OPTIMIZE" => only [.generic] g.optimizeTable
  | _ => none
where
  only (ds : List Dialect) (p : Rule StatementKind) : Option (Rule StatementKind) :=
    if g.speaks ds then some p else none

def otherStatement (statement : Rule Statement) : Rule StatementKind := do
  let k ← keyAt 0
  if g.speaks [.sqlite] && k == "REPLACE" then g.insertStatement
  else if ← g.onlyIn [.mysql] (words? ["LOCK", "TABLES"]) then g.lockTables
  else if ← g.onlyIn [.mysql] (words? ["UNLOCK", "TABLES"]) then return .unlockTables
  else
    match g.rule? k with
    | some p => skip; p
    | none =>
      match k with
      | "EXPLAIN" => skip; g.explain statement true
      | "DESC" | "DESCRIBE" => skip; g.explain statement false
      | "CREATE" => skip; g.create statement
      | "CACHE" => skip; g.cache
      | "COPY" => skip; g.copy
      | "SHOW" => skip; g.showStatement
      | "PREPARE" => skip; g.prepare statement
      | _ => Rule.ofParser (expected "an SQL statement")

def statementAt (d : Dialect) (budget : Nat) : Nat → Rule Statement
  | 0 => Rule.ofParser tooDeep
  | depth + 1 => do
    let g := atDepth d budget depth
    if ← queryStarts then .query <$> g.query
    else .other <$> g.otherStatement (statementAt d budget depth)

end Grammar

def maxDepth : Nat := 50

def budgetOf (ts : List Located) : Nat :=
  (ts.reverse.dropWhile (·.token = .terminator)).length + 1

/-- The statements that tokens make, and the tokens that are left unread. -/
def readScript (d : Dialect) (ts : List Located) : Except Fault (List Statement × List Located) :=
  let budget := budgetOf ts
  (Grammar.atDepth d budget maxDepth).script (Grammar.statementAt d budget maxDepth) budget true [] ts

def statementsOf (d : Dialect) (ts : List Located) : Except Fault (List Statement) :=
  (readScript d ts).map (·.1)

def statements (d : Dialect) (text : String) : Except Fault (List Statement) :=
  match tokens d text.toList with
  | .error e => .error (.syntaxError e.text)
  | .ok ts => statementsOf d ts

def Fault.text : Fault → String
  | syntaxError message => "sql parser error: " ++ message
  | tooDeep => "sql parser error: recursion limit exceeded"
  | crash message => message

end QueryWarden.Sql
