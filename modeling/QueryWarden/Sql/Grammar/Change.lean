import QueryWarden.Sql.Grammar.Definition

/-! Changes of rows that are no queries: removals, merges, and copies from and to files. -/
namespace QueryWarden.Sql.Grammar
open Sql.Parser

variable (g : Grammar)

def insertStatement : Parser StatementKind := do
  match ← g.insert with
  | .table .. => return .insert
  | .directory .. => return .directory

def replaceStatement : Parser StatementKind := do
  unless g.speaks [.mysql, .generic] do failHere "Unsupported statement REPLACE"
  g.insertStatement

def updateStatement : Parser StatementKind := do
  let _ ← g.update
  return .update

def delete : Parser StatementKind := do
  unless ← word? "FROM" do
    unless g.speaks [.generic] do
      let _ ← g.objectNames
      expectWord "FROM"
  let _ ← g.commas g.tableWithJoins
  let _ ← after? "USING" (g.commas g.tableWithJoins)
  let _ ← after? "WHERE" g.expr
  g.returning?
  let _ ← g.orderBy?
  if ← word? "LIMIT" then
    unless ← word? "ALL" do
      let _ ← g.expr
  return .delete

def truncate : Parser StatementKind := do
  let _ ← word? "TABLE"
  let _ ← word? "ONLY"
  let _ ← g.objectNames
  let _ ← after? "PARTITION" (inParens g.exprs)
  if g.speaks [.postgres, .generic] then
    unless ← words? ["RESTART", "IDENTITY"] do
      let _ ← words? ["CONTINUE", "IDENTITY"]
    let _ ← wordOf? ["CASCADE", "RESTRICT"]
  onCluster?
  return .truncate

inductive MergeRows where
  | matched
  | notMatched
  | notMatchedByTarget
  | notMatchedBySource
deriving DecidableEq

namespace MergeRows

def text : MergeRows → String
  | matched => "MATCHED"
  | notMatched => "NOT MATCHED"
  | notMatchedByTarget => "NOT MATCHED BY TARGET"
  | notMatchedBySource => "NOT MATCHED BY SOURCE"

def areThere : MergeRows → Bool
  | matched | notMatchedBySource => true
  | notMatched | notMatchedByTarget => false

end MergeRows

def mergeRows : Parser MergeRows := do
  if ← word? "NOT" then
    expectWord "MATCHED"
    if ← words? ["BY", "SOURCE"] then return .notMatchedBySource
    else if ← words? ["BY", "TARGET"] then return .notMatchedByTarget
    else return .notMatched
  else
    expectWord "MATCHED"
    return .matched

def mergeAction (rows : MergeRows) : Parser Unit := do
  match ← wordOf? ["UPDATE", "INSERT", "DELETE"] with
  | some "INSERT" =>
    if rows.areThere then refuse "INSERT"
    let _ ← if g.speaks [.mysql] then g.columnListOrNone? else g.columnList?
    unless ← g.onlyIn [.generic] (word? "ROW") do
      expectWord "VALUES"
      let _ ← g.valueRowsOrNone
  | some "UPDATE" =>
    unless rows.areThere do refuse "UPDATE"
    expectWord "SET"
    let _ ← g.commas g.assignment
  | some k =>
    unless rows.areThere do refuse k
  | none => fail "expected UPDATE, DELETE or INSERT in merge clause"
where
  refuse (action : String) : Parser Unit :=
    fail (action ++ " is not allowed in a " ++ rows.text ++ " merge clause")

def merge : Parser StatementKind := do
  let _ ← word? "INTO"
  let _ ← g.tableFactor
  expectWord "USING"
  let _ ← g.tableFactor
  expectWord "ON"
  let _ ← g.expr
  let _ ← many g.budget do
    if (← peek).isNone then return none
    else
      expectWord "WHEN"
      let rows ← mergeRows
      let _ ← after? "AND" g.expr
      expectWord "THEN"
      g.mergeAction rows
      return some ()
  return .merge

def literalByte : Parser Unit := do
  let _ ← checked g.literalString fun s =>
    if s.utf8ByteSize == 1 then none else some ("Expect a char, found " ++ Text.quoted s)

def switch? : Parser Unit := do
  let _ ← wordOf? ["TRUE", "FALSE"]

def copySetting : Parser Unit := do
  match ← wordOf? ["FORMAT", "FREEZE", "DELIMITER", "NULL", "HEADER", "QUOTE", "ESCAPE",
      "FORCE_QUOTE", "FORCE_NOT_NULL", "FORCE_NULL", "ENCODING"] with
  | none => expected "option"
  | some k =>
    if k == "FORMAT" then
      let _ ← ident
    else if ["FREEZE", "HEADER"].contains k then switch?
    else if ["DELIMITER", "QUOTE", "ESCAPE"].contains k then g.literalByte
    else if ["NULL", "ENCODING"].contains k then
      let _ ← g.literalString
    else
      let _ ← g.columnList

def separatedSetting : Parser Unit := do
  match ← wordOf? ["HEADER", "QUOTE", "ESCAPE", "FORCE"] with
  | some "HEADER" => Parser.pure ()
  | some "FORCE" =>
    if ← words? ["NOT", "NULL"] <||> word? "QUOTE" then
      let _ ← g.idents
    else expected "csv option"
  | some _ =>
    let _ ← word? "AS"
    g.literalByte
  | none => expected "csv option"

def plainCopySetting : Parser Unit := do
  match ← wordOf? ["BINARY", "DELIMITER", "NULL", "CSV"] with
  | some "BINARY" => Parser.pure ()
  | some "DELIMITER" =>
    let _ ← word? "AS"
    g.literalByte
  | some "NULL" =>
    let _ ← word? "AS"
    let _ ← g.literalString
  | some _ =>
    let _ ← many g.budget (attempt g.separatedSetting)
  | none => expected "option"

def copyPlace : Parser Bool := do
  if ← word? "STDIN" then return true
  else
    unless ← word? "STDOUT" do
      let _ ← word? "PROGRAM"
      let _ ← g.literalString
    return false

def copyHead : Parser Bool := do
  let ofQuery ← mark? "("
  if ofQuery then
    let _ ← g.query
    expectMark ")"
  else
    let _ ← g.objectName
    let _ ← g.columnList?
  match ← wordOf? ["FROM", "TO"] with
  | some "FROM" => if ofQuery then fail "COPY ... FROM does not support query as a source"
  | some _ => Parser.pure ()
  | none => expected "FROM or TO"
  let rowsFollow ← g.copyPlace
  let _ ← word? "WITH"
  if (← symbolAt 0) == "(" then
    let _ ← inParens (g.commas g.copySetting)
  let _ ← many g.budget (attempt g.plainCopySetting)
  return rowsFollow

def unload : Parser StatementKind := do
  let _ ← g.parenQuery
  expectWord "TO"
  let _ ← ident
  g.settings? "WITH"
  return .unload

end QueryWarden.Sql.Grammar
