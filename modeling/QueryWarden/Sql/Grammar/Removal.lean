import QueryWarden.Sql.Grammar.Definition

/-! Removals of what is defined: the statements that begin with `DROP`. -/
namespace QueryWarden.Sql.Grammar
open Sql.Parser

variable (g : Grammar)

def dependents (role : Bool) : Parser Unit := do
  let _ ← checked (do return (← word? "CASCADE", ← word? "RESTRICT", ← word? "PURGE"))
    fun (cascade, restrict, purge) =>
      if cascade && restrict then some "Cannot specify both CASCADE and RESTRICT in DROP"
      else if role && (cascade || restrict || purge) then
        some "Cannot specify CASCADE, RESTRICT, or PURGE in DROP ROLE"
      else none

def dependents? : Parser Unit := do
  let _ ← wordOf? ["CASCADE", "RESTRICT"]

def dropNames (role : Bool) : Parser StatementKind := do
  let _ ← ifExists?
  let _ ← g.objectNames
  dependents role
  return .drop

def dropSignatures (kind : StatementKind) : Parser StatementKind := do
  let _ ← ifExists?
  let _ ← g.commas g.signature
  dependents?
  return kind

def dropPolicy : Parser StatementKind := do
  let _ ← ifExists?
  let _ ← ident
  expectWord "ON"
  let _ ← g.objectName
  dependents?
  return .dropPolicy

def dropSecret : Rule StatementKind := do
  let _ ← ifExists?
  let _ ← ident
  if ← word? "FROM" then Rule.pass
  return .dropSecret

def dropTrigger : Parser StatementKind := do
  unless g.speaks [.postgres, .generic] do expected "an object type after DROP"
  expectWord "TRIGGER"
  let _ ← ifExists?
  let _ ← g.objectName
  expectWord "ON"
  let _ ← g.objectName
  dependents?
  return .dropTrigger

def namedObjects : List String :=
  ["TABLE", "VIEW", "INDEX", "ROLE", "SCHEMA", "DATABASE", "SEQUENCE", "STAGE", "TYPE"]

def drop : Rule StatementKind := do
  let _ ← g.onlyIn [.mysql, .generic] (word? "TEMPORARY")
  match ← wordOf? namedObjects with
  | some k => g.dropNames (k == "ROLE")
  | none =>
    if ← word? "FUNCTION" then g.dropSignatures .dropFunction
    else if ← word? "POLICY" then g.dropPolicy
    else if ← word? "PROCEDURE" then g.dropSignatures .dropProcedure
    else if ← word? "SECRET" then dropSecret
    else if (← keyAt 0) == "TRIGGER" then g.dropTrigger
    else expected ("TABLE, VIEW, INDEX, ROLE, SCHEMA, DATABASE, FUNCTION, PROCEDURE, STAGE, TRIGGER, "
      ++ "SECRET, SEQUENCE, or TYPE after DROP")

end QueryWarden.Sql.Grammar
