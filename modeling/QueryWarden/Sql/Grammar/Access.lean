import QueryWarden.Sql.Grammar.Definition

/-! Roles, and what they may do. -/
namespace QueryWarden.Sql.Grammar
open Sql.Parser

variable (g : Grammar)

def password : Parser Unit := do
  unless ← word? "NULL" do
    let _ ← g.value

def roleSwitches : List String :=
  ["LOGIN", "INHERIT", "BYPASSRLS", "CREATEDB", "CREATEROLE", "SUPERUSER", "REPLICATION"]

def roleProperties (d : Dialect) : List (String × String) :=
  match d with
  | .mssql => [("AUTHORIZATION", "AUTHORIZATION")]
  | .postgres =>
    roleSwitches.flatMap (fun k => [(k, k ++ " or NO" ++ k), ("NO" ++ k, k ++ " or NO" ++ k)]) ++
      ["PASSWORD", "ROLE", "ADMIN", "USER"].map (fun k => (k, k)) ++
      [("CONNECTION", "CONNECTION LIMIT"), ("VALID", "VALID UNTIL"), ("IN", "IN")]
  | _ => []

def rolePropertyName? : Parser (Option String) := do
  match (roleProperties g.dialect).lookup (← keyAt 0) with
  | none => return none
  | some name =>
    skip
    match name with
    | "CONNECTION LIMIT" => expectWord "LIMIT"; return some name
    | "VALID UNTIL" => expectWord "UNTIL"; return some name
    | "IN" =>
      match ← wordOf? ["ROLE", "GROUP"] with
      | some k => return some ("IN " ++ k)
      | none => expected "ROLE or GROUP after IN"
    | _ => return some name

def roleProperty? (seen : List String) : Parser (Option (List String)) := do
  match ← checked g.rolePropertyName? (refuse seen) with
  | none => return none
  | some name =>
    match name with
    | "AUTHORIZATION" =>
      let _ ← g.objectName
    | "PASSWORD" => g.password
    | "CONNECTION LIMIT" =>
      let _ ← g.numberValue
    | "VALID UNTIL" =>
      let _ ← g.value
    | "IN ROLE" | "IN GROUP" | "ROLE" | "ADMIN" | "USER" =>
      let _ ← g.idents
    | _ => Parser.pure ()
    return some (name :: seen)
where
  refuse (seen : List String) : Option String → Option String
    | some name => if seen.contains name then some ("Found multiple " ++ name) else none
    | none => none

def createRole : Parser StatementKind := do
  let _ ← ifNotExists?
  let _ ← g.objectNames
  let _ ← word? "WITH"
  let _ ← extend g.budget g.roleProperty? []
  return .createRole

def roleChange : Parser Unit := do
  match ← wordOf? (roleSwitches.flatMap (fun k => [k, "NO" ++ k]) ++ ["CONNECTION", "PASSWORD", "VALID"]) with
  | none => expected "option"
  | some "CONNECTION" =>
    expectWord "LIMIT"
    let _ ← g.numberValue
  | some "PASSWORD" => g.password
  | some "VALID" =>
    expectWord "UNTIL"
    let _ ← g.value
  | some _ => Parser.pure ()

def roleSetting : Parser Unit := do
  let _ ← g.objectName
  unless ← words? ["FROM", "CURRENT"] do
    if ← mark? "=" <||> word? "TO" then
      unless ← word? "DEFAULT" do
        if (← attempt g.expr).isNone then expectedPast "config value"
    else expected "'TO' or '=' or 'FROM CURRENT'"

def alterRoleProperties : Rule Unit := do
  let _ ← ident
  if ← words? ["IN", "DATABASE"] then g.anyName
  if ← word? "RENAME" then
    unless ← word? "TO" do expected "TO after RENAME"
    let _ ← ident
  else if ← word? "SET" then g.roleSetting
  else if ← word? "RESET" then
    unless ← word? "ALL" do
      let _ ← g.objectName
  else
    let _ ← word? "WITH"
    if (← many g.budget (attempt g.roleChange)).isEmpty then expected "option"

def alterRoleMembers : Parser Unit := do
  let _ ← ident
  if ← words? ["ADD", "MEMBER"] <||> words? ["DROP", "MEMBER"] then
    let _ ← ident
  else if ← words? ["WITH", "NAME"] then
    unless ← mark? "=" do expected "= after WITH NAME "
    let _ ← ident
  else expected "'ADD' or 'DROP' or 'WITH NAME'"

def alterRole : Rule StatementKind := do
  match g.dialect with
  | .postgres => g.alterRoleProperties
  | .mssql => alterRoleMembers
  | _ => fail "ALTER ROLE is only support for PostgreSqlDialect, MsSqlDialect"
  return .alterRole

def permission : Parser Unit := do
  match ← wordOf? ["CONNECT", "CREATE", "DELETE", "EXECUTE", "INSERT", "REFERENCES", "SELECT",
      "TEMPORARY", "TRIGGER", "TRUNCATE", "UPDATE", "USAGE"] with
  | none => expected "a privilege keyword"
  | some k =>
    if ["INSERT", "REFERENCES", "SELECT", "UPDATE"].contains k then
      let _ ← g.columnList?

def permissions : Parser Unit := do
  if ← word? "ALL" then
    let _ ← word? "PRIVILEGES"
  else
    let _ ← g.commas g.permission
  expectWord "ON"
  unless ← words? ["ALL", "TABLES", "IN", "SCHEMA"] <||> words? ["ALL", "SEQUENCES", "IN", "SCHEMA"] do
    let _ ← wordOf? ["SEQUENCE", "SCHEMA", "TABLE"]
  let _ ← g.objectNames

def grantedBy? : Parser Unit := do
  let _ ← afterAll? ["GRANTED", "BY"] (insist ident)

def grant : Parser StatementKind := do
  g.permissions
  expectWord "TO"
  let _ ← g.idents
  let _ ← words? ["WITH", "GRANT", "OPTION"]
  grantedBy?
  return .grant

def revoke : Parser StatementKind := do
  g.permissions
  expectWord "FROM"
  let _ ← g.idents
  grantedBy?
  let _ ← checked (do return (← word? "CASCADE", ← word? "RESTRICT")) fun both =>
    if both == (true, true) then some "Cannot specify both CASCADE and RESTRICT in REVOKE" else none
  return .revoke

end QueryWarden.Sql.Grammar
