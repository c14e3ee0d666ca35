import QueryWarden.Text.Blank

/-! The SQL dialects a candidate can be read in. -/
namespace QueryWarden.Sql

/-- The dialects; `generic` accepts what any common server does. -/
inductive Dialect where
  | sqlite
  | postgres
  | mysql
  | mssql
  | generic
deriving Repr, DecidableEq, Inhabited

namespace Dialect

def all : List Dialect := [.sqlite, .postgres, .mysql, .mssql, .generic]

def name : Dialect → String
  | .sqlite => "sqlite"
  | .postgres => "postgres"
  | .mysql => "mysql"
  | .mssql => "mssql"
  | .generic => "generic"

def ofName? (text : String) : Option Dialect :=
  all.find? fun d => Text.equalsIgnoringCase d.name text

def unknownMessage (text : String) : String := "unknown SQL dialect '" ++ text ++ "'"

theorem mem_all (d : Dialect) : d ∈ all := by cases d <;> decide

end Dialect
end QueryWarden.Sql
