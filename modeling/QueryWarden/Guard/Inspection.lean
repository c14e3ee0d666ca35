import QueryWarden.Guard.Verdict
import QueryWarden.Sql.Script

/-! The guard. A candidate may run if it is exactly one statement, that statement is a query whose
body reads, and no alias in it is spelled like the first word of a statement: a server that needs no
terminators would take what follows such an alias for a second statement. -/
namespace QueryWarden.Guard
open Sql

def statementWords : List String := [
  "ALTER", "BACKUP", "BEGIN", "BULK", "COMMIT", "CREATE", "DBCC", "DECLARE", "DELETE", "DENY",
  "DROP", "EXEC", "EXECUTE", "GRANT", "INSERT", "MERGE", "REVOKE", "ROLLBACK", "SAVE", "SELECT",
  "SET", "SHUTDOWN", "TRUNCATE", "UPDATE", "USE", "WAITFOR", "WITH"]

/-- Whether a name is spelled like the first word of a statement. A quoted name never begins one. -/
def beginsStatement (i : Ident) : Bool :=
  i.quote.isNone && statementWords.any (Text.equalsIgnoringCase · i.value)

/-- Whether an alias of a table is spelled like the first word of a statement. -/
def aliasHides (a : Option TableAlias) : Bool := a.any fun a => beginsStatement a.name

def itemHides : SelectItem → Bool
  | .aliased _ a => beginsStatement a
  | _ => false

mutual

/-- Whether an alias in a query could begin a second statement. -/
def hides : Query → Bool
  | ⟨_, body, _, _⟩ => bodyHides body

def bodyHides : SetExpr → Bool
  | .select ⟨projection, _, tables, _⟩ => projection.any itemHides || anyTableHides tables
  | .query q => hides q
  | .setOperation _ left right => bodyHides left || bodyHides right
  | _ => false

def anyTableHides : List TableWithJoins → Bool
  | [] => false
  | ⟨relation, joins⟩ :: rest => (factorHides relation || anyJoinHides joins) || anyTableHides rest

def anyJoinHides : List Join → Bool
  | [] => false
  | ⟨relation, _⟩ :: rest => factorHides relation || anyJoinHides rest

def factorHides : TableFactor → Bool
  | .table _ _ a => aliasHides a
  | .derived _ q a => aliasHides a || hides q
  | .nestedJoin ⟨relation, joins⟩ a => aliasHides a || factorHides relation || anyJoinHides joins
  | _ => false

end

/-- The kind of a query that reads. -/
def readKind : String := "Select"

def queryKind (q : Query) : String :=
  match q.body with
  | .insert _ => "Insert"
  | .update _ => "Update"
  | .select s => if s.into.isSome then "SelectInto" else readKind
  | _ => readKind

def statementKind : Statement → String
  | .query q => queryKind q
  | .other k => k.name

/-- The verdict on the statements of a candidate. -/
def judge : List Statement → Verdict
  | [s] =>
    let kind := statementKind s
    if kind != readKind then .violation kind
    else
      match s with
      | .query q => if hides q then .rejected Verdict.multipleReason else .ok
      | .other _ => .ok
  | _ => .rejected Verdict.multipleReason

def syntaxErrorLead : String := "Syntax Error: "

/-- The guard: the verdict on a candidate in a dialect, or the message of a crash. -/
def inspect (d : Dialect) (candidate : String) : Except String Verdict :=
  match statements d candidate with
  | .ok found => .ok (judge found)
  | .error (.crash message) => .error message
  | .error e => .ok (.rejected (syntaxErrorLead ++ e.text))

end QueryWarden.Guard
