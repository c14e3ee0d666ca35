import QueryWarden.Sql.Parser

/-! Rules for statements, which can do what a parser cannot: look beyond a terminator. -/
namespace QueryWarden.Sql

/-- A rule for statements. Unlike a parser it may tell a terminator from the end of the text, and pass
it. -/
abbrev Rule (α : Type) := StateT (List Located) (Except Fault) α

instance : MonadLift Parser Rule := ⟨fun p => p.run⟩

namespace Rule
variable {α : Type}

def ofParser (p : Parser α) : Rule α := p.run

def attempt (r : Rule α) : Rule (Option α) := fun ts =>
  match r ts with
  | .ok (a, rest) => .ok (some a, rest)
  | .error (.syntaxError _) => .ok (none, ts)
  | .error e => .error e

def pass : Rule Unit := modify List.tail

def atEnd : Rule Bool := do return (← get).isEmpty

def terminators : Rule Bool := do
  let ts ← get
  set (ts.dropWhile (·.token = .terminator))
  return (ts.head?.map (·.token)) = some .terminator

def copiedRows : List Located → List Located
  | [] => []
  | [_] => []
  | t :: u :: rest =>
    if t.token = .symbol "\\" then
      if u.token = .symbol "." then rest else copiedRows rest
    else copiedRows (u :: rest)

end Rule

end QueryWarden.Sql
