import QueryWarden.Sql.Dialect
import QueryWarden.Sql.Phrase
import QueryWarden.Sql.Tree

/-! What the rules of the grammar share: the dialect, the bounds, and the way back to the rules for
expressions and queries, which hold each other. -/
namespace QueryWarden.Sql

/-- The rules at one depth of nesting. `budget` exceeds the number of tokens, so it bounds every
repetition; `prior` is set inside a `CONNECT BY`; `exprIn` reads an expression whose operators bind more
closely than a precedence, `queryIn` a query. -/
structure Grammar where
  dialect : Dialect
  budget : Nat
  prior : Bool
  exprIn : Bool → Nat → Parser Expr
  queryIn : Bool → Parser Query

namespace Grammar
variable {α : Type} (g : Grammar)

def speaks (ds : List Dialect) : Bool := ds.contains g.dialect

def onlyIn (ds : List Dialect) (p : Parser Bool) : Parser Bool := Parser.provided (g.speaks ds) p

def subexpr (precedence : Nat) : Parser Expr := g.exprIn g.prior precedence

def expr : Parser Expr := g.subexpr 0

def query : Parser Query := g.queryIn g.prior

def commas (p : Parser α) : Parser (List α) := Parser.list g.budget p

def exprs : Parser (List Expr) := g.commas g.expr

end Grammar
end QueryWarden.Sql
