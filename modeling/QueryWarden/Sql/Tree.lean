import QueryWarden.Sql.Token

/-! The trees that texts are read into. A query keeps its whole shape: the set operations and
parentheses of its body, the items and tables of each `SELECT`, and every alias. Of an expression the
operators and operands are kept, of a phrase with a grammar of its own the name and the expressions. -/
namespace QueryWarden.Sql

structure Ident where
  value : String
  quote : Option Char
deriving Repr, DecidableEq

def Word.ident (w : Word) : Ident := ⟨w.value, w.quote⟩

abbrev ObjectName := List Ident

structure TableAlias where
  name : Ident
  columns : List Ident
deriving Repr, DecidableEq

inductive DataType where
  | interval
  | custom (name : ObjectName)
  | builtin (name : String)
  | array (element : DataType)
deriving Repr

inductive Literal where
  | number (digits : String)
  | text (kind : LiteralKind) (value : String)
  | dollarQuoted (value : String)
  | placeholder (name : String)
  | boolean (value : Bool)
  | null
deriving Repr, DecidableEq

inductive SetOperator where
  | union
  | except
  | intersect
deriving Repr, DecidableEq

mutual

/-- Expressions. `form` is any phrase with words of its own, by its name. -/
inductive Expr where
  | name (parts : ObjectName)
  | allColumns
  | allColumnsOf (table : ObjectName)
  | literal (value : Literal)
  | typed (type : DataType) (value : String)
  | unary (operator : String) (operand : Expr)
  | binary (operator : String) (left right : Expr)
  | nested (inner : Expr)
  | tuple (items : List Expr)
  | cast (operand : Expr) (type : DataType)
  | call (function : ObjectName) (arguments : List Expr)
  | subquery (query : Query)
  | form (name : String) (parts : List Expr)

/-- A query: common tables, the body, and what orders and limits its rows. -/
structure Query where
  ctes : List Cte
  body : SetExpr
  order : List Expr
  limits : List Expr

structure Cte where
  label : TableAlias
  query : Query

inductive SetExpr where
  | select (select : Select)
  | query (query : Query)
  | setOperation (operator : SetOperator) (left right : SetExpr)
  | values (rows : List (List Expr))
  | insert (insertion : Insertion)
  | update (target : TableWithJoins)
  | table (name : ObjectName)

inductive Insertion where
  | table (name : ObjectName) (source : Option Query)
  | directory (path : String) (source : Query)

/-- A `SELECT`: its items, the table it makes if it makes one, its tables, and its other clauses. -/
structure Select where
  projection : List SelectItem
  into : Option ObjectName
  tables : List TableWithJoins
  clauses : List Expr

inductive SelectItem where
  | unnamed (expr : Expr)
  | aliased (expr : Expr) (label : Ident)
  | allColumnsOf (table : ObjectName)
  | allColumns

structure TableWithJoins where
  relation : TableFactor
  joins : List Join

structure Join where
  relation : TableFactor
  conditions : List Expr

/-- The things that stand in place of a table. -/
inductive TableFactor where
  | table (name : ObjectName) (arguments : List Expr) (label : Option TableAlias)
  | derived (lateral : Bool) (subquery : Query) (label : Option TableAlias)
  | tableFunction (expr : Expr) (label : Option TableAlias)
  | function (name : ObjectName) (arguments : List Expr) (label : Option TableAlias)
  | unnest (arrays : List Expr) (label : Option TableAlias) (offset : Option Ident)
  | jsonTable (document : Expr) (label : Option TableAlias)
  | nestedJoin (inner : TableWithJoins) (label : Option TableAlias)
  | pivot (table : TableFactor) (aggregates : List Expr) (label : Option TableAlias)
  | unpivot (table : TableFactor) (columns : List Ident) (label : Option TableAlias)
  | matchRecognize (table : TableFactor) (definitions : List Expr) (label : Option TableAlias)

end

instance : Inhabited Expr := ⟨.allColumns⟩

def TableFactor.label : TableFactor → Option TableAlias
  | table _ _ a | derived _ _ a | tableFunction _ a | function _ _ a | unnest _ a _ | jsonTable _ a
  | nestedJoin _ a | pivot _ _ a | unpivot _ _ a | matchRecognize _ _ a => a

def TableFactor.withAlias (a : Option TableAlias) : TableFactor → TableFactor
  | table n args _ => table n args a
  | derived l q _ => derived l q a
  | tableFunction e _ => tableFunction e a
  | function n args _ => function n args a
  | unnest es _ o => unnest es a o
  | jsonTable e _ => jsonTable e a
  | nestedJoin t _ => nestedJoin t a
  | pivot t es _ => pivot t es a
  | unpivot t cs _ => unpivot t cs a
  | matchRecognize t es _ => matchRecognize t es a

def doubleQuotes (quote : Char) (last : Char) : List Char → List Char
  | [] => []
  | [c] => if c == quote && last != '\\' then [c, c] else [c]
  | c :: e :: rest =>
    if c == quote && last != '\\' then
      if e == quote then c :: e :: doubleQuotes quote c rest
      else c :: c :: doubleQuotes quote c (e :: rest)
    else c :: doubleQuotes quote c (e :: rest)

def Ident.text (i : Ident) : String :=
  match i.quote with
  | none => i.value
  | some '[' => "[" ++ i.value ++ "]"
  | some q => q.toString ++ String.ofList (doubleQuotes q '\x00' i.value.toList) ++ q.toString

def TableAlias.text (a : TableAlias) : String :=
  if a.columns.isEmpty then a.name.text
  else a.name.text ++ " (" ++ ", ".intercalate (a.columns.map Ident.text) ++ ")"

end QueryWarden.Sql
