import QueryWarden.Sql.Grammar.Basic

/-! How closely operators bind. -/
namespace QueryWarden.Sql

inductive Binding where
  | or
  | and
  | not
  | is
  | like
  | equal
  | between
  | pipe
  | caret
  | ampersand
  | xor
  | sum
  | product
  | zone
  | cast
  | special
deriving Repr, DecidableEq

/-- The precedence of a class: the larger binds more closely, and zero belongs to no operator. -/
def Dialect.precedence (d : Dialect) (b : Binding) : Nat :=
  if d == .postgres then
    match b with
    | .or => 10
    | .and => 20
    | .not => 30
    | .is => 40
    | .equal => 50
    | .like | .between => 60
    | .pipe | .ampersand | .special => 70
    | .xor => 75
    | .sum => 80
    | .product => 90
    | .caret => 100
    | .zone => 110
    | .cast => 140
  else
    match b with
    | .or => 5
    | .and => 10
    | .not => 15
    | .special => 16
    | .is => 17
    | .like => 19
    | .equal | .between => 20
    | .pipe => 21
    | .caret => 22
    | .ampersand => 23
    | .xor => 24
    | .sum => 30
    | .product => 40
    | .zone => 41
    | .cast => 50

def wordBinding? (key : String) : Option Binding :=
  match key with
  | "OR" => some .or
  | "AND" => some .and
  | "XOR" => some .xor
  | "IS" => some .is
  | "IN" | "BETWEEN" | "OPERATOR" => some .between
  | "LIKE" | "ILIKE" | "RLIKE" | "REGEXP" | "SIMILAR" => some .like
  | "DIV" => some .product
  | _ => none

def negatedBinding? (key : String) : Option Binding :=
  match key with
  | "IN" | "BETWEEN" => some .between
  | "LIKE" | "ILIKE" | "RLIKE" | "REGEXP" | "SIMILAR" => some .like
  | _ => none

def symbolBinding? (d : Dialect) (symbol : String) : Option Binding :=
  if d == .postgres &&
      ["!", "&&", "^@", "||", "#", ">>", "<<"].contains symbol then some .special
  else
    match symbol with
    | "=" | "<" | "<=" | "<>" | ">" | ">=" | "==" | "~" | "~*" | "!~" | "!~*" | "~~" | "~~*" | "!~~"
    | "!~~*" | "<=>" => some .equal
    | "|" => some .pipe
    | "^" | "#" | ">>" | "<<" => some .caret
    | "&" => some .ampersand
    | "+" | "-" => some .sum
    | "*" | "/" | "//" | "%" | "||" => some .product
    | "::" | "!" | "[" | "&&" | "^@" => some .cast
    | "->" | "->>" | "#>" | "#>>" | "@>" | "<@" | "#-" | "@?" | "@@" | "?" | "?&" | "?|" =>
      some .special
    | _ => none

def collatePrecedence : Nat := 120

def bracketPrecedence : Nat := 130

namespace Grammar
open Sql.Parser

variable (g : Grammar)

def precedence (b : Binding) : Nat := g.dialect.precedence b

def precedenceOf (b : Option Binding) : Nat :=
  match b with
  | some b => g.precedence b
  | none => 0

def nextPrecedence : Parser Nat := do
  match ← peek with
  | some (.word w) =>
    if w.key == "COLLATE" && g.speaks [.postgres] then return collatePrecedence
    else if w.key == "AT" then
      if ← wordsAhead ["TIME", "ZONE"] 1 then return g.precedence .zone else return 0
    else if w.key == "NOT" then return g.precedenceOf (negatedBinding? (← keyAt 1))
    else return g.precedenceOf (wordBinding? w.key)
  | some (.symbol "[") =>
    if g.speaks [.postgres] then return bracketPrecedence else return g.precedence .cast
  | some (.symbol s) => return g.precedenceOf (symbolBinding? g.dialect s)
  | some (.operator _) => return g.precedence .special
  | _ => return 0

end Grammar
end QueryWarden.Sql
