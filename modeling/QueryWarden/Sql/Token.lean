import QueryWarden.Text.Letter

/-! The tokens of SQL and the places at which they stand. -/
namespace QueryWarden.Sql

structure Place where
  line : Nat
  column : Nat
deriving Repr, DecidableEq

namespace Place

def start : Place := ⟨1, 1⟩

def pass (p : Place) (c : Char) : Place :=
  if c == '\n' then ⟨p.line + 1, 1⟩ else ⟨p.line, p.column + 1⟩

def passAll (p : Place) (cs : List Char) : Place := cs.foldl pass p

def text (p : Place) : String :=
  " at Line: " ++ toString p.line ++ ", Column: " ++ toString p.column

end Place

/-- A word. Its key is the word in capitals, by which keywords are known; a quoted word has the empty
key and is no keyword. -/
structure Word where
  value : String
  quote : Option Char
  key : String
deriving Repr, DecidableEq

def closingQuote (q : Char) : Char := if q == '[' then ']' else q

namespace Word

def plain (value : List Char) : Word :=
  ⟨String.ofList value, none, String.ofList (value.flatMap Text.capitals)⟩

def quoted (quote : Char) (value : List Char) : Word := ⟨String.ofList value, some quote, ""⟩

def text (w : Word) : String :=
  match w.quote with
  | none => w.value
  | some q => q.toString ++ w.value ++ (closingQuote q).toString

end Word

inductive LiteralKind where
  | single
  | double
  | national
  | escaped
  | unicode
  | hex
  | byteSingle
  | byteDouble
  | rawSingle
  | rawDouble
  | rawTripleSingle
  | rawTripleDouble
deriving Repr, DecidableEq

def LiteralKind.marks : LiteralKind → String × String
  | .single => ("'", "'")
  | .double => ("\"", "\"")
  | .national => ("N'", "'")
  | .escaped => ("E'", "'")
  | .unicode => ("U&'", "'")
  | .hex => ("X'", "'")
  | .byteSingle => ("B'", "'")
  | .byteDouble => ("B\"", "\"")
  | .rawSingle => ("R'", "'")
  | .rawDouble => ("R\"", "\"")
  | .rawTripleSingle => ("R'''", "'''")
  | .rawTripleDouble => ("R\"\"\"", "\"\"\"")

/-- The tokens. A symbol is an operator or a mark of punctuation that the grammar knows, an operator
one that only the database knows, and `other` a character that begins nothing. -/
inductive Token where
  | word (w : Word)
  | number (digits : String) (long : Bool)
  | literal (kind : LiteralKind) (value : String)
  | dollarQuoted (tag : String) (value : String)
  | placeholder (text : String)
  | operator (text : String)
  | symbol (text : String)
  | other (c : Char)
deriving Repr, DecidableEq

namespace Token

def text : Token → String
  | word w => w.text
  | number digits long => if long then digits ++ "L" else digits
  | literal kind value => kind.marks.1 ++ value ++ kind.marks.2
  | dollarQuoted tag value => "$" ++ tag ++ "$" ++ value ++ "$" ++ tag ++ "$"
  | placeholder text | operator text | symbol text => text
  | other c => c.toString

def terminator : Token := symbol ";"

end Token

def keyOf : Option Token → String
  | some (.word w) => w.key
  | _ => ""

def symbolOf : Option Token → String
  | some (.symbol s) => s
  | _ => ""

def isWord : Option Token → Bool
  | some (.word _) => true
  | _ => false

structure Located where
  token : Token
  place : Place
deriving Repr, DecidableEq

end QueryWarden.Sql
