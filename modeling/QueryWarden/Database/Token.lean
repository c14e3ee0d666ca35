import QueryWarden.Database.Value

/-! The tokens of the database's own language. A token keeps what was written, what stood before it, and
at which byte it begins; text that no token can be is a token of its own kind, so that it is refused
only where it is reached. -/
namespace QueryWarden.Database

inductive TokenKind where
  /-- A keyword or a name. -/
  | word
  /-- A name in quotes or brackets. -/
  | quotedName
  | text
  | blob
  | integer
  | real
  | variable
  | symbol
  /-- Characters that are no token. -/
  | illegal
deriving Repr, DecidableEq

structure Token where
  kind : TokenKind
  value : String
  raw : String
  gap : String
  offset : Nat
deriving Repr, DecidableEq

namespace Token

def beginsName (c : Char) : Bool := c.isAlpha || c == '_' || 0x80 ≤ c.toNat

def inName (c : Char) : Bool := beginsName c || c.isDigit || c == '$'

def isBlank (c : Char) : Bool := c == ' ' || c == '\t' || c == '\n' || c == '\x0c' || c == '\r'

def isHex (c : Char) : Bool := c.isDigit || ('a' ≤ c && c ≤ 'f') || ('A' ≤ c && c ≤ 'F')

def afterComment : List Char → List Char
  | '*' :: '/' :: rest => rest
  | _ :: rest => afterComment rest
  | [] => []

def skipGap : (bound : Nat) → List Char → List Char
  | 0, cs => cs
  | bound + 1, cs =>
    match cs with
    | '-' :: '-' :: rest => skipGap bound (rest.dropWhile (· != '\n'))
    | '/' :: '*' :: rest => skipGap bound (afterComment rest)
    | c :: rest => if isBlank c then skipGap bound rest else cs
    | [] => []

def quoted (close : Char) : List Char → Option (List Char × List Char)
  | [] => none
  | c :: rest =>
    if c = close then
      match rest with
      | d :: more =>
        if d = close then (quoted close more).map fun (cs, r) => (close :: cs, r)
        else some ([], d :: more)
      | [] => some ([], [])
    else (quoted close rest).map fun (cs, r) => (c :: cs, r)

def numeral (cs : List Char) : Bool × List Char :=
  match cs with
  | '0' :: x :: h :: rest =>
    if (x == 'x' || x == 'X') && isHex h then (false, rest.dropWhile isHex)
    else decimal cs
  | cs => decimal cs
where
  /-- A numeral in decimal digits. -/
  decimal (cs : List Char) : Bool × List Char :=
    let rest := cs.dropWhile Char.isDigit
    let (pointed, rest) := match rest with
      | '.' :: more => (true, more.dropWhile Char.isDigit)
      | more => (false, more)
    match rest with
    | e :: more =>
      if e == 'e' || e == 'E' then
        let digits := match more with
          | '+' :: ds | '-' :: ds => ds
          | ds => ds
        match digits with
        | d :: ds => if d.isDigit then (true, ds.dropWhile Char.isDigit) else (pointed, rest)
        | [] => (pointed, rest)
      else (pointed, rest)
    | [] => (pointed, [])

def symbols : List String :=
  ["->>", "->", "||", "<<", ">>", "<=", "<>", ">=", "==", "!=", "+", "-", "*", "/", "%", "(", ")", ";",
    ",", ".", "=", "<", ">", "&", "|", "~"]

/-- The token at the beginning of a text that begins with none of the gaps: its kind, its meaning, and
what follows it. -/
def next (cs : List Char) : TokenKind × String × List Char :=
  match cs with
  | [] => (.symbol, "", [])
  | c :: rest =>
    if (c == 'x' || c == 'X') && rest.head? == some '\'' then
      let digits := rest.tail.takeWhile isHex
      match rest.tail.dropWhile isHex with
      | '\'' :: more =>
        if digits.length % 2 == 0 then (.blob, String.ofList digits, more)
        else (.illegal, "", more)
      | more => (.illegal, "", (more.dropWhile (· != '\'')).drop 1)
    else if beginsName c then
      (.word, String.ofList (c :: rest.takeWhile inName), rest.dropWhile inName)
    else if c == '\'' || c == '"' || c == '\x60' then
      match quoted c rest with
      | none => (.illegal, "", [])
      | some (inner, more) =>
        (if c == '\'' then .text else .quotedName, String.ofList inner, more)
    else if c == '[' then
      match rest.dropWhile (· != ']') with
      | _ :: more => (.quotedName, String.ofList (rest.takeWhile (· != ']')), more)
      | [] => (.illegal, "", [])
    else if c.isDigit || (c == '.' && (rest.head?.map Char.isDigit).getD false) then
      let (isReal, more) := numeral cs
      if (more.head?.map inName).getD false then (.illegal, "", more.dropWhile inName)
      else
        (if isReal then .real else .integer,
          String.ofList (cs.take (cs.length - more.length)), more)
    else if c == '?' then (.variable, "", rest.dropWhile Char.isDigit)
    else if c == '$' || c == '@' || c == ':' then
      if (rest.head?.map inName).getD false then (.variable, "", rest.dropWhile inName)
      else (.illegal, "", rest)
    else
      match symbols.find? fun s => s.toList.isPrefixOf cs with
      | some s => (.symbol, s, cs.drop s.length)
      | none => (.illegal, "", rest)

def byteLength (cs : List Char) : Nat := cs.foldl (fun n c => n + c.utf8Size) 0

def scan : (bound offset : Nat) → List Char → List Token
  | 0, _, _ => []
  | bound + 1, offset, cs =>
    let here := skipGap (cs.length + 1) cs
    let gap := cs.take (cs.length - here.length)
    match here with
    | [] | '\x00' :: _ => []
    | _ =>
      let (kind, value, rest) := next here
      let raw := here.take (here.length - rest.length)
      let start := offset + byteLength gap
      ⟨kind, value, String.ofList raw, String.ofList gap, start⟩ ::
        scan bound (start + byteLength raw) rest

def ofText (s : String) : List Token := scan (s.toList.length + 1) 0 s.toList

def span : List Token → String
  | [] => ""
  | t :: ts => ts.foldl (fun s t => s ++ t.gap ++ t.raw) t.raw

def isWord (t : Token) (word : String) : Bool := t.kind = .word && sameName t.value word

def isSymbol (t : Token) (s : String) : Bool := t.kind = .symbol && t.value = s

def reserved : List String :=
  ["ADD", "ALL", "ALTER", "AND", "AS", "AUTOINCREMENT", "BETWEEN", "CASE", "CHECK", "COLLATE",
    "COMMIT", "CONSTRAINT", "CREATE", "DEFAULT", "DEFERRABLE", "DELETE", "DISTINCT", "DROP", "ELSE",
    "ESCAPE", "EXCEPT", "EXISTS", "FOREIGN", "FROM", "GROUP", "HAVING", "IN", "INDEX", "INSERT",
    "INTERSECT", "INTO", "IS", "ISNULL", "JOIN", "LIMIT", "NOT", "NOTHING", "NOTNULL", "NULL", "ON",
    "OR", "ORDER", "PRIMARY", "REFERENCES", "RETURNING", "SELECT", "SET", "TABLE", "THEN", "TO",
    "TRANSACTION", "UNION", "UNIQUE", "UPDATE", "USING", "VALUES", "WHEN", "WHERE"]

def joinWords : List String := ["CROSS", "FULL", "INNER", "LEFT", "NATURAL", "OUTER", "RIGHT"]

def isPlainName (t : Token) : Bool :=
  t.kind = .word && !reserved.any (t.isWord ·)

def isName (t : Token) : Bool := t.isPlainName || t.kind = .quotedName

def isLooseName (t : Token) : Bool := t.isName && !joinWords.any (t.isWord ·)

end Token
end QueryWarden.Database
