import QueryWarden.Sql.Lexicon
import QueryWarden.Sql.Quotation

/-! The tokens of a text in one of the dialects. White space and comments separate tokens and leave
none. Main statement: what one step takes depends on the dialect and the characters alone, and the
place of a token is where the characters in front of it end. -/
namespace QueryWarden.Sql

/-- What begins at a character: a token or layout that takes `width` more characters, or a fault that
shows `width` characters on. -/
inductive Lexeme where
  | token (t : Token) (width : Nat)
  | layout (width : Nat)
  | fault (message : String) (width : Nat)
deriving Repr, DecidableEq

namespace Lexeme

def symbol (text : String) : Lexeme := .token (.symbol text) (text.length - 1)

def operator (d : Dialect) (text : String) (rest : List Char) : Lexeme :=
  match rest.takeWhile d.continuesOperator with
  | [] => symbol text
  | more => .token (.operator (text ++ String.ofList more)) (text.length - 1 + more.length)

def word (d : Dialect) (start : List Char) (rest : List Char) : Lexeme :=
  let more := rest.takeWhile d.continuesWord
  .token (.word (.plain (start ++ more))) (start.length - 1 + more.length)

def literal (kind : LiteralKind) (width : Nat) (body : Option Quotation.Body) : Lexeme :=
  match body with
  | some (value, n) => .token (.literal kind (String.ofList value)) (width - 1 + n)
  | none => .fault "Unterminated string literal" (width - 1)

def raw (quote : Char) (one three : LiteralKind) (rest : List Char) : Lexeme :=
  match rest with
  | a :: b :: more =>
    if a == quote then
      if b == quote then
        match Quotation.readTriple? quote 0 more with
        | some (value, n) => .token (.literal three (String.ofList (Quotation.dropMarks value))) (3 + n)
        | none => .fault "Unterminated string literal" 4
      else .token (.literal one "") 2
    else oneQuote
  | [a] => if a == quote then .token (.literal one "") 2 else oneQuote
  | [] => oneQuote
where
  oneQuote : Lexeme :=
    match Quotation.read? quote false rest with
    | some (value, n) => .token (.literal one (String.ofList value)) (1 + n)
    | none => .fault "Unterminated string literal" 2

def marked? (d : Dialect) (c : Char) (rest : List Char) : Option Lexeme :=
  match c.toLower, rest with
  | 'b', '\'' :: body =>
    if d.hasByteLiterals then some (literal .byteSingle 2 (Quotation.read? '\'' false body)) else none
  | 'b', '"' :: body =>
    if d.hasByteLiterals then some (literal .byteDouble 2 (Quotation.read? '"' false body)) else none
  | 'r', '\'' :: body =>
    if d.hasRawLiterals then some (raw '\'' .rawSingle .rawTripleSingle body) else none
  | 'r', '"' :: body =>
    if d.hasRawLiterals then some (raw '"' .rawDouble .rawTripleDouble body) else none
  | 'n', '\'' :: body => some (literal .national 2 (Quotation.read? '\'' true body))
  | 'e', '\'' :: body =>
    match Quotation.readEscaped? body with
    | some (value, n) => some (.token (.literal .escaped (String.ofList value)) (1 + n))
    | none => some (.fault "Unterminated encoded string literal" 0)
  | 'u', '&' :: '\'' :: body =>
    if d.hasUnicodeLiterals then
      match Quotation.readUnicode 3 body with
      | .ok (value, n) => some (.token (.literal .unicode (String.ofList value)) (2 + n))
      | .error e => some (.fault e.message e.width)
    else none
  | 'x', '\'' :: body => some (literal .hex 2 (Quotation.read? '\'' true body))
  | _, _ => none

def quotedWord (quote : Char) (rest : List Char) : Lexeme :=
  match Quotation.read? (closingQuote quote) false rest with
  | some (value, n) => .token (.word (.quoted quote value)) n
  | none =>
    .fault ("Expected close delimiter '" ++ (closingQuote quote).toString ++ "' before EOF.") 0

def exponent (rest : List Char) : List Char :=
  match rest with
  | c :: more =>
    if c == 'e' || c == 'E' then
      let sign := match more with
        | s :: _ => if s == '+' || s == '-' then [s] else []
        | [] => []
      match (more.drop sign.length).takeWhile Char.isDigit with
      | [] => []
      | digits => c :: sign ++ digits
    else []
  | [] => []

/-- A number, or a period where no digit follows. A hexadecimal number is read as a literal. Where
words may begin with digits, letters behind a number make it a word, unless the first is an `e`. -/
def number (d : Dialect) (cs : List Char) : Lexeme :=
  let whole := cs.takeWhile Char.isDigit
  let after := cs.drop whole.length
  match whole, after with
  | ['0'], 'x' :: more =>
    let digits := more.takeWhile Text.isHexDigit
    .token (.literal .hex (String.ofList digits)) (1 + digits.length)
  | _, _ =>
    let point := match after with
      | '.' :: more => '.' :: more.takeWhile Char.isDigit
      | _ => []
    let mantissa := whole ++ point
    if mantissa == ['.'] then symbol "."
    else
      let after := cs.drop mantissa.length
      let exponent := exponent after
      let name := if d.wordsBeginWithDigits && after.head? != some 'e' && after.head? != some 'E' then
        after.takeWhile d.continuesWord else []
      if name.isEmpty then
        let digits := mantissa ++ exponent
        let long := (cs.drop digits.length).head? == some 'L'
        .token (.number (String.ofList digits) long)
          (digits.length + (if long then 1 else 0) - 1)
      else .token (.word (.plain (mantissa ++ name))) (mantissa.length + name.length - 1)

def lineComment (width : Nat) (rest : List Char) : Lexeme :=
  let text := rest.takeWhile (· != '\n')
  .layout (width - 1 + text.length + if text.length < rest.length then 1 else 0)

def blockComment (rest : List Char) : Lexeme :=
  match Quotation.comment? 0 ' ' rest with
  | some n => .layout (1 + n)
  | none => .fault "Unexpected EOF while in a multi-line comment" (2 + rest.length)

def dollar (rest : List Char) : Lexeme :=
  match rest with
  | '$' :: body =>
    match Quotation.readUntil? ['$', '$'] body with
    | some (value, n) => .token (.dollarQuoted "" (String.ofList value)) (1 + n)
    | none => .fault "Unterminated dollar-quoted string" (2 + body.length)
  | _ =>
    let tag := rest.takeWhile fun c => Text.isAlphanumeric c || c == '_'
    match rest.drop tag.length with
    | '$' :: body =>
      match Quotation.readTagged? tag body with
      | some (value, n) =>
        .token (.dollarQuoted (String.ofList tag) (String.ofList value)) (tag.length + 1 + n)
      | none => .fault "Unterminated dollar-quoted, expected $" (1 + rest.length)
    | _ => .token (.placeholder (String.ofList ('$' :: tag))) tag.length

def atSign (d : Dialect) (rest : List Char) : Lexeme :=
  match rest with
  | '>' :: _ => symbol "@>"
  | '?' :: _ => symbol "@?"
  | '@' :: more =>
    match more with
    | c :: after => if c != ' ' && d.beginsWord '@' then word d ['@', '@', c] after else symbol "@@"
    | [] => symbol "@@"
  | c :: after =>
    if c != ' ' && c != '\'' && c != '"' && c != '\x60' && d.beginsWord '@' then
      word d ['@', c] after
    else symbol "@"
  | [] => symbol "@"

def numberSign (d : Dialect) (rest : List Char) : Lexeme :=
  match rest with
  | '-' :: more => operator d "#-" more
  | '>' :: '>' :: more => operator d "#>>" more
  | '>' :: more => operator d "#>" more
  | c :: more =>
    if c == ' ' then symbol "#"
    else if d.beginsWord '#' then word d ['#', c] more
    else operator d "#" rest
  | [] => symbol "#"

def punctuation? (d : Dialect) (c : Char) (rest : List Char) : Option Lexeme :=
  match c with
  | '(' | ')' | ',' | '+' | '*' | ';' | '\\' | '[' | ']' | '\x7b' | '\x7d' => some (symbol c.toString)
  | '-' =>
    match rest with
    | '-' :: more =>
      if !d.dashesNeedBlank || more.head? == some ' ' then some (lineComment 2 more)
      else some (operator d "-" rest)
    | '>' :: '>' :: more => some (operator d "->>" more)
    | '>' :: more => some (operator d "->" more)
    | _ => some (operator d "-" rest)
  | '/' =>
    match rest with
    | '*' :: more => some (blockComment more)
    | '/' :: _ => if d.hasIntegerDivision then some (symbol "//") else some (symbol "/")
    | _ => some (symbol "/")
  | '%' =>
    match rest with
    | e :: _ => if Text.isBlank e then some (symbol "%") else some (operator d "%" rest)
    | [] => some (symbol "%")
  | '|' =>
    match rest with
    | '/' :: more => some (operator d "|/" more)
    | '|' :: '/' :: more => some (operator d "||/" more)
    | '|' :: more => some (operator d "||" more)
    | _ => some (operator d "|" rest)
  | '=' =>
    match rest with
    | '>' :: _ => some (symbol "=>")
    | '=' :: _ => some (symbol "==")
    | _ => some (symbol "=")
  | '!' =>
    match rest with
    | '=' :: _ => some (.token (.symbol "<>") 1)
    | '!' :: _ => some (symbol "!!")
    | '~' :: '~' :: '*' :: _ => some (symbol "!~~*")
    | '~' :: '~' :: _ => some (symbol "!~~")
    | '~' :: '*' :: _ => some (symbol "!~*")
    | '~' :: _ => some (symbol "!~")
    | _ => some (symbol "!")
  | '<' =>
    match rest with
    | '=' :: '>' :: more => some (operator d "<=>" more)
    | '=' :: more => some (operator d "<=" more)
    | '>' :: more => some (operator d "<>" more)
    | '<' :: more => some (operator d "<<" more)
    | '@' :: more => some (operator d "<@" more)
    | _ => some (operator d "<" rest)
  | '>' =>
    match rest with
    | '=' :: more => some (operator d ">=" more)
    | '>' :: more => some (operator d ">>" more)
    | _ => some (operator d ">" rest)
  | ':' =>
    match rest with
    | ':' :: _ => some (symbol "::")
    | '=' :: _ => some (symbol ":=")
    | _ => some (symbol ":")
  | '&' =>
    match rest with
    | '&' :: more => some (operator d "&&" more)
    | _ => some (operator d "&" rest)
  | '^' =>
    match rest with
    | '@' :: _ => some (symbol "^@")
    | _ => some (symbol "^")
  | '~' =>
    match rest with
    | '*' :: more => some (operator d "~*" more)
    | '~' :: '*' :: more => some (operator d "~~*" more)
    | '~' :: more => some (operator d "~~" more)
    | _ => some (operator d "~" rest)
  | '#' => some (if d.hasHashComments then lineComment 1 rest else numberSign d rest)
  | '@' => some (atSign d rest)
  | '?' =>
    if d.hasQuestionOperators then
      match rest with
      | '|' :: _ => some (symbol "?|")
      | '&' :: _ => some (symbol "?&")
      | _ :: _ => some (.token (.symbol "?") 1)
      | [] => some (symbol "?")
    else
      let digits := rest.takeWhile Text.isNumeric
      some (.token (.placeholder (String.ofList ('?' :: digits))) digits.length)
  | _ => none

def ofChars (d : Dialect) (c : Char) (rest : List Char) : Lexeme :=
  if c == ' ' || c == '\t' || c == '\n' then .layout 0
  else if c == '\r' then .layout (if rest.head? == some '\n' then 1 else 0)
  else if let some lexeme := marked? d c rest then lexeme
  else if c == '\'' then literal .single 1 (Quotation.read? '\'' d.escapesByBackslash rest)
  else if c == '"' && !d.quotesWord c then
    literal .double 1 (Quotation.read? '"' d.escapesByBackslash rest)
  else if d.quotesWord c then quotedWord c rest
  else if c.isDigit || c == '.' then number d (c :: rest)
  else if let some lexeme := punctuation? d c rest then lexeme
  else if d.beginsWord c then word d [c] rest
  else if c == '$' then dollar rest
  else if Text.isBlank c then .layout 0
  else .token (.other c) 0

end Lexeme

structure LexicalFault where
  message : String
  place : Place
deriving Repr, DecidableEq

def LexicalFault.text (f : LexicalFault) : String := f.message ++ f.place.text

def tokensFrom (d : Dialect) (place : Place) : List Char → Except LexicalFault (List Located)
  | [] => .ok []
  | c :: rest =>
    match Lexeme.ofChars d c rest with
    | .fault message width => .error ⟨message, place.passAll ((c :: rest).take width)⟩
    | .layout width => tokensFrom d (place.passAll (c :: rest.take width)) (rest.drop width)
    | .token t width => do
      let more ← tokensFrom d (place.passAll (c :: rest.take width)) (rest.drop width)
      return ⟨t, place⟩ :: more
termination_by cs => cs.length

def tokens (d : Dialect) (text : List Char) : Except LexicalFault (List Located) :=
  tokensFrom d .start text

end QueryWarden.Sql
