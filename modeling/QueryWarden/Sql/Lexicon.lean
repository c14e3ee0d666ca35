import QueryWarden.Sql.Dialect
import QueryWarden.Text.Letter

/-! What the dialects allow in words, literals and operators. -/
namespace QueryWarden.Sql.Dialect

def beginsWord (d : Dialect) (c : Char) : Bool :=
  match d with
  | sqlite => c.isAlpha || c == '_' || (0x7F ≤ c.toNat && c.toNat ≤ 0xFFFF)
  | postgres => Text.isAlphabetic c || c == '_'
  | mysql => c.isAlpha || c == '_' || c == '$' || c == '@' || (0x80 ≤ c.toNat && c.toNat ≤ 0xFFFF)
  | mssql | generic => Text.isAlphabetic c || c == '_' || c == '#' || c == '@'

def continuesWord (d : Dialect) (c : Char) : Bool :=
  match d with
  | sqlite | mysql => d.beginsWord c || c.isDigit
  | postgres => d.beginsWord c || c.isDigit || c == '$'
  | mssql | generic => d.beginsWord c || c.isDigit || c == '$'

def quotesWord (d : Dialect) (c : Char) : Bool :=
  match d with
  | sqlite => c == '\x60' || c == '"' || c == '['
  | postgres => c == '"'
  | mysql => c == '\x60'
  | mssql => c == '"' || c == '['
  | generic => c == '"' || c == '\x60'

def continuesOperator (d : Dialect) (c : Char) : Bool :=
  d == postgres && "+-*/<>=~!@#%^&|\x60?".toList.contains c

def escapesByBackslash (d : Dialect) : Bool := d == mysql

def wordsBeginWithDigits (d : Dialect) : Bool := d == mysql

def dashesNeedBlank (d : Dialect) : Bool := d == mysql

def hasByteLiterals (d : Dialect) : Bool := d == postgres || d == mysql || d == generic

def hasRawLiterals (d : Dialect) : Bool := d == generic

def hasUnicodeLiterals (d : Dialect) : Bool := d == postgres || d == generic

def hasHashComments (d : Dialect) : Bool := d == mysql

def hasIntegerDivision (d : Dialect) : Bool := d == generic

def hasQuestionOperators (d : Dialect) : Bool := d == postgres

end QueryWarden.Sql.Dialect
