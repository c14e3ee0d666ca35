import QueryWarden.Sql.Grammar.Basic

/-! Names, aliases and written values. -/
namespace QueryWarden.Sql.Grammar
open Sql.Parser

variable (g : Grammar)

def ident : Parser Ident := do
  match ← peek with
  | some (.word w) => skip; return w.ident
  | some (.literal .single s) => skip; return ⟨s, some '\''⟩
  | some (.literal .double s) => skip; return ⟨s, some '"'⟩
  | _ => expected "identifier"

def idents : Parser (List Ident) := g.commas ident

def objectName : Parser ObjectName := parts g.budget []
where
  parts (budget : Nat) (found : List Ident) : Parser ObjectName :=
    match budget with
    | 0 => tooDeep
    | budget + 1 => do
      let i ← ident
      if ← mark? "." then parts budget (i :: found) else return (i :: found).reverse

def objectNames : Parser (List ObjectName) := g.commas g.objectName

def identList : Parser (List Ident) := inParens g.idents

def columnList : Parser (List Ident) := do
  if (← symbolAt 0) == "(" then g.identList else expected "a list of columns in parentheses"

def columnList? : Parser (List Ident) := do
  if (← symbolAt 0) == "(" then g.identList else return []

def columnListOrNone? : Parser (List Ident) := do
  if ← marks? ["(", ")"] then return [] else g.columnList?

def alias? (reserved : List String) : Parser (Option Ident) := do
  let behindAs ← word? "AS"
  match ← peek with
  | some (.word w) =>
    if behindAs || !reserved.contains w.key then skip; return some w.ident else return none
  | some (.literal .single s) => skip; return some ⟨s, some '\''⟩
  | some (.literal .double s) => skip; return some ⟨s, some '"'⟩
  | _ => if behindAs then expected "an identifier after AS" else return none

def tableAlias? : Parser (Option TableAlias) := do
  match ← alias? reservedForTableAlias with
  | some name => return some ⟨name, ← g.columnList?⟩
  | none => return none

def readNatural (limit : Nat) (digits : List Char) : Except String Nat :=
  digits.foldlM (fun n c =>
    if !c.isDigit then .error "invalid digit found in string"
    else
      let m := 10 * n + (c.toNat - 48)
      if m < limit then .ok m else .error "number too large to fit in target type") 0

def naturalBelow (type : String) (limit : Nat) (what : String) : Parser Nat := do
  match ← peek with
  | some (.number digits _) =>
    match readNatural limit digits.toList with
    | .ok n => skip; return n
    | .error why => failHere ("Could not parse '" ++ digits ++ "' as " ++ type ++ ": " ++ why)
  | _ => expected what

def natural : Parser Nat := naturalBelow "u64" (Nat.pow 2 64) "literal int"

/-- A written text. Where the grammar wants one, an ordinary word may stand for it. -/
def literalString : Parser String := do
  match ← peek with
  | some (.word w) => if w.isOrdinary then skip; return w.value else expected "literal string"
  | some (.literal .single s) | some (.literal .double s) | some (.literal .unicode s) =>
    skip; return s
  | some (.literal .escaped s) =>
    if g.speaks [.postgres, .generic] then skip; return s else expected "literal string"
  | _ => expected "literal string"

def placeholderName (sign : String) : Parser Literal := do
  match ← peek with
  | some (.word w) => skip; return .placeholder (sign ++ w.value)
  | some (.number digits false) => skip; return .placeholder (sign ++ digits)
  | _ => expected "placeholder"

def value : Parser Literal := do
  match ← peek with
  | some (.word w) =>
    if w.key == "TRUE" then skip; return .boolean true
    else if w.key == "FALSE" then skip; return .boolean false
    else if w.key == "NULL" then skip; return .null
    else match w.quote with
      | some '"' => skip; return .text .double w.value
      | some '\'' => skip; return .text .single w.value
      | some _ => expected "A value?"
      | none => expected "a concrete value"
  | some (.number digits _) => skip; return .number digits
  | some (.literal .escaped s) =>
    if g.speaks [.postgres, .generic] then skip; return .text .escaped s else expected "a value"
  | some (.literal kind s) => skip; return .text kind s
  | some (.dollarQuoted _ s) => skip; return .dollarQuoted s
  | some (.placeholder s) => skip; return .placeholder s
  | some (.symbol s) =>
    if s == ":" || s == "@" then skip; placeholderName s else expected "a value"
  | _ => expected "a value"

def numberValue : Parser Literal := do
  match ← peek with
  | some (.number ..) | some (.placeholder _) | some (.symbol ":") | some (.symbol "@") => g.value
  | _ =>
    let _ ← orNothing (do let _ ← g.value; return (none : Option Unit))
    expected "literal number"

end QueryWarden.Sql.Grammar
