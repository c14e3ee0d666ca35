import QueryWarden.Sql.Keyword
import QueryWarden.Sql.Parser

/-! The words, marks and repetitions of which the rules of the grammar are made. -/
namespace QueryWarden.Sql

namespace Parser
variable {α β : Type}

def keyAt (n : Nat) : Parser String := do return keyOf (← peekAt n)

def symbolAt (n : Nat) : Parser String := do return symbolOf (← peekAt n)

def skips : Nat → Parser Unit
  | 0 => Parser.pure ()
  | n + 1 => do skip; skips n

def wordsAhead (ks : List String) (n : Nat := 0) : Parser Bool :=
  match ks with
  | [] => Parser.pure true
  | k :: ks => do if (← keyAt n) == k then wordsAhead ks (n + 1) else return false

def marksAhead (ms : List String) (n : Nat := 0) : Parser Bool :=
  match ms with
  | [] => Parser.pure true
  | m :: ms => do if (← symbolAt n) == m then marksAhead ms (n + 1) else return false

def word? (k : String) : Parser Bool := do
  if (← keyAt 0) == k then skip; return true else return false

def words? (ks : List String) : Parser Bool := do
  if ← wordsAhead ks then skips ks.length; return true else return false

def wordOf? (ks : List String) : Parser (Option String) := do
  let k ← keyAt 0
  if ks.contains k then skip; return some k else return none

def expectWord (k : String) : Parser Unit := do
  unless ← word? k do expected k

def expectWords : List String → Parser Unit
  | [] => Parser.pure ()
  | k :: ks => do expectWord k; expectWords ks

def expectWordOf (ks : List String) : Parser String := do
  match ← wordOf? ks with
  | some k => return k
  | none => expected ("one of " ++ " or ".intercalate ks)

def mark? (m : String) : Parser Bool := do
  if (← symbolAt 0) == m then skip; return true else return false

def marks? (ms : List String) : Parser Bool := do
  if ← marksAhead ms then skips ms.length; return true else return false

def expectMark (m : String) : Parser Unit := do
  unless ← mark? m do expected m

def list (budget : Nat) (p : Parser α) (found : List α := []) : Parser (List α) :=
  match budget with
  | 0 => tooDeep
  | budget + 1 => do
    let a ← p
    if ← mark? "," then list budget p (a :: found) else return (a :: found).reverse

def listOrNone (budget : Nat) (close : String) (p : Parser α) : Parser (List α) := do
  if (← symbolAt 0) == close then return [] else list budget p

def many (budget : Nat) (p : Parser (Option α)) (found : List α := []) : Parser (List α) :=
  match budget with
  | 0 => tooDeep
  | budget + 1 => do
    match ← p with
    | some a => many budget p (a :: found)
    | none => return found.reverse

def extend (budget : Nat) (p : α → Parser (Option α)) (a : α) : Parser α :=
  match budget with
  | 0 => tooDeep
  | budget + 1 => do
    match ← p a with
    | some a => extend budget p a
    | none => return a

def provided (condition : Bool) (p : Parser Bool) : Parser Bool :=
  if condition then p else Parser.pure false

def inParens (p : Parser α) : Parser α := do
  expectMark "("
  let a ← p
  expectMark ")"
  return a

def following? (lead : Parser Bool) (p : Parser α) : Parser (Option α) := do
  if ← lead then return some (← p) else return none

def after? (k : String) (p : Parser α) : Parser (Option α) := following? (word? k) p

def afterAll? (ks : List String) (p : Parser α) : Parser (Option α) := following? (words? ks) p

end Parser
end QueryWarden.Sql
