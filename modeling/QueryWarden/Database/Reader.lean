import QueryWarden.Database.Token
import QueryWarden.Database.Tree

/-! Reading tokens one after the other. Where no token fits, the fault names the first one that does not,
or says that the text ends too early. -/
namespace QueryWarden.Database

/-- Why a statement cannot be prepared or run, at which byte, where that is known, and what becomes of
the changes that have been made. -/
structure Fault where
  message : String
  offset : Option Nat
  resolution : Resolution
deriving Repr, DecidableEq

def Fault.of (message : String) : Fault := ⟨message, none, .abort⟩

def Fault.near (message : String) (offset : Nat) : Fault := ⟨message, some offset, .abort⟩

def orderRefused (function : Name) : String :=
  "ORDER BY may not be used with non-aggregate " ++ function.text ++ "()"

def tooDeep : Fault := .of "Expression tree is too large (maximum depth 1000)"

abbrev Reader := StateT (List Token) (Except Fault)

namespace Reader

def unfit : List Token → Fault
  | [] => .of "incomplete input"
  | t :: _ =>
    if t.kind = .illegal then .near ("unrecognized token: \"" ++ t.raw ++ "\"") t.offset
    else .near ("near \"" ++ t.raw ++ "\": syntax error") t.offset

def fail {α : Type} : Reader α := fun ts => .error (unfit ts)

def peek : Reader (Option Token) := fun ts => .ok (ts.head?, ts)

def peekSecond : Reader (Option Token) := fun ts => .ok (ts.tail.head?, ts)

def takeIf (fits : Token → Bool) : Reader (Option Token) := fun ts =>
  match ts with
  | t :: rest => if fits t then .ok (some t, rest) else .ok (none, ts)
  | [] => .ok (none, [])

def take (fits : Token → Bool) : Reader Token := fun ts =>
  match ts with
  | t :: rest => if fits t then .ok (t, rest) else .error (unfit ts)
  | [] => .error (unfit [])

def word (w : String) : Reader Bool := return (← takeIf (·.isWord w)).isSome

def expect (w : String) : Reader Unit := do let _ ← take (·.isWord w)

def symbol (s : String) : Reader Bool := return (← takeIf (·.isSymbol s)).isSome

def expectSymbol (s : String) : Reader Unit := do let _ ← take (·.isSymbol s)

def words (ws : List String) : Reader Bool := fun ts =>
  if (ws.zip ts).all (fun (w, t) => t.isWord w) && ws.length ≤ ts.length then
    .ok (true, ts.drop ws.length)
  else .ok (false, ts)

def spanned {α : Type} (r : Reader α) : Reader (α × String) := fun ts =>
  match r ts with
  | .error f => .error f
  | .ok (a, rest) => .ok ((a, Token.span (ts.take (ts.length - rest.length))), rest)

def nameOf (t : Token) : Name :=
  ⟨t.value, t.raw, t.offset, t.kind = .quotedName && t.raw.startsWith "\""⟩

def name : Reader Name := return nameOf (← take fun t => t.isName || t.kind = .text)

def looseName? : Reader (Option Name) :=
  return (← takeIf fun t => t.isLooseName || t.kind = .text).map nameOf

def list {α : Type} (item : Reader α) : (bound : Nat) → Reader (List α)
  | 0 => fail
  | bound + 1 => do
    let a ← item
    if ← symbol "," then return a :: (← list item bound) else return [a]

def many {α : Type} (item? : Reader (Option α)) : (bound : Nat) → Reader (List α)
  | 0 => return []
  | bound + 1 => do
    match ← item? with
    | none => return []
    | some a => return a :: (← many item? bound)

def grow {α : Type} (more? : α → Reader (Option α)) : (bound : Nat) → α → Reader α
  | 0, a => return a
  | bound + 1, a => do
    match ← more? a with
    | none => return a
    | some b => grow more? bound b

def left : Reader Nat := fun ts => .ok (ts.length, ts)

def listOf {α : Type} (item : Reader α) : Reader (List α) := do list item ((← left) + 1)

def names : Reader (List Name) := do
  expectSymbol "("
  let ns ← listOf name
  expectSymbol ")"
  return ns

def resolution : Reader Resolution := do
  if ← word "ROLLBACK" then return .rollback
  if ← word "ABORT" then return .abort
  if ← word "FAIL" then return .fail
  if ← word "IGNORE" then return .ignore
  if ← word "REPLACE" then return .replace
  fail

def signedNumber : Reader String := do
  let sign ← if ← symbol "-" then pure "-" else if ← symbol "+" then pure "+" else pure ""
  let t ← take fun t => t.kind = .integer || t.kind = .real
  return sign ++ t.raw

def inType (t : Token) : Bool := t.isLooseName || t.kind = .text

def type : Reader String := do
  let (_, written) ← spanned do
    let parts ← many (takeIf inType) ((← left) + 1)
    unless parts.isEmpty do
      if ← symbol "(" then
        let _ ← signedNumber
        if ← symbol "," then let _ ← signedNumber
        expectSymbol ")"
  return written

end Reader
end QueryWarden.Database
