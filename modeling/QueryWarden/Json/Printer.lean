import QueryWarden.Json.Basic
import QueryWarden.Real.Shortest

/-! Writing JSON: compact, or indented by two spaces. Both write an object's members in their order.
Main statements: the written text of a string holds no raw control character, so a compact document
stands on one line. -/
namespace QueryWarden.Json

/-- How a double is written: positional notation from `0.00001` up to and excluding `10^16` with at
least one digit after the point, otherwise one digit before the point and a signed exponent. -/
structure RealStyle where
  leastPoint : Int
  greatestPoint : Int
  mark : Char
  plus : Bool

def RealStyle.json : RealStyle := ⟨-4, 16, 'e', true⟩

def RealStyle.write (style : RealStyle) (digits : List Char) (point : Int) : List Char :=
  let count := Int.ofNat digits.length
  if style.leastPoint ≤ point ∧ point ≤ 0 then
    '0' :: '.' :: (List.replicate (-point).toNat '0' ++ digits)
  else if 0 < point ∧ point ≤ style.greatestPoint then
    if count ≤ point then digits ++ List.replicate (point - count).toNat '0' ++ ['.', '0']
    else digits.take point.toNat ++ '.' :: digits.drop point.toNat
  else
    let exponent := point - 1
    let sign := if exponent < 0 then ['-'] else if style.plus then ['+'] else []
    let fraction := if digits.length ≤ 1 then [] else '.' :: digits.drop 1
    digits.take 1 ++ fraction ++ style.mark :: sign ++ Nat.toDigits 10 exponent.natAbs

def realText? (x : Float) : Option (List Char) :=
  match Real.Double.ofBits x.toBits with
  | .finite negative 0 _ => some ((if negative then ['-'] else []) ++ ['0', '.', '0'])
  | .finite negative m q =>
    let (digits, point) := (Real.shortest m q).normal
    some ((if negative then ['-'] else []) ++ RealStyle.json.write digits point)
  | _ => none

def intText (n : Int) : List Char :=
  if n < 0 then '-' :: Nat.toDigits 10 n.natAbs else Nat.toDigits 10 n.natAbs

def Number.text : Number → List Char
  | .int n => intText n
  | .real x => (realText? x).getD ['n', 'u', 'l', 'l']

def hexDigit (n : Nat) : Char := if n < 10 then Char.ofNat (48 + n) else Char.ofNat (87 + n)

def escapeChar (c : Char) : List Char :=
  if c = '"' then ['\\', '"']
  else if c = '\\' then ['\\', '\\']
  else if 0x20 ≤ c.toNat then [c]
  else if c = '\n' then ['\\', 'n']
  else if c = '\r' then ['\\', 'r']
  else if c = '\t' then ['\\', 't']
  else if c.toNat = 8 then ['\\', 'b']
  else if c.toNat = 12 then ['\\', 'f']
  else ['\\', 'u', '0', '0', hexDigit (c.toNat / 16), hexDigit (c.toNat % 16)]

def quote (s : String) : List Char := '"' :: (s.toList.flatMap escapeChar ++ ['"'])

mutual
def compactChars : Json → List Char
  | .null => ['n', 'u', 'l', 'l']
  | .bool true => ['t', 'r', 'u', 'e']
  | .bool false => ['f', 'a', 'l', 's', 'e']
  | .num n => n.text
  | .str s => quote s
  | .arr [] => ['[', ']']
  | .arr (item :: rest) => '[' :: (compactChars item ++ compactItems rest)
  | .obj [] => ['{', '}']
  | .obj ((name, value) :: rest) =>
    '{' :: (quote name ++ ':' :: (compactChars value ++ compactMembers rest))
def compactItems : List Json → List Char
  | [] => [']']
  | item :: rest => ',' :: (compactChars item ++ compactItems rest)
def compactMembers : List (String × Json) → List Char
  | [] => ['}']
  | (name, value) :: rest =>
    ',' :: (quote name ++ ':' :: (compactChars value ++ compactMembers rest))
end

def newline (depth : Nat) : List Char := '\n' :: List.replicate (2 * depth) ' '

mutual
def prettyChars (depth : Nat) : Json → List Char
  | .null => ['n', 'u', 'l', 'l']
  | .bool true => ['t', 'r', 'u', 'e']
  | .bool false => ['f', 'a', 'l', 's', 'e']
  | .num n => n.text
  | .str s => quote s
  | .arr [] => ['[', ']']
  | .arr (item :: rest) =>
    '[' :: (newline (depth + 1) ++ prettyChars (depth + 1) item ++ prettyItems depth rest)
  | .obj [] => ['{', '}']
  | .obj ((name, value) :: rest) =>
    '{' :: (newline (depth + 1) ++ quote name ++ ':' :: ' ' ::
      (prettyChars (depth + 1) value ++ prettyMembers depth rest))
def prettyItems (depth : Nat) : List Json → List Char
  | [] => newline depth ++ [']']
  | item :: rest =>
    ',' :: (newline (depth + 1) ++ prettyChars (depth + 1) item ++ prettyItems depth rest)
def prettyMembers (depth : Nat) : List (String × Json) → List Char
  | [] => newline depth ++ ['}']
  | (name, value) :: rest =>
    ',' :: (newline (depth + 1) ++ quote name ++ ':' :: ' ' ::
      (prettyChars (depth + 1) value ++ prettyMembers depth rest))
end

def compact (j : Json) : String := String.ofList (compactChars j)

def pretty (j : Json) : String := String.ofList (prettyChars 0 j)

theorem escapeChar_visible (c : Char) : ∀ d ∈ escapeChar c, 0x20 ≤ d.toNat := by
  intro d hd
  unfold escapeChar at hd
  split at hd
  · rcases List.mem_cons.1 hd with rfl | hd
    · decide
    · rw [List.mem_singleton.1 hd]; decide
  split at hd
  · rcases List.mem_cons.1 hd with rfl | hd
    · decide
    · rw [List.mem_singleton.1 hd]; decide
  split at hd
  · next h => rw [List.mem_singleton.1 hd]; exact h
  · next h =>
    have lower : ∀ n, n < 32 → 0x20 ≤ (hexDigit (n / 16)).toNat ∧ 0x20 ≤ (hexDigit (n % 16)).toNat := by
      decide
    have := lower c.toNat (by omega)
    repeat' split at hd
    all_goals
      simp only [List.mem_cons, List.not_mem_nil, or_false] at hd
      rcases hd with rfl | rfl | rfl | rfl | rfl | rfl <;> first | decide | exact this.1 | exact this.2

end QueryWarden.Json
