import QueryWarden.Text.Utf8

/-! The values of the database: nothing, whole numbers of 64 bits, real numbers, texts and blobs. A text
is kept as its bytes, which need not be the bytes of characters. -/
namespace QueryWarden.Database

inductive Value where
  | null
  | integer (n : Int)
  | real (x : Float)
  | text (bytes : List UInt8)
  | blob (bytes : List UInt8)

inductive Collation where
  | binary
  | noCase
  | rightTrimmed
deriving Repr, DecidableEq

/-- What a column or an expression makes of the values that meet it. -/
inductive Affinity where
  | blob
  | text
  | numeric
  | integer
  | real
deriving Repr, DecidableEq

def leastInteger : Int := -(Int.pow 2 63)

def greatestInteger : Int := Int.pow 2 63 - 1

def isInteger (n : Int) : Bool := leastInteger ≤ n && n ≤ greatestInteger

def floatOfInt (n : Int) : Float :=
  if n < 0 then -(Float.ofNat n.natAbs) else Float.ofNat n.natAbs

def truncated (x : Float) : Int :=
  if x ≤ -9223372036854775808.0 then leastInteger
  else if 9223372036854775808.0 ≤ x then greatestInteger
  else x.toInt64.toInt

def charOf (b : UInt8) : Char := Char.ofNat b.toNat

def lowerByte (b : UInt8) : UInt8 := if 65 ≤ b && b ≤ 90 then b + 32 else b

def upperByte (b : UInt8) : UInt8 := if 97 ≤ b && b ≤ 122 then b - 32 else b

def sameName (a b : String) : Bool :=
  a.toList.map Char.toLower == b.toList.map Char.toLower

namespace Value

def ofString (s : String) : Value := .text (Text.Utf8.bytes s)

def ofBool (b : Bool) : Value := .integer (if b then 1 else 0)

def ofFloat (x : Float) : Value := if x.isNaN then .null else .real x

def isNull : Value → Bool
  | .null => true
  | _ => false

def className : Value → String
  | .null => "null"
  | .integer _ => "integer"
  | .real _ => "real"
  | .text _ => "text"
  | .blob _ => "blob"

end Value

def compareIntReal (n : Int) (x : Float) : Ordering :=
  if x < -9223372036854775808.0 then .gt
  else if 9223372036854775808.0 ≤ x then .lt
  else
    let m := truncated x
    if n < m then .lt
    else if m < n then .gt
    else
      let y := floatOfInt n
      if y < x then .lt else if x < y then .gt else .eq

def compareBytes : List UInt8 → List UInt8 → Ordering
  | [], [] => .eq
  | [], _ :: _ => .lt
  | _ :: _, [] => .gt
  | a :: as, b :: bs => if a < b then .lt else if b < a then .gt else compareBytes as bs

def Collation.name : Collation → String
  | .binary => "BINARY"
  | .noCase => "NOCASE"
  | .rightTrimmed => "RTRIM"

def Collation.named? (name : String) : Option Collation :=
  [Collation.binary, .noCase, .rightTrimmed].find? fun c => sameName c.name name

def Collation.key (c : Collation) (bytes : List UInt8) : List UInt8 :=
  match c with
  | .binary => bytes
  | .noCase => bytes.map lowerByte
  | .rightTrimmed => (bytes.reverse.dropWhile (· == 32)).reverse

def Value.compare (c : Collation) : Value → Value → Ordering
  | .null, .null => .eq
  | .null, _ => .lt
  | _, .null => .gt
  | .integer a, .integer b => if a < b then .lt else if b < a then .gt else .eq
  | .integer a, .real y => compareIntReal a y
  | .real x, .integer b => (compareIntReal b x).swap
  | .real x, .real y => if x < y then .lt else if y < x then .gt else .eq
  | .integer _, _ | .real _, _ => .lt
  | _, .integer _ | _, .real _ => .gt
  | .text a, .text b => compareBytes (c.key a) (c.key b)
  | .text _, .blob _ => .lt
  | .blob _, .text _ => .gt
  | .blob a, .blob b => compareBytes a b

def compareRows (cs : List Collation) : List Value → List Value → Ordering
  | a :: as, b :: bs =>
    match a.compare (cs.head?.getD .binary) b with
    | .eq => compareRows cs.tail as bs
    | o => o
  | [], [] => .eq
  | [], _ => .lt
  | _, [] => .gt

def Affinity.ofType (declared : String) : Affinity :=
  let t := declared.toList.map Char.toUpper
  let has (part : String) : Bool := occurs part.toList t
  if has "INT" then .integer
  else if has "CHAR" || has "CLOB" || has "TEXT" then .text
  else if has "BLOB" || declared.isEmpty then .blob
  else if has "REAL" || has "FLOA" || has "DOUB" then .real
  else .numeric
where
  /-- Whether one text stands somewhere in another. -/
  occurs (part : List Char) : List Char → Bool
    | [] => part.isEmpty
    | c :: cs => part.isPrefixOf (c :: cs) || occurs part cs

end QueryWarden.Database
