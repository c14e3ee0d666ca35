import QueryWarden.Database.Value
import QueryWarden.Real.Reading
import QueryWarden.Real.Shortest

/-! Numbers and texts: how a text is read as a number, wholly or as far as it goes, and how a number is
written with fifteen digits. -/
namespace QueryWarden.Database

def isSpace (b : UInt8) : Bool := b == 32 || (9 ≤ b && b ≤ 13)

def isDigit (b : UInt8) : Bool := 48 ≤ b && b ≤ 57

def digitsValue (ds : List UInt8) : Nat := ds.foldl (fun n d => n * 10 + (d.toNat - 48)) 0

inductive Extent where
  /-- The text does not begin with a number. -/
  | none
  /-- Something follows the number. -/
  | part
  /-- The text is a number, but for blanks around it. -/
  | whole
deriving Repr, DecidableEq

/-- A numeral at the beginning of a text: its sign, its digits before the point, those after it, its
exponent, and what follows it. -/
structure Numeral where
  negative : Bool
  whole : List UInt8
  fraction : List UInt8
  exponent : Option Int
  pointed : Bool
  rest : List UInt8

namespace Numeral

def ofBytes (bs : List UInt8) : Numeral :=
  let bs := bs.dropWhile isSpace
  let (negative, bs) := match bs with
    | 45 :: r => (true, r)
    | 43 :: r => (false, r)
    | r => (false, r)
  let whole := bs.takeWhile isDigit
  let bs := bs.dropWhile isDigit
  let (pointed, fraction, bs) := match bs with
    | 46 :: r =>
      if whole.isEmpty && (r.takeWhile isDigit).isEmpty then (false, [], 46 :: r)
      else (true, r.takeWhile isDigit, r.dropWhile isDigit)
    | r => (false, [], r)
  let (exponent, bs) := match bs with
    | e :: r =>
      if (e == 101 || e == 69) && !(whole.isEmpty && fraction.isEmpty) then
        let (down, ds) := match r with
          | 45 :: q => (true, q)
          | 43 :: q => (false, q)
          | q => (false, q)
        let digits := ds.takeWhile isDigit
        if digits.isEmpty then (none, e :: r)
        else
          let n := Int.ofNat (digitsValue digits)
          (some (if down then -n else n), ds.dropWhile isDigit)
      else (none, e :: r)
    | [] => (none, [])
  ⟨negative, whole, fraction, exponent, pointed, bs⟩

def extent (n : Numeral) : Extent :=
  if n.whole.isEmpty && n.fraction.isEmpty then .none
  else if (n.rest.dropWhile isSpace).isEmpty then .whole
  else .part

def isPlain (n : Numeral) : Bool := !n.pointed && n.exponent.isNone

def integer (n : Numeral) : Int :=
  let v := Int.ofNat (digitsValue n.whole)
  if n.negative then -v else v

def real (n : Numeral) : Float :=
  let m := digitsValue (n.whole ++ n.fraction)
  let x := Real.ofDecimal m (n.exponent.getD 0 - Int.ofNat n.fraction.length)
  if n.negative then -x else x

end Numeral

def wholeOf? (x : Float) : Option Int :=
  let n := truncated x
  if floatOfInt n == x && leastInteger < n && n < greatestInteger then some n else none

def numberOfText? (bs : List UInt8) : Option Value :=
  let n := Numeral.ofBytes bs
  match n.extent with
  | .whole =>
    if n.isPlain && isInteger n.integer then some (.integer n.integer)
    else
      match wholeOf? n.real with
      | some i => some (.integer i)
      | none => some (.real n.real)
  | _ => none

def Value.number : Value → Value
  | .null => .null
  | .integer n => .integer n
  | .real x => .real x
  | .text bs | .blob bs =>
    let n := Numeral.ofBytes bs
    match n.extent with
    | .none => .integer 0
    | _ => if n.isPlain && isInteger n.integer then .integer n.integer else .real n.real

def Value.toFloat (v : Value) : Float :=
  match v.number with
  | .integer n => floatOfInt n
  | .real x => x
  | _ => 0.0

def Value.toInt : Value → Int
  | .null => 0
  | .integer n => n
  | .real x => truncated x
  | .text bs | .blob bs =>
    let n := (Numeral.ofBytes bs).integer
    if n < leastInteger then leastInteger else if greatestInteger < n then greatestInteger else n

def roundedDigits (count m : Nat) (q : Int) : List Char × Int :=
  let value := Real.Ratio.scaled m q
  let top := Real.magnitude value
  let scaled := value.shift (Int.ofNat count - top)
  let n := (2 * scaled.numerator + scaled.denominator) / (2 * scaled.denominator)
  let (digits, point) := Real.Decimal.normal ⟨n, top - Int.ofNat count⟩
  (digits, point)

def padded (n : Nat) (ds : List Char) : List Char := ds ++ List.replicate (n - ds.length) '0'

def realText (precision : Nat) (x : Float) : List Char :=
  match Real.Double.ofBits x.toBits with
  | .notANumber => "NaN".toList
  | .infinite negative => if negative then "-Inf".toList else "Inf".toList
  | .finite negative m q =>
    if m = 0 then "0.0".toList
    else
      let (digits, point) := roundedDigits precision m q
      let exponent := point - 1
      let sign := if negative then ['-'] else []
      if exponent < -4 || Int.ofNat precision - 1 < exponent then
        let (head, tail) := (digits.take 1, digits.drop 1)
        let power := Nat.toDigits 10 exponent.natAbs
        sign ++ head ++ '.' :: (if tail.isEmpty then ['0'] else tail) ++
          'e' :: (if exponent < 0 then '-' else '+') ::
          (if power.length < 2 then '0' :: power else power)
      else if point ≤ 0 then
        sign ++ '0' :: '.' :: List.replicate (-point).toNat '0' ++ digits
      else
        let whole := padded point.toNat (digits.take point.toNat)
        let fraction := digits.drop point.toNat
        sign ++ whole ++ '.' :: (if fraction.isEmpty then ['0'] else fraction)

def asciiBytes (cs : List Char) : List UInt8 := cs.map fun c => c.toNat.toUInt8

def Value.bytes? : Value → Option (List UInt8)
  | .null => none
  | .integer n => some (asciiBytes (toString n).toList)
  | .real x => some (asciiBytes (realText 15 x))
  | .text bs => some bs
  | .blob bs => some bs

def Affinity.apply (a : Affinity) (v : Value) : Value :=
  match a, v with
  | .blob, v => v
  | .text, .integer _ | .text, .real _ => .text (v.bytes?.getD [])
  | .text, v => v
  | _, .text bs => (numberOfText? bs).getD v
  | _, .real x =>
    match wholeOf? x with
    | some n => .integer n
    | none => v
  | _, v => v

def Affinity.read (a : Affinity) (v : Value) : Value :=
  match a, v with
  | .real, .integer n => .real (floatOfInt n)
  | _, v => v

def Affinity.cast (a : Affinity) (v : Value) : Value :=
  match a, v with
  | _, .null => .null
  | .blob, v => .blob (v.bytes?.getD [])
  | .text, v => .text (v.bytes?.getD [])
  | .integer, v => .integer v.toInt
  | .real, v => .real v.toFloat
  | .numeric, .text bs | .numeric, .blob bs =>
    match (Value.text bs).number with
    | .real x => (wholeOf? x).elim (.real x) .integer
    | n => n
  | .numeric, v => v

def Value.truth? (v : Value) : Option Bool :=
  match v.number with
  | .null => none
  | .integer n => some (n != 0)
  | .real x => some (x != 0.0)
  | _ => some false

end QueryWarden.Database
