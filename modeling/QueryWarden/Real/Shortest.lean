/-! The shortest decimal that reads back as a given binary floating-point number. A double is taken
apart into `m · 2^q`; of the decimals with 1, 2, … 17 digits the first grid that has a point in the
interval of reals rounding to the double wins, and on it the nearer point. -/
namespace QueryWarden.Real

structure Decimal where
  digits : Nat
  exponent : Int
deriving Repr, DecidableEq

structure Ratio where
  numerator : Nat
  denominator : Nat
deriving Repr, DecidableEq

inductive Double where
  | finite (negative : Bool) (significand : Nat) (exponent : Int)
  | infinite (negative : Bool)
  | notANumber
deriving Repr, DecidableEq

def Double.ofBits (bits : UInt64) : Double :=
  let n := bits.toNat
  let negative := n / Nat.pow 2 63 == 1
  let exponent := n / Nat.pow 2 52 % 2048
  let fraction := n % Nat.pow 2 52
  if exponent == 2047 then if fraction == 0 then .infinite negative else .notANumber
  else if exponent == 0 then .finite negative fraction (-1074)
  else .finite negative (fraction + Nat.pow 2 52) (Int.ofNat exponent - 1075)

def Ratio.scaled (m : Nat) (q : Int) : Ratio :=
  if 0 ≤ q then ⟨m * Nat.pow 2 q.toNat, 1⟩ else ⟨m, Nat.pow 2 (-q).toNat⟩

def Ratio.shift (r : Ratio) (k : Int) : Ratio :=
  if 0 ≤ k then ⟨r.numerator * Nat.pow 10 k.toNat, r.denominator⟩
  else ⟨r.numerator, r.denominator * Nat.pow 10 (-k).toNat⟩

structure Interval where
  low : Ratio
  high : Ratio
  closed : Bool

/-- Halfway to the neighbours on both sides; below a power of two the neighbour is half as far. An
end rounds to the double iff its significand is even. -/
def Interval.around (m : Nat) (q : Int) : Interval :=
  let below := if m = Nat.pow 2 52 ∧ q > -1074 then 1 else 2
  ⟨.scaled (4 * m - below) (q - 2), .scaled (4 * m + 2) (q - 2), m % 2 == 0⟩

def Interval.holds (i : Interval) (k : Int) (n : Nat) : Bool :=
  let low := i.low.shift k
  let high := i.high.shift k
  let a := n * low.denominator
  let b := n * high.denominator
  if i.closed then low.numerator ≤ a && b ≤ high.numerator
  else low.numerator < a && b < high.numerator

def digitCount (n : Nat) : Nat := (Nat.toDigits 10 n).length

def magnitude (r : Ratio) : Int :=
  let estimate := Int.ofNat (digitCount r.numerator) - Int.ofNat (digitCount r.denominator)
  let scaled := r.shift (-estimate)
  if scaled.numerator < scaled.denominator then estimate else estimate + 1

def onGrid (value : Ratio) (i : Interval) (top : Int) (n : Nat) : Option Decimal :=
  let shift := Int.ofNat n - top
  let scaled := value.shift shift
  let lower := scaled.numerator / scaled.denominator
  let upper := lower + 1
  let twiceRest := 2 * (scaled.numerator % scaled.denominator)
  let preferUpper :=
    scaled.denominator < twiceRest || (scaled.denominator == twiceRest && lower % 2 == 1)
  let (first, other) := if preferUpper then (upper, lower) else (lower, upper)
  if i.holds shift first && first != 0 then some ⟨first, -shift⟩
  else if i.holds shift other then some ⟨other, -shift⟩
  else none

/-- The shortest decimal that reads back as the positive double `m · 2^q`. -/
def shortest (m : Nat) (q : Int) : Decimal :=
  let value := Ratio.scaled m q
  let i := Interval.around m q
  let top := magnitude value
  match (List.range 17).findSome? fun n => onGrid value i top (n + 1) with
  | some d => d
  | none => ⟨m, 0⟩

/-- The digits of a decimal without trailing zeros, and the place of its point: the value is
`0.d₁d₂… · 10^point`. -/
def Decimal.normal (d : Decimal) : List Char × Int :=
  let digits := Nat.toDigits 10 d.digits
  let kept := (digits.reverse.dropWhile (· == '0')).reverse
  (kept, Int.ofNat digits.length + d.exponent)

end QueryWarden.Real
