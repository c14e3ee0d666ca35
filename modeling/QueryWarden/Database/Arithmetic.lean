import QueryWarden.Database.Numeral
import QueryWarden.Database.Tree

/-! What operators make of values. Whole numbers that do not fit become real, and what is divided by zero
is nothing; logic knows a third value besides true and false. -/
namespace QueryWarden.Database

def fitting (n : Int) (x : Float) : Value := if isInteger n then .integer n else Value.ofFloat x

def calculated (whole : Int → Int → Int) (real : Float → Float → Float) (a b : Value) : Value :=
  match a.number, b.number with
  | .null, _ | _, .null => .null
  | .integer m, .integer n => fitting (whole m n) (real (floatOfInt m) (floatOfInt n))
  | x, y => Value.ofFloat (real x.toFloat y.toFloat)

def quotient (a b : Value) : Value :=
  match a.number, b.number with
  | .null, _ | _, .null => .null
  | .integer m, .integer n =>
    if n = 0 then .null else fitting (Int.tdiv m n) (floatOfInt m / floatOfInt n)
  | x, y => if y.toFloat == 0.0 then .null else Value.ofFloat (x.toFloat / y.toFloat)

def leftOver (a b : Value) : Value :=
  match a.number, b.number with
  | .null, _ | _, .null => .null
  | x, y =>
    let m := x.toInt
    let n := y.toInt
    if n = 0 then .null
    else
      match x, y with
      | .integer _, .integer _ => .integer (Int.tmod m n)
      | _, _ => .real (floatOfInt (Int.tmod m n))

def concatenation (a b : Value) : Value :=
  match a.bytes?, b.bytes? with
  | some x, some y => .text (x ++ y)
  | _, _ => .null

def bitsOf (n : Int) : Nat := (n % Int.pow 2 64).toNat

def ofBits (n : Nat) : Int :=
  let m := n % Nat.pow 2 64
  if m < Nat.pow 2 63 then Int.ofNat m else Int.ofNat m - Int.pow 2 64

def shifted (n count : Int) : Int :=
  if 0 ≤ count then if 64 ≤ count then 0 else ofBits (bitsOf n * Nat.pow 2 count.toNat)
  else if count ≤ -64 then if n < 0 then -1 else 0
  else Int.fdiv n (Int.pow 2 count.natAbs)

def onBits (f : Int → Int → Int) (a b : Value) : Value :=
  if a.isNull || b.isNull then .null else .integer (f a.toInt b.toInt)

def Value.ofTruth : Option Bool → Value
  | none => .null
  | some b => .ofBool b

def both : Option Bool → Option Bool → Option Bool
  | some false, _ | _, some false => some false
  | some true, some true => some true
  | _, _ => none

def either : Option Bool → Option Bool → Option Bool
  | some true, _ | _, some true => some true
  | some false, some false => some false
  | _, _ => none

def UnaryOp.apply (op : UnaryOp) (v : Value) : Value :=
  match op with
  | .plus => v
  | .minus => calculated (· - ·) (· - ·) (.integer 0) v
  | .complement => if v.isNull then .null else .integer (-v.toInt - 1)
  | .not => .ofTruth (v.truth?.map (!·))

def BinaryOp.accepts (op : BinaryOp) (o : Ordering) : Bool :=
  match op with
  | .equal | .is => o == .eq
  | .unequal | .isNot => o != .eq
  | .less => o == .lt
  | .lessEqual => o != .gt
  | .greater => o == .gt
  | .greaterEqual => o != .lt
  | _ => false

def BinaryOp.comparison (op : BinaryOp) (c : Collation) (a b : Value) : Option Bool :=
  match op with
  | .is | .isNot => some (op.accepts (a.compare c b))
  | _ => if a.isNull || b.isNull then none else some (op.accepts (a.compare c b))

def BinaryOp.comparisonOfRows (op : BinaryOp) : List Collation → List Value → List Value → Option Bool
  | c :: cs, a :: as, b :: bs =>
    match op with
    | .equal => both (BinaryOp.equal.comparison c a b) (op.comparisonOfRows cs as bs)
    | .is => both (BinaryOp.is.comparison c a b) (op.comparisonOfRows cs as bs)
    | .unequal => either (BinaryOp.unequal.comparison c a b) (op.comparisonOfRows cs as bs)
    | .isNot => either (BinaryOp.isNot.comparison c a b) (op.comparisonOfRows cs as bs)
    | _ =>
      if a.isNull || b.isNull then none
      else if as.isEmpty then op.comparison c a b
      else
        match a.compare c b with
        | .eq => op.comparisonOfRows cs as bs
        | o => some (op.accepts o)
  | _, _, _ =>
    match op with
    | .equal | .is => some true
    | _ => some false

def BinaryOp.apply (op : BinaryOp) (a b : Value) : Value :=
  match op with
  | .or => .ofTruth (either a.truth? b.truth?)
  | .and => .ofTruth (both a.truth? b.truth?)
  | .add => calculated (· + ·) (· + ·) a b
  | .subtract => calculated (· - ·) (· - ·) a b
  | .multiply => calculated (· * ·) (· * ·) a b
  | .divide => quotient a b
  | .remainder => leftOver a b
  | .concat => concatenation a b
  | .bitAnd => onBits (fun m n => ofBits (bitsOf m &&& bitsOf n)) a b
  | .bitOr => onBits (fun m n => ofBits (bitsOf m ||| bitsOf n)) a b
  | .shiftLeft => onBits shifted a b
  | .shiftRight => onBits (fun m n => shifted m (-n)) a b
  | op => .ofTruth (op.comparison .binary a b)

end QueryWarden.Database
