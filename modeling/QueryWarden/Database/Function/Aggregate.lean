import QueryWarden.Database.Function.Scalar

/-! Functions from the values of many rows to one. Sums of whole numbers are exact as long as they fit;
other sums keep account of what rounding loses. -/
namespace QueryWarden.Database

inductive Aggregate where
  | count
  | sum
  | total
  | average
  | greatest
  | least
  | concat
deriving Repr, DecidableEq

structure Sum where
  count : Nat
  whole : Int
  real : Float
  lost : Float
  isReal : Bool
  overflow : Bool

namespace Sum

def zero : Sum := ⟨0, 0, 0.0, 0.0, false, false⟩

def addReal (s : Sum) (x : Float) : Sum :=
  let t := s.real + x
  let lost := if Float.abs x < Float.abs s.real then (s.real - t) + x else (x - t) + s.real
  { s with real := t, lost := s.lost + lost }

def isLarge (n : Int) : Bool := n ≤ -4503599627370496 || 4503599627370496 ≤ n

def addWhole (s : Sum) (n : Int) : Sum :=
  if isLarge n then
    let small := Int.tmod n 16384
    (s.addReal (floatOfInt (n - small))).addReal (floatOfInt small)
  else s.addReal (floatOfInt n)

def turned (s : Sum) : Sum :=
  if isLarge s.whole then
    let small := Int.tmod s.whole 16384
    { s with real := floatOfInt (s.whole - small), lost := floatOfInt small, isReal := true }
  else { s with real := floatOfInt s.whole, lost := 0.0, isReal := true }

def add (s : Sum) (v : Value) : Sum :=
  if v.isNull then s
  else
    let s := { s with count := s.count + 1 }
    match Scalar.numeric? v with
    | some (.integer n) =>
      if s.isReal then s.addWhole n
      else if isInteger (s.whole + n) then { s with whole := s.whole + n }
      else { s.turned.addWhole n with overflow := true }
    | _ =>
      let s := if s.isReal then { s with overflow := false } else s.turned
      s.addReal v.toFloat

def toFloat (s : Sum) : Float :=
  if s.isReal then
    if s.lost.isNaN || s.lost.isInf then s.real else s.real + s.lost
  else floatOfInt s.whole

end Sum

namespace Aggregate

def named? (name : String) (count : Nat) : Option Aggregate :=
  (all.find? fun (n, counts, _) => sameName n name && counts.contains count).map (·.2.2)
where
  /-- The functions with their names and the numbers of arguments they take. -/
  all : List (String × List Nat × Aggregate) :=
    [("count", [0, 1], .count), ("sum", [1], .sum), ("total", [1], .total), ("avg", [1], .average),
      ("max", [1], .greatest), ("min", [1], .least), ("group_concat", [1, 2], .concat),
      ("string_agg", [2], .concat)]

def isNamed (name : String) : Bool := named?.all.any (sameName ·.1 name)

def concatenated : List (List Value) → Value
  | [] => .null
  | first :: rest =>
    .text (rest.foldl (fun bs vs =>
      let separator := match vs with
        | [_, s] => Scalar.textOf s
        | _ => [44]
      bs ++ separator ++ Scalar.textOf (vs.head?.getD .null)) (Scalar.textOf (first.head?.getD .null)))

def apply (f : Aggregate) (c : Collation) (rows : List (List Value)) : Except String Value :=
  let firsts := rows.map fun vs => vs.head?.getD (.integer 1)
  let present := firsts.filter (!·.isNull)
  match f with
  | .count => .ok (.integer present.length)
  | .sum =>
    let s := present.foldl Sum.add .zero
    if s.count = 0 then .ok .null
    else if s.overflow then .error "integer overflow"
    else if s.isReal then .ok (Value.ofFloat s.toFloat)
    else .ok (.integer s.whole)
  | .total => .ok (Value.ofFloat (present.foldl Sum.add .zero).toFloat)
  | .average =>
    let s := present.foldl Sum.add .zero
    if s.count = 0 then .ok .null else .ok (Value.ofFloat (s.toFloat / Float.ofNat s.count))
  | .greatest => .ok (Scalar.extreme .gt c present)
  | .least => .ok (Scalar.extreme .lt c present)
  | .concat => .ok (concatenated (rows.filter fun vs => !(vs.head?.getD .null).isNull))

end Aggregate
end QueryWarden.Database
