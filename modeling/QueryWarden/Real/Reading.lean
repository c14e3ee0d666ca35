/-! Reading decimals: the double nearest to `m · 10^e`, and the doubles that plain texts name. -/
namespace QueryWarden.Real

def ofDecimal (m : Nat) (e : Int) : Float :=
  if m = 0 then 0.0
  else
    let size := Int.ofNat (Nat.toDigits 10 m).length + e
    if size < -400 then 0.0
    else if 400 < size then Float.ofScientific 1 false 400
    else if 0 ≤ e then Float.ofScientific m false e.toNat
    else Float.ofScientific m true e.natAbs

def digitsValue (ds : List Char) : Nat := ds.foldl (fun n d => n * 10 + (d.toNat - 48)) 0

def unsigned? (cs : List Char) : Option Float :=
  let whole := cs.takeWhile Char.isDigit
  let rest := cs.dropWhile Char.isDigit
  let (fraction, rest) := match rest with
    | '.' :: rest => (rest.takeWhile Char.isDigit, rest.dropWhile Char.isDigit)
    | rest => ([], rest)
  if whole.isEmpty && fraction.isEmpty then none else
  let m := digitsValue (whole ++ fraction)
  let e := -(Int.ofNat fraction.length)
  match rest with
  | [] => some (ofDecimal m e)
  | mark :: rest =>
    if mark ≠ 'e' ∧ mark ≠ 'E' then none else
    let (down, ds) := match rest with
      | '+' :: ds => (false, ds)
      | '-' :: ds => (true, ds)
      | ds => (false, ds)
    if ds.isEmpty || !ds.all Char.isDigit then none
    else
      let p := Int.ofNat (digitsValue ds)
      some (ofDecimal m (e + if down then -p else p))

/-- The double that a text names: a decimal, infinity or not-a-number, with or without a sign. -/
def ofText? (text : String) : Option Float :=
  let (negative, cs) := match text.toList with
    | '-' :: cs => (true, cs)
    | '+' :: cs => (false, cs)
    | cs => (false, cs)
  let word := String.ofList (cs.map Char.toLower)
  let value? :=
    if word = "inf" ∨ word = "infinity" then some (1.0 / 0.0)
    else if word = "nan" then some (0.0 / 0.0)
    else unsigned? cs
  value?.map fun x => if negative then -x else x

end QueryWarden.Real
