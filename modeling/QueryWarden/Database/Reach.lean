import QueryWarden.Database.Arithmetic
import QueryWarden.Database.Surroundings

/-! The rows that count for a row, among those that are put together with it, and what functions make of
them. Rows that the order does not tell apart are one group. -/
namespace QueryWarden.Database

inductive Edge where
  | first
  | before (n : Value)
  | here
  | behind (n : Value)
  | last

structure Extension where
  unit : FrameUnit
  start : Edge
  stop : Edge
  gap : FrameGap

/-- One of the rows that are put together: by what they are ordered, the arguments of the function, and
whether it counts at all. -/
structure Neighbour where
  keys : List Value
  arguments : List Value
  counts : Bool

structure Standing where
  row : Neighbour
  index : Nat
  groupStart : Nat
  groupStop : Nat
  group : Nat

def checkedOffset (unit : FrameUnit) (starting : Bool) (v : Value) : Except Fault Value :=
  let refused (kind : String) : Except Fault Value :=
    .error (.of ("frame " ++ (if starting then "starting" else "ending") ++
      " offset must be a non-negative " ++ kind))
  match unit with
  | .range =>
    match v with
    | .integer n => if n < 0 then refused "number" else .ok v
    | .real x => if x < 0.0 then refused "number" else .ok v
    | _ => refused "number"
  | _ =>
    match Affinity.integer.apply v with
    | .integer n => if n < 0 then refused "integer" else .ok (.integer n)
    | _ => refused "integer"

def standings (ds : List Direction) (rows : List Neighbour) : List Standing :=
  let groups := chunked (fun (a b : Neighbour × Nat) => compareIn ds a.1.keys b.1.keys = .eq)
    rows.zipIdx
  groups.zipIdx.flatMap fun (g, k) =>
    let start := (g.head?.map (·.2)).getD 0
    g.map fun (r, i) => ⟨r, i, start, start + g.length, k⟩

def Value.moved (up : Bool) (v n : Value) : Value :=
  match v with
  | .integer _ | .real _ =>
    if up then calculated (· + ·) (· + ·) v n else calculated (· - ·) (· - ·) v n
  | v => v

def Extension.holds (e : Extension) (ds : List Direction) (me other : Standing) : Bool :=
  let i := Int.ofNat me.index
  let j := Int.ofNat other.index
  let g := Int.ofNat me.group
  let h := Int.ofNat other.group
  let against (up : Bool) (n : Value) : Ordering :=
    match ds, me.row.keys, other.row.keys with
    | d :: _, k :: _, l :: _ => d.compare l (k.moved (up != d.descending) n)
    | _, _, _ => .eq
  let begins : Bool := match e.unit, e.start with
    | _, .first => true
    | _, .last => false
    | .rows, .here => i ≤ j
    | .rows, .before n => i - n.toInt ≤ j
    | .rows, .behind n => i + n.toInt ≤ j
    | .groups, .before n => g - n.toInt ≤ h
    | .groups, .behind n => g + n.toInt ≤ h
    | .range, .before n => against false n != .lt
    | .range, .behind n => against true n != .lt
    | _, .here => g ≤ h
  let ends : Bool := match e.unit, e.stop with
    | _, .last => true
    | _, .first => false
    | .rows, .here => j ≤ i
    | .rows, .before n => j ≤ i - n.toInt
    | .rows, .behind n => j ≤ i + n.toInt
    | .groups, .before n => h ≤ g - n.toInt
    | .groups, .behind n => h ≤ g + n.toInt
    | .range, .before n => against false n != .gt
    | .range, .behind n => against true n != .gt
    | _, .here => h ≤ g
  begins && ends && (match e.gap with
    | .nothing => true
    | .row => i ≠ j
    | .peers => g ≠ h
    | .ties => g ≠ h || i = j)

def bucketOf (buckets total index : Nat) : Nat :=
  let size := total / buckets
  let large := total % buckets
  if size = 0 then index + 1
  else if index < large * (size + 1) then 1 + index / (size + 1)
  else 1 + large + (index - large * (size + 1)) / size

def WindowFunction.values (f : WindowFunction) (c : Collation) (ds : List Direction) (e : Extension)
    (rows : List Neighbour) : Except Fault (List Value) := do
  let all := standings ds rows
  let total := all.length
  let share (n m : Nat) : Value := .real (Float.ofNat n / Float.ofNat m)
  let argument (n : Nat) (r : Neighbour) : Value := r.arguments[n]?.getD .null
  let elsewhere (me : Standing) (step : Int → Int → Int) : Value :=
    let place : Value := match me.row.arguments with
      | _ :: n :: _ => match Affinity.integer.apply n with
        | .integer n => .integer (step me.index n)
        | _ => .null
      | _ => .integer (step me.index 1)
    let found : Option Neighbour := match place with
      | .integer n => if n < 0 then none else rows[n.toNat]?
      | _ => none
    match found with
    | some r => argument 0 r
    | none => argument 2 me.row
  all.mapM fun me => do
    let around : List Neighbour := (all.filter (e.holds ds me)).map (·.row)
    match f with
    | .rowNumber => return .integer (me.index + 1)
    | .rank => return .integer (me.groupStart + 1)
    | .denseRank => return .integer (me.group + 1)
    | .percentRank => return if total ≤ 1 then .real 0.0 else share me.groupStart (total - 1)
    | .cumulativeShare => return share me.groupStop total
    | .bucket =>
      let n := ((rows.head?).map (argument 0)).getD .null
      if n.toInt ≤ 0 then throw (.of "argument of ntile must be a positive integer")
      return .integer (bucketOf n.toInt.toNat total me.index)
    | .first => return ((around.head?).map (argument 0)).getD .null
    | .last => return ((around.getLast?).map (argument 0)).getD .null
    | .nth =>
      match Affinity.integer.apply (argument 1 me.row) with
      | .integer n =>
        if n ≤ 0 then throw (.of "second argument to nth_value must be a positive integer")
        return ((around[n.toNat - 1]?).map (argument 0)).getD .null
      | _ => throw (.of "second argument to nth_value must be a positive integer")
    | .ahead => return elsewhere me (· + ·)
    | .behind => return elsewhere me (· - ·)
    | .aggregate a =>
      ofFunction (a.apply c ((around.filter (·.counts)).map (·.arguments)))

end QueryWarden.Database
