import QueryWarden.Database.Arithmetic
import QueryWarden.Database.Introspection
import QueryWarden.Database.Rows

/-! What terms depend on, and what is done with rows once their values are known: orders, groups, rows
that are kept once, rows that give rise to others. -/
namespace QueryWarden.Database

/-- One row of a query as terms see it: its cells, what has been worked out for its group, and what has
been worked out from the rows around it. -/
structure Frame where
  cells : Array Value
  aggregates : Array Value
  windows : Array Value

def Frame.of (cells : Array Value) : Frame := ⟨cells, #[], #[]⟩

/-- What terms depend on: the database, the count of the present moment, what the connection has done, what is
given for the variable of the statement, the rows of the queries around, the innermost first, and the rows that
recursive queries have found last. -/
structure Surroundings where
  database : Contents
  now : Int
  lastNumber : Int
  changes : Int
  totalChanges : Int
  given : Value
  frames : List Frame
  working : List (Nat × List (List Value))

namespace Surroundings

def enter (s : Surroundings) (f : Frame) : Surroundings := { s with frames := f :: s.frames }

def fact (s : Surroundings) : SessionFact → Int
  | .lastNumber => s.lastNumber
  | .changes => s.changes
  | .totalChanges => s.totalChanges
  | .now => s.now
  | .drawn => ofBits (Scalar.scrambled (bitsOf s.now))

end Surroundings

def placed (cells : Array Value) (start : Nat) (row : List Value) : Array Value :=
  (row.foldl (fun (cs, i) v => (cs.setIfInBounds i v, i + 1)) (cells, start)).1

def Table.visited (t : Table) (v : Visit) : List (List Value) :=
  let rows := t.rows.map fun r => (t.columns.zip r.values).map (fun (c, v) => c.affinity.read v) ++
    [.integer r.number]
  match v.parts with
  | [] => rows
  | parts =>
    rows.mergeSort fun a b =>
      compareIn (parts.map fun (_, c, down) => ⟨c, down, !down⟩)
        (parts.map fun (i, _, _) => a[i]?.getD .null) (parts.map fun (i, _, _) => b[i]?.getD .null) != .gt

def firstOfEach (cs : List Collation) {α : Type} (key : α → List Value) :
    (seen : List (List Value)) → Rows α → Rows α
  | _, .done => .done
  | _, .fault f => .fault f
  | seen, .row a rest =>
    if seen.any fun r => compareRows cs r (key a) = .eq then firstOfEach cs key seen (rest ())
    else .row a fun _ => firstOfEach cs key (key a :: seen) (rest ())

def sortedOnce (cs : List Collation) (rows : List (List Value)) : List (List Value) :=
  let sorted := rows.mergeSort fun a b => compareRows cs a b != .gt
  (sorted.foldl (fun kept r =>
    match kept with
    | k :: ks => if compareRows cs k r = .eq then r :: ks else r :: k :: ks
    | [] => [r]) []).reverse

def chunked {α : Type} (same : α → α → Bool) : List α → List (List α)
  | [] => []
  | a :: as =>
    match chunked same as with
    | [] => [[a]]
    | [] :: cs => [a] :: cs
    | (b :: bs) :: cs => if same a b then (a :: b :: bs) :: cs else [a] :: (b :: bs) :: cs

def member (c : Collation) (v : Value) (vs : List Value) : Option Bool :=
  if vs.isEmpty then some false
  else if v.isNull then none
  else if vs.any fun w => !w.isNull && v.compare c w = .eq then some true
  else if vs.any Value.isNull then none
  else some false

def ofFunction {α : Type} (e : Except String α) : Except Fault α :=
  match e with
  | .ok a => .ok a
  | .error message => .error (.of message)

def wholeLimit (v : Value) : Except Fault Int :=
  match Affinity.integer.apply v with
  | .integer n => .ok n
  | .real _ | .null | .text _ | .blob _ => .error (.of "datatype mismatch")

def Rows.limited {α : Type} (rows : Rows α) (limit offset : Option Int) : Rows α :=
  let rows := rows.drop ((offset.getD 0).toNat)
  match limit with
  | some n => if n < 0 then rows else rows.take n.toNat
  | none => rows

def representative (calls : List (Aggregate × Collation)) (arguments : List (List Value)) : Nat :=
  let chosen := (calls.zip arguments).reverse.find? fun ((f, _), _) => f == .least || f == .greatest
  match chosen with
  | none => 0
  | some ((f, c), vs) =>
    let wanted : Ordering := if f == .greatest then .gt else .lt
    (vs.zipIdx.foldl (fun (best : Value × Nat) (v, i) =>
      if best.1.isNull then (v, i)
      else if !v.isNull && v.compare c best.1 = wanted then (v, i)
      else best) (.null, 0)).2

def recursionLimit : Nat := Nat.pow 2 40

def unfolded (distinct : Option (List Collation)) (keys : List (Nat × Direction))
    (following : List Value → Except Fault (List (List Value))) :
    (bound : Nat) → (seen queue : List (List Value)) → Rows (List Value)
  | 0, _, _ => .fault (.of "recursive query without an end")
  | bound + 1, seen, queue =>
    let key (r : List Value) : List Value := keys.map fun (i, _) => r[i]?.getD .null
    let queue := if keys.isEmpty then queue
      else queue.mergeSort fun a b => compareIn (keys.map (·.2)) (key a) (key b) != .gt
    match queue with
    | [] => .done
    | r :: rest =>
      let known : Bool := match distinct with
        | some cs => seen.any fun q => compareRows cs q r = .eq
        | none => false
      if known then unfolded distinct keys following bound seen rest
      else .row r fun _ => .ofExcept do
        return unfolded distinct keys following bound (if distinct.isSome then r :: seen else [])
          (rest ++ (← following r))

end QueryWarden.Database
