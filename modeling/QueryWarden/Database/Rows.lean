import QueryWarden.Database.Reader

/-! Rows that come one after the other and may end in a fault. The rest of the rows is worked out only
when someone asks for it, so that a query can be left before its end. -/
namespace QueryWarden.Database

inductive Rows (α : Type) where
  | done
  | fault (f : Fault)
  | row (r : α) (rest : Unit → Rows α)

namespace Rows
variable {α β : Type}

def ofList : List α → Rows α
  | [] => .done
  | a :: as => .row a fun _ => ofList as

def ofExcept : Except Fault (Rows α) → Rows α
  | .ok rows => rows
  | .error f => .fault f

def toList : Rows α → List α × Option Fault
  | .done => ([], none)
  | .fault f => ([], some f)
  | .row a rest =>
    let (as, f) := toList (rest ())
    (a :: as, f)

def collect (rows : Rows α) : Except Fault (List α) := go [] rows
where
  /-- The rows behind those that are there already, the last one first. -/
  go (seen : List α) : Rows α → Except Fault (List α)
    | .done => .ok seen.reverse
    | .fault f => .error f
    | .row a rest => go (a :: seen) (rest ())

def append (as : Rows α) (bs : Unit → Rows α) : Rows α :=
  match as with
  | .done => bs ()
  | .fault f => .fault f
  | .row a rest => .row a fun _ => append (rest ()) bs

def filterMap (f : α → Except Fault (Option β)) : Rows α → Rows β
  | .done => .done
  | .fault e => .fault e
  | .row a rest =>
    match f a with
    | .error e => .fault e
    | .ok none => filterMap f (rest ())
    | .ok (some b) => .row b fun _ => filterMap f (rest ())

def bind (f : α → Rows β) : Rows α → Rows β
  | .done => .done
  | .fault e => .fault e
  | .row a rest => (f a).append fun _ => bind f (rest ())

def take : (count : Nat) → Rows α → Rows α
  | 0, _ => .done
  | _, .done => .done
  | _, .fault e => .fault e
  | count + 1, .row a rest => .row a fun _ => take count (rest ())

def drop : (count : Nat) → Rows α → Rows α
  | 0, rows => rows
  | _, .done => .done
  | _, .fault e => .fault e
  | count + 1, .row _ rest => drop count (rest ())

def head? : Rows α → Except Fault (Option α)
  | .done => .ok none
  | .fault e => .error e
  | .row a _ => .ok (some a)

theorem toList_ofList (as : List α) : (ofList as).toList = (as, none) := by
  induction as with
  | nil => rfl
  | cons a as ih => simp [ofList, toList, ih]

end Rows
end QueryWarden.Database
