import QueryWarden.Database.Catalog
import QueryWarden.Database.Function.Aggregate
import QueryWarden.Database.Function.Calendar

/-! Queries whose names are resolved. A term finds its values by place: how many queries further out, and
which cell of the row there. -/
namespace QueryWarden.Database

inductive SessionFact where
  | lastNumber
  | changes
  | totalChanges
  /-- The count of the present moment. -/
  | now
  /-- A number that nobody can foresee, as it comes of the present moment. -/
  | drawn
deriving Repr, DecidableEq

inductive TableFunction where
  /-- The columns of a table; `generated` tells whether those that follow from others are shown. -/
  | columns (generated : Bool)
  | indexList
  | indexColumns (extended : Bool)
  | foreignKeys
  | tableList
  /-- A setting of the database. -/
  | setting (name : String)
deriving Repr, DecidableEq

inductive WindowFunction where
  | rowNumber
  | rank
  | denseRank
  | percentRank
  | cumulativeShare
  /-- The number of the bucket that a row falls into. -/
  | bucket
  | first
  | last
  | nth
  /-- The value of a row so many rows on. -/
  | ahead
  /-- The value of a row so many rows back. -/
  | behind
  | aggregate (f : Aggregate)
deriving Repr, DecidableEq

/-- In which order the rows of a table are visited: by number, or by the parts of an index. -/
structure Visit where
  /-- Columns with their collations, and whether they go down; none for the order of numbers. -/
  parts : List (Nat × Collation × Bool)

def Visit.natural : Visit := ⟨[]⟩

structure Direction where
  collation : Collation
  descending : Bool
  nullsFirst : Bool

def Direction.compare (d : Direction) (a b : Value) : Ordering :=
  match a.isNull, b.isNull with
  | true, true => .eq
  | true, false => if d.nullsFirst then .lt else .gt
  | false, true => if d.nullsFirst then .gt else .lt
  | false, false => if d.descending then b.compare d.collation a else a.compare d.collation b

def compareIn : List Direction → List Value → List Value → Ordering
  | d :: ds, a :: as, b :: bs =>
    match d.compare a b with
    | .eq => compareIn ds as bs
    | o => o
  | _, _, _ => .eq

mutual
/-- An expression whose names are resolved. -/
inductive Term where
  | value (v : Value)
  | cell (level index : Nat) (affinity : Option Affinity) (collation : Option Collation)
  /-- What has been worked out for the whole group of rows. -/
  | aggregate (index : Nat)
  /-- What has been worked out from the rows around. -/
  | windowed (index : Nat)
  | fact (f : SessionFact)
  /-- What is given for the variable of the statement. -/
  | given
  | unary (op : UnaryOp) (e : Term)
  | binary (op : BinaryOp) (a b : Term)
  /-- A comparison, after both sides are brought under an affinity. -/
  | compare (op : BinaryOp) (affinity : Option Affinity) (collation : Collation) (a b : Term)
  | compareAll (op : BinaryOp) (ways : List (Option Affinity × Collation)) (as bs : List Term)
  | isNull (negated : Bool) (e : Term)
  | inList (negated : Bool) (affinity : Option Affinity) (collation : Collation) (e : Term)
      (items : List Term)
  | inQuery (negated : Bool) (ways : List (Option Affinity × Collation)) (es : List Term) (p : Plan)
  | case (arms : List (Term × Term)) (other : Option Term)
  | cast (affinity : Affinity) (e : Term)
  | collate (collation : Collation) (e : Term)
  | call (f : Scalar) (collation : Collation) (arguments : List Term)
  /-- The first of some values that is there. -/
  | coalesce (items : List Term)
  | exists (p : Plan)
  | scalar (p : Plan) (affinity : Option Affinity) (collation : Option Collation)
  | raise (action : Resolution) (message : String)
/-- A query whose names are resolved. -/
inductive Plan where
  /-- The rows of a table, each with its number behind its values. -/
  | scan (table : String) (visit : Visit)
  | catalogue (temporary : Bool)
  | function (f : TableFunction) (arguments : List Term)
  | values (rows : List (List Term))
  /-- The rows that a recursive query has found last. -/
  | working (id : Nat)
  | select (width : Nat) (joins : List Join) (filter : Option Term) (grouping : Option Grouping)
      (windows : List Window) (results : List Term) (distinct : Option (List Collation))
      (order : List OrderKey) (limit offset : Option Term)
  | compound (op : SetOp) (collations : List Collation) (a b : Plan)
  /-- The rows of a query ordered by some of their values, and so many of them. -/
  | sorted (keys : List (Nat × Direction)) (p : Plan) (limit offset : Option Term)
  /-- The rows of a first query, and those that each row gives rise to. -/
  | recursive (id : Nat) (distinct : Option (List Collation)) (keys : List (Nat × Direction))
      (first step : Plan) (limit offset : Option Term)
/-- A source: how it is joined, where its cells are, and when its rows fit. -/
inductive Join where
  | mk (kind : JoinKind) (start width : Nat) (source : Plan) (on : Option Term)
inductive Grouping where
  | mk (keys : List (Term × Collation)) (whole : Bool) (calls : List AggregateCall)
      (having : Option Term)
inductive AggregateCall where
  | mk (f : Aggregate) (distinct : Bool) (collation : Collation) (arguments : List Term)
      (order : List OrderKey) (filter : Option Term)
inductive ReachBound where
  | first
  | before (t : Term)
  | here
  | behind (t : Term)
  | last
inductive Reach where
  | mk (unit : FrameUnit) (start stop : ReachBound) (gap : FrameGap)
inductive Window where
  | mk (f : WindowFunction) (collation : Collation) (arguments : List Term) (filter : Option Term)
      (partition : List (Term × Collation)) (order : List OrderKey) (reach : Reach)
inductive OrderKey where
  | mk (e : Term) (direction : Direction)
end

instance : Inhabited Term := ⟨.value .null⟩
instance : Inhabited Plan := ⟨.values []⟩

def Term.affinity? : Term → Option Affinity
  | .cell _ _ a _ => a
  | .cast a _ => some a
  | .collate _ e => e.affinity?
  | .scalar _ a _ => a
  | _ => none

def Term.asked? : Term → Option Collation
  | .collate c _ => some c
  | .unary .plus e => e.asked?
  | .cast _ e => e.asked?
  | .binary .concat a b => a.asked?.or b.asked?
  | _ => none

def Term.collation? : Term → Option Collation
  | .cell _ _ _ c => c
  | .collate c _ => some c
  | .unary .plus e => e.collation?
  | .cast _ e => e.collation?
  | .scalar _ _ c => c
  | .binary .concat a b => a.asked?.or b.asked?
  | _ => none

def Term.collationWith (a b : Term) : Collation :=
  (a.asked?.or (b.asked?.or (a.collation?.or b.collation?))).getD .binary

def Affinity.isNumeric : Affinity → Bool
  | .numeric | .integer | .real => true
  | _ => false

def Affinity.between (a b : Option Affinity) : Option Affinity :=
  match a, b with
  | some a, some b => if a.isNumeric || b.isNumeric then some .numeric else none
  | some a, none => some a
  | none, b => b

end QueryWarden.Database
