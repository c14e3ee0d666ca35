import QueryWarden.Database.Resolution.Scope

/-! Building terms: comparisons with the affinity and the collation that their sides call for, calls of
functions, and the columns that a query gives. -/
namespace QueryWarden.Database

/-- A term that a query gives for each row: the name that it shows, the name under which a query around
finds it, the name it was given, and its type as declared. -/
structure ResultTerm where
  term : Term
  shown : String
  inner : String
  label : Option String
  type : String

structure ResultColumn where
  shown : String
  inner : String
  label : Option String
  affinity : Option Affinity
  collation : Option Collation
  type : String

structure Answer where
  plan : Plan
  columns : List ResultColumn

def ResultTerm.column (r : ResultTerm) : ResultColumn :=
  ⟨r.shown, r.inner, r.label, r.term.affinity?, r.term.collation?, r.type⟩

def Answer.fields (a : Answer) : List Field :=
  (a.columns.zip (distinctNames (a.columns.map (·.inner)))).map fun (c, n) =>
    ⟨n, c.affinity, c.collation, c.type⟩

def BinaryOp.compares : BinaryOp → Bool
  | .equal | .unequal | .less | .lessEqual | .greater | .greaterEqual | .is | .isNot => true
  | _ => false

def Term.compared (op : BinaryOp) (a b : Term) : Term :=
  .compare op (Affinity.between a.affinity? b.affinity?) (a.collationWith b) a b

def Term.negated : Term → Term
  | .value (.integer n) =>
    if isInteger (-n) then .value (.integer (-n)) else .value (.real (-(floatOfInt n)))
  | .value (.real x) => .value (.real (-x))
  | t => .unary .minus t

def argumentCollation (ts : List Term) : Collation := (ts.findSome? Term.collation?).getD .binary

def SessionFact.named? (name : String) : Option SessionFact :=
  if sameName name "last_insert_rowid" then some .lastNumber
  else if sameName name "changes" then some .changes
  else if sameName name "total_changes" then some .totalChanges
  else if sameName name "random" then some .drawn
  else none

def WindowFunction.all : List (String × List Nat × WindowFunction) :=
  [("row_number", [0], .rowNumber), ("rank", [0], .rank), ("dense_rank", [0], .denseRank),
    ("percent_rank", [0], .percentRank), ("cume_dist", [0], .cumulativeShare), ("ntile", [1], .bucket),
    ("first_value", [1], .first), ("last_value", [1], .last), ("nth_value", [2], .nth),
    ("lead", [1, 2, 3], .ahead), ("lag", [1, 2, 3], .behind)]

def WindowFunction.proper? (name : String) (count : Nat) : Option WindowFunction :=
  (all.find? fun (n, counts, _) => sameName n name && counts.contains count).map (·.2.2)

def WindowFunction.isNamed (name : String) : Bool := all.any (sameName ·.1 name)

def WindowFunction.named? (name : String) (count : Nat) : Option WindowFunction :=
  proper? name count <|> (Aggregate.named? name count).map .aggregate

def WindowSpec.completed (windows : List (Name × WindowSpec)) : WindowSpec → Except Fault WindowSpec
  | .mk (some n) bare partition order frame =>
    let refused (what : String) : Except Fault WindowSpec :=
      .error (.of ("cannot override " ++ what ++ " of window: " ++ n.text))
    match windows.find? (sameName ·.1.text n.text) with
    | none => .error (.of ("no such window: " ++ n.text))
    | some (_, .mk base own ps os reach) =>
      if bare then .ok (.mk base own ps os reach)
      else if !partition.isEmpty then refused "PARTITION clause"
      else if !order.isEmpty && !os.isEmpty then refused "ORDER BY clause"
      else if reach.isSome then refused "frame specification"
      else .ok (.mk none false ps (if os.isEmpty then order else os) frame)
  | w => .ok w

def completedWindows (windows : List (Name × WindowSpec)) : Except Fault (List (Name × WindowSpec)) :=
  windows.foldlM (fun before (n, w) => do return before ++ [(n, ← w.completed before)]) []

def FrameSpec.countsValues : FrameSpec → Bool
  | .mk .range start stop _ => counts start || counts stop
  | _ => false
where
  /-- Whether a bound counts. -/
  counts : FrameBound → Bool
    | .before _ | .behind _ => true
    | _ => false

def PatternOp.function : PatternOp → String
  | .like => "like"
  | .glob => "glob"
  | .regexp => "REGEXP"
  | .matches => "MATCH"

def specialCall? (name : String) (ts : List Term) : Option Term :=
  match ts with
  | [a, b, c] =>
    if sameName name "iif" then some (.case [(a, b)] (some c))
    else if sameName name "coalesce" then some (.coalesce ts)
    else none
  | [_, _] => if sameName name "coalesce" || sameName name "ifnull" then some (.coalesce ts) else none
  | [] => (SessionFact.named? name).map .fact
  | _ => if sameName name "coalesce" && 2 ≤ ts.length then some (.coalesce ts) else none

def isSpecialName (name : String) : Bool :=
  ["iif", "coalesce", "ifnull", "last_insert_rowid", "changes", "total_changes", "random"].any (sameName name)

def informed? (name : String) : Option (SessionFact × Scalar) :=
  (Calendar.named? name).map (SessionFact.now, ·) <|>
    (Scalar.drawing.find? (sameName ·.name name)).map (SessionFact.drawn, ·)

def isFunctionName (name : String) : Bool :=
  isSpecialName name || Aggregate.isNamed name || WindowFunction.isNamed name || (informed? name).isSome ||
    !(Scalar.named name).isEmpty

def Context.scalarCall (x : Context) (function : Name) (ts : List Term) : Except Fault Term :=
  let called? : Option Term := do
    if let some t := specialCall? function.text ts then return t
    if let some f := (Scalar.named function.text).find? (·.takes ts.length) then
      return .call f (argumentCollation ts) ts
    let (fact, f) ← informed? function.text
    if f.takes (ts.length + 1) then return .call f (argumentCollation ts) (.fact fact :: ts)
    none
  match called? with
  | some t => .ok t
  | none =>
    .error (x.fault (if isFunctionName function.text then
      "wrong number of arguments to function " ++ function.text ++ "()"
    else "no such function: " ++ function.text) function.offset)

def Context.cellName? (x : Context) : Term → Option (String × String)
  | .cell level index _ _ => do
    let s ← x.scopes[level]?
    s.origins.findSome? fun o =>
      if o.start ≤ index && index < o.start + o.fields.length then
        (o.fields[index - o.start]?).map fun f => (f.name, f.type)
      else if o.number = some index then
        match o.table.bind (·.numberColumn) with
        | some i => (o.fields[i]?).map fun f => (f.name, f.type)
        | none => some ("rowid", "INTEGER")
      else none
  | _ => none

def Expr.bare : Expr → Expr
  | .collate e _ => e.bare
  | e => e

def ordinal (n : Nat) : String :=
  let mark :=
    if n % 100 / 10 = 1 then "th"
    else match n % 10 with
      | 1 => "st"
      | 2 => "nd"
      | 3 => "rd"
      | _ => "th"
  toString n ++ mark

def Expr.integer? : Expr → Option Int
  | .value (.integer n) => some n
  | .unary .minus e => e.integer?.map (- ·)
  | .unary .plus e => e.integer?
  | _ => none

def Term.direction (t : Term) (descending : Bool) (nullsFirst : Option Bool) : Direction :=
  ⟨t.collation?.getD .binary, descending, nullsFirst.getD !descending⟩

def QueryBody.arms : QueryBody → List (Option SetOp × QueryBody)
  | .compound op left right => left.arms ++ [(some op, right)]
  | b => [(none, b)]

def QueryBody.names (name : String) : QueryBody → Bool
  | .select _ _ sources _ _ _ _ =>
    sources.any fun
      | .mk _ _ (.table none n) _ _ _ => sameName n.text name
      | .mk _ _ (.group inner) _ _ _ => inner.any fun
        | .mk _ _ (.table none n) _ _ _ => sameName n.text name
        | _ => false
      | _ => false
  | _ => false

def QueryBody.ofArms : List (Option SetOp × QueryBody) → Option QueryBody
  | [] => none
  | (_, b) :: rest => some (rest.foldl (fun l (op, r) => .compound (op.getD .unionAll) l r) b)

end QueryWarden.Database
