import QueryWarden.Database.Resolution.Scope

/-! In which order sources are joined, and in which order the rows of a table are visited. Both follow an
estimate of the work: every table counts as if it had as many rows as any other, an index finds few of
them, and a table without a fitting index is sorted for the purpose. -/
namespace QueryWarden.Database

def Term.conjuncts : Term → List Term
  | .binary .and a b => a.conjuncts ++ b.conjuncts
  | t => [t]

/-- The cells of the innermost row that a term depends on; `none` where a query inside makes that hard
to tell. `depth` bounds how deeply the term nests. -/
def Term.cells (depth : Nat) (t : Term) : Option (List Nat) :=
  match depth with
  | 0 => none
  | depth + 1 =>
    let all (ts : List Term) : Option (List Nat) := do return (← ts.mapM (Term.cells depth)).flatten
    match t with
    | .cell level i _ _ => some (if level = 0 then [i] else [])
    | .value _ | .fact _ | .given | .raise _ _ | .aggregate _ | .windowed _ => some []
    | .unary _ e | .isNull _ e | .cast _ e | .collate _ e => e.cells depth
    | .binary _ a b | .compare _ _ _ a b => all [a, b]
    | .compareAll _ _ as bs => all (as ++ bs)
    | .inList _ _ _ e items => all (e :: items)
    | .case arms other => do
      return (← all (arms.flatMap fun (c, e) => [c, e])) ++ (← all other.toList)
    | .call _ _ ts | .coalesce ts => all ts
    | .inQuery _ _ _ _ | .exists _ | .scalar _ _ _ => none

inductive Restriction where
  | equal
  | among
  | range
deriving Repr, DecidableEq

structure Condition where
  cell : Nat
  restriction : Restriction
  collation : Collation
  others : List Nat
  /-- Whether the cell is compared with something that does not depend on any row. -/
  constant : Bool

def lookDepth : Nat := 200

def Term.conditions (t : Term) : List Condition :=
  match t with
  | .compare op _ c a b => side op c a b ++ side op c b a
  | .inList false _ c (.cell 0 i _ _) items =>
    match items.mapM (Term.cells lookDepth) with
    | some cells => [⟨i, .among, c, cells.flatten, cells.flatten.isEmpty⟩]
    | none => []
  | .inQuery false [(_, c)] [.cell 0 i _ _] _ => [⟨i, .among, c, [], true⟩]
  | .isNull false (.cell 0 i _ c) => [⟨i, .equal, c.getD .binary, [], true⟩]
  | _ => []
where
  /-- A comparison as a condition on its first side. -/
  side (op : BinaryOp) (c : Collation) (a b : Term) : List Condition :=
    match a with
    | .cell 0 i _ _ =>
      match b.cells lookDepth with
      | some cells =>
        if cells.contains i then []
        else
          match op with
          | .equal | .is => [⟨i, .equal, c, cells, cells.isEmpty⟩]
          | .less | .lessEqual | .greater | .greaterEqual => [⟨i, .range, c, cells, cells.isEmpty⟩]
          | _ => []
      | none => []
    | _ => []

def Column.weight (c : Column) : Nat :=
  if c.type.isEmpty then 1
  else if c.affinity.isNumeric then 1
  else
    let letters := c.type.toList.map Char.toUpper
    let digits := (c.type.toList.dropWhile (!·.isDigit)).takeWhile Char.isDigit
    let sized := Affinity.ofType.occurs "CHAR".toList letters || Affinity.ofType.occurs "BLOB(".toList letters
    let v := if sized then digits.foldl (fun n d => n * 10 + (d.toNat - 48)) 0 else 16
    min (v / 4 + 1) 255

def Table.weight (t : Table) : Nat :=
  (t.columns.map Column.weight).foldl (· + ·) (if t.numberColumn.isSome then 0 else 1)

def Index.columns? (i : Index) : Option (List (Nat × Collation × Bool)) :=
  if i.filter.isSome then none
  else i.parts.mapM fun p => p.column.map fun c => (c, p.collation, p.descending)

def Index.weight (i : Index) (t : Table) : Nat :=
  ((i.parts.filterMap (·.column)).map fun c => ((t.columns[c]?).map Column.weight).getD 1).foldl (· + ·) 1

/-- What it takes to find the fitting rows of a source: how many there are, the work for each row of
the sources before it, and the work done once. -/
structure Access where
  rows : Nat
  each : Nat
  once : Nat
  visit : Visit

def usualRows : Nat := 1048576

/-- A source that is to be put in order: its join, its table if it is one, and the cells of it that the
query looks at. -/
structure Candidate where
  join : Join
  start : Nat
  width : Nat
  table : Option Table
  indexes : List Index
  used : List Nat

namespace Candidate

def has (c : Candidate) (cell : Nat) : Bool := c.start ≤ cell && cell < c.start + c.width

def numberCells (c : Candidate) (t : Table) : List Nat :=
  if t.withoutRowid then [] else
    (c.start + t.columns.length) :: (t.numberColumn.map (c.start + ·)).toList

def matched (c : Candidate) (conditions : List Condition) :
    List (Nat × Collation × Bool) → Nat × Bool
  | [] => (0, false)
  | (column, collation, _) :: rest =>
    let on := conditions.filter fun d => d.cell = c.start + column && d.collation = collation
    if on.any (·.restriction = .equal) then
      let (n, more) := c.matched conditions rest
      (n + 1, more)
    else (0, !on.isEmpty)

def access (c : Candidate) (placed : Nat → Bool) (isFirst : Bool) (conditions : List Condition) :
    Access :=
  let usable := conditions.filter fun d => c.has d.cell && d.others.all placed
  let filtered := if usable.any fun d => d.restriction = .equal && d.constant then usualRows / 4
    else if usable.isEmpty then usualRows else usualRows * 15 / 16
  match c.table with
  | none => ⟨filtered, 3 * usualRows, 0, .natural⟩
  | some t =>
    let numbers := c.numberCells t
    let onNumber (r : Restriction) : Bool :=
      usable.any fun d => d.restriction = r && numbers.contains d.cell
    let indexed := c.indexes.filterMap fun i => do
      let parts ← i.columns?
      let (n, more) := c.matched usable parts
      return (i, parts, n, more)
    let unique? := indexed.find? fun (i, parts, n, _) => i.unique.isSome && n = parts.length
    let equal? := (indexed.filter fun (_, _, n, _) => 0 < n).foldl (fun best i =>
      match best with
      | none => some i
      | some b => if b.2.2.1 < i.2.2.1 then some i else best) none
    let range? := indexed.find? fun (_, _, n, more) => n = 0 && more
    if onNumber .equal then ⟨1, 20, 0, .natural⟩
    else if let some _ := unique? then ⟨1, 21, 0, .natural⟩
    else if let some (_, parts, _, _) := equal? then ⟨10, 64, 0, ⟨parts⟩⟩
    else if onNumber .among then ⟨20, 400, 0, .natural⟩
    else if onNumber .range then ⟨usualRows / 4, usualRows, 0, .natural⟩
    else if let some (_, parts, _, _) := range? then
      ⟨usualRows / 4, usualRows, 0, ⟨parts⟩⟩
    else
      let covering := (c.indexes.filter fun i =>
        i.weight t < t.weight && (match i.columns? with
          | some parts => c.used.all fun cell =>
              numbers.contains cell || parts.any fun (column, _, _) => cell = c.start + column
          | none => false)).foldl (fun best i =>
            match best with
            | none => some i
            | some b => if (i : Index).weight t < b.weight t then some i else best) none
      let visit : Visit := match covering with
        | some i => ⟨i.columns?.getD []⟩
        | none => .natural
      if !isFirst && usable.any (fun d => d.restriction = .equal && !d.constant) then
        ⟨20, 40, 137 * usualRows, visit⟩
      else ⟨filtered, 3 * usualRows, 0, visit⟩

end Candidate

structure Step where
  candidate : Candidate
  access : Access

def picks {α : Type} : List α → List (α × List α)
  | [] => []
  | a :: as => (a, as) :: (picks as).map fun (b, bs) => (b, a :: bs)

def cheapest (conditions : List Condition) :
    (count : Nat) → (before : List Candidate) → (rows : Nat) → List Candidate → Nat × List Step
  | 0, _, _, _ => (0, [])
  | count + 1, before, rows, left =>
    let placed (cell : Nat) : Bool := before.any (·.has cell)
    let ways := (picks left).map fun (c, rest) =>
      let a := c.access placed before.isEmpty conditions
      let (cost, steps) := cheapest conditions count (before ++ [c]) (rows * a.rows) rest
      (rows * a.each + a.once + cost, (⟨c, a⟩ : Step) :: steps)
    match ways with
    | [] => (0, [])
    | w :: ws => ws.foldl (fun best w => if w.1 < best.1 then w else best) w

def asWritten (conditions : List Condition) (before : List Candidate) : List Candidate → List Step
  | [] => []
  | c :: cs =>
    let placed (cell : Nat) : Bool := before.any (·.has cell)
    ⟨c, c.access placed before.isEmpty conditions⟩ :: asWritten conditions (before ++ [c]) cs

def Join.visiting (v : Visit) : Join → Join
  | .mk kind start width (.scan table _) on => .mk kind start width (.scan table v) on
  | j => j

def Candidate.ordered? (c : Candidate) (keys : List (Nat × Direction)) : Option Visit := do
  let t ← c.table
  let plain := keys.all fun k => k.2.nullsFirst != k.2.descending
  if !plain || keys.isEmpty then none
  else
    match keys with
    | (cell, _) :: _ =>
      if (c.numberCells t).contains cell then some .natural
      else
        c.indexes.findSome? fun i => do
          let parts ← i.columns?
          let fits := keys.length ≤ parts.length &&
            (keys.zip parts).all fun ((cell, d), (column, collation, _)) =>
              cell = c.start + column && d.collation = collation
          let turned := (keys.zip parts).map fun ((_, d), (_, _, down)) => d.descending != down
          if fits && (turned.all (· == true) || turned.all (· == false)) then
            let back := turned.head? == some true
            let number : Nat × Collation × Bool := (t.columns.length, .binary, back)
            return ⟨(parts.map fun (column, collation, down) => (column, collation, down != back)) ++
              [number]⟩
          else none
    | [] => none

def arranged (candidates : List Candidate) (fixed : Bool) (filter : List Term)
    (keys : List (Nat × Direction)) : List Join :=
  let conditions := filter.flatMap Term.conditions
  let steps := if fixed || 5 < candidates.length then asWritten conditions [] candidates
    else (cheapest conditions candidates.length [] 1 candidates).2
  match steps with
  | [s] =>
    let scanned := s.access.rows = usualRows || s.access.rows = usualRows / 4 ||
      s.access.rows = usualRows * 15 / 16
    let visit := if scanned && s.access.each = 3 * usualRows then
        (s.candidate.ordered? keys).getD s.access.visit
      else s.access.visit
    [s.candidate.join.visiting visit]
  | steps => steps.map fun s => s.candidate.join.visiting s.access.visit

end QueryWarden.Database
