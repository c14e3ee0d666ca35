import QueryWarden.Database.Reach
import QueryWarden.Database.Surroundings

/-! Working out terms and plans. The values of a term depend on the rows of the queries around it, the
innermost first. A plan gives its rows one after the other; what has to see all rows, such as an order or
groups, waits for them, and nothing else does. -/
namespace QueryWarden.Database

mutual
def Term.eval (depth : Nat) (s : Surroundings) (t : Term) : Except Fault Value :=
  match depth with
  | 0 => .error tooDeep
  | depth + 1 => do
    let all (ts : List Term) : Except Fault (List Value) := ts.mapM (Term.eval depth s)
    match t with
    | .value v => return v
    | .cell level index _ _ =>
      return ((s.frames[level]?).bind fun f => f.cells[index]?).getD .null
    | .aggregate index => return ((s.frames.head?).bind fun f => f.aggregates[index]?).getD .null
    | .windowed index => return ((s.frames.head?).bind fun f => f.windows[index]?).getD .null
    | .fact f => return .integer (s.fact f)
    | .given => return s.given
    | .unary op e => return op.apply (← e.eval depth s)
    | .binary .and a b =>
      let v ← a.eval depth s
      if v.truth? = some false then return .ofBool false
      return BinaryOp.and.apply v (← b.eval depth s)
    | .binary .or a b =>
      let v ← a.eval depth s
      if v.truth? = some true then return .ofBool true
      return BinaryOp.or.apply v (← b.eval depth s)
    | .binary op a b => return op.apply (← a.eval depth s) (← b.eval depth s)
    | .compare op affinity c a b =>
      let under (v : Value) : Value := affinity.elim v (·.apply v)
      return .ofTruth (op.comparison c (under (← a.eval depth s)) (under (← b.eval depth s)))
    | .compareAll op ways as bs =>
      let under (vs : List Value) : List Value :=
        (ways.zip vs).map fun (w, v) => w.1.elim v (·.apply v)
      return .ofTruth (op.comparisonOfRows (ways.map (·.2)) (under (← all as)) (under (← all bs)))
    | .isNull negated e => return .ofBool ((← e.eval depth s).isNull != negated)
    | .inList negated affinity c e items =>
      let under (v : Value) : Value := affinity.elim v (·.apply v)
      let found := member c (under (← e.eval depth s)) ((← all items).map under)
      return .ofTruth (found.map (· != negated))
    | .inQuery negated ways es p =>
      let rows ← (p.rows depth s).collect
      let under (vs : List Value) : List Value :=
        (ways.zip vs).map fun (w, v) => w.1.elim v (·.apply v)
      let wanted := under (← all es)
      let cs := ways.map (·.2)
      let found := match cs, wanted with
        | [c], [v] => member c v (rows.flatMap under)
        | cs, vs =>
          (rows.map fun r => BinaryOp.equal.comparisonOfRows cs vs (under r)).foldl either (some false)
      return .ofTruth (found.map (· != negated))
    | .case arms other =>
      match ← arms.findSomeM? fun (c, e) => do
          if (← c.eval depth s).truth? = some true then return some (← e.eval depth s)
          else return none with
      | some v => return v
      | none =>
        match other with
        | some e => e.eval depth s
        | none => return .null
    | .cast a e => return a.cast (← e.eval depth s)
    | .collate _ e => e.eval depth s
    | .call f c ts => ofFunction (f.apply c (← all ts))
    | .coalesce ts =>
      match ← ts.findSomeM? fun t => do
          let v ← t.eval depth s
          return if v.isNull then none else some v with
      | some v => return v
      | none => return .null
    | .exists p => return .ofBool (← (p.rows depth s).head?).isSome
    | .scalar p _ _ => return (((← (p.rows depth s).head?).bind List.head?).getD .null)
    | .raise action message => throw ⟨message, none, action⟩
def Plan.rows (depth : Nat) (s : Surroundings) (p : Plan) : Rows (List Value) :=
  match depth with
  | 0 => .fault tooDeep
  | depth + 1 =>
    let number (t : Option Term) : Except Fault (Option Int) :=
      match t with
      | none => .ok none
      | some t => do return some (← wholeLimit (← t.eval depth { s with frames := [] }))
    match p with
    | .scan table visit =>
      match s.database.table? table with
      | some t => .ofList (t.visited visit)
      | none => .fault (.of ("no such table: " ++ table))
    | .catalogue temporary => .ofList (s.database.catalogue temporary)
    | .function f ts => .ofExcept do
      return .ofList (f.rows s.database (← ts.mapM (Term.eval depth s)))
    | .values rows =>
      (Rows.ofList rows).filterMap fun ts => do return some (← ts.mapM (Term.eval depth s))
    | .working id => .ofList ((s.working.lookup id).getD [])
    | .select width joins filter grouping windows results distinct order limit offset =>
      let blank := Frame.of (Array.replicate width .null)
      let inside (f : Frame) (t : Term) : Except Fault Value := t.eval depth (s.enter f)
      let joined := (joins.foldl (fun (frames, first) j => (Join.rows depth s first j frames, false))
        (.row blank fun _ => .done, true)).1
      let holds (f : Frame) (t : Option Term) : Except Fault Bool :=
        match t with
        | none => .ok true
        | some t => do return (← inside f t).truth? = some true
      let kept := joined.filterMap fun f => do return if ← holds f filter then some f else none
      let grouped := match grouping with
        | none => kept
        | some g => .ofExcept do return .ofList (← Grouping.frames depth s blank g (← kept.collect))
      let windowed :=
        if windows.isEmpty then grouped
        else .ofExcept do
          let blank := Array.replicate windows.length Value.null
          let start := (← grouped.collect).map fun f => { f with windows := blank }
          return .ofList (← windows.zipIdx.reverse.foldlM
            (fun fs (w, i) => Window.frames depth s i w fs) start)
      let answers := windowed.filterMap fun f => do
        return some (← results.mapM (inside f), ← order.mapM fun | .mk e _ => inside f e)
      let answers := match distinct with
        | none => answers
        | some cs => firstOfEach cs (·.1) [] answers
      let answers :=
        if order.isEmpty then answers
        else .ofExcept do
          let ds := order.map fun | .mk _ d => d
          return .ofList ((← answers.collect).mergeSort fun a b => compareIn ds a.2 b.2 != .gt)
      .ofExcept do
        return (answers.filterMap fun a => .ok (some a.1)).limited (← number limit) (← number offset)
    | .compound .unionAll _ a b => (a.rows depth s).append fun _ => b.rows depth s
    | .compound op cs a b => .ofExcept do
      let left ← (a.rows depth s).collect
      let right ← (b.rows depth s).collect
      let inRight (r : List Value) : Bool := right.any fun q => compareRows cs q r = .eq
      return .ofList (match op with
        | .intersect => (sortedOnce cs left).filter inRight
        | .except => (sortedOnce cs left).filter (!inRight ·)
        | _ => sortedOnce cs (left ++ right))
    | .sorted keys p limit offset => .ofExcept do
      let rows ← if keys.isEmpty then pure (p.rows depth s) else do
        let ds := keys.map (·.2)
        let key (r : List Value) : List Value := keys.map fun (i, _) => r[i]?.getD .null
        pure (.ofList ((← (p.rows depth s).collect).mergeSort fun a b =>
          compareIn ds (key a) (key b) != .gt))
      return rows.limited (← number limit) (← number offset)
    | .recursive id distinct keys first step limit offset => .ofExcept do
      let start ← (first.rows depth s).collect
      let following (row : List Value) : Except Fault (List (List Value)) :=
        (step.rows depth { s with working := (id, [row]) :: s.working }).collect
      return (unfolded distinct keys following recursionLimit [] start).limited
        (← number limit) (← number offset)
/-- The rows that rows give once they are joined with a source. The rows of a source that is not the first
are worked out once. -/
def Join.rows (depth : Nat) (s : Surroundings) (first : Bool) (j : Join) (frames : Rows Frame) :
    Rows Frame :=
  match depth with
  | 0 => .fault tooDeep
  | depth + 1 =>
    match j with
    | .mk kind start width source on =>
      let constant : Except Fault (List (List Value)) := match first, source with
        | false, .function _ _ | true, _ => .ok []
        | false, p => (p.rows depth s).collect
      let rowsFor (f : Frame) : Rows (List Value) := match first, source with
        | _, .function g ts => .ofExcept do
          return .ofList (g.rows s.database (← ts.mapM (Term.eval depth (s.enter f))))
        | true, p => p.rows depth s
        | false, _ => .ofExcept (constant.map Rows.ofList)
      let fits (f : Frame) : Except Fault Bool :=
        match on with
        | none => .ok true
        | some t => do return (← t.eval depth (s.enter f)).truth? = some true
      let matching (f : Frame) : Rows (Frame × List Value) :=
        (rowsFor f).filterMap fun r => do
          let g : Frame := { f with cells := placed f.cells start r }
          return if ← fits g then some (g, r) else none
      let outer (f : Frame) : Rows Frame :=
        match matching f with
        | .done => .row { f with cells := placed f.cells start (List.replicate width .null) } fun _ => .done
        | rows => rows.filterMap fun p => .ok (some p.1)
      match kind with
      | .inner | .cross => frames.bind fun f => (matching f).filterMap fun p => .ok (some p.1)
      | .left => frames.bind outer
      | _ => .ofExcept do
        let all ← frames.collect
        let right ← constant
        let found ← all.mapM fun f => (right.zipIdx.filterMapM fun (r, i) => do
          let g : Frame := { f with cells := placed f.cells start r }
          return if ← fits g then some (g, i) else none)
        let kept := (all.zip found).flatMap fun (f, gs) =>
          if gs.isEmpty && kind == .full then
            [{ f with cells := placed f.cells start (List.replicate width .null) }]
          else gs.map (·.1)
        let met := found.flatten.map (·.2)
        let alone := right.zipIdx.filterMap fun (r, i) =>
          if met.contains i then none
          else
            let size := ((all.head?).map (·.cells.size)).getD (start + width)
            some (Frame.of (placed (Array.replicate size .null) start r))
        return .ofList (kept ++ alone)
def Grouping.frames (depth : Nat) (s : Surroundings) (blank : Frame) (g : Grouping)
    (frames : List Frame) : Except Fault (List Frame) :=
  match depth with
  | 0 => .error tooDeep
  | depth + 1 =>
    match g with
    | .mk keys whole calls having => do
      let keyed ← frames.mapM fun f => do
        return (f, ← keys.mapM fun (t, _) => t.eval depth (s.enter f))
      let cs := keys.map (·.2)
      let groups :=
        if whole then [frames]
        else (chunked (fun a b => compareRows cs a.2 b.2 = .eq)
          (keyed.mergeSort fun a b => compareRows cs a.2 b.2 != .gt)).map (·.map (·.1))
      groups.filterMapM fun fs => do
        let worked ← calls.mapM fun
          | .mk f distinct c ts order filter => do
            let taken ← fs.filterMapM fun fr => do
              let ok ← match filter with
                | none => pure true
                | some t => do pure ((← t.eval depth (s.enter fr)).truth? = some true)
              if !ok then return none
              return some (← order.mapM (fun | .mk e _ => e.eval depth (s.enter fr)),
                ← ts.mapM (Term.eval depth (s.enter fr)))
            let ds := order.map fun | .mk _ d => d
            let taken := (taken.mergeSort fun a b => compareIn ds a.1 b.1 != .gt).map (·.2)
            let taken := if distinct then
                (firstOfEach [c] (fun r => r.take 1) [] (.ofList taken)).toList.1
              else taken
            return ((f, c), taken.map (fun r => r.head?.getD .null), ← ofFunction (f.apply c taken))
        let bare := fs[representative (worked.map (·.1)) (worked.map (·.2.1))]?.getD
          (fs.head?.getD blank)
        let frame : Frame := ⟨bare.cells, (worked.map (·.2.2)).toArray, #[]⟩
        match having with
        | none => return some frame
        | some t =>
          if (← t.eval depth (s.enter frame)).truth? = some true then return some frame
          else return none
def ReachBound.edge (depth : Nat) (s : Surroundings) (unit : FrameUnit) (starting : Bool)
    (b : ReachBound) : Except Fault Edge :=
  match depth with
  | 0 => .error tooDeep
  | depth + 1 =>
    match b with
    | .first => .ok .first
    | .before t => do return .before (← checkedOffset unit starting (← t.eval depth s))
    | .here => .ok .here
    | .behind t => do return .behind (← checkedOffset unit starting (← t.eval depth s))
    | .last => .ok .last
def Window.frames (depth : Nat) (s : Surroundings) (index : Nat) (w : Window) (frames : List Frame) :
    Except Fault (List Frame) :=
  match depth with
  | 0 => .error tooDeep
  | depth + 1 =>
    match w with
    | .mk f c ts filter partition order (.mk unit start stop gap) => do
      let keyed ← frames.mapM fun fr => do
        let part ← partition.mapM fun (t, _) => t.eval depth (s.enter fr)
        let keys ← order.mapM fun | .mk e _ => e.eval depth (s.enter fr)
        let counts ← match filter with
          | none => pure true
          | some t => do pure ((← t.eval depth (s.enter fr)).truth? = some true)
        return ((fr, part), (⟨keys, ← ts.mapM (Term.eval depth (s.enter fr)), counts⟩ : Neighbour))
      let cs := partition.map (·.2)
      let ds := order.map fun | .mk _ d => d
      let sorted := keyed.mergeSort fun a b =>
        match compareRows cs a.1.2 b.1.2 with
        | .eq => compareIn ds a.2.keys b.2.keys != .gt
        | o => o == .lt
      let parts := chunked (fun a b => compareRows cs a.1.2 b.1.2 = .eq) sorted
      let answers ← parts.mapM fun part => do
        let extent : Extension := ⟨unit, ← start.edge depth (s.enter (.of #[])) unit true,
          ← stop.edge depth (s.enter (.of #[])) unit false, gap⟩
        let values ← f.values c ds extent (part.map (·.2))
        return (part.zip values).map fun (row, v) =>
          { row.1.1 with windows := row.1.1.windows.setIfInBounds index v }
      return answers.flatten
end

end QueryWarden.Database
