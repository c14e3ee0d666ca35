import QueryWarden.Database.Introspection
import QueryWarden.Database.Resolution.Terms
import QueryWarden.Database.Resolution.Visiting

/-! Resolving queries: every name becomes the place of a value, every table a source of rows, every call a
function, and every `*` the columns that it stands for. What cannot be resolved is a fault before any row
is looked at. -/
namespace QueryWarden.Database

structure Sourced where
  origin : List Origin
  candidate : Candidate
  kind : JoinKind
  on : Option Expr
  /-- Conditions that follow from common names. -/
  common : List Term

structure SourceSet where
  items : List Sourced
  width : Nat
  shared : List (String × Term)

namespace SourceSet

def empty : SourceSet := ⟨[], 0, []⟩

def origins (s : SourceSet) : List Origin := s.items.flatMap (·.origin)

end SourceSet

structure TableAnswer where
  label : String
  plan : Plan
  fields : List Field
  /-- Whether a cell with the number of the row stands behind the values. -/
  numbered : Bool
  table : Option Table

def TableAnswer.width (t : TableAnswer) : Nat :=
  t.fields.length + (if t.numbered then 1 else 0)

def TableAnswer.sourced (t : TableAnswer) (db : Contents) (kind : JoinKind) (start : Nat) (label : String)
    (on : Option Expr) : Sourced :=
  let shownNumber := match t.table with
    | some table => if table.withoutRowid then none else some (start + t.fields.length)
    | none => none
  ⟨[⟨label, t.fields, start, shownNumber, [], t.table⟩],
    ⟨.mk kind start t.width t.plan none, start, t.width, t.table,
      ((t.table.map fun table => db.indexesOf table.name).getD []), []⟩, kind, on, []⟩

/-- Runs a reader of names and gives back what had been gathered before, with what it gathered beside
its answer. -/
def apart {α : Type} (r : Resolver α) : Resolver (α × Gathered) := do
  let before ← get
  set { before with calls := [], windows := [] }
  let a ← r
  let after ← get
  set { before with nextId := after.nextId }
  return (a, after)

def gather (c : AggregateCall) : Resolver Term := do
  let s ← get
  set { s with calls := s.calls ++ [c] }
  return .aggregate s.calls.length

def Context.within (x : Context) (s : Scope) : Context := { x with scopes := s :: x.scopes }

def Context.closed (x : Context) : Context := { x with scopes := x.scopes.map fun _ => .blank }

def Sourced.settled (s : Sourced) (strict : Bool) (on : List Term) : Join × List Term :=
  match s.candidate.join with
  | .mk kind start width source _ =>
    let all := on.foldl (fun (t : Option Term) c =>
      some (match t with
        | none => c
        | some t => .binary .and t c)) none
    if strict || (kind != .inner && kind != .cross) then (.mk kind start width source all, [])
    else (.mk kind start width source none, on)

def Answer.place (a : Answer) (e : Expr) (nth : Nat) : Resolver Nat := do
  match e.bare.integer? with
  | some n =>
    if n < 1 || Int.ofNat a.columns.length < n then
      throw (Fault.of (ordinal nth ++ " ORDER BY term out of range - should be between 1 and " ++
        toString a.columns.length))
    return n.toNat - 1
  | none =>
    let name? : Option String := match e.bare with
      | .name parts => parts.getLast?.map (·.text)
      | _ => none
    match name?.bind fun n => a.columns.findIdx? fun c =>
        (c.label.any (sameName · n)) || sameName c.inner n with
    | some i => return i
    | none =>
      throw (Fault.of (ordinal nth ++ " ORDER BY term does not match any column in the result set"))

mutual
def Expr.resolve (depth : Nat) (x : Context) (e : Expr) : Resolver Term :=
  match depth with
  | 0 => throw tooDeep
  | depth + 1 => do
    match e with
    | .value v => return .value v
    | .variable => return .given
    | .name parts => x.name parts
    | .unary .minus e => return (← e.resolve depth x).negated
    | .unary op e => return .unary op (← e.resolve depth x)
    | .binary op a b =>
      if op.compares then
        match a, b with
        | .tuple as, .tuple bs =>
          if as.length ≠ bs.length then throw (Fault.of "row value misused")
          let ls ← as.mapM (Expr.resolve depth x)
          let rs ← bs.mapM (Expr.resolve depth x)
          return .compareAll op ((ls.zip rs).map fun (l, r) =>
            (Affinity.between l.affinity? r.affinity?, l.collationWith r)) ls rs
        | a, b =>
          let l ← a.resolve depth x
          let truth? : Option Bool := match op, b with
            | .is, .name [n] | .isNot, .name [n] =>
              if n.raw ≠ n.text then none
              else if sameName n.text "true" then some true
              else if sameName n.text "false" then some false
              else none
            | _, _ => none
          match truth? with
          | some wanted =>
            let holds : Term := if wanted then l else .unary .not l
            return .case [(holds, .value (.ofBool (op == .is)))] (some (.value (.ofBool (op == .isNot))))
          | none => return .compared op l (← b.resolve depth x)
      else
        match op with
        | .extract | .extractText => throw (Fault.of "no such function: ->")
        | op => return .binary op (← a.resolve depth x) (← b.resolve depth x)
    | .isNull negated e => return .isNull negated (← e.resolve depth x)
    | .between negated e low high =>
      let t ← e.resolve depth x
      let l ← low.resolve depth x
      let h ← high.resolve depth x
      let within := Term.binary .and (.compared .greaterEqual t l) (.compared .lessEqual t h)
      return if negated then .unary .not within else within
    | .inList negated (.tuple es) items =>
      let ls ← es.mapM (Expr.resolve depth x)
      let found ← items.mapM fun item => do
        match item with
        | .tuple bs =>
          let rs ← bs.mapM (Expr.resolve depth x)
          return Term.compareAll .equal ((ls.zip rs).map fun (l, r) =>
            (l.affinity?, l.collationWith r)) ls rs
        | _ => throw (Fault.of "row value misused")
      let any := found.foldl (fun t u => Term.binary .or t u) (.value (.ofBool false))
      return if negated then .unary .not any else any
    | .inList negated e items =>
      let t ← e.resolve depth x
      let ts ← items.mapM (Expr.resolve depth x)
      return .inList negated t.affinity? (t.collation?.getD .binary) t ts
    | .inQuery negated e q =>
      let ts ← match e with
        | .tuple es => es.mapM (Expr.resolve depth x)
        | e => do pure [← e.resolve depth x]
      let a ← q.resolve depth x
      if a.columns.length ≠ ts.length then
        throw (Fault.of ("sub-select returns " ++ toString a.columns.length ++ " columns - expected " ++
          toString ts.length))
      let ways := (ts.zip a.columns).map fun (t, c) =>
        (Affinity.between t.affinity? c.affinity, (t.collation?.or c.collation).getD .binary)
      return .inQuery negated ways ts a.plan
    | .pattern op negated e p escape =>
      let text ← e.resolve depth x
      let pattern ← p.resolve depth x
      let extra ← match escape with
        | some e => do pure [← e.resolve depth x]
        | none => pure []
      let t ← x.scalarCall ⟨op.function, op.function, 0, false⟩ ([pattern, text] ++ extra)
      return if negated then .unary .not t else t
    | .case base arms other =>
      let arms ← arms.mapM fun (c, r) => do
        let c ← match base with
          | some b => pure (Term.compared .equal (← b.resolve depth x) (← c.resolve depth x))
          | none => c.resolve depth x
        return (c, ← r.resolve depth x)
      let other ← match other with
        | some e => do pure (some (← e.resolve depth x))
        | none => pure none
      return .case arms other
    | .cast e type => return .cast (if type.isEmpty then .numeric else Affinity.ofType type) (← e.resolve depth x)
    | .collate e name =>
      match Collation.named? name with
      | some c => return .collate c (← e.resolve depth x)
      | none => throw (Fault.of ("no such collation sequence: " ++ name))
    | .call function distinct star arguments order filter =>
      match Aggregate.named? function.text (if star then 0 else arguments.length) with
      | some f =>
        if star && f != .count then
          throw (x.fault ("wrong number of arguments to function " ++ function.text ++ "()")
            function.offset)
        let use := (x.scopes.head?.map (·.aggregates)).getD .forbidden
        if use = .forbidden then
          throw (x.fault ("misuse of aggregate function " ++ function.text ++ "()") function.offset)
        if use = .grouping then
          throw (Fault.of "aggregate functions are not allowed in the GROUP BY clause")
        if use = .misplaced then
          throw (x.fault ("misuse of aggregate: " ++ function.text ++ "()") function.offset)
        if distinct && arguments.length ≠ 1 then
          throw (Fault.of "DISTINCT aggregates must have exactly one argument")
        let inner := x.forbidding
        let ts ← arguments.mapM (Expr.resolve depth inner)
        let filter ← match filter with
          | some e => do pure (some (← e.resolve depth inner))
          | none => pure none
        let keys ← order.mapM fun (.mk e down nullsFirst) => do
          let t ← e.resolve depth inner
          return OrderKey.mk t (t.direction down nullsFirst)
        gather (.mk f distinct (argumentCollation ts) ts keys filter)
      | none =>
        if (WindowFunction.proper? function.text (if star then 0 else arguments.length)).isSome then
          throw (x.fault ("misuse of window function " ++ function.text ++ "()") function.offset)
        if star then
          let message := if isFunctionName function.text then
              "wrong number of arguments to function " ++ function.text ++ "()"
            else "no such function: " ++ function.text
          throw (x.fault message function.offset)
        if isFunctionName function.text then
          if filter.isSome then
            throw (x.fault ("FILTER may not be used with non-aggregate " ++ function.text ++ "()")
              function.offset)
          if !order.isEmpty then throw (x.fault (orderRefused function) function.offset)
        x.scalarCall function (← arguments.mapM (Expr.resolve depth x))
    | .window function _ star arguments filter w =>
      let fault (message : String) : Fault := x.fault message function.offset
      match WindowFunction.named? function.text (if star then 0 else arguments.length) with
      | none =>
        let name := function.text
        if WindowFunction.isNamed name || Aggregate.isNamed name then
          throw (fault ("wrong number of arguments to function " ++ name ++ "()"))
        if isFunctionName name then throw (fault (name ++ "() may not be used as a window function"))
        throw (fault ("no such function: " ++ name))
      | some f =>
        let some windows := (x.scopes.head?).bind (·.windows)
          | throw (fault ("misuse of window function " ++ function.text ++ "()"))
        let .mk _ _ partition order frame ← w.completed windows
        if (frame.any FrameSpec.countsValues) && order.length ≠ 1 then
          throw (Fault.of "RANGE with offset PRECEDING/FOLLOWING requires one ORDER BY expression")
        let counts : Bool := match f with
          | .aggregate _ => true
          | _ => false
        if filter.isSome && !counts then
          throw (Fault.of "FILTER clause may only be used with aggregate window functions")
        let x := x.windowless
        let ts ← arguments.mapM (Expr.resolve depth x)
        let filter ← match filter with
          | some e => do pure (some (← e.resolve depth x))
          | none => pure none
        let parts ← partition.mapM fun e => do
          let t ← e.resolve depth x
          return (t, t.collation?.getD .binary)
        let keys ← order.mapM fun (.mk e down nullsFirst) => do
          let t ← e.resolve depth x
          return OrderKey.mk t (t.direction down nullsFirst)
        let reach ← match frame with
          | none => pure (Reach.mk .range .first .here .nothing)
          | some f => f.resolve depth x
        let s ← get
        set { s with
          windows := s.windows ++ [Window.mk f (argumentCollation ts) ts filter parts keys reach] }
        return .windowed s.windows.length
    | .exists q => return .exists (← q.resolve depth x).plan
    | .scalar q =>
      let a ← q.resolve depth x
      match a.columns with
      | [c] => return .scalar a.plan c.affinity c.collation
      | cs =>
        throw (Fault.of ("sub-select returns " ++ toString cs.length ++ " columns - expected 1"))
    | .tuple _ => throw (Fault.of "row value misused")
    | .raise action message => return .raise action message
def FrameSpec.resolve (depth : Nat) (x : Context) (f : FrameSpec) : Resolver Reach :=
  match depth with
  | 0 => throw tooDeep
  | depth + 1 =>
    match f with
    | .mk unit start stop gap => do
      let fixed (e : Expr) : Resolver Term := do
        let t ← e.resolve depth x
        match t.cells lookDepth with
        | some [] => return t
        | _ => return .value .null
      let bound (b : FrameBound) : Resolver ReachBound :=
        match b with
        | .first => return .first
        | .before e => return .before (← fixed e)
        | .here => return .here
        | .behind e => return .behind (← fixed e)
        | .last => return .last
      return .mk unit (← bound start) (← bound stop) gap
def ResultItem.resolve (depth : Nat) (x : Context) (item : ResultItem) : Resolver (List ResultTerm) :=
  match depth with
  | 0 => throw tooDeep
  | depth + 1 => do
    let s := x.scopes.head?.getD .blank
    let cellsOf (o : Origin) (all : Bool) : List ResultTerm :=
      o.fields.zipIdx.filterMap fun (f, i) =>
        if !all && o.merged.any (sameName · f.name) then none
        else
          let t := match s.shared.find? (sameName ·.1 f.name) with
            | some (_, t) => if all then o.cell 0 i f else t
            | none => o.cell 0 i f
          some ⟨t, f.name, f.name, some f.name, f.type⟩
    match item with
    | .all =>
      if s.origins.isEmpty then throw (Fault.of "no tables specified")
      return s.origins.flatMap (cellsOf · false)
    | .allOf table =>
      match s.origins.filter (sameName ·.label table.text) with
      | [] => throw (Fault.of ("no such table: " ++ table.text))
      | os => return os.flatMap (cellsOf · true)
    | .expr e label span =>
      let t ← e.resolve depth x
      let direct := match e with
        | .name _ => x.cellName? t
        | _ => none
      let bare := match e.bare with
        | .name _ => x.cellName? (match t with
          | .collate _ t => t
          | t => t)
        | _ => none
      return [⟨t, label.getD ((direct.map (·.1)).getD span), label.getD ((bare.map (·.1)).getD span), label,
        (direct.map (·.2)).getD ""⟩]
def Query.resolve (depth : Nat) (x : Context) (q : Query) : Resolver Answer :=
  match depth with
  | 0 => throw tooDeep
  | depth + 1 =>
    match q with
    | .mk tables body order limit offset => do
      let names := tables.map fun | .mk n _ _ => n.text
      if let some n := names.zipIdx.find? fun (n, i) => (names.take i).any (sameName · n) then
        throw (Fault.of ("duplicate WITH table name: " ++ n.1))
      let x := if tables.isEmpty then x else
        { x with known := ⟨tables.map fun | .mk n cs q => (n.text, .query (.mk n cs q)),
          x.scopes.length⟩ :: x.known }
      let empty : Context := { x with scopes := [] }
      let number (e : Option Expr) : Resolver (Option Term) := do
        match e with
        | some e => return some (← e.resolve depth empty)
        | none => return none
      let limit ← number limit
      let offset ← number offset
      match body with
      | .select _ _ _ _ _ _ _ => body.resolve depth x order limit offset
      | body =>
        let a ← body.resolve depth x [] none none
        if order.isEmpty && limit.isNone && offset.isNone then return a
        let keys ← order.zipIdx.mapM fun (.mk e descending nullsFirst, i) => do
          let column ← a.place e (i + 1)
          let collation := match e with
            | .collate _ n => (Collation.named? n).getD .binary
            | _ => ((a.columns[column]?).bind (·.collation)).getD .binary
          return (column, (⟨collation, descending, nullsFirst.getD !descending⟩ : Direction))
        return ⟨.sorted keys a.plan limit offset, a.columns⟩
def QueryBody.resolve (depth : Nat) (x : Context) (b : QueryBody) (order : List OrderTerm)
    (limit offset : Option Term) : Resolver Answer :=
  match depth with
  | 0 => throw tooDeep
  | depth + 1 =>
    match b with
    | .values rows => do
      let ts ← rows.mapM fun r => r.mapM (Expr.resolve depth x)
      let width := ((ts.head?).map List.length).getD 0
      if ts.any (·.length ≠ width) then
        throw (Fault.of "all VALUES must have the same number of terms")
      let columns := (ts.head?.getD []).zipIdx.map fun (t, i) =>
        let n := "column" ++ toString (i + 1)
        (⟨n, n, none, t.affinity?, t.collation?, ""⟩ : ResultColumn)
      return ⟨.values ts, columns⟩
    | .compound op left right => do
      let l ← left.resolve depth x [] none none
      let r ← right.resolve depth x [] none none
      if l.columns.length ≠ r.columns.length then
        throw (Fault.of ("SELECTs to the left and right of " ++ op.title ++
          " do not have the same number of result columns"))
      let columns := (l.columns.zip r.columns).map fun (a, b) =>
        { a with collation := a.collation.or b.collation, affinity := a.affinity.or b.affinity }
      return ⟨.compound op (columns.map fun c => c.collation.getD .binary) l.plan r.plan, columns⟩
    | .select distinct results sources filter groups having windows => do
      let ((answer), _) ← apart do
        let set ← SourceSet.resolve depth x sources .empty
        let windows ← completedWindows windows
        let scope : Scope := ⟨set.origins, [], set.shared, .allowed, some windows⟩
        let items := (← results.mapM (ResultItem.resolve depth (x.within scope))).flatten
        let grouped := !groups.isEmpty || !(← get).calls.isEmpty
        let aliases := items.filterMap fun i => i.label.map fun n => (n, i.term)
        let named (use : AggregateUse) : Context :=
          x.within { scope with aliases := aliases, aggregates := use, windows := none }
        let ordering := x.within { scope with aliases := aliases }
        if having.isSome && !grouped then
          throw (Fault.of "HAVING clause on a non-aggregate query")
        let having ← match having with
          | some e => do pure (some (← e.resolve depth (named .allowed)))
          | none => pure none
        let filter ← match filter with
          | some e => do
            let t ← e.resolve depth (named (if grouped then .misplaced else .forbidden))
            pure t.conjuncts
          | none => pure []
        let strict := set.items.any fun s => s.kind = .right || s.kind = .full
        let settled ← set.items.mapM fun s => do
          let on ← match s.on with
            | some e => do
              let t ← e.resolve depth { named .forbidden with placeless := true }
              pure (t.conjuncts)
            | none => pure []
          let (join, free) := s.settled strict (s.common ++ on)
          return (({ s.candidate with join := join } : Candidate), s.common ++ on, free)
        let keys ← order.zipIdx.mapM fun (.mk e descending nullsFirst, i) => do
          let t ← match e.bare.integer? with
            | some n =>
              if n < 1 || Int.ofNat items.length < n then
                throw (Fault.of (ordinal (i + 1) ++
                  " ORDER BY term out of range - should be between 1 and " ++ toString items.length))
              pure ((items[n.toNat - 1]?.map (·.term)).getD (.value .null))
            | none =>
              match e.bare with
              | .name [n] =>
                match aliases.find? (sameName ·.1 n.text) with
                | some (_, t) => pure t
                | none => e.resolve depth ordering
              | _ => e.resolve depth ordering
          let t := match e with
            | .collate _ n => .collate ((Collation.named? n).getD .binary) t
            | _ => t
          return OrderKey.mk t (t.direction descending nullsFirst)
        let groupKeys ← groups.zipIdx.mapM fun (e, i) => do
          let t ← match e.bare.integer? with
            | some n =>
              if n < 1 || Int.ofNat items.length < n then
                throw (Fault.of (ordinal (i + 1) ++
                  " GROUP BY term out of range - should be between 1 and " ++ toString items.length))
              pure ((items[n.toNat - 1]?.map (·.term)).getD (.value .null))
            | none => e.resolve depth (named .grouping)
          return (t, t.collation?.getD .binary)
        let gathered ← get
        let grouped := grouped || !gathered.calls.isEmpty
        let conditions := filter ++ settled.flatMap fun s => s.2.1
        let free := filter ++ settled.flatMap fun s => s.2.2
        let terms := items.map (·.term) ++ conditions ++ having.toList ++ groupKeys.map (·.1) ++
          keys.map (fun | .mk t _ => t) ++
          gathered.calls.flatMap (fun
            | .mk _ _ _ ts os f => ts ++ f.toList ++ os.map fun | .mk t _ => t) ++
          gathered.windows.flatMap fun
            | .mk _ _ ts filter ps os _ =>
              ts ++ filter.toList ++ ps.map (·.1) ++ os.map fun | .mk t _ => t
        let used := match terms.mapM (Term.cells lookDepth) with
          | some cells => cells.flatten
          | none => List.range set.width
        let candidates := settled.map fun s =>
          { s.1 with used := used.filter s.1.has }
        let fixed := set.items.any fun s => s.kind ≠ .inner || (match s.candidate.join with
          | .mk _ _ _ (.function _ _) _ => true
          | _ => false)
        let plainKeys := if grouped || distinct then [] else keys.filterMap fun
          | .mk (.cell 0 i _ _) d => some (i, d)
          | _ => none
        let plainKeys := if plainKeys.length = keys.length then plainKeys else []
        let joins := arranged candidates fixed conditions plainKeys
        let whole := free.foldl (fun (t : Option Term) c =>
          some (match t with
            | none => c
            | some t => .binary .and t c)) none
        let grouping := if grouped then
            some (Grouping.mk groupKeys groupKeys.isEmpty gathered.calls having)
          else none
        let collations := items.map fun i => i.term.collation?.getD .binary
        return (⟨.select set.width joins whole grouping gathered.windows (items.map (·.term))
          (if distinct then some collations else none) keys limit offset,
          items.map (·.column)⟩ : Answer)
      return answer
def SourceSet.resolve (depth : Nat) (x : Context) (sources : List Source) (before : SourceSet) :
    Resolver SourceSet :=
  match depth with
  | 0 => throw tooDeep
  | depth + 1 => sources.foldlM (fun set source => do
    match source with
    | .mk kind natural what label on common =>
      let start := set.width
      let item ← match what with
        | .table schema name => do
          let t ← TableAnswer.named depth x schema name
          pure (t.sourced x.database kind start (label.getD t.label) on)
        | .function name arguments => do
          x.database.refuseUnreadable
          let lowered := String.ofList (name.text.toList.map Char.toLower)
          match if lowered.startsWith "pragma_" then
              TableFunction.named? (lowered.drop 7).toString else none with
          | none =>
            let known := (x.database.table? name.text).isSome || (x.database.view? name.text).isSome
            throw (Fault.of (if known then "'" ++ name.text ++ "' is not a function"
              else "no such table: " ++ name.text))
          | some f =>
            let scope : Scope := ⟨set.origins, [], set.shared, .forbidden, none⟩
            let ts ← arguments.mapM (Expr.resolve depth (x.within scope))
            let t : TableAnswer := ⟨name.text, .function f ts, f.fields.map fun (n, a) =>
              ⟨n, some a, some .binary, ""⟩, false, none⟩
            pure (t.sourced x.database kind start (label.getD name.text) on)
        | .query q => do
          let a ← q.resolve depth x
          let t : TableAnswer := ⟨"", a.plan, a.fields, false, none⟩
          pure (t.sourced x.database kind start (label.getD "") on)
        | .group inner => do
          let sub ← SourceSet.resolve depth x inner .empty
          let scope : Scope := ⟨sub.origins, [], sub.shared, .forbidden, none⟩
          let strict := true
          let joins ← sub.items.mapM fun s => do
            let on ← match s.on with
              | some e => do pure [← e.resolve depth { x.within scope with placeless := true }]
              | none => pure []
            return (s.settled strict (s.common ++ on)).1
          let cells := (List.range sub.width).map fun i => Term.cell 0 i none none
          let plan := Plan.select sub.width joins none none [] cells none [] none none
          let origins := sub.origins.map fun o =>
            { o with start := o.start + start, number := o.number.map (· + start),
                     label := label.getD o.label }
          pure ⟨origins, ⟨.mk kind start sub.width plan none, start, sub.width, none, [], []⟩, kind, on, []⟩
      let here := item.origin
      let names := if natural then
          (here.flatMap fun o => o.fields.map (·.name)).filter fun n =>
            set.origins.any fun o => o.fields.any fun f => sameName f.name n && !o.merged.any (sameName · n)
        else common
      let joinsOuter := kind = .right || kind = .full
      let merged ← names.mapM fun n => do
        let left := match set.shared.find? (sameName ·.1 n) with
          | some (_, t) => [t]
          | none => set.origins.flatMap (·.find 0 n false)
        let right := here.flatMap (·.find 0 n false)
        match left, right with
        | l :: _, r :: _ =>
          let both := if joinsOuter then some (n, Term.coalesce [l, r]) else none
          return (Term.compared .equal l r, both)
        | _, _ =>
          throw (Fault.of ("cannot join using column " ++ n ++ " - column not present in both tables"))
      let item := { item with
        origin := here.map fun o => { o with merged := o.merged ++ names }
        common := merged.map (·.1) }
      return ⟨set.items ++ [item], start + item.candidate.width,
        merged.filterMap (·.2) ++ set.shared⟩) before
def TableAnswer.named (depth : Nat) (x : Context) (schema : Option Name) (name : Name) :
    Resolver TableAnswer :=
  match depth with
  | 0 => throw tooDeep
  | depth + 1 => do
    let groups := if schema.isSome then [] else x.known.dropWhile fun g =>
      !g.names.any (sameName ·.1 name.text)
    match groups with
    | g :: rest =>
      let known? : Option Known := (g.names.find? fun p => sameName p.1 name.text).map fun p => p.2
      match known? with
      | some (.working id fields) => return ⟨name.text, .working id, fields, false, none⟩
      | some (.query (.mk n columns q)) =>
        if x.pending.any (sameName · n.text) then
          throw (Fault.of ("circular reference: " ++ n.text))
        let outer := x.scopes.length - g.depth
        let inside : Context :=
          { x with scopes := (x.scopes.take outer).map (fun _ => .blank) ++ x.scopes.drop outer
                   known := g :: rest, pending := n.text :: x.pending }
        let titled (a : Answer) : Resolver (List Field) := do
          if columns.isEmpty then return a.fields
          if columns.length ≠ a.columns.length then
            throw (Fault.of ("table " ++ n.text ++ " has " ++ toString a.columns.length ++
              " values for " ++ toString columns.length ++ " columns"))
          return (a.columns.zip columns).map fun (c, n) => ⟨n, c.affinity, c.collation, c.type⟩
        match q with
        | .mk tables body order limit offset =>
          let arms := body.arms
          let first := arms.takeWhile fun a => !a.2.names n.text
          let step := arms.drop first.length
          match tables, step, QueryBody.ofArms first with
          | [], (op, _) :: _, some firstBody =>
            let a ← firstBody.resolve depth inside [] none none
            let fields ← titled a
            let s ← get
            let id := s.nextId
            set { s with nextId := id + 1 }
            let stepContext : Context :=
              { x with scopes := inside.scopes, known := ⟨[(n.text, .working id fields)], g.depth⟩ :: g :: rest }
            let steps ← step.mapM fun (_, b) => do
              let r ← b.resolve depth stepContext [] none none
              if r.columns.length ≠ a.columns.length then
                throw (Fault.of ("SELECTs to the left and right of " ++
                  (op.getD .unionAll).title ++ " do not have the same number of result columns"))
              return r.plan
            let stepPlan := match steps with
              | p :: ps => ps.foldl (fun l r => Plan.compound .unionAll [] l r) p
              | [] => .values []
            let collations := a.columns.map fun c => c.collation.getD .binary
            let keys ← order.zipIdx.mapM fun (.mk e descending nullsFirst, i) => do
              let column ← a.place e (i + 1)
              return (column, (⟨(collations[column]?).getD .binary, descending,
                nullsFirst.getD !descending⟩ : Direction))
            let number (e : Option Expr) : Resolver (Option Term) := do
              match e with
              | some e => return some (← e.resolve depth { x with scopes := [] })
              | none => return none
            return ⟨n.text, .recursive id (if op = some .unionAll then none else some collations) keys
              a.plan stepPlan (← number limit) (← number offset), fields, false, none⟩
          | _, _, _ =>
            let a ← q.resolve depth inside
            return ⟨n.text, a.plan, ← titled a, false, none⟩
      | none => throw (Fault.of ("no such table: " ++ name.text))
    | [] =>
      x.database.refuseUnreadable
      let written := match schema with
        | some s => s.text ++ "." ++ name.text
        | none => name.text
      if let some temporary := catalogueNamed? name.text then
        return ⟨if temporary then "sqlite_temp_master" else name.text, .catalogue temporary,
          catalogueFields, false, none⟩
      let lowered := String.ofList (name.text.toList.map Char.toLower)
      let pragma := if lowered.startsWith "pragma_" then
          TableFunction.named? (lowered.drop 7).toString else none
      match x.database.table? name.text, x.database.view? name.text, pragma with
      | some t, _, _ =>
        return ⟨t.name, .scan t.name .natural, t.columns.map Column.field, true, some t⟩
      | none, some v, _ =>
        if x.pending.any (sameName · ("view " ++ v.name)) then
          throw (Fault.of ("view " ++ v.name ++ " is circularly defined"))
        let a ← v.query.resolve depth
          { x.closed with known := [], pending := ("view " ++ v.name) :: x.pending }
        if v.columns.isEmpty then return ⟨v.name, a.plan, a.fields, false, none⟩
        if v.columns.length ≠ a.columns.length then
          throw (Fault.of ("expected " ++ toString v.columns.length ++ " columns for '" ++ v.name ++
            "' but got " ++ toString a.columns.length))
        return ⟨v.name, a.plan, (a.columns.zip v.columns).map fun (c, n) =>
          ⟨n, c.affinity, c.collation, c.type⟩, false, none⟩
      | none, none, some f =>
        return ⟨name.text, .function f [], f.fields.map fun (n, a) => ⟨n, some a, some .binary, ""⟩, false,
          none⟩
      | none, none, none => throw (Fault.of ("no such table: " ++ written))
end

end QueryWarden.Database
