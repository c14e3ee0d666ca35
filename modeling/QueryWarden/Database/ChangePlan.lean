import QueryWarden.Database.Definition

/-! Changes of rows whose names are resolved: which table or view is written, which columns are set, and
which query gives the rows. -/
namespace QueryWarden.Database

inductive FiringEvent where
  | insert
  | delete
  | update (columns : List String)

def TriggerEvent.answers : TriggerEvent → FiringEvent → Bool
  | .insert, .insert => true
  | .delete, .delete => true
  | .update wanted, .update set => wanted.isEmpty || wanted.any fun w => set.any (sameName · w)
  | _, _ => false

def Upsert.speaksOf (u : Upsert) (names : List String) : Bool :=
  u.columns.isEmpty || (u.columns.length == names.length && u.columns.all fun e =>
    match e.bare with
    | .name [n] => names.any (sameName · n.text)
    | _ => false)

def Index.names (i : Index) (t : Table) : List String :=
  i.parts.filterMap fun p => (p.column.bind (t.columns[·]?)).map (·.name)

def Table.numberNames (t : Table) : List String :=
  ((t.numberColumn.bind (t.columns[·]?)).map (·.name)).toList

inductive Target where
  | column (i : Nat)
  | number

def Table.target (t : Table) (name : String) : Except Fault Target :=
  match t.column? name with
  | some i =>
    if (t.columns[i]?).any (·.generated.isSome) then
      .error (.of ("cannot UPDATE generated column \"" ++ name ++ "\""))
    else .ok (.column i)
  | none =>
    if isNumberName name && !t.withoutRowid then .ok .number
    else .error (.of ("no such column: " ++ name))

def assignments (sets : List (List String × Expr)) : Except Fault (List (String × Expr)) :=
  (sets.mapM single).map List.flatten
where
  /-- One assignment. -/
  single : List String × Expr → Except Fault (List (String × Expr))
    | ([n], e) => .ok [(n, e)]
    | (ns, .tuple es) =>
      if ns.length = es.length then .ok (ns.zip es)
      else .error (.of (toString ns.length ++ " columns assigned " ++ toString es.length ++ " values"))
    | (ns, _) => .error (.of (toString ns.length ++ " columns assigned 1 values"))

def Query.knowing (tables : List CommonTable) : Query → Query
  | .mk own body order limit offset => .mk (tables ++ own) body order limit offset

def Plan.withCells (cells : List Nat) : Plan → Plan
  | .select width joins filter grouping windows results distinct order limit offset =>
    .select width joins filter grouping windows
      (cells.map (fun i => Term.cell 0 i none none) ++ results) distinct order limit offset
  | p => p

def checkUpserts (t : Table) (indexes : List Index) (upserts : List Upsert) : Except Fault Unit :=
  if upserts.all fun u =>
      u.columns.isEmpty || (t.numberColumn.isSome && u.speaksOf t.numberNames) ||
        indexes.any fun i => i.unique.isSome && u.speaksOf (i.names t) then .ok ()
  else .error (.of "ON CONFLICT clause does not match any PRIMARY KEY or UNIQUE constraint")

/-- A change whose names are resolved. Plans for updates and deletions give the number of each row first;
those for views give all columns of the row. -/
inductive ChangePlan where
  | insert (table : String) (columns : Nat) (targets : List Target) (source : Option Plan)
      (conflict : Option Resolution) (upserts : List Upsert)
  | update (table : String) (conflict : Option Resolution) (names : List String) (targets : List Target)
      (source : Plan) (single : Bool)
  | delete (table : String) (source : Plan)
  | insertView (view : String) (fields : List Field) (names : List String) (source : Option Plan)
  | updateView (view : String) (fields : List Field) (names : List String) (source : Plan)
  | deleteView (view : String) (fields : List Field) (source : Plan)

def changedRows (tables : List CommonTable) (name : Name) (label : Option String)
    (sources : List Source) (filter : Option Expr) (items : List ResultItem) : Query :=
  .mk tables (.select false items (.mk .inner false (.table none name) label none [] :: sources)
    filter [] none []) [] none none

def refuseUnknown (d : Contents) (name : Name) : Except Fault Unit := do
  if (catalogueNamed? name.text).isSome then
    throw (.of ("table " ++ name.text ++ " may not be modified"))
  if (d.table? name.text).isNone && (d.view? name.text).isNone then
    throw (.of ("no such table: " ++ name.text))

def refuseView (d : Contents) (name : Name) (event : FiringEvent) : Except Fault Unit := do
  unless (d.triggersOf name.text).any fun g => g.time = .insteadOf && g.event.answers event do
    throw (.of ("cannot modify " ++ name.text ++ " because it is a view"))

def Table.insertTargets (t : Table) (columns : List Name) : Except Fault (List Target) :=
  if columns.isEmpty then
    .ok ((t.columns.zipIdx.filter fun (c, _) => c.generated.isNone).map fun (_, i) => .column i)
  else columns.mapM fun n =>
    match t.column? n.text with
    | some i =>
      if (t.columns[i]?).any (·.generated.isSome) then
        .error (.of ("cannot INSERT into generated column \"" ++ n.text ++ "\""))
      else .ok (.column i)
    | none =>
      if isNumberName n.text && !t.withoutRowid then .ok .number
      else .error (.of ("table " ++ t.name ++ " has no column named " ++ n.text))

def checkReturning (x : Context) (t : Table) (items : List ResultItem) : Except Fault Unit := do
  let _ ← (items.mapM fun i =>
    ResultItem.resolve resolveDepth (x.within (t.scope t.name 0)) i).run ⟨[], [], 0⟩

def Change.resolve (x : Context) (c : Change) : Except Fault ChangePlan := do
  let d := x.database
  match c with
  | .insert tables name conflict columns source upserts returning =>
    refuseUnknown d name
    let answer? ← match source with
      | .defaults => pure none
      | .query q => some <$> (q.knowing tables).answer x
    match d.table? name.text with
    | none =>
      refuseView d name .insert
      let fields := (← (changedRows [] name none [] none [.all]).answer x).fields
      let names := if columns.isEmpty then fields.map (·.name) else columns.map (·.text)
      return .insertView name.text fields names (answer?.map (·.plan))
    | some t =>
      let targets ← t.insertTargets columns
      checkUpserts t (d.indexesOf t.name) upserts
      checkReturning x t returning
      if let some a := answer? then
        if columns.isEmpty && a.columns.length ≠ targets.length then
          throw (.of ("table " ++ t.name ++ " has " ++ toString targets.length ++ " columns but " ++
            toString a.columns.length ++ " values were supplied"))
        if !columns.isEmpty && a.columns.length ≠ columns.length then
          throw (.of (toString a.columns.length ++ " values for " ++ toString columns.length ++ " columns"))
      return .insert t.name t.columns.length targets (answer?.map (·.plan)) conflict upserts
  | .update tables conflict name label sets sources filter returning =>
    refuseUnknown d name
    let single ← assignments (sets.map fun (ns, e) => (ns.map (·.text), e))
    let names := single.map (·.1)
    let items := single.map fun (n, e) => ResultItem.expr e (some n) n
    match d.table? name.text with
    | none =>
      refuseView d name (.update names)
      let fields := (← (changedRows [] name none [] none [.all]).answer x).fields
      let own := ResultItem.allOf ⟨label.getD name.text, "", 0, false⟩
      let a ← (changedRows tables name label sources filter (own :: items)).answer x
      return .updateView name.text fields names a.plan
    | some t =>
      let targets ← names.mapM t.target
      let a ← (changedRows tables name label sources filter items).answer x
      checkReturning x t returning
      return .update t.name conflict names targets (a.plan.withCells [t.columns.length]) sources.isEmpty
  | .delete tables name label filter returning =>
    refuseUnknown d name
    match d.table? name.text with
    | none =>
      refuseView d name .delete
      let fields := (← (changedRows [] name none [] none [.all]).answer x).fields
      let a ← (changedRows tables name label [] filter [.all]).answer x
      return .deleteView name.text fields a.plan
    | some t =>
      let a ← (changedRows tables name label [] filter [.expr (.value .null) none ""]).answer x
      checkReturning x t returning
      return .delete t.name (a.plan.withCells [t.columns.length])

end QueryWarden.Database
