import QueryWarden.Database.ChangePlan
import QueryWarden.Database.Session

/-! Changing rows: what is written, which constraints it has to meet, what triggers do beside it, and what
happens to rows that refer to a row that goes away. -/
namespace QueryWarden.Database

/-- What a change is part of: the row of the trigger that it belongs to, the triggers that are at work,
and what the statement around does about conflicts. -/
structure Firing where
  scopes : List Scope
  frames : List Frame
  active : List String
  override : Option Resolution

def Firing.outermost : Firing := ⟨[], [], [], none⟩

structure RowPair where
  old : Option Stored
  new : Option Stored

def RowPair.frame (p : RowPair) (fields : List Field) (numbered : Bool) : Scope × Frame :=
  let width := fields.length + 1
  let origin (label : String) (start : Nat) : Origin :=
    ⟨label, fields, start, if numbered then some (start + fields.length) else none, [], none⟩
  let cells (r : Option Stored) : List Value := match r with
    | some r => r.values ++ [.integer r.number]
    | none => List.replicate width .null
  (⟨(p.new.map fun _ => origin "new" 0).toList ++ (p.old.map fun _ => origin "old" width).toList, [], [],
      .forbidden, none⟩, .of (cells p.new ++ cells p.old).toArray)

def broken (message : String) (policy : Resolution) : Fault := ⟨message, none, policy⟩

def orLeftOut (w : Writing Unit) : Writing Unit :=
  tryCatch w fun f => if f.resolution == .ignore then pure () else throw f

def checkedValues (t : Table) (policy : Option Resolution) (values : List Value) : Writing (List Value) :=
  (t.columns.zip values).zipIdx.mapM fun ((c, v), i) => do
    if !v.isNull || t.numberColumn = some i then return v
    match c.notNull with
    | none => return v
    | some own =>
      let fault := broken ("NOT NULL constraint failed: " ++ t.name ++ "." ++ c.name)
      match policy.getD own with
      | .ignore => throw leftOut
      | .replace =>
        let d ← c.default?
        if d.isNull then throw (fault .abort) else return c.affinity.read (c.affinity.apply d)
      | p => throw (fault p)

def checkConditions (t : Table) (policy : Option Resolution) (r : Stored) : Writing Unit := do
  let x := t.context (← get).database
  t.checks.forM fun c => do
    if (← valueOf [r.frame] (← attempt (c.term.term x))).truth? = some false then
      match policy with
      | some .ignore => throw leftOut
      | some .rollback => throw (broken ("CHECK constraint failed: " ++ c.name.getD c.written) .rollback)
      | some .fail => throw (broken ("CHECK constraint failed: " ++ c.name.getD c.written) .fail)
      | _ => throw (broken ("CHECK constraint failed: " ++ c.name.getD c.written) .abort)

def numberOf (v : Value) : Writing Int :=
  match Affinity.integer.apply v with
  | .integer n => pure n
  | _ => throw (.of "datatype mismatch")

def nextInSequence (t : Table) : Writing Int := do
  let last := match (← get).database.table? "sqlite_sequence" with
    | some s => (s.rows.find? fun r =>
        (r.at 0).compare .binary (.ofString t.name) = .eq).elim 0 fun r =>
          (r.at 1).toInt
    | none => 0
  return max (last + 1) t.nextNumber

def rememberSequence (t : Table) (number : Int) : Writing Unit :=
  change fun d => d.mapTable "sqlite_sequence" fun s =>
    let isOwn (r : Stored) : Bool := (r.at 0).compare .binary (.ofString t.name) = .eq
    match s.rows.find? isOwn with
    | some own =>
      let last := max number (own.at 1).toInt
      { s with rows := s.rows.map fun r => if isOwn r then ⟨r.number, [.ofString t.name, .integer last]⟩ else r }
    | none => { s with rows := s.with ⟨s.nextNumber, [.ofString t.name, .integer number]⟩ }

def takeOut (table : String) (number : Int) : Writing Unit :=
  change fun d => d.mapTable table fun t => { t with rows := t.rows.filter (·.number ≠ number) }

def putIn (table : String) (r : Stored) : Writing Unit := do
  change fun d => d.mapTable table fun t => { t with rows := t.with r }
  modify fun s => { s with written := (table, r.number) :: s.written }

def countChange (f : Firing) : Writing Unit :=
  modify fun s => { s with changes := if f.active.isEmpty then s.changes + 1 else s.changes
                           totalChanges := s.totalChanges + 1 }

mutual
def fire (depth : Nat) (f : Firing) (table : String) (fields : List Field) (numbered : Bool)
    (time : TriggerTime) (event : FiringEvent) (rows : RowPair) : Writing Unit :=
  match depth with
  | 0 => throw (.of "too many levels of trigger recursion")
  | depth + 1 => do
    let s ← get
    let waiting := (s.database.triggersOf table).filter fun g =>
      g.time = time && g.event.answers event &&
        (s.recursiveTriggers || !f.active.any (sameName · g.name))
    waiting.forM fun g => do
      let (scope, frame) := rows.frame fields numbered
      let x : Context := ⟨(← get).database, [scope], [], [], true⟩
      let wanted ← match g.condition with
        | none => pure true
        | some e => do pure ((← valueOf [frame] (← attempt (e.term x))).truth? = some true)
      if wanted then
        g.steps.forM fun step => do
          match step with
          | .change c =>
            let p ← attempt (c.resolve { x with database := (← get).database })
            ChangePlan.run depth ⟨[scope], [frame], g.name :: f.active, f.override⟩ p
          | .query q => do
            let a ← attempt (q.answer { x with database := (← get).database })
            let _ ← rowsOf [frame] a.plan
def insertRow (depth : Nat) (f : Firing) (table : String) (conflict : Option Resolution)
    (given : List (Option Value)) (number : Option Value) (upserts : List Upsert) : Writing Unit :=
  match depth with
  | 0 => throw tooDeep
  | depth + 1 => do
    let t ← tableNow table
    let policy := f.override.or conflict
    let fields := t.columns.map Column.field
    let values ← (t.columns.zip given).mapM fun (c, v) =>
      match v with
      | some v => pure v
      | none => c.default?
    let asked := match t.numberColumn with
      | some i => number.or (values[i]?)
      | none => number
    let early : Stored := ⟨match asked with
      | some (.integer n) => n
      | _ => -1, t.converted values⟩
    fire depth f table fields (!t.withoutRowid) .before .insert ⟨none, some early⟩
    let t ← tableNow table
    let n ← match asked with
      | some v =>
        if v.isNull then if t.increasing then nextInSequence t else pure t.nextNumber else numberOf v
      | none => if t.increasing then nextInSequence t else pure t.nextNumber
    let values := match t.numberColumn with
      | some i => values.set i (.integer n)
      | none => values
    let values := t.converted values
    let r ← t.generate ⟨n, values⟩
    if let some message := t.misfit? r.values then throw (.of message)
    let r : Stored := { r with values := ← checkedValues t policy r.values }
    checkConditions t policy r
    let indexes := ((← get).database.indexesOf table).reverse
    let clash (own : Resolution) (names : List String) (message : String) (rivals : List Stored) :
        Writing Unit := do
      unless rivals.isEmpty do
        match upserts.find? (·.speaksOf names) with
        | some u =>
          match u.sets, rivals.head? with
          | some sets, some rival => do
            updateOnConflict depth f table rival r sets u.filter
            throw leftOut
          | _, _ => throw leftOut
        | none =>
          match policy.getD own with
          | .ignore => throw leftOut
          | .replace => do
            let fires := (← get).recursiveTriggers
            rivals.forM fun q => deleteRow depth f table q.number fires
          | p => throw (broken message p)
    unless t.withoutRowid do
      clash t.numberConflict t.numberNames t.numberClash (t.row? n).toList
    indexes.forM fun i => do
      let rivals ← i.rivals (← tableNow table) r none
      clash (i.unique.getD .abort) (i.names t) (i.clash t) rivals
    checkTargets t
    putIn table r
    if t.increasing then rememberSequence t n
    unless t.withoutRowid do
      if f.active.isEmpty then modify fun s => { s with lastNumber := n }
    countChange f
    fire depth f table fields (!t.withoutRowid) .after .insert ⟨none, some r⟩
def updateOnConflict (depth : Nat) (f : Firing) (table : String) (rival excluded : Stored)
    (sets : List (List String × Expr)) (filter : Option Expr) : Writing Unit :=
  match depth with
  | 0 => throw tooDeep
  | depth + 1 => do
    let t ← tableNow table
    let width := t.columns.length + 1
    let own := t.scope t.name 0
    let other := t.scope "excluded" width
    let scope : Scope := ⟨own.origins ++ other.origins.map fun o =>
      { o with merged := t.columns.map (·.name) }, [], [], .forbidden, none⟩
    let frame := Frame.of (rival.frame.cells ++ excluded.frame.cells)
    let x : Context := ⟨(← get).database, scope :: f.scopes, [], [], false⟩
    let wanted ← match filter with
      | none => pure true
      | some e => do pure ((← valueOf (frame :: f.frames) (← attempt (e.term x))).truth? = some true)
    if wanted then
      let set ← (← attempt (assignments sets)).mapM fun (n, e) => do
        return (n, ← attempt (t.target n), ← valueOf (frame :: f.frames) (← attempt (e.term x)))
      updateRow depth f table none rival.number (set.map (·.1)) (set.map (·.2))
def updateRow (depth : Nat) (f : Firing) (table : String) (conflict : Option Resolution) (number : Int)
    (names : List String) (sets : List (Target × Value)) : Writing Unit :=
  match depth with
  | 0 => throw tooDeep
  | depth + 1 => do
    let t ← tableNow table
    let policy := f.override.or conflict
    let fields := t.columns.map Column.field
    let some old := t.row? number | return
    let assigned (r : Stored) : List Value := sets.foldl (fun vs (target, v) =>
      match target with
      | .column i => vs.set i v
      | .number => vs) r.values
    let asked : Option Value := sets.findSome? fun (target, v) =>
      match target with
      | .number => some v
      | .column i => if t.numberColumn = some i then some v else none
    let early : Stored := ⟨match asked with
      | some (.integer n) => n
      | _ => number, t.converted (assigned old)⟩
    fire depth f table fields (!t.withoutRowid) .before (.update names) ⟨some old, some early⟩
    let t ← tableNow table
    let some old := t.row? number | return
    let n ← match asked with
      | some v => numberOf v
      | none => pure number
    let values := assigned old
    let values := match t.numberColumn with
      | some i => values.set i (.integer n)
      | none => values
    let r ← t.generate ⟨n, t.converted values⟩
    if let some message := t.misfit? r.values then throw (.of message)
    let r : Stored := { r with values := ← checkedValues t policy r.values }
    checkConditions t policy r
    let clash (own : Resolution) (message : String) (rivals : List Stored) : Writing Unit := do
      unless rivals.isEmpty do
        match policy.getD own with
        | .ignore => throw leftOut
        | .replace => do
          let fires := (← get).recursiveTriggers
          rivals.forM fun q => deleteRow depth f table q.number fires
        | p => throw (broken message p)
    if n ≠ number then clash t.numberConflict t.numberClash (t.row? n).toList
    ((← get).database.indexesOf table).reverse.forM fun i => do
      clash (i.unique.getD .abort) (i.clash t) (← i.rivals (← tableNow table) r (some number))
    checkTargets t
    followReferences depth f t old (some r)
    takeOut table number
    putIn table r
    countChange f
    fire depth f table fields (!t.withoutRowid) .after (.update names) ⟨some old, some r⟩
def deleteRow (depth : Nat) (f : Firing) (table : String) (number : Int) (fires : Bool) : Writing Unit :=
  match depth with
  | 0 => throw tooDeep
  | depth + 1 => do
    let t ← tableNow table
    let fields := t.columns.map Column.field
    let some old := t.row? number | return
    if fires then fire depth f table fields (!t.withoutRowid) .before .delete ⟨some old, none⟩
    let some old := (← tableNow table).row? number | return
    takeOut table number
    followReferences depth f t old none
    if fires then
      countChange f
      fire depth f table fields (!t.withoutRowid) .after .delete ⟨some old, none⟩
def followReferences (depth : Nat) (f : Firing) (t : Table) (old : Stored) (new : Option Stored) :
    Writing Unit :=
  match depth with
  | 0 => throw tooDeep
  | depth + 1 => do
    let s ← get
    unless s.keepsReferences do return
    (s.database.referencesTo t.name).forM fun (child, k) => do
      unless k.fits s.database t do
        throw (.of ("foreign key mismatch - \"" ++ child.name ++ "\" referencing \"" ++ k.target ++ "\""))
      let places := (k.targets t).map (·.getD 0)
      let keyOf (r : Stored) : List Value := places.map r.at
      let same := new.any fun r => compareRows [] (keyOf r) (keyOf old) = .eq
      if same then return
      let alone : Table := { t with rows := [old] }
      let child ← tableNow child.name
      let rows := child.rows.filter fun r =>
        k.columns.all (fun c => !(r.at c).isNull) && k.holds alone r &&
          !(sameName child.name t.name && r.number = old.number)
      let action := if new.isSome then k.onUpdate else k.onDelete
      let inside : Firing := { f with active := "" :: f.active }
      let setTo (vs : List Value) (r : Stored) : Writing Unit :=
        updateRow depth inside child.name none r.number (k.columns.filterMap fun c =>
          (child.columns[c]?).map (·.name)) ((k.columns.zip vs).map fun (c, v) => (.column c, v))
      if action = "CASCADE" then
        match new with
        | none => rows.forM fun r => deleteRow depth inside child.name r.number true
        | some n => rows.forM (setTo (keyOf n))
      else if action = "SET NULL" then rows.forM (setTo (k.columns.map fun _ => .null))
      else if action = "SET DEFAULT" then
        let ds ← k.columns.mapM fun c =>
          match child.columns[c]? with
          | some c => c.default?
          | none => pure .null
        rows.forM (setTo ds)
        modify fun s => { s with reduced := t.name :: s.reduced }
      else if action = "RESTRICT" && !rows.isEmpty then
        throw (.of "FOREIGN KEY constraint failed")
      else modify fun s => { s with reduced := t.name :: s.reduced }
def checkTargets (t : Table) : Writing Unit := do
  let s ← get
  if s.keepsReferences then
    t.references.forM fun k => do
      match s.database.table? k.target with
      | none => throw (.of ("no such table: main." ++ k.target))
      | some target =>
        unless k.fits s.database target do
          throw (.of ("foreign key mismatch - \"" ++ t.name ++ "\" referencing \"" ++ k.target ++ "\""))
def ChangePlan.run (depth : Nat) (f : Firing) (c : ChangePlan) : Writing Unit :=
  match depth with
  | 0 => throw (.of "too many levels of trigger recursion")
  | depth + 1 => do
    let given (source : Option Plan) : Writing (List (List Value)) :=
      match source with
      | some p => rowsOf f.frames p
      | none => pure [[]]
    match c with
    | .insert table columns targets source conflict upserts => do
      (← given source).forM fun row => orLeftOut do
        let pairs := targets.zip row
        let cells := (List.range columns).map fun i => pairs.findSome? fun (target, v) =>
          match target with
          | .column j => if i = j then some v else none
          | .number => none
        let number := pairs.findSome? fun (target, v) =>
          match target with
          | .number => some v
          | .column _ => none
        insertRow depth f table conflict cells number upserts
    | .update table conflict names targets source single => do
      let numbered := (← rowsOf f.frames source).map fun r => ((firstOf r).toInt, r.tail)
      let once := numbered.foldl (fun (kept : List (Int × List Value)) r =>
        if single || !kept.any (·.1 = r.1) then r :: kept else kept) []
      once.reverse.forM fun (n, vs) => orLeftOut do
        updateRow depth f table conflict n names (targets.zip vs)
    | .delete table source => do
      (← rowsOf f.frames source).forM fun r => orLeftOut do
        deleteRow depth f table (firstOf r).toInt true
    | .insertView view fields names source => do
      (← given source).forM fun row => orLeftOut do
        let values := fields.map fun g =>
          ((names.zip row).find? fun (n, _) => sameName n g.name).elim .null (·.2)
        fire depth f view fields false .insteadOf .insert ⟨none, some ⟨-1, values⟩⟩
    | .updateView view fields names source => do
      (← rowsOf f.frames source).forM fun row => orLeftOut do
        let old := row.take fields.length
        let set := names.zip (row.drop fields.length)
        let new := (fields.zip old).map fun (g, v) =>
          (set.find? fun (n, _) => sameName n g.name).elim v (·.2)
        fire depth f view fields false .insteadOf (.update names) ⟨some ⟨-1, old⟩, some ⟨-1, new⟩⟩
    | .deleteView view fields source => do
      (← rowsOf f.frames source).forM fun row => orLeftOut do
        fire depth f view fields false .insteadOf .delete ⟨some ⟨-1, row⟩, none⟩
end

end QueryWarden.Database
