import QueryWarden.Database.Resolution

/-! Making tables, indexes, views and triggers out of their statements, and what is wrong with statements
that make none. -/
namespace QueryWarden.Database

def isReserved (name : String) : Bool := sameName (String.ofList (name.toList.take 7)) "sqlite_"

def checkName (name : String) : Except Fault Unit :=
  if isReserved name then .error (.of ("object name reserved for internal use: " ++ name)) else .ok ()

def Table.scope (t : Table) (label : String) (start : Nat) : Scope :=
  ⟨[⟨label, t.columns.map Column.field, start,
      if t.withoutRowid then none else some (start + t.columns.length), [], some t⟩], [], [],
    .forbidden, none⟩

def Table.context (t : Table) (d : Contents) : Context :=
  ⟨d, [t.scope t.name 0], [], [], false⟩

def resolveDepth : Nat := 5000

def Expr.term (e : Expr) (x : Context) : Except Fault Term :=
  ((e.resolve resolveDepth x).run ⟨[], [], 0⟩).map (·.1)

def Query.answer (q : Query) (x : Context) : Except Fault Answer :=
  ((q.resolve resolveDepth x).run ⟨[], [], 0⟩).map (·.1)

def Expr.isConstant (e : Expr) : Bool :=
  match e.term ⟨Contents.empty, [], [], [], false⟩ with
  | .ok _ => true
  | .error f => !("no such column".toList.isPrefixOf f.message.toList)

def ColumnDef.column (c : ColumnDef) : Except Fault Column := do
  let start : Column :=
    ⟨c.name.text, c.type, Affinity.ofType c.type, .binary, none, none, none, 0⟩
  c.rules.foldlM (fun col r =>
    match r with
    | .notNull conflict => .ok { col with notNull := some (conflict.getD .abort) }
    | .default e written =>
      if written.isEmpty then .ok col
      else if col.generated.isSome then .error (.of "cannot use DEFAULT on a generated column")
      else if !e.isConstant then
        .error (.of ("default value of column [" ++ c.name.text ++ "] is not constant"))
      else .ok { col with default := some (e, written) }
    | .collate n =>
      match Collation.named? n with
      | some k => .ok { col with collation := k }
      | none => .error (.of ("no such collation sequence: " ++ n))
    | .generated e stored =>
      if col.default.isSome then .error (.of "cannot use DEFAULT on a generated column")
      else .ok { col with generated := some (e, stored) }
    | _ => .ok col) start

/-- The primary key that a table declares: its columns, whether numbers are never used again, whether
the single column goes down, and what happens to a row whose key is there already. -/
structure KeyClause where
  columns : List (String × Option String)
  increasing : Bool
  descending : Bool
  conflict : Option Resolution

def keyClauses (columns : List ColumnDef) (rules : List TableRule) : List KeyClause :=
  columns.flatMap (fun c => c.rules.filterMap fun
    | .primaryKey down auto conflict => some ⟨[(c.name.text, none)], auto, down, conflict⟩
    | _ => none) ++
  rules.filterMap fun
    | .primaryKey cs auto conflict => some ⟨cs, auto, false, conflict⟩
    | _ => none

def uniqueClauses (columns : List ColumnDef) (rules : List TableRule) :
    List (Option (List (String × Option String) × Option Resolution)) :=
  columns.flatMap (fun c => c.rules.filterMap fun
    | .primaryKey _ _ _ => some none
    | .unique conflict => some (some ([(c.name.text, none)], conflict))
    | _ => none) ++
  rules.filterMap fun
    | .primaryKey _ _ _ => some none
    | .unique cs conflict => some (some (cs, conflict))
    | _ => none

def columnPart (t : Table) (c : String × Option String) : Except Fault IndexPart :=
  match t.column? c.1 with
  | none => .error (.of ("table " ++ t.name ++ " has no column named " ++ c.1))
  | some i =>
    let own := ((t.columns[i]?).map (·.collation)).getD .binary
    match c.2 with
    | none => .ok ⟨some i, .name [⟨c.1, c.1, 0, false⟩], own, false⟩
    | some n =>
      match Collation.named? n with
      | some k => .ok ⟨some i, .name [⟨c.1, c.1, 0, false⟩], k, false⟩
      | none => .error (.of ("no such collation sequence: " ++ n))

def sameParts (a b : List IndexPart) : Bool :=
  a.length == b.length && (a.zip b).all fun (p, q) => p.column == q.column && p.collation == q.collation

def ownIndexes (t : Table) (key : Option KeyClause)
    (clauses : List (Option (List (String × Option String) × Option Resolution))) :
    Except Fault (List Index) :=
  clauses.foldlM (fun made clause => do
    let wanted? : Option (List (String × Option String) × Option Resolution × IndexOrigin) :=
      match clause with
      | none =>
        if t.numberColumn.isSome then none
        else key.map fun k => (k.columns, k.conflict, IndexOrigin.primaryKey)
      | some (cs, conflict) => some (cs, conflict, .unique)
    match wanted? with
    | none => return made
    | some (cs, conflict, origin) =>
      let parts ← cs.mapM (columnPart t)
      if made.any fun i => sameParts i.parts parts then return made
      let name := "sqlite_autoindex_" ++ t.name ++ "_" ++ toString (made.length + 1)
      return made ++ [⟨name, t.name, parts, some (conflict.getD .abort), none, origin, none⟩]) []

def foreignKeys (t : Table) (columns : List ColumnDef) (rules : List TableRule) :
    Except Fault (List ForeignKey) := do
  let make (cs : List String) (r : Reference) : Except Fault ForeignKey := do
    let places ← cs.mapM fun c =>
      match t.column? c with
      | some i => .ok i
      | none => .error (.of ("unknown column \"" ++ c ++ "\" in foreign key definition"))
    if !r.columns.isEmpty && r.columns.length ≠ cs.length then
      match cs with
      | [c] => throw (.of ("foreign key on " ++ c ++ " should reference only one column of table " ++
          r.table))
      | _ => throw (.of ("number of columns in foreign key does not match the number of columns in " ++
          "the referenced table"))
    return ⟨places, r.table, r.columns, r.onDelete, r.onUpdate⟩
  let ofColumns ← (columns.flatMap fun c => c.rules.filterMap fun
    | .references r => some (c.name.text, r)
    | _ => none).mapM fun (c, r) => make [c] r
  let ofRules ← (rules.filterMap fun
    | .foreignKey cs r => some (cs, r)
    | _ => none).mapM fun (cs, r) => make cs r
  return ofColumns ++ ofRules

def strictTypes : List String := ["INT", "INTEGER", "REAL", "TEXT", "BLOB", "ANY"]

def Table.define (d : Contents) (name : String) (columns : List ColumnDef) (rules : List TableRule)
    (withoutRowid strict : Bool) (sql : String) : Except Fault (Table × List Index) := do
  let names := columns.map (·.name.text)
  if let some (n, _) := names.zipIdx.find? fun (n, i) => (names.take i).any (sameName · n) then
    throw (.of ("duplicate column name: " ++ n))
  let made ← columns.mapM ColumnDef.column
  let keys := keyClauses columns rules
  if 1 < keys.length then throw (.of ("table \"" ++ name ++ "\" has more than one primary key"))
  let key := keys.head?
  let bare : Table := ⟨name, made, none, .abort, false, withoutRowid, strict, [], [], sql, []⟩
  let keyPlaces ← (key.map (·.columns)).getD [] |>.mapM fun c => do
    return ((← columnPart bare c).column.getD 0)
  let single? := match keyPlaces with
    | [i] => made[i]?.map fun c => (i, c)
    | _ => none
  let numberColumn := match key, single? with
    | some k, some (i, c) =>
      if !withoutRowid && sameName c.type "INTEGER" && !k.descending then some i else none
    | _, _ => none
  if key.any (·.increasing) then
    if withoutRowid then throw (.of "AUTOINCREMENT not allowed on WITHOUT ROWID tables")
    if numberColumn.isNone then
      throw (.of "AUTOINCREMENT is only allowed on an INTEGER PRIMARY KEY")
  if withoutRowid && key.isNone then throw (.of ("PRIMARY KEY missing on table " ++ name))
  if made.all (·.generated.isSome) then
    throw (.of "must have at least one non-generated column")
  if keyPlaces.any fun i => (made[i]?).any (·.generated.isSome) then
    throw (.of "generated columns cannot be part of the PRIMARY KEY")
  if strict then
    if let some c := made.find? fun c => !strictTypes.any (sameName · c.type) then
      if c.type.isEmpty then throw (.of ("missing datatype for " ++ name ++ "." ++ c.name))
      throw (.of ("unknown datatype for " ++ name ++ "." ++ c.name ++ ": \"" ++ c.type ++ "\""))
  let placed := made.zipIdx.map fun (c, i) =>
    let place := (keyPlaces.findIdx? (· == i)).elim 0 (· + 1)
    let needed := withoutRowid && 0 < place || strict && 0 < place && numberColumn.isNone
    { c with keyPlace := place
             affinity := if strict && sameName c.type "ANY" then .blob else c.affinity
             notNull := if needed then c.notNull.or (some .abort) else c.notNull }
  let checks := columns.flatMap (fun c => c.rules.filterMap fun
      | .check n e written => some (⟨n, e, written⟩ : Check)
      | _ => none) ++
    rules.filterMap fun
      | .check n e written => some ⟨n, e, written⟩
      | _ => none
  let table : Table :=
    { bare with columns := placed, numberColumn := numberColumn
                numberConflict := (key.bind (·.conflict)).getD .abort
                increasing := key.any (·.increasing), checks := checks }
  let references ← foreignKeys table columns rules
  let context := table.context d
  checks.forM fun c => do let _ ← c.term.term context
  placed.forM fun c => do
    if let some (e, _) := c.generated then let _ ← e.term context
  return ({ table with references := references }, ← ownIndexes table key (uniqueClauses columns rules))

def indexPart (d : Contents) (t : Table) (e : Expr) (collation : Option String) (descending : Bool) :
    Except Fault IndexPart := do
  let asked ← match collation with
    | none => pure none
    | some n =>
      match Collation.named? n with
      | some k => pure (some k)
      | none => throw (.of ("no such collation sequence: " ++ n))
  let term ← e.term (t.context d)
  match term with
  | .cell 0 i _ own =>
    return ⟨if i < t.columns.length then some i else none, e, (asked.or own).getD .binary, descending⟩
  | _ => return ⟨none, e, (asked.or term.collation?).getD .binary, descending⟩

def quotedName (n : String) : String :=
  "\"" ++ String.ofList (n.toList.flatMap fun c => if c = '"' then ['"', '"'] else [c]) ++ "\""

def writtenName (n : String) : String :=
  let plain := match n.toList with
    | c :: cs => (c.isAlpha || c = '_') && cs.all (fun c => c.isAlphanum || c = '_') &&
        !(Token.reserved ++ Token.joinWords).any (sameName · n)
    | [] => false
  if plain then n else quotedName n

def Affinity.typeName : Affinity → String
  | .blob => ""
  | .text => "TEXT"
  | .numeric => "NUM"
  | .integer => "INT"
  | .real => "REAL"

def Table.ofFields (name : String) (fields : List Field) : Table :=
  let columns := fields.map fun f =>
    let a := f.affinity.getD .blob
    (⟨f.name, a.typeName, a, .binary, none, none, none, 0⟩ : Column)
  let size := (columns.map fun c => c.name.length + 7).foldl (· + ·) (name.length + 2)
  let parts := columns.map fun c =>
    writtenName c.name ++ (if c.type.isEmpty then "" else " " ++ c.type)
  let body := if size < 50 then "(" ++ ",".intercalate parts ++ ")"
    else "(\n  " ++ ",\n  ".intercalate parts ++ "\n)"
  ⟨name, columns, none, .abort, false, false, false, [], [],
    "CREATE TABLE " ++ writtenName name ++ body, []⟩

end QueryWarden.Database
