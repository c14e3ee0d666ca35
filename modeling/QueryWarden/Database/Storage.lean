import QueryWarden.Database.Script
import QueryWarden.Database.Storage.Layout

/-! A database as the bytes of a file, and back. The catalogue is the first tree; every table and index is
a tree of its own, and what the catalogue does not say in its statements is not kept. -/
namespace QueryWarden.Database.Storage

def isKept (c : Column) : Bool := c.generated.all (·.2)

def keptColumns (t : Table) : List Nat :=
  let all := (t.columns.zipIdx.filter fun (c, _) => isKept c).map (·.2)
  if t.withoutRowid then t.keyColumns ++ all.filter fun i => !t.keyColumns.contains i else all

def keptValues (t : Table) (r : Stored) : List Value :=
  (keptColumns t).map fun i => if t.numberColumn = some i then .null else r.at i

def restored (t : Table) (number : Int) (kept : List Value) : Writing Stored := do
  let places := keptColumns t
  let values ← t.columns.zipIdx.mapM fun (c, i) => do
    if t.numberColumn = some i then return Value.integer number
    match places.findIdx? (· == i) with
    | none => return .null
    | some k =>
      match kept[k]? with
      | some v => return c.affinity.read v
      | none => return c.affinity.read (c.affinity.apply (← c.default?))
  t.generate ⟨number, values⟩

def orderedRows (t : Table) : List Stored :=
  if t.withoutRowid then
    let key (r : Stored) : List Value := t.keyColumns.map r.at
    let cs := t.keyColumns.map fun i => ((t.columns[i]?).map (·.collation)).getD .binary
    t.rows.mergeSort fun a b => compareRows cs (key a) (key b) != .gt
  else t.rows

def indexRecords (d : Contents) (t : Table) (i : Index) : List (List UInt8) :=
  let entries := (t.rows.filterMapM fun r => do
    match ← i.key t r with
    | some key => return some (key, r)
    | none => return none : Writing (List (List Value × Stored)))
  match (entries.run.run (Session.start d 0)).1 with
  | .error _ => []
  | .ok entries =>
    let ds := i.parts.map fun p => (⟨p.collation, p.descending, !p.descending⟩ : Direction)
    let tail (r : Stored) : List Value :=
      if t.withoutRowid then
        (t.keyColumns.filter fun c => !i.parts.any (·.column == some c)).map r.at
      else [.integer r.number]
    (entries.mergeSort fun a b =>
      match compareIn ds a.1 b.1 with
      | .eq => compareRows [] (tail a.2) (tail b.2) != .gt
      | o => o == .lt).map fun (key, r) => encodeRecord (key ++ tail r)

def layObject (d : Contents) (e : Entry) : Layout Unit := do
  match e.object with
  | .table t =>
    if t.withoutRowid then
      let c ← indexRoot ((orderedRows t).map fun r => encodeRecord (keptValues t r))
      keep e.page (c.bytes [])
    else
      let c ← tableRoot false ((orderedRows t).map fun r => (r.number, encodeRecord (keptValues t r)))
      keep e.page (c.bytes [])
  | .index i =>
    match d.table? i.table with
    | some t =>
      if !d.isClustered i then
        let c ← indexRoot (indexRecords d t i)
        keep e.page (c.bytes [])
    | none => pure ()
  | _ => pure ()

def fileHeader (d : Contents) (pages freePage freeCount : Nat) : List UInt8 :=
  Image.mark ++ bigEndian 2 pageSize ++ [1, 1, 0, 64, 32, 32] ++ bigEndian 4 (d.version + 1) ++
    bigEndian 4 pages ++ bigEndian 4 freePage ++ bigEndian 4 freeCount ++ bigEndian 4 d.version ++
    bigEndian 4 4 ++ bigEndian 4 0 ++ bigEndian 4 0 ++ bigEndian 4 1 ++
    bigEndian 4 (unsignedOf d.userVersion) ++ bigEndian 4 0 ++ bigEndian 4 (unsignedOf d.applicationId) ++
    List.replicate 20 0 ++ bigEndian 4 (d.version + 1) ++ bigEndian 4 3046000

def layFree : Layout (Nat × Nat) := do
  let s ← get
  match s.free with
  | [] => return (0, 0)
  | p :: rest =>
    let named := rest.take 1000
    keep p (padTo (bigEndian 4 0 ++ bigEndian 4 named.length ++ named.flatMap (bigEndian 4)))
    named.forM fun q => keep q (padTo [])
    return (p, named.length + 1)
where
  /-- Bytes with zeros up to the size of a page. -/
  padTo (bs : List UInt8) : List UInt8 := bs ++ List.replicate (pageSize - bs.length) 0

def encode (d : Contents) : List UInt8 :=
  let roots := d.entries.map (·.page)
  let top := roots.foldl max 1
  let free := (List.range (top + 1)).filter fun p => 1 < p && !roots.contains p
  let lay : Layout (Content × Nat × Nat) := do
    d.entries.forM (layObject d)
    let rows := (d.catalogue false).zipIdx.map fun (r, i) => (Int.ofNat i + 1, encodeRecord r)
    let first ← tableRoot true rows
    return (first, ← layFree)
  let ((first, freePage, freeCount), s) := lay.run ⟨[], free, top + 1⟩
  let pages := s.next - 1
  let blank := List.replicate pageSize (0 : UInt8)
  first.bytes (fileHeader d pages freePage freeCount) ++
    ((List.range (pages - 1)).flatMap fun i => (s.written.lookup (i + 2)).getD blank)

structure CatalogueRow where
  kind : String
  name : String
  table : String
  page : Nat
  sql : Option String

def textOf (v : Value) : String :=
  match Text.Utf8.decode (v.bytes?.getD []) with
  | .ok cs => String.ofList cs
  | .error _ => ""

def CatalogueRow.ofValues (vs : List Value) : CatalogueRow :=
  let at_ (i : Nat) : Value := vs[i]?.getD .null
  ⟨textOf (at_ 0), textOf (at_ 1), textOf (at_ 2), (at_ 3).toInt.toNat,
    if (at_ 4).isNull then none else some (textOf (at_ 4))⟩

def malformed (name : String) : String := "malformed database schema (" ++ name ++ ")"

def addObject (image : Image) (d : Contents) (r : CatalogueRow) : Except String Contents := do
  let add (o : Object) : Contents := { d with entries := d.entries ++ [⟨o, r.page, false⟩] }
  let parsed? := r.sql.map statementOf
  match r.kind, parsed? with
  | "table", some (.ok (.createTable _ _ _ columns rules withoutRowid strict sql)) =>
    if (d.table? r.name).isSome then throw (malformed r.name ++ " - table " ++ r.name ++ " already exists")
    match Table.define d r.name columns rules withoutRowid strict sql with
    | .error f => throw (malformed r.name ++ " - " ++ f.message)
    | .ok (t, indexes) =>
      let kept ← image.rows r.page
      let rows := (kept.zipIdx.mapM fun ((n, vs), i) =>
        restored t (if withoutRowid then Int.ofNat i + 1 else n) vs : Writing (List Stored))
      match (rows.run.run (Session.start d 0)).1 with
      | .ok rows =>
        let d := add (.table { t with name := r.name, rows := rows })
        return { d with entries := d.entries ++
          (indexes.filter d.isClustered).map fun i => ⟨.index i, r.page, false⟩ }
      | .error f => throw f.message
  | "view", some (.ok (.createView _ _ n columns q sql)) => return add (.view ⟨n.text, columns, q, sql⟩)
  | "trigger", some (.ok (.createTrigger _ _ n time event on condition steps sql)) =>
    return add (.trigger ⟨n.text, on.text, time, event, condition, steps, sql⟩)
  | "index", some (.ok (.createIndex unique _ n on columns filter sql)) =>
    match d.table? on.text with
    | none => throw (malformed r.name)
    | some t =>
      match columns.mapM fun (e, c, down) => indexPart d t e c down with
      | .ok parts =>
        return add (.index ⟨n.text, t.name, parts, if unique then some .abort else none, filter, .created,
          some sql⟩)
      | .error f => throw (malformed r.name ++ " - " ++ f.message)
  | "index", none =>
    match d.table? r.table with
    | none => throw (malformed r.name)
    | some t =>
      match tableOf d t.name t.sql with
      | .ok (_, indexes) =>
        match indexes.find? (sameName ·.name r.name) with
        | some i => return add (.index i)
        | none => throw (malformed r.name)
      | .error _ => throw (malformed r.name)
  | _, _ => throw (malformed r.name)

/-- The database that bytes hold. A file without bytes is a database without anything. -/
def decode (bytes : List UInt8) : Except String Contents := do
  if bytes.isEmpty then return .empty
  let image ← Image.open? bytes
  let rows := (← image.rows 1).map fun r => CatalogueRow.ofValues r.2
  let start : Contents :=
    ⟨[], signedOf (image.slice 60 4), signedOf (image.slice 68 4), image.number 40 4, none⟩
  rows.foldlM (addObject image) start

end QueryWarden.Database.Storage
