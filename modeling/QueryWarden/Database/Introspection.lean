import QueryWarden.Database.Plan
import QueryWarden.Text.Utf8

/-! What a database tells about itself: the columns, indexes and references of a table, the tables, and
the settings. -/
namespace QueryWarden.Database

def fixedSettings : List (String × Value) :=
  [("foreign_keys", .integer 1), ("encoding", .ofString "UTF-8"), ("page_size", .integer 4096),
    ("freelist_count", .integer 0), ("journal_mode", .ofString "delete"), ("synchronous", .integer 2),
    ("cache_size", .integer (-2000)), ("auto_vacuum", .integer 0), ("cache_spill", .integer 483),
    ("automatic_index", .integer 1), ("cell_size_check", .integer 0), ("checkpoint_fullfsync", .integer 0),
    ("count_changes", .integer 0), ("defer_foreign_keys", .integer 0),
    ("empty_result_callbacks", .integer 0), ("full_column_names", .integer 0), ("fullfsync", .integer 0),
    ("ignore_check_constraints", .integer 0), ("journal_size_limit", .integer (-1)),
    ("legacy_alter_table", .integer 0), ("locking_mode", .ofString "normal"),
    ("max_page_count", .integer 4294967294), ("mmap_size", .integer 0), ("query_only", .integer 0),
    ("read_uncommitted", .integer 0), ("recursive_triggers", .integer 0),
    ("reverse_unordered_selects", .integer 0), ("secure_delete", .integer 0),
    ("short_column_names", .integer 1), ("soft_heap_limit", .integer 0), ("hard_heap_limit", .integer 0),
    ("temp_store", .integer 0), ("threads", .integer 0), ("trusted_schema", .integer 1),
    ("wal_autocheckpoint", .integer 1000), ("writable_schema", .integer 0), ("data_version", .integer 1),
    ("analysis_limit", .integer 0)]

def Contents.setting? (d : Contents) (name : String) : Option Value :=
  if sameName name "user_version" then some (.integer d.userVersion)
  else if sameName name "application_id" then some (.integer d.applicationId)
  else if sameName name "schema_version" then some (.integer d.version)
  else (fixedSettings.find? (sameName ·.1 name)).map (·.2)

def IndexOrigin.letter : IndexOrigin → String
  | .created => "c"
  | .unique => "u"
  | .primaryKey => "pk"

namespace TableFunction

def fields : TableFunction → List (String × Affinity)
  | .columns generated =>
    [("cid", .integer), ("name", .text), ("type", .text), ("notnull", .integer), ("dflt_value", .text),
      ("pk", .integer)] ++ (if generated then [("hidden", .integer)] else [])
  | .indexList =>
    [("seq", .integer), ("name", .text), ("unique", .integer), ("origin", .text), ("partial", .integer)]
  | .indexColumns extended =>
    [("seqno", .integer), ("cid", .integer), ("name", .text)] ++
      (if extended then [("desc", .integer), ("coll", .text), ("key", .integer)] else [])
  | .foreignKeys =>
    [("id", .integer), ("seq", .integer), ("table", .text), ("from", .text), ("to", .text),
      ("on_update", .text), ("on_delete", .text), ("match", .text)]
  | .tableList =>
    [("schema", .text), ("name", .text), ("type", .text), ("ncol", .integer), ("wr", .integer),
      ("strict", .integer)]
  | .setting name => [(name, .numeric)]

def named? (name : String) : Option TableFunction :=
  if sameName name "table_info" then some (.columns false)
  else if sameName name "table_xinfo" then some (.columns true)
  else if sameName name "index_list" then some .indexList
  else if sameName name "index_info" then some (.indexColumns false)
  else if sameName name "index_xinfo" then some (.indexColumns true)
  else if sameName name "foreign_key_list" then some .foreignKeys
  else if sameName name "table_list" then some .tableList
  else if Contents.empty.setting? name |>.isSome then some (.setting (lower name))
  else none
where
  /-- A name in small letters. -/
  lower (s : String) : String := String.ofList (s.toList.map Char.toLower)

def columnRows (generated : Bool) (t : Table) : List (List Value) :=
  let shown := t.columns.filter fun c => generated || c.generated.isNone
  shown.zipIdx.map fun (c, i) =>
    [.integer i, .ofString c.name, .ofString c.type, .ofBool c.notNull.isSome,
      (c.default.map fun d => Value.ofString d.2).getD .null, .integer c.keyPlace] ++
    (if generated then
      [.integer (match c.generated with
        | some (_, stored) => if stored then 3 else 2
        | none => 0)]
    else [])

def partRows (extended : Bool) (d : Contents) (i : Index) : List (List Value) :=
  let nameOf (column : Option Nat) : Value :=
    match column, d.table? i.table with
    | some c, some t => ((t.columns[c]?).map fun c => Value.ofString c.name).getD .null
    | _, _ => .null
  let parts := i.parts.zipIdx.map fun (p, n) =>
    [Value.integer n, .integer (p.column.elim (-2) Int.ofNat), nameOf p.column] ++
      (if extended then [.ofBool p.descending, .ofString p.collation.name, .integer 1] else [])
  if extended then
    parts ++ [[.integer i.parts.length, .integer (-1), .null, .integer 0, .ofString "BINARY", .integer 0]]
  else parts

def referenceRows (t : Table) : List (List Value) :=
  (t.references.reverse.zipIdx.map fun (k, id) =>
    (k.columns.zipIdx.map fun (c, seq) =>
      [.integer id, .integer seq, .ofString k.target,
        ((t.columns[c]?).map fun c => Value.ofString c.name).getD .null,
        ((k.targetColumns[seq]?).map Value.ofString).getD .null,
        .ofString k.onUpdate, .ofString k.onDelete, .ofString "NONE"])).flatten

def tableRows (d : Contents) : List (List Value) :=
  let own := d.objects.filterMap fun
    | .table t => some [Value.ofString "main", .ofString t.name, .ofString "table",
        .integer t.columns.length, .ofBool t.withoutRowid, .ofBool t.strict]
    | .view v => some [Value.ofString "main", .ofString v.name, .ofString "view",
        .integer v.columns.length, .integer 0, .integer 0]
    | _ => none
  let catalogue (schema name : String) : List Value :=
    [.ofString schema, .ofString name, .ofString "table", .integer 5, .integer 0, .integer 0]
  own.reverse ++ [catalogue "main" "sqlite_schema", catalogue "temp" "sqlite_temp_schema"]

def rows (d : Contents) (f : TableFunction) (arguments : List Value) : List (List Value) :=
  let name := match Text.Utf8.decode (((arguments.head?.getD .null).bytes?).getD []) with
    | .ok cs => String.ofList cs
    | .error _ => ""
  match f with
  | .columns generated => ((d.table? name).map (columnRows generated)).getD []
  | .indexList =>
    (d.indexesOf name).reverse.zipIdx.map fun (i, n) =>
      [.integer n, .ofString i.name, .ofBool i.unique.isSome, .ofString i.origin.letter,
        .ofBool i.filter.isSome]
  | .indexColumns extended => ((d.index? name).map (partRows extended d)).getD []
  | .foreignKeys => ((d.table? name).map referenceRows).getD []
  | .tableList => (tableRows d).filter fun r => arguments.isEmpty ||
      (r[1]?.getD Value.null).compare .noCase (.ofString name) = .eq
  | .setting s => [[(d.setting? s).getD .null]]

end TableFunction
end QueryWarden.Database
