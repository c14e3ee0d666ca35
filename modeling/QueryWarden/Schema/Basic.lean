import QueryWarden.Wire.Shape
import QueryWarden.Text.Blank

/-! The layout of a database: tables with their columns, and the text in which a generator is told of
it, one line for each table. -/
namespace QueryWarden.Schema
open Wire

/-- A column and its type as it was declared, which may be empty. -/
structure Column where
  name : String
  declaredType : String
deriving Repr, DecidableEq

/-- A table and its columns in the order of their declaration. -/
structure Table where
  name : String
  columns : List Column
deriving Repr, DecidableEq

/-- The tables of a database and when they were looked up. -/
structure Snapshot where
  tables : List Table
  capturedAt : Instant
deriving Repr, DecidableEq

def Snapshot.table? (s : Snapshot) (name : String) : Option Table :=
  s.tables.find? (·.name == name)

def Column.promptText (c : Column) : String := Text.trimEnd (c.name ++ " " ++ c.declaredType)

def Table.promptLine (t : Table) : String :=
  t.name ++ " (" ++ ", ".intercalate (t.columns.map Column.promptText) ++ ")\n"

/-- The layout as a generator is told it. -/
def promptText (tables : List Table) : String := String.join (tables.map Table.promptLine)

def Column.wire : Shape :=
  .record "Column" false <| .required "name" .plainText <| .required "declared_type" .plainText .nil

def Table.wire : Shape :=
  .record "TableSchema" false <|
    .required "name" .plainText <| .required "columns" (.list Column.wire) .nil

def Snapshot.wire : Shape :=
  .record "SchemaDefinition" false <|
    .required "tables" (.list Table.wire) <| .required "captured_at" .instant .nil

def Column.ofValue : Column.wire.Value → Column
  | (name, declaredType, ()) => ⟨name, declaredType⟩

def Column.toValue (c : Column) : Column.wire.Value := (c.name, c.declaredType, ())

def Table.ofValue : Table.wire.Value → Table
  | (name, columns, ()) => ⟨name, columns.map Column.ofValue⟩

def Table.toValue (t : Table) : Table.wire.Value := (t.name, t.columns.map Column.toValue, ())

def Snapshot.ofValue : Snapshot.wire.Value → Snapshot
  | (tables, capturedAt, ()) => ⟨tables.map Table.ofValue, capturedAt⟩

def Snapshot.toValue (s : Snapshot) : Snapshot.wire.Value :=
  (s.tables.map Table.toValue, s.capturedAt, ())

def Snapshot.toJson (s : Snapshot) : Json := Snapshot.wire.encode s.toValue

end QueryWarden.Schema
