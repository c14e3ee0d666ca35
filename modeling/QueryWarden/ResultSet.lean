import QueryWarden.Json.Basic
import QueryWarden.Text.Base64

/-! Result sets: rows of named cells. A row is written as an object with its cells in column order,
repeated names included; a result set is the list of its rows. -/
namespace QueryWarden

inductive Cell where
  | text (value : String)
  | integer (value : Int)
  | real (value : Float)
  | boolean (value : Bool)
  | null
  | binary (bytes : List UInt8)

/-- A row: its cells under their column names, in column order. -/
structure Row where
  cells : List (String × Cell)

structure ResultSet where
  columns : List String
  rows : List Row

/-- A cell as JSON: bytes in Base64, and `null` for a real number that JSON cannot spell. -/
def Cell.toJson : Cell → Json
  | .text s => .str s
  | .integer n => .int n
  | .real x => .real x
  | .boolean b => .bool b
  | .null => .null
  | .binary bytes => .str (Text.Base64.encodeText bytes)

def Row.get? (row : Row) (name : String) : Option Cell :=
  (row.cells.find? (·.1 == name)).map (·.2)

def Row.toJson (row : Row) : Json := .obj (row.cells.map fun (name, cell) => (name, cell.toJson))

def ResultSet.toJson (r : ResultSet) : Json := .arr (r.rows.map Row.toJson)

def Row.ofCells (columns : List String) (cells : List Cell) : Row := ⟨columns.zip cells⟩

end QueryWarden
