import QueryWarden.Proofs.Json.Ordered
import QueryWarden.Proofs.Text.Base64
import QueryWarden.ResultSet

/-! What is written for a result set: the text of it, read in order, has every cell of every row at its
place, and the unordered value has the last cell of each name. Where no name is repeated, this is the cell
that looking up the name gives. -/
namespace QueryWarden
open Json

/-- JSON that stands for a cell: bytes are a text in Base64 that is read as them. -/
inductive Cell.Written : Cell → Json → Prop where
  | text (s : String) : Written (.text s) (.str s)
  | integer (n : Int) : Written (.integer n) (.num (.int n))
  | boolean (b : Bool) : Written (.boolean b) (.bool b)
  | null : Written .null .null
  | binary {bytes : List UInt8} {s : String} (read : Text.Base64.decode s.toList = some bytes) :
      Written (.binary bytes) (.str s)

/-- A cell that is no real number; its integer has 64 bits. -/
def Cell.Exact : Cell → Prop
  | .real _ => False
  | .integer n => -9223372036854775808 ≤ n ∧ n ≤ 9223372036854775807
  | _ => True

instance : (c : Cell) → Decidable c.Exact
  | .real _ => isFalse id
  | .integer _ => inferInstanceAs (Decidable (_ ∧ _))
  | .text _ | .boolean _ | .null | .binary _ => isTrue trivial

def ResultSet.Exact (r : ResultSet) : Prop := ∀ row ∈ r.rows, ∀ cell ∈ row.cells, cell.2.Exact

instance (r : ResultSet) : Decidable r.Exact :=
  inferInstanceAs (Decidable (∀ row ∈ r.rows, ∀ cell ∈ row.cells, cell.2.Exact))

theorem Cell.Exact.written {c : Cell} (exact : c.Exact) : c.Written c.toJson := by
  cases c with
  | text s => exact .text s
  | integer n => exact .integer n
  | real x => exact exact.elim
  | boolean b => exact .boolean b
  | null => exact .null
  | binary bytes =>
    have read : Text.Base64.decode (Text.Base64.encodeText bytes).toList = some bytes := by
      rw [Text.Base64.encodeText, String.toList_ofList]
      exact Text.Base64.decode_encode bytes
    exact .binary read

theorem Cell.Exact.toJson {c : Cell} (exact : c.Exact) (depth : Nat) : Json.Exact depth c.toJson := by
  cases c with
  | text s => exact .str s
  | integer n =>
    obtain ⟨least, most⟩ := exact
    have low : (Nat.pow 2 63 : Int) = 9223372036854775808 := rfl
    have high : greatestNatural = 18446744073709551615 := rfl
    exact .int ⟨by omega, by omega⟩
  | real x => exact exact.elim
  | boolean b => exact .bool b
  | null => exact .null
  | binary bytes => exact .str _

theorem Cell.sorted_toJson (c : Cell) : sorted c.toJson = c.toJson := by
  cases c with
  | real x =>
    rw [Cell.toJson, Json.real]
    split_ifs <;> rw [sorted] <;> simp
  | _ => rw [Cell.toJson, sorted] <;> simp [Json.int]

namespace Row

def members (row : Row) : List (String × Json) := row.cells.map fun (name, cell) => (name, cell.toJson)

theorem toJson_eq (row : Row) : row.toJson = .obj row.members := rfl

theorem names_members (row : Row) : row.members.map (·.1) = row.cells.map (·.1) := by
  simp [members]

theorem sorted_toJson (row : Row) : sorted row.toJson = .obj (sortMembers row.members) := by
  have cells : sortedMembers row.members = row.members := by
    simp [sortedMembers_eq_map, members, Cell.sorted_toJson]
  rw [toJson_eq, sorted, cells]

/-- Where a name stands once, it has the cell that looking it up gives. -/
theorem lookup_members {row : Row} (nodup : (row.cells.map (·.1)).Nodup) (name : String) :
    lookup name row.members = (row.get? name).map Cell.toJson := by
  obtain ⟨cells⟩ := row
  induction cells with
  | nil => rfl
  | cons cell rest ih =>
    obtain ⟨other, value⟩ := cell
    obtain ⟨fresh, nodup⟩ := List.nodup_cons.mp nodup
    have later := ih nodup
    simp only [members, get?, List.map_cons, lookup_cons] at later ⊢
    by_cases same : other = name
    · subst same
      have absent : lookup other (rest.map fun (name, cell) => (name, cell.toJson)) = none :=
        lookup_eq_none_iff.mpr (by simpa using fresh)
      rw [absent, List.find?_cons_of_pos (by simp), if_pos rfl]
      rfl
    · rw [later, List.find?_cons_of_neg (by simpa using same), if_neg same, Option.or_none]

/-- A row, the members that are written for it, and those of its unordered value. -/
structure Views (row : Row) (written merged : List (String × Json)) : Prop where
  /-- Every cell is written at its place under its name. -/
  cells : List.Forall₂ (fun cell m => m.1 = cell.1 ∧ cell.2.Written m.2) row.cells written
  /-- Each name stands once in the unordered value. -/
  ascending : Ascending merged
  /-- Of the members of a name the last one is kept. -/
  last : ∀ m, m ∈ merged ↔ IsLast m written
  /-- Where no name is repeated, every name is kept, with the cell that it looks up. -/
  distinct : (row.cells.map (·.1)).Nodup →
    (merged.map (·.1)).Perm (row.cells.map (·.1)) ∧
      ∀ name, lookup name merged = (row.get? name).map Cell.toJson

theorem views (row : Row) (exact : ∀ cell ∈ row.cells, cell.2.Exact) :
    row.Views row.members (sortMembers row.members) := by
  refine ⟨?_, ascending_sortMembers _, fun m => mem_sortMembers_iff, fun nodup => ?_⟩
  · rw [members, List.forall₂_map_right_iff, List.forall₂_same]
    exact fun cell among => ⟨rfl, (exact cell among).written⟩
  · refine ⟨?_, fun name => ?_⟩
    · rw [← names_members] at nodup ⊢
      exact names_sortMembers nodup
    · rw [lookup_sortMembers, lookup_members nodup]

end Row

namespace ResultSet
variable {r : ResultSet}

theorem Exact.toJson (exact : r.Exact) (depth : Nat) : Json.Exact (depth + 2) r.toJson := by
  refine .arr fun item among => ?_
  obtain ⟨row, there, rfl⟩ := List.mem_map.mp among
  refine .obj fun m among => ?_
  obtain ⟨cell, within, rfl⟩ := List.mem_map.mp among
  exact (exact row there cell within).toJson depth

/-- The compact text of a result set without real numbers, read in order, is one object for each row, with
each cell at its place; its unordered value has the last member of each name. -/
theorem rows_read_back (exact : r.Exact) :
    ∃ views : List (List (String × Json) × List (String × Json)),
      parseOrdered r.toJson.compact = .ok (.arr (views.map fun v => .obj v.1)) ∧
      sorted r.toJson = .arr (views.map fun v => .obj v.2) ∧
      List.Forall₂ (fun row v => row.Views v.1 v.2) r.rows views := by
  refine ⟨r.rows.map fun row => (row.members, sortMembers row.members), ?_, ?_, ?_⟩
  · rw [parseOrdered_compact (exact.toJson 125), List.map_map]
    rfl
  · rw [ResultSet.toJson, sorted, sortedItems_eq_map, List.map_map, List.map_map]
    congr 2
    funext row
    exact row.sorted_toJson
  · rw [List.forall₂_map_right_iff, List.forall₂_same]
    exact fun row among => row.views (exact row among)

def mixedRows : ResultSet where
  columns := ["b", "a\"", "b"]
  rows := [
    ⟨[("b", .integer (-9223372036854775808)), ("a\"", .text "\\\n\u0001é"), ("b", .binary [255, 254])]⟩,
    ⟨[("b", .boolean true), ("", .null)]⟩]

theorem mixed_rows_read_back : mixedRows.Exact ∧
    ∃ views : List (List (String × Json) × List (String × Json)),
      parseOrdered mixedRows.toJson.compact = .ok (.arr (views.map fun v => .obj v.1)) ∧
      List.Forall₂ (fun row v => row.Views v.1 v.2) mixedRows.rows views := by
  have exact : mixedRows.Exact := by decide
  obtain ⟨views, read, -, all⟩ := rows_read_back exact
  exact ⟨exact, views, read, all⟩

end ResultSet
end QueryWarden
