import QueryWarden.Database.Storage.Record

/-! Reading the pages of a database file. Tables are trees whose leaves hold records under their numbers;
indexes are trees that hold records alone. What does not fit into a page goes on in others. -/
namespace QueryWarden.Database.Storage

structure Image where
  bytes : Array UInt8
  pageSize : Nat
  usable : Nat

namespace Image

def byte (i : Image) (at_ : Nat) : UInt8 := i.bytes[at_]?.getD 0

def slice (i : Image) (at_ count : Nat) : List UInt8 := (List.range count).map fun n => i.byte (at_ + n)

def number (i : Image) (at_ count : Nat) : Nat := ofBigEndian (i.slice at_ count)

def startOf (i : Image) (page : Nat) : Nat := (page - 1) * i.pageSize

def pages (i : Image) : Nat := i.bytes.size / i.pageSize

def localSize (usable size : Nat) (isTable : Bool) : Nat :=
  let most := if isTable then usable - 35 else (usable - 12) * 64 / 255 - 23
  if size ≤ most then size
  else
    let least := (usable - 12) * 32 / 255 - 23
    let k := least + (size - least) % (usable - 4)
    if k ≤ most then k else least

def overflow (i : Image) : (bound page left : Nat) → List UInt8
  | 0, _, _ => []
  | bound + 1, page, left =>
    if left = 0 || page = 0 then []
    else
      let start := i.startOf page
      let here := min left (i.usable - 4)
      i.slice (start + 4) here ++ i.overflow bound (i.number start 4) (left - here)

def record (i : Image) (at_ size : Nat) (isTable : Bool) : List UInt8 :=
  let own := localSize i.usable size isTable
  i.slice at_ own ++
    (if own < size then i.overflow (i.pages + 1) (i.number (at_ + own) 4) (size - own) else [])

def varying (i : Image) (at_ : Nat) : Nat × Nat :=
  let bs := i.slice at_ 9
  let (n, rest) := decodeNumber bs
  (n, at_ + (9 - rest.length))

/-- The records of a tree in their order, each with its number; those of an index have none. `bound`
bounds how many pages lie on a way. -/
def tree (i : Image) : (bound page : Nat) → Except String (List (Int × List UInt8))
  | 0, _ => .error "database disk image is malformed"
  | bound + 1, page =>
    if page = 0 || i.pages < page then .error "database disk image is malformed"
    else
      let base := i.startOf page
      let header := if page = 1 then base + 100 else base
      let kind := (i.byte header).toNat
      let cells := i.number (header + 3) 2
      let leaf := kind = 13 || kind = 10
      let pointers := header + (if leaf then 8 else 12)
      let place (n : Nat) : Nat := base + i.number (pointers + 2 * n) 2
      match kind with
      | 13 => .ok ((List.range cells).map fun n =>
        let (size, at_) := i.varying (place n)
        let (number, at_) := i.varying at_
        (signed number, i.record at_ size true))
      | 5 => do
        let inner ← (List.range cells).mapM fun n => i.tree bound (i.number (place n) 4)
        return inner.flatten ++ (← i.tree bound (i.number (header + 8) 4))
      | 10 => .ok ((List.range cells).map fun n =>
        let (size, at_) := i.varying (place n)
        (0, i.record at_ size false))
      | 2 => do
        let inner ← (List.range cells).mapM fun n => do
          let below ← i.tree bound (i.number (place n) 4)
          let (size, at_) := i.varying (place n + 4)
          return below ++ [((0 : Int), i.record at_ size false)]
        return inner.flatten ++ (← i.tree bound (i.number (header + 8) 4))
      | _ => .error "database disk image is malformed"

def rows (i : Image) (page : Nat) : Except String (List (Int × List Value)) :=
  (i.tree 40 page).map fun rs => rs.map fun (n, bs) => (n, decodeRecord bs)

def mark : List UInt8 := Text.Utf8.bytes "SQLite format 3" ++ [0]

def open? (bytes : List UInt8) : Except String Image :=
  if mark.isPrefixOf bytes && 100 ≤ bytes.length then
    let whole : Image := ⟨bytes.toArray, 4096, 4096⟩
    let size := match whole.number 16 2 with
      | 1 => 65536
      | n => n
    if size < 512 then .error "file is not a database"
    else .ok ⟨whole.bytes, size, size - (whole.byte 20).toNat⟩
  else .error "file is not a database"

end Image
end QueryWarden.Database.Storage
