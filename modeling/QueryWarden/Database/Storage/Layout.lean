import QueryWarden.Database.Storage.Image

/-! Laying out records in pages: trees are filled from the first leaf to the last, and levels are put on
top until one page is enough. -/
namespace QueryWarden.Database.Storage

def pageSize : Nat := 4096

structure Pages where
  written : List (Nat × List UInt8)
  free : List Nat
  next : Nat

abbrev Layout := StateM Pages

def newPage : Layout Nat := do
  let s ← get
  match s.free with
  | p :: rest =>
    set { s with free := rest }
    return p
  | [] =>
    set { s with next := s.next + 1 }
    return s.next

def keep (page : Nat) (bytes : List UInt8) : Layout Unit :=
  modify fun s => { s with written := (page, bytes) :: s.written }

/-- Writes what of a record goes on in other pages and gives the first of them; `bound` bounds their
number. -/
def spill : (bound : Nat) → List UInt8 → Layout Nat
  | 0, _ => return 0
  | bound + 1, bs => do
    if bs.isEmpty then return 0
    let page ← newPage
    let rest ← spill bound (bs.drop (pageSize - 4))
    let here := bs.take (pageSize - 4)
    keep page (bigEndian 4 rest ++ here ++ List.replicate (pageSize - 4 - here.length) 0)
    return page

def inCell (isTable : Bool) (record : List UInt8) : Layout (List UInt8) := do
  let own := Image.localSize pageSize record.length isTable
  if own = record.length then return record
  let rest := record.drop own
  return record.take own ++ bigEndian 4 (← spill (rest.length + 1) rest)

structure Content where
  kind : UInt8
  cells : List (List UInt8)
  last : Option Nat

def capacity (isFirst isLeaf : Bool) : Nat :=
  pageSize - (if isFirst then 100 else 0) - (if isLeaf then 8 else 12)

def weightOf (cells : List (List UInt8)) : Nat := (cells.map fun c => c.length + 2).foldl (· + ·) 0

def Content.bytes (c : Content) (before : List UInt8) : List UInt8 :=
  let (places, _) := c.cells.foldl (fun (places, at_) cell =>
    (places ++ [at_ - cell.length], at_ - cell.length)) (([] : List Nat), pageSize)
  let start := places.getLast?.getD pageSize
  let header := c.kind :: bigEndian 2 0 ++ bigEndian 2 c.cells.length ++ bigEndian 2 (start % 65536) ++ [0] ++
    ((c.last.map (bigEndian 4)).getD [])
  let front := before ++ header ++ places.flatMap (bigEndian 2)
  front ++ List.replicate (start - front.length) 0 ++ c.cells.reverse.flatten

def packed (room : Nat) (cells : List (List UInt8 × Int)) : List (List (List UInt8 × Int)) :=
  let (groups, last, _) := cells.foldl (fun (groups, open_, used) c =>
    let size := c.1.length + 2
    if open_.isEmpty || used + size ≤ room then (groups, c :: open_, used + size)
    else (open_.reverse :: groups, [c], size))
    (([] : List (List (List UInt8 × Int))), ([] : List (List UInt8 × Int)), 0)
  (if last.isEmpty then groups else last.reverse :: groups).reverse

def tableTop (isFirst : Bool) : (bound : Nat) → List (Nat × Int) → Layout Content
  | 0, _ => return ⟨13, [], none⟩
  | bound + 1, pages => do
    let cellOf (p : Nat × Int) : List UInt8 × Int :=
      (bigEndian 4 p.1 ++ encodeNumber (unsignedOf p.2), p.2)
    let cells := pages.dropLast.map cellOf
    let last := (pages.getLast?.map (·.1)).getD 0
    if weightOf (cells.map (·.1)) ≤ capacity isFirst false then
      return ⟨5, cells.map (·.1), some last⟩
    let groups := packed (capacity false false) (pages.map cellOf)
    let upper ← groups.mapM fun g => do
      let page ← newPage
      let below := (g.getLast?.map fun c => ofBigEndian (c.1.take 4)).getD 0
      keep page ((Content.mk 5 (g.dropLast.map (·.1)) (some below)).bytes [])
      return (page, (g.getLast?.map (·.2)).getD 0)
    tableTop isFirst bound upper

def tableRoot (isFirst : Bool) (records : List (Int × List UInt8)) : Layout Content := do
  let cells ← records.mapM fun (n, r) => do
    return (encodeNumber r.length ++ encodeNumber (unsignedOf n) ++ (← inCell true r), n)
  if weightOf (cells.map (·.1)) ≤ capacity isFirst true then return ⟨13, cells.map (·.1), none⟩
  let leaves ← (packed (capacity false true) cells).mapM fun g => do
    let page ← newPage
    keep page ((Content.mk 13 (g.map (·.1)) none).bytes [])
    return (page, (g.getLast?.map (·.2)).getD 0)
  tableTop isFirst 20 leaves

def separated (room : Nat) (cells : List (List UInt8)) : List (List (List UInt8) × Option (List UInt8)) :=
  let (groups, last, _) := cells.foldl (fun (groups, open_, used) c =>
    let size := c.length + 2
    if open_.isEmpty || used + size ≤ room then (groups, c :: open_, used + size)
    else ((open_.reverse, some c) :: groups, [], 0))
    (([] : List (List (List UInt8) × Option (List UInt8))), ([] : List (List UInt8)), 0)
  match last, groups with
  | [], (cs, some c) :: rest => (([c], none) :: (cs.dropLast, cs.getLast?) :: rest).reverse
  | cs, gs => ((cs.reverse, none) :: gs).reverse

def indexTop : (bound : Nat) → List (Nat × Option (List UInt8)) → Layout Content
  | 0, _ => return ⟨10, [], none⟩
  | bound + 1, pages => do
    let cells := pages.filterMap fun (p, c) => c.map fun c => bigEndian 4 p ++ c
    let last := (pages.getLast?.map (·.1)).getD 0
    if weightOf cells ≤ capacity false false then return ⟨2, cells, some last⟩
    let groups := chunks (capacity false false) pages
    let upper ← groups.mapM fun g => do
      let page ← newPage
      let inner := g.dropLast.filterMap fun (p, c) => c.map fun c => bigEndian 4 p ++ c
      keep page ((Content.mk 2 inner (g.getLast?.map (·.1))).bytes [])
      return (page, g.getLast?.bind (·.2))
    indexTop bound upper
where
  /-- Pages put into groups whose cells fit into one. -/
  chunks (room : Nat) (pages : List (Nat × Option (List UInt8))) :
      List (List (Nat × Option (List UInt8))) :=
    let (groups, last, _) := pages.foldl (fun (groups, open_, used) p =>
      let size := (p.2.map (·.length)).getD 0 + 6
      if open_.length < 2 || used + size ≤ room then (groups, p :: open_, used + size)
      else (open_.reverse :: groups, [p], size))
      (([] : List (List (Nat × Option (List UInt8)))), ([] : List (Nat × Option (List UInt8))), 0)
    (if last.isEmpty then groups else last.reverse :: groups).reverse

def indexRoot (records : List (List UInt8)) : Layout Content := do
  let cells ← records.mapM fun r => do return encodeNumber r.length ++ (← inCell false r)
  if weightOf cells ≤ capacity false true then return ⟨10, cells, none⟩
  let leaves ← (separated (capacity false true) cells).mapM fun (g, between) => do
    let page ← newPage
    keep page ((Content.mk 10 g none).bytes [])
    return (page, between)
  indexTop 20 leaves

end QueryWarden.Database.Storage
