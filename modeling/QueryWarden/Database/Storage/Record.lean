import QueryWarden.Database.Value

/-! How values are stored: numbers as bytes with the most significant first, numbers of varying length,
and records, which are a header with the kinds of their values before the values themselves. -/
namespace QueryWarden.Database.Storage

def bigEndian : (count : Nat) → Nat → List UInt8
  | 0, _ => []
  | count + 1, n => (n / Nat.pow 256 count % 256).toUInt8 :: bigEndian count n

def ofBigEndian (bs : List UInt8) : Nat := bs.foldl (fun n b => n * 256 + b.toNat) 0

def signedOf (bs : List UInt8) : Int :=
  let n := ofBigEndian bs
  if 2 * n < Nat.pow 256 bs.length then Int.ofNat n else Int.ofNat n - Int.ofNat (Nat.pow 256 bs.length)

def groups (n : Nat) : List UInt8 :=
  if n < 128 then [n.toUInt8] else groups (n / 128) ++ [(n % 128).toUInt8]
termination_by n

/-- A number of sixty-four bits: groups of seven bits, marked if another follows, and a ninth byte of
eight. -/
def encodeNumber (n : Nat) : List UInt8 :=
  let marked (gs : List UInt8) : List UInt8 := gs.map (· ||| 0x80)
  if n < Nat.pow 2 56 then
    let gs := groups n
    marked gs.dropLast ++ gs.drop (gs.length - 1)
  else
    let high := n / 256
    let gs := groups high
    marked (List.replicate (8 - gs.length) 0 ++ gs) ++ [(n % 256).toUInt8]

def decodeNumber (bs : List UInt8) : Nat × List UInt8 := go 8 0 bs
where
  /-- The rest of a number; `left` bytes of seven bits may still come. -/
  go (left n : Nat) : List UInt8 → Nat × List UInt8
    | [] => (n, [])
    | b :: bs =>
      match left with
      | 0 => (n * 256 + b.toNat, bs)
      | left + 1 => if b < 0x80 then (n * 128 + b.toNat, bs) else go left (n * 128 + b.toNat % 128) bs

def unsignedOf (n : Int) : Nat := (n % Int.pow 2 64).toNat

def signed (n : Nat) : Int := if n < Nat.pow 2 63 then Int.ofNat n else Int.ofNat n - Int.pow 2 64

def realBytes (x : Float) : List UInt8 := bigEndian 8 x.toBits.toNat

def encodeValue (v : Value) : Nat × List UInt8 :=
  match v with
  | .null => (0, [])
  | .integer n =>
    let fits (bits : Nat) : Bool := -(Int.pow 2 (bits - 1)) ≤ n && n < Int.pow 2 (bits - 1)
    if n = 0 then (8, [])
    else if n = 1 then (9, [])
    else if fits 8 then (1, bigEndian 1 (unsignedOf n))
    else if fits 16 then (2, bigEndian 2 (unsignedOf n))
    else if fits 24 then (3, bigEndian 3 (unsignedOf n))
    else if fits 32 then (4, bigEndian 4 (unsignedOf n))
    else if fits 48 then (5, bigEndian 6 (unsignedOf n))
    else (6, bigEndian 8 (unsignedOf n))
  | .real x => (7, realBytes x)
  | .blob bs => (12 + 2 * bs.length, bs)
  | .text bs => (13 + 2 * bs.length, bs)

def sizeOfKind (kind : Nat) : Nat :=
  match kind with
  | 1 => 1
  | 2 => 2
  | 3 => 3
  | 4 => 4
  | 5 => 6
  | 6 | 7 => 8
  | k => if 12 ≤ k then (k - 12) / 2 else 0

def decodeValue (kind : Nat) (bs : List UInt8) : Value :=
  match kind with
  | 0 | 10 | 11 => .null
  | 7 => Value.ofFloat (Float.ofBits (ofBigEndian bs).toUInt64)
  | 8 => .integer 0
  | 9 => .integer 1
  | k => if k < 12 then .integer (signedOf bs) else if k % 2 = 0 then .blob bs else .text bs

def encodeRecord (vs : List Value) : List UInt8 :=
  let parts := vs.map encodeValue
  let kinds := parts.flatMap fun p => encodeNumber p.1
  let size := kinds.length + 1
  let size := if size < 128 then size else size + 1
  encodeNumber size ++ kinds ++ parts.flatMap (·.2)

def decodeKinds : (bound : Nat) → List UInt8 → List Nat
  | 0, _ => []
  | _, [] => []
  | bound + 1, bs =>
    let (k, rest) := decodeNumber bs
    k :: decodeKinds bound rest

def decodeRecord (bs : List UInt8) : List Value :=
  let (size, rest) := decodeNumber bs
  let header := rest.take (size - (bs.length - rest.length))
  let body := bs.drop size
  ((decodeKinds header.length header).foldl (fun (out, left) k =>
    let n := sizeOfKind k
    (out ++ [decodeValue k (left.take n)], left.drop n)) (([] : List Value), body)).1

end QueryWarden.Database.Storage
