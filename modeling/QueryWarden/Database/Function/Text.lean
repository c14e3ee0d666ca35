import QueryWarden.Database.Numeral

/-! Functions on texts: their characters, parts of them, and patterns that fit them. Texts are bytes, of
which those from `0x80` to `0xBF` go on with a character. -/
namespace QueryWarden.Database.Text

def continues (b : UInt8) : Bool := 0x80 ≤ b && b ≤ 0xBF

/-- The characters of a text, where bytes that go on with a character belong to the one before. -/
def split (bs : List UInt8) : List (List UInt8) := (go [] [] bs).reverse
where
  /-- The characters seen so far, the last one first and each backwards. -/
  go (done : List (List UInt8)) (open_ : List UInt8) : List UInt8 → List (List UInt8)
    | [] => if open_.isEmpty then done else open_.reverse :: done
    | b :: bs =>
      if open_.isEmpty then go done [b] bs
      else if continues b && open_.getLast?.any (0xC0 ≤ ·) then go done (b :: open_) bs
      else go (open_.reverse :: done) [b] bs

def beforeZero (bs : List UInt8) : List UInt8 := bs.takeWhile (· != 0)

def length (bs : List UInt8) : Nat := (split (beforeZero bs)).length

def codePoint (c : List UInt8) : Nat :=
  match c with
  | [] => 0
  | b :: more =>
    let first :=
      if b < 0xC0 then b.toNat
      else if b < 0xE0 then b.toNat - 0xC0
      else if b < 0xF0 then b.toNat - 0xE0
      else if b < 0xF8 then b.toNat - 0xF0
      else b.toNat % 4
    more.foldl (fun n d => n * 64 + d.toNat % 64) first

def encoded (n : Nat) : List UInt8 :=
  let n := if 0x10FFFF < n then 0xFFFD else n
  if n < 0x80 then [n.toUInt8]
  else if n < 0x800 then [(0xC0 + n / 64).toUInt8, (0x80 + n % 64).toUInt8]
  else if n < 0x10000 then
    [(0xE0 + n / 4096).toUInt8, (0x80 + n / 64 % 64).toUInt8, (0x80 + n % 64).toUInt8]
  else
    [(0xF0 + n / 262144).toUInt8, (0x80 + n / 4096 % 64).toUInt8, (0x80 + n / 64 % 64).toUInt8,
      (0x80 + n % 64).toUInt8]

def window (length : Nat) (start : Int) (count : Option Int) : Nat × Nat :=
  let back := count.any (· < 0)
  let size : Int := match count with
    | some c => Int.ofNat c.natAbs
    | none => 1000000000
  let (start, size) :=
    if start < 0 then
      let s := start + Int.ofNat length
      if s < 0 then (0, max 0 (size + s)) else (s, size)
    else if 0 < start then (start - 1, size)
    else if 0 < size then (0, size - 1)
    else (0, size)
  let (start, size) :=
    if back then
      let s := start - size
      if s < 0 then (0, max 0 (size + s)) else (s, size)
    else (start, size)
  (start.toNat, size.toNat)

def part {α : Type} (items : List α) (start : Int) (count : Option Int) : List α :=
  let (from_, size) := window items.length start count
  (items.drop from_).take size

def position {α : Type} [BEq α] (needle : List α) : List α → Nat
  | [] => if needle.isEmpty then 1 else 0
  | a :: as =>
    if needle.isPrefixOf (a :: as) then 1
    else
      match position needle as with
      | 0 => 0
      | n => n + 1

def replaced (old new : List UInt8) : (bound : Nat) → List UInt8 → List UInt8
  | 0, bs => bs
  | _, [] => []
  | bound + 1, b :: bs =>
    if old.isPrefixOf (b :: bs) then new ++ replaced old new bound ((b :: bs).drop old.length)
    else b :: replaced old new bound bs

def trimLeft (set : List (List UInt8)) (cs : List (List UInt8)) : List (List UInt8) :=
  cs.dropWhile set.contains

def trimRight (set : List (List UInt8)) (cs : List (List UInt8)) : List (List UInt8) :=
  (cs.reverse.dropWhile set.contains).reverse

def hex (bs : List UInt8) : List UInt8 :=
  bs.flatMap fun b => [digit (b / 16), digit (b % 16)]
where
  /-- The digit of a number below sixteen. -/
  digit (n : UInt8) : UInt8 := if n < 10 then 48 + n else 55 + n

def hexDigit? (b : UInt8) : Option UInt8 :=
  if isDigit b then some (b - 48)
  else if 65 ≤ b && b ≤ 70 then some (b - 55)
  else if 97 ≤ b && b ≤ 102 then some (b - 87)
  else none

def unhex (skipped : List UInt8) : List UInt8 → Option (List UInt8)
  | [] => some []
  | a :: rest =>
    match hexDigit? a with
    | none => if skipped.contains a then unhex skipped rest else none
    | some high =>
      match rest with
      | b :: more =>
        match hexDigit? b with
        | some low => (unhex skipped more).map ((high * 16 + low) :: ·)
        | none => none
      | [] => none

def quoted (bs : List UInt8) : List UInt8 :=
  39 :: bs.flatMap (fun b => if b == 39 then [39, 39] else [b]) ++ [39]

/-- Whether a pattern of `%` and `_` fits a text; letters of ASCII fit in either case, and a character
behind the escape stands for itself. `bound` bounds the steps. -/
def like (escape : Option (List UInt8)) : (bound : Nat) → (p s : List (List UInt8)) → Bool
  | 0, _, _ => false
  | _, [], s => s.isEmpty
  | bound + 1, c :: p, s =>
    if some c == escape then
      match p, s with
      | d :: p, t :: s => same d t && like escape bound p s
      | _, _ => false
    else if c == [37] then
      like escape bound p s ||
        (match s with
        | [] => false
        | _ :: s => like escape bound (c :: p) s)
    else
      match s with
      | [] => false
      | t :: s => (c == [95] || same c t) && like escape bound p s
where
  /-- Whether two characters differ at most in case. -/
  same (a b : List UInt8) : Bool := a.map lowerByte == b.map lowerByte

def inSet (t : List UInt8) : (first : Bool) → List (List UInt8) → Option (Bool × List (List UInt8))
  | _, [] => none
  | first, [93] :: p => if first then (inSet t false p).map (also ([93] == t)) else some (false, p)
  | _, c :: [45] :: d :: q =>
    if d == [93] then (inSet t false ([45] :: d :: q)).map (also (c == t))
    else
      (inSet t false q).map (also (codePoint c ≤ codePoint t && codePoint t ≤ codePoint d))
  | _, c :: p => (inSet t false p).map (also (c == t))
where
  /-- Adds one more way to belong to the set. -/
  also (b : Bool) (r : Bool × List (List UInt8)) : Bool × List (List UInt8) := (r.1 || b, r.2)

def glob : (bound : Nat) → (p s : List (List UInt8)) → Bool
  | 0, _, _ => false
  | _, [], s => s.isEmpty
  | bound + 1, c :: p, s =>
    if c == [42] then
      glob bound p s ||
        (match s with
        | [] => false
        | _ :: s => glob bound (c :: p) s)
    else
      match s with
      | [] => false
      | t :: s =>
        if c == [63] then glob bound p s
        else if c == [91] then
          let (inverted, q) := match p with
            | [94] :: q => (true, q)
            | q => (false, q)
          match inSet t true q with
          | none => false
          | some (found, rest) => found != inverted && glob bound rest s
        else c == t && glob bound p s

def patternBound (p s : List (List UInt8)) : Nat := 2 * (p.length + s.length) + 2

end QueryWarden.Database.Text
