import QueryWarden.Database.Function.Format

/-! Functions from values to a value. Each has a name and a number of arguments; most give nothing where
an argument is nothing. -/
namespace QueryWarden.Database

/-- A function from values to a value: the least and the greatest number of its arguments, and what it
gives under the collation of its arguments, or why it fails. -/
structure Scalar where
  name : String
  least : Nat
  most : Option Nat
  apply : Collation → List Value → Except String Value

namespace Scalar

def strict (name : String) (f : Value → Value) : Scalar :=
  ⟨name, 1, some 1, fun _ vs =>
    match vs with
    | [.null] => .ok .null
    | [v] => .ok (f v)
    | _ => .ok .null⟩

def strictOf (name : String) (least : Nat) (most : Option Nat) (f : List Value → Value) : Scalar :=
  ⟨name, least, most, fun _ vs => .ok (if vs.any Value.isNull then .null else f vs)⟩

def textOf (v : Value) : List UInt8 := v.bytes?.getD []

def absolute (v : Value) : Except String Value :=
  match v with
  | .null => .ok .null
  | .integer n => if n = leastInteger then .error "integer overflow" else .ok (.integer n.natAbs)
  | v => .ok (Value.ofFloat (Float.abs v.toFloat))

def extreme (wanted : Ordering) (c : Collation) : List Value → Value
  | [] => .null
  | v :: vs => vs.foldl (fun best w => if w.compare c best = wanted then w else best) v

def rounded (places : Nat) (x : Float) : Float :=
  match Real.Double.ofBits x.toBits with
  | .finite negative m q =>
    if m = 0 then x
    else
      let point := (roundedDigits 17 m q).2
      if 17 ≤ point then x
      else
        let (digits, point) := Format.digitsAt (point + Int.ofNat places) m q
        let y := Real.ofDecimal (Real.digitsValue digits) (point - Int.ofNat digits.length)
        if negative then -y else y
  | _ => x

def numeric? (v : Value) : Option Value :=
  match v with
  | .integer n => some (.integer n)
  | .real x => some (.real x)
  | .text bs => numberOfText? bs
  | _ => none

def signOf (v : Value) : Value :=
  match numeric? v with
  | some n =>
    let x := n.toFloat
    .integer (if x < 0.0 then -1 else if 0.0 < x then 1 else 0)
  | none => .null

def literal (v : Value) : List UInt8 :=
  match v with
  | .null => asciiBytes "NULL".toList
  | .text bs => Text.quoted (Text.beforeZero bs)
  | .blob bs => asciiBytes "X'".toList ++ Text.hex bs ++ [39]
  | .real x =>
    if x.isInf then asciiBytes (if x < 0.0 then "-9.0e+999" else "9.0e+999").toList
    else
      let short := asciiBytes (realText 15 x)
      if (Numeral.ofBytes short).real == x then short
      else ({ Format.Spec.plain with exact := true, precision := some 20 }).real .exponent false x
  | v => textOf v

def substring (vs : List Value) : Value :=
  match vs with
  | v :: start :: more =>
    let count := more.head?.map Value.toInt
    match v with
    | .blob bs => .blob (Text.part bs start.toInt count)
    | v => .text (Text.part (Text.split (textOf v)) start.toInt count).flatten
  | _ => .null

def trimmed (left right : Bool) (vs : List Value) : Value :=
  match vs with
  | v :: more =>
    let set := match more with
      | s :: _ => Text.split (textOf s)
      | [] => [[32]]
    let cs := Text.split (textOf v)
    let cs := if left then Text.trimLeft set cs else cs
    .text (if right then Text.trimRight set cs else cs).flatten
  | [] => .null

def instr (vs : List Value) : Value :=
  match vs with
  | [.blob a, .blob b] => .integer (Text.position b a)
  | [a, b] => .integer (Text.position (Text.split (textOf b)) (Text.split (textOf a)))
  | _ => .null

def likeFunction (vs : List Value) : Except String Value :=
  match vs with
  | p :: s :: more =>
    let pattern := Text.split (textOf p)
    let text := Text.split (textOf s)
    let run (escape : Option (List UInt8)) : Value :=
      if p.isNull || s.isNull then .null
      else .ofBool (Text.like escape (Text.patternBound pattern text) pattern text)
    match more with
    | [] => .ok (run none)
    | .null :: _ => .ok .null
    | e :: _ =>
      match Text.split (textOf e) with
      | [c] => .ok (run (some c))
      | _ => .error "ESCAPE expression must be a single character"
  | _ => .ok .null

def soundex (bs : List UInt8) : List UInt8 :=
  match bs.dropWhile fun b => (code b).isNone with
  | [] => asciiBytes "?000".toList
  | b :: rest =>
    upperByte b ::
      (follow ((code b).getD 0) rest ++ List.replicate 3 (48 : UInt8)).take 3
where
  /-- The digit of a letter; zero for letters that count for nothing. -/
  code (b : UInt8) : Option UInt8 :=
    match charOf (lowerByte b) with
    | 'b' | 'f' | 'p' | 'v' => some 1
    | 'c' | 'g' | 'j' | 'k' | 'q' | 's' | 'x' | 'z' => some 2
    | 'd' | 't' => some 3
    | 'l' => some 4
    | 'm' | 'n' => some 5
    | 'r' => some 6
    | c => if c.isAlpha then some 0 else none
  /-- The digits of the letters after one; letters that sound alike count once. -/
  follow (last : UInt8) : List UInt8 → List UInt8
    | [] => []
    | b :: rest =>
      let c := (code b).getD 0
      if c == 0 then follow 0 rest
      else if c == last then follow last rest
      else (48 + c) :: follow c rest

def joined (separator : List UInt8) : List (List UInt8) → List UInt8
  | [] => []
  | [b] => b
  | b :: bs => b ++ separator ++ joined separator bs

def all : List Scalar :=
  [⟨"abs", 1, some 1, fun _ vs => absolute (vs.head?.getD .null)⟩,
    ⟨"char", 0, none, fun _ vs => .ok (.text (vs.flatMap fun v =>
      let n := v.toInt
      Text.encoded (if n < 0 || 0x10FFFF < n then 0xFFFD else n.toNat)))⟩,
    ⟨"concat", 1, none, fun _ vs => .ok (.text (vs.flatMap textOf))⟩,
    ⟨"concat_ws", 2, none, fun _ vs => .ok (match vs with
      | .null :: _ => .null
      | s :: rest => .text (joined (textOf s) ((rest.filter (!·.isNull)).map textOf))
      | [] => .null)⟩,
    ⟨"format", 0, none, fun _ vs => .ok (formatted vs)⟩,
    ⟨"printf", 0, none, fun _ vs => .ok (formatted vs)⟩,
    strictOf "glob" 2 (some 2) fun vs =>
      let pattern := Text.split (textOf (vs.head?.getD .null))
      let text := Text.split (textOf (vs.tail.head?.getD .null))
      .ofBool (Text.glob (Text.patternBound pattern text) pattern text),
    ⟨"hex", 1, some 1, fun _ vs => .ok (.text (Text.hex (textOf (vs.head?.getD .null))))⟩,
    strictOf "instr" 2 (some 2) instr,
    strict "length" fun v => match v with
      | .blob bs => .integer bs.length
      | .text bs => .integer (Text.length bs)
      | v => .integer (textOf v).length,
    strict "octet_length" fun v => .integer (textOf v).length,
    ⟨"like", 2, some 3, fun _ vs => likeFunction vs⟩,
    ⟨"load_extension", 1, some 2, fun _ _ => .error "not authorized"⟩,
    strict "lower" fun v => .text ((textOf v).map lowerByte),
    strict "upper" fun v => .text ((textOf v).map upperByte),
    strictOf "ltrim" 1 (some 2) (trimmed true false),
    strictOf "rtrim" 1 (some 2) (trimmed false true),
    strictOf "trim" 1 (some 2) (trimmed true true),
    ⟨"max", 2, none, fun c vs => .ok (if vs.any Value.isNull then .null else extreme .gt c vs)⟩,
    ⟨"min", 2, none, fun c vs => .ok (if vs.any Value.isNull then .null else extreme .lt c vs)⟩,
    ⟨"nullif", 2, some 2, fun c vs => .ok (match vs with
      | [a, b] => if !a.isNull && !b.isNull && a.compare c b = .eq then .null else a
      | _ => .null)⟩,
    ⟨"quote", 1, some 1, fun _ vs => .ok (.text (literal (vs.head?.getD .null)))⟩,
    strictOf "replace" 3 (some 3) fun vs => match vs with
      | [s, old, new] =>
        if (textOf old).isEmpty then .text (textOf s)
        else .text (Text.replaced (textOf old) (textOf new) ((textOf s).length + 1) (textOf s))
      | _ => .null,
    strictOf "round" 1 (some 2) fun vs => match vs with
      | [v] => .real (rounded 0 v.toFloat)
      | [v, n] => .real (rounded (min n.toInt 30).toNat v.toFloat)
      | _ => .null,
    strict "sign" signOf,
    ⟨"soundex", 1, some 1, fun _ vs => .ok (.text (soundex (textOf (vs.head?.getD .null))))⟩,
    ⟨"sqlite_version", 0, some 0, fun _ _ => .ok (.ofString "3.46.0")⟩,
    strictOf "substr" 2 (some 3) substring,
    strictOf "substring" 2 (some 3) substring,
    ⟨"typeof", 1, some 1, fun _ vs => .ok (.ofString (vs.head?.getD .null).className)⟩,
    strictOf "unhex" 1 (some 2) fun vs => match vs with
      | v :: more =>
        match Text.unhex ((more.head?.map textOf).getD []) (textOf v) with
        | some bs => .blob bs
        | none => .null
      | [] => .null,
    strict "unicode" fun v => match Text.split (textOf v) with
      | c :: _ => .integer (Text.codePoint c)
      | [] => .null,
    ⟨"unlikely", 1, some 1, fun _ vs => .ok (vs.head?.getD .null)⟩,
    ⟨"likely", 1, some 1, fun _ vs => .ok (vs.head?.getD .null)⟩,
    ⟨"likelihood", 2, some 2, fun _ vs => .ok (vs.head?.getD .null)⟩,
    ⟨"zeroblob", 1, some 1, fun _ vs => .ok (.blob (List.replicate
      (max 0 (vs.head?.getD .null).toInt).toNat 0))⟩]
where
  /-- A text with its values. -/
  formatted (vs : List Value) : Value :=
    match vs with
    | [] | .null :: _ => .null
    | t :: args => .text (Format.expand ((textOf t).length + 1) args (textOf t))

def scrambled (n : Nat) : Nat :=
  let word := Nat.pow 2 64
  let n := (n * 6364136223846793005 + 1442695040888963407) % word
  Nat.xor n (n / Nat.pow 2 29) * 13787848793156543929 % word

def drawnBytes : (count : Nat) → (seed : Nat) → List UInt8
  | 0, _ => []
  | count + 1, seed =>
    let next := scrambled seed
    (next / Nat.pow 2 56).toUInt8 :: drawnBytes count next

def drawing : List Scalar :=
  [⟨"randomblob", 2, some 2, fun _ vs => .ok (match vs with
    | [seed, n] => .blob (drawnBytes (max 1 n.toInt).toNat seed.toInt.natAbs)
    | _ => .null)⟩]

def named (name : String) : List Scalar := all.filter (sameName ·.name name)

def takes (f : Scalar) (count : Nat) : Bool := f.least ≤ count && f.most.all (count ≤ ·)

end Scalar
end QueryWarden.Database
