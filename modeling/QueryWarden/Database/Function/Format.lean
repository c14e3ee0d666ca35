import QueryWarden.Database.Function.Text

/-! Texts with places for values: how a conversion writes its value, and the whole text. -/
namespace QueryWarden.Database.Format

structure Spec where
  left : Bool
  plus : Bool
  blank : Bool
  alternate : Bool
  exact : Bool
  zeros : Bool
  groups : Bool
  width : Nat
  precision : Option Nat

def Spec.plain : Spec := ⟨false, false, false, false, false, false, false, 0, none⟩

def ascii (s : String) : List UInt8 := asciiBytes s.toList

def Spec.pad (f : Spec) (bs : List UInt8) : List UInt8 :=
  let missing := List.replicate (f.width - (Text.split bs).length) (32 : UInt8)
  if f.left then bs ++ missing else missing ++ bs

def Spec.sign (f : Spec) (negative : Bool) : List UInt8 :=
  if negative then [45] else if f.plus then [43] else if f.blank then [32] else []

def grouped (ds : List Char) : List Char :=
  (go ds.reverse).reverse
where
  /-- Digits from the last one on. -/
  go : List Char → List Char
    | a :: b :: c :: d :: rest => a :: b :: c :: ',' :: go (d :: rest)
    | ds => ds

def Spec.number (f : Spec) (sign digits : List UInt8) : List UInt8 :=
  if f.zeros && !f.left then
    sign ++ List.replicate (f.width - sign.length - digits.length) (48 : UInt8) ++ digits
  else f.pad (sign ++ digits)

def Spec.whole (f : Spec) (n : Int) : List UInt8 :=
  let ds := Nat.toDigits 10 n.natAbs
  let ds := List.replicate (f.precision.getD 1 - ds.length) '0' ++ ds
  f.number (f.sign (n < 0)) (asciiBytes (if f.groups then grouped ds else ds))

def Spec.based (f : Spec) (base : Nat) (capital : Bool) (mark : String) (n : Int) : List UInt8 :=
  let v := (if n < 0 then n + Int.pow 2 64 else n).toNat
  let ds := Nat.toDigits base v
  let ds := if capital then ds.map Char.toUpper else ds
  let ds := List.replicate (f.precision.getD 1 - ds.length) '0' ++ ds
  f.number (if f.alternate && v != 0 then ascii mark else []) (asciiBytes ds)

inductive RealStyle where
  | fixed
  | exponent
  | general
deriving Repr, DecidableEq

def digitsAt (count : Int) (m : Nat) (q : Int) : List Char × Int :=
  let point := (roundedDigits 17 m q).2
  if 0 < count then roundedDigits count.toNat m q
  else if count = 0 then
    match (roundedDigits 17 m q).1 with
    | d :: _ => if '5' ≤ d then (['1'], point + 1) else ([], point)
    | [] => ([], point)
  else ([], point)

def stripped (keepOne : Bool) (ds : List Char) : List Char :=
  let kept := (ds.reverse.dropWhile (· == '0')).reverse
  match kept.getLast? with
  | some '.' => if keepOne then kept ++ ['0'] else kept.dropLast
  | _ => kept

def Spec.realParts (f : Spec) (style : RealStyle) (capital : Bool) (x : Float) :
    List UInt8 × List Char :=
  match Real.Double.ofBits x.toBits with
  | .notANumber => ([], "NaN".toList)
  | .infinite negative => (f.sign negative, "Inf".toList)
  | .finite negative m q =>
    let most : Int := if f.exact then 26 else 16
    let precision := f.precision.getD 6
    let precision := if style = .general && precision = 0 then 1 else precision
    let point := if m = 0 then 1 else (roundedDigits 17 m q).2
    let count : Int := match style with
      | .fixed => point + Int.ofNat precision
      | .exponent => Int.ofNat precision + 1
      | .general => Int.ofNat precision
    let (digits, point) := if m = 0 then ([], 1) else digitsAt (min count most) m q
    let exponent := point - 1
    let (style, places, strip) := match style with
      | .general =>
        if exponent < -4 || Int.ofNat precision - 1 < exponent then
          (RealStyle.exponent, precision - 1, !f.alternate)
        else (.fixed, (Int.ofNat precision - 1 - exponent).toNat, !f.alternate)
      | s => (s, precision, f.exact)
    let pointed := 0 < places || f.alternate || f.exact
    let tail (whole fraction : List Char) : List Char :=
      let all := if pointed then whole ++ '.' :: fraction else whole
      if strip && pointed then stripped f.exact all else all
    let negative := negative && m != 0
    match style with
    | .exponent =>
      let ds := padded (places + 1) digits
      let power := Nat.toDigits 10 exponent.natAbs
      (f.sign negative, tail (ds.take 1) ((ds.drop 1).take places) ++
        (if capital then 'E' else 'e') :: (if exponent < 0 then '-' else '+') ::
        (if power.length < 2 then '0' :: power else power))
    | _ =>
      let whole := if point ≤ 0 then ['0'] else padded point.toNat (digits.take point.toNat)
      let fraction :=
        if point ≤ 0 then List.replicate (-point).toNat '0' ++ digits else digits.drop point.toNat
      (f.sign negative, tail (if f.groups then grouped whole else whole)
        ((padded places fraction).take places))

def Spec.real (f : Spec) (style : RealStyle) (capital : Bool) (x : Float) : List UInt8 :=
  let (sign, ds) := f.realParts style capital x
  f.number sign (asciiBytes ds)

def Spec.text (f : Spec) (bs : List UInt8) : List UInt8 :=
  f.pad (match f.precision with
    | some n => if f.exact then ((Text.split bs).take n).flatten else bs.take n
    | none => bs)

def Spec.convert (f : Spec) (letter : UInt8) (v : Value) : Option (List UInt8) :=
  let bytes := v.bytes?.getD []
  match charOf letter with
  | 'd' | 'i' => some (f.whole v.toInt)
  | 'u' => some (f.whole (if v.toInt < 0 then v.toInt + Int.pow 2 64 else v.toInt))
  | 'x' => some (f.based 16 false "0x" v.toInt)
  | 'X' => some (f.based 16 true "0X" v.toInt)
  | 'o' => some (f.based 8 false "0" v.toInt)
  | 'f' => some (f.real .fixed false v.toFloat)
  | 'e' => some (f.real .exponent false v.toFloat)
  | 'E' => some (f.real .exponent true v.toFloat)
  | 'g' => some (f.real .general false v.toFloat)
  | 'G' => some (f.real .general true v.toFloat)
  | 's' | 'z' => some (f.text bytes)
  | 'c' =>
    let c := ((Text.split bytes).head?).getD []
    some (f.pad (List.replicate (f.precision.getD 1) c).flatten)
  | 'q' => some (f.text (doubled 39 (if v.isNull then ascii "(NULL)" else bytes)))
  | 'w' => some (f.text (doubled 34 (if v.isNull then ascii "(NULL)" else bytes)))
  | 'Q' => some (f.text (if v.isNull then ascii "NULL" else Text.quoted bytes))
  | _ => none
where
  /-- A text with a quote doubled. -/
  doubled (quote : UInt8) (bs : List UInt8) : List UInt8 :=
    bs.flatMap fun b => if b == quote then [b, b] else [b]

def flags (f : Spec) : List UInt8 → Spec × List UInt8
  | [] => (f, [])
  | b :: bs =>
    match charOf b with
    | '-' => flags { f with left := true } bs
    | '+' => flags { f with plus := true } bs
    | ' ' => flags { f with blank := true } bs
    | '#' => flags { f with alternate := true } bs
    | '!' => flags { f with exact := true } bs
    | '0' => flags { f with zeros := true } bs
    | ',' => flags { f with groups := true } bs
    | _ => (f, b :: bs)

def count (args : List Value) : List UInt8 → Option Int × List Value × List UInt8
  | 42 :: bs => (some ((args.head?.getD .null).toInt), args.tail, bs)
  | bs =>
    let ds := bs.takeWhile isDigit
    (if ds.isEmpty then none else some (Int.ofNat (digitsValue ds)), args, bs.dropWhile isDigit)

def expand : (bound : Nat) → List Value → List UInt8 → List UInt8
  | 0, _, _ => []
  | _, _, [] => []
  | bound + 1, args, 37 :: bs =>
    match bs with
    | [] => [37]
    | 37 :: rest => 37 :: expand bound args rest
    | _ =>
      let (f, bs) := flags .plain bs
      let (width, args, bs) := count args bs
      let f := match width with
        | some w => { f with left := f.left || w < 0, width := min w.natAbs 100000 }
        | none => f
      let (f, args, bs) := match bs with
        | 46 :: more =>
          let (p, args, more) := count args more
          ({ f with precision := some (min (p.getD 0).natAbs 100000) }, args, more)
        | more => (f, args, more)
      let bs := bs.dropWhile (· == 108)
      match bs with
      | [] => []
      | 37 :: rest => 37 :: expand bound args rest
      | letter :: rest =>
        match f.convert letter (args.head?.getD .null) with
        | some out => out ++ expand bound args.tail rest
        | none => []
  | bound + 1, args, b :: bs => b :: expand bound args bs

end QueryWarden.Database.Format
