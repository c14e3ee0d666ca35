import QueryWarden.Json.Fault
import QueryWarden.Text.Digit

/-! Reading the scalars of a JSON document: white space, words, numbers and quoted texts. Each reader
works on a cursor and says where reading goes on. Numbers without fraction and exponent are integers
as long as they fit into sixty-four bits. A quoted text can be passed over without being decoded,
which asks less of it. -/
namespace QueryWarden.Json
open Text (hexValue?)
open Text.Utf8 (Glyph)

structure Cursor where
  rest : List Glyph
  place : Place

namespace Cursor

def next (c : Cursor) : Cursor :=
  match c.rest with
  | [] => c
  | g :: rest => ⟨rest, c.place.pass g⟩

def peek (c : Cursor) : Place := c.place.peek c.rest

def skipSpace (c : Cursor) : Cursor := go c.rest c.place
where
  go : List Glyph → Place → Cursor
    | .char ' ' :: rest, p => go rest (p.pass (.char ' '))
    | .char '\n' :: rest, p => go rest (p.pass (.char '\n'))
    | .char '\t' :: rest, p => go rest (p.pass (.char '\t'))
    | .char '\r' :: rest, p => go rest (p.pass (.char '\r'))
    | rest, p => ⟨rest, p⟩

def word : List Char → Cursor → Except Fault Cursor
  | [], c => .ok c
  | x :: xs, c =>
    match c.rest with
    | [] => .error (.at .endInValue c.place)
    | .char y :: rest =>
      if x = y then word xs ⟨rest, c.place.pass (.char y)⟩ else .error (.at .expectedIdent c.peek)
    | _ => .error (.at .expectedIdent c.peek)

def digits (c : Cursor) : List Nat × Cursor := go [] c.rest c.place
where
  go (read : List Nat) : List Glyph → Place → List Nat × Cursor
    | .char x :: rest, p =>
      if x.isDigit then go ((x.toNat - 48) :: read) rest (p.pass (.char x))
      else (read.reverse, ⟨.char x :: rest, p⟩)
    | rest, p => (read.reverse, ⟨rest, p⟩)

end Cursor

def greatestNatural : Nat := Nat.pow 2 64 - 1

/-- The leading digits of a number as far as they fit into sixty-four bits, the power of ten for
the rest, and whether a digit did not fit. -/
structure Significand where
  value : Nat
  exponent : Int
  full : Bool

def Significand.whole (ds : List Nat) : Significand :=
  ds.foldl (fun s d =>
    if s.full then ⟨s.value, s.exponent + 1, true⟩
    else if greatestNatural < s.value * 10 + d then ⟨s.value, s.exponent + 1, true⟩
    else ⟨s.value * 10 + d, s.exponent, false⟩) ⟨0, 0, false⟩

def Significand.fraction (s : Significand) (ds : List Nat) : Significand :=
  ds.foldl (fun s d =>
    if s.full then s
    else if greatestNatural < s.value * 10 + d then ⟨s.value, s.exponent, true⟩
    else ⟨s.value * 10 + d, s.exponent - 1, false⟩) ⟨s.value, s.exponent, false⟩

def scaleReal : Nat → Float → Int → Option Float
  | 0, x, _ => some x
  | budget + 1, x, e =>
    if e.natAbs ≤ 308 then
      if 0 ≤ e then
        let y := x * Float.ofScientific 1 false e.toNat
        if y.isInf then none else some y
      else some (x / Float.ofScientific 1 false e.natAbs)
    else if x == 0 then some x
    else if 0 ≤ e then none
    else scaleReal budget (x / Float.ofScientific 1 false 308) (e + 308)

def Significand.real? (s : Significand) (negative : Bool) (power : Int) : Option Float :=
  (scaleReal 4 s.value.toUInt64.toFloat (s.exponent + power)).map fun x => if negative then -x else x

def Number.ofWhole (negative : Bool) (s : Significand) : Option Number :=
  if s.full then (s.real? negative 0).map .real
  else if !negative then some (.int s.value)
  else if 0 < s.value ∧ s.value ≤ Nat.pow 2 63 then some (.int (-(s.value : Int)))
  else some (.real (-(s.value.toUInt64.toFloat)))

/-- The result of reading a scalar: its value or the fault that decoding it shows, and the cursor
behind it or the fault that even passing over it shows. -/
structure Scalar (α : Type) where
  value : Except Fault α
  after : Except Fault Cursor

def Scalar.broken {α : Type} (read skip : Fault) : Scalar α := ⟨.error read, .error skip⟩

def exponentOf (ds : List Nat) : Option Nat :=
  ds.foldl (fun e d => e.bind fun e => if Nat.pow 2 31 - 1 < e * 10 + d then none else some (e * 10 + d))
    (some 0)

def readExponent (negative : Bool) (s : Significand) (c : Cursor) : Scalar Number :=
  let (down, c) :=
    match c.rest with
    | .char '+' :: _ => (false, c.next)
    | .char '-' :: _ => (true, c.next)
    | _ => (false, c)
  let (ds, after) := c.digits
  if ds.isEmpty then
    if c.rest.isEmpty then .broken (.at .endInValue c.place) (.at .invalidNumber c.place)
    else .broken (.at .invalidNumber c.peek) (.at .invalidNumber c.peek)
  else
    let number? :=
      match exponentOf ds with
      | some e => s.real? negative (if down then -(e : Int) else e)
      | none => if s.value ≠ 0 ∧ !down then none else some (if negative then -0.0 else 0.0)
    match number? with
    | some x => ⟨.ok (.real x), .ok after⟩
    | none => ⟨.error (.at .numberOutOfRange after.place), .ok after⟩

def readTail (negative : Bool) (s : Significand) (after : Cursor) : Scalar Number :=
  match after.rest with
  | .char '.' :: _ =>
    let point := after.next
    let (fs, after) := point.digits
    if fs.isEmpty then
      let read := if point.rest.isEmpty then Cause.endInValue else .invalidNumber
      .broken (.at read point.peek) (.at .invalidNumber point.peek)
    else
      let s := s.fraction fs
      match after.rest with
      | .char 'e' :: _ | .char 'E' :: _ => readExponent negative s after.next
      | _ =>
        match s.real? negative 0 with
        | some x => ⟨.ok (.real x), .ok after⟩
        | none => ⟨.error (.at .numberOutOfRange after.place), .ok after⟩
  | .char 'e' :: _ | .char 'E' :: _ => readExponent negative s after.next
  | _ =>
    match Number.ofWhole negative s with
    | some n => ⟨.ok n, .ok after⟩
    | none => ⟨.error (.at .numberOutOfRange after.place), .ok after⟩

def readNumber (negative : Bool) (c : Cursor) : Scalar Number :=
  let (ds, after) := c.digits
  match ds with
  | [] =>
    if c.rest.isEmpty then .broken (.at .endInValue c.place) (.at .invalidNumber c.place)
    else .broken (.at .invalidNumber c.peek) (.at .invalidNumber c.peek)
  | 0 :: _ :: _ =>
    let second := c.next.peek
    .broken (.at .invalidNumber second) (.at .invalidNumber second)
  | _ => readTail negative (Significand.whole ds) after

def Cursor.bytesOn : Nat → List Glyph → Place → Place × Bool
  | 0, _, p => (p, true)
  | _ + 1, [], p => (p, false)
  | n + 1, g :: rest, p =>
    if g.width ≤ n + 1 then bytesOn (n + 1 - g.width) rest (p.pass g)
    else (⟨p.line, p.column + (n + 1)⟩, true)
termination_by _ rest => rest.length

def Cursor.hexEscape (c : Cursor) : Except Fault (Nat × Cursor) :=
  let four : Option (Nat × Cursor) :=
    match c.rest with
    | .char h :: .char i :: .char j :: .char k :: _ => do
      let n := (← hexValue? h) * 4096 + (← hexValue? i) * 256 + (← hexValue? j) * 16 + (← hexValue? k)
      some (n, c.next.next.next.next)
    | _ => none
  match four with
  | some found => .ok found
  | none =>
    match Cursor.bytesOn 4 c.rest c.place with
    | (p, true) => .error (.at .invalidEscape p)
    | (p, false) => .error (.at .endInString p)

def shortEscape? : Char → Option Char
  | '"' => some '"'
  | '\\' => some '\\'
  | '/' => some '/'
  | 'b' => some (Char.ofNat 8)
  | 'f' => some (Char.ofNat 12)
  | 'n' => some '\n'
  | 'r' => some '\r'
  | 't' => some '\t'
  | _ => none

private def wanted (x : Char) (c : Cursor) : Except Fault Cursor :=
  match c.rest with
  | [] => .error (.at .endInString c.place)
  | .char y :: _ => if x = y then .ok c.next else .error (.at .endOfHexEscape c.peek)
  | _ => .error (.at .endOfHexEscape c.peek)

def Cursor.unicodeEscape (c : Cursor) : Except Fault (Char × Cursor) := do
  let (n, c) ← c.hexEscape
  if 0xDC00 ≤ n ∧ n ≤ 0xDFFF then throw (.at .loneSurrogate c.place)
  if n < 0xD800 ∨ 0xDBFF < n then return (Char.ofNat n, c)
  let c ← wanted '\\' c
  let c ← wanted 'u' c
  let (m, c) ← c.hexEscape
  if m < 0xDC00 ∨ 0xDFFF < m then throw (.at .loneSurrogate c.place)
  return (Char.ofNat ((n - 0xD800) * 0x400 + (m - 0xDC00) + 0x10000), c)

def readText : Nat → List Char → Bool → Cursor → Except Fault (String × Cursor)
  | 0, _, _, c => .error (.at .endInString c.place)
  | budget + 1, read, whole, c =>
    match c.rest with
    | [] => .error (.at .endInString c.place)
    | .char '"' :: _ =>
      if whole then .ok (String.ofList read.reverse, c.next)
      else .error (.at .invalidCharacter c.next.place)
    | .char '\\' :: _ =>
      let c := c.next
      match c.rest with
      | [] => .error (.at .endInString c.place)
      | .char 'u' :: _ =>
        match c.next.unicodeEscape with
        | .error f => .error f
        | .ok (x, c) => readText budget (x :: read) whole c
      | .char e :: _ =>
        match shortEscape? e with
        | some x => readText budget (x :: read) whole c.next
        | none => .error (.at .invalidEscape c.peek)
      | _ => .error (.at .invalidEscape c.peek)
    | .char x :: _ =>
      if x.toNat < 0x20 then .error (.at .controlCharacter c.peek)
      else readText budget (x :: read) whole c.next
    | .stray _ :: _ => readText budget read false c.next

def skipText : Nat → Cursor → Except Fault Cursor
  | 0, c => .error (.at .endInString c.place)
  | budget + 1, c =>
    match c.rest with
    | [] => .error (.at .endInString c.place)
    | .char '"' :: _ => .ok c.next
    | .char '\\' :: _ =>
      let c := c.next
      match c.rest with
      | [] => .error (.at .endInString c.place)
      | .char 'u' :: _ =>
        match c.next.hexEscape with
        | .error f => .error f
        | .ok (_, c) => skipText budget c
      | .char e :: _ =>
        if (shortEscape? e).isSome then skipText budget c.next
        else .error (.at .invalidEscape c.peek)
      | _ => .error (.at .invalidEscape c.peek)
    | .char x :: _ =>
      if x.toNat < 0x20 then .error (.at .controlCharacter c.place) else skipText budget c.next
    | .stray _ :: _ => skipText budget c.next

def Cursor.text (c : Cursor) : Scalar String :=
  let budget := c.rest.length + 1
  ⟨(readText budget [] true c).map (·.1), skipText budget c⟩

end QueryWarden.Json
