import QueryWarden.Text.Digit
import QueryWarden.Text.Utf8

/-! Hosts: names, and addresses of either length. A name that ends in a number has to be an address. The percent
encoding says which characters a part of an address cannot hold, and how they are written. -/
namespace QueryWarden.Url

/-! ## Percent encoding -/

def isControl (c : Char) : Bool := c.toNat < 0x20 || 0x7F ≤ c.toNat

def fragmentSet (c : Char) : Bool := isControl c || [' ', '"', '<', '>', '\x60'].contains c

def pathSet (c : Char) : Bool := fragmentSet c || ['#', '?', '\x7b', '\x7d'].contains c

def userSet (c : Char) : Bool :=
  pathSet c || ['/', ':', ';', '=', '@', '[', '\\', ']', '^', '|'].contains c

def querySet (c : Char) : Bool := isControl c || [' ', '"', '#', '<', '>', '\''].contains c

def hexDigit (n : Nat) : Char := if n < 10 then Char.ofNat (48 + n) else Char.ofNat (55 + n)

def encodeByte (b : UInt8) : List Char := ['%', hexDigit (b.toNat / 16), hexDigit (b.toNat % 16)]

def encodeChar (set : Char → Bool) (c : Char) : List Char :=
  if set c then (Text.Utf8.encodeChar c).flatMap encodeByte else [c]

def encode (set : Char → Bool) (cs : List Char) : List Char := cs.flatMap (encodeChar set)

def hexValue? (c : Char) : Option Nat :=
  if '0' ≤ c && c ≤ '9' then some (c.toNat - 48)
  else if 'a' ≤ c && c ≤ 'f' then some (c.toNat - 87)
  else if 'A' ≤ c && c ≤ 'F' then some (c.toNat - 55)
  else none

def decode : List Char → List UInt8
  | [] => []
  | [c] => Text.Utf8.encodeChar c
  | [c, d] => Text.Utf8.encodeChar c ++ Text.Utf8.encodeChar d
  | c :: d :: e :: rest =>
    match c == '%', hexValue? d, hexValue? e with
    | true, some high, some low => (16 * high + low).toUInt8 :: decode rest
    | _, _, _ => Text.Utf8.encodeChar c ++ decode (d :: e :: rest)

/-! ## Hosts -/

inductive Fault where
  | relative
  | emptyHost
  | invalidPort
  | invalidShortAddress
  | invalidLongAddress
  | invalidName
deriving Repr, DecidableEq

def Fault.message : Fault → String
  | .relative => "relative URL without a base"
  | .emptyHost => "empty host"
  | .invalidPort => "invalid port number"
  | .invalidShortAddress => "invalid IPv4 address"
  | .invalidLongAddress => "invalid IPv6 address"
  | .invalidName => "invalid international domain name"

inductive Host where
  | name (text : String)
  | short (bytes : Nat)
  | long (pieces : List Nat)
deriving Repr, DecidableEq

namespace Host

def split (mark : Char) (cs : List Char) : List (List Char) :=
  cs.foldr (fun c parts =>
    match parts with
    | [] => [[c]]
    | p :: ps => if c == mark then [] :: p :: ps else (c :: p) :: ps) [[]]

def digitsIn? (base : Nat) (cs : List Char) : Option Nat :=
  cs.foldlM (fun n c => (hexValue? c).bind fun d => if d < base then some (base * n + d) else none) 0

def number? (cs : List Char) : Option Nat :=
  match cs with
  | [] => none
  | '0' :: 'x' :: digits | '0' :: 'X' :: digits => digitsIn? 16 digits
  | ['0'] => some 0
  | '0' :: digits => digitsIn? 8 digits
  | digits => digitsIn? 10 digits

def labels (cs : List Char) : List (List Char) :=
  let parts := split '.' cs
  if 1 < parts.length && parts.getLast? == some [] then parts.dropLast else parts

def endsInNumber (cs : List Char) : Bool :=
  match (labels cs).getLast? with
  | none | some [] => false
  | some last => last.all Char.isDigit || (number? last).isSome

def ofNumbers (cs : List Char) : Except Fault Host := do
  let parts := labels cs
  if 4 < parts.length then throw .invalidShortAddress
  let numbers ← parts.mapM fun p =>
    match number? p with
    | some n => .ok n
    | none => .error .invalidShortAddress
  match numbers.reverse with
  | [] => throw .invalidShortAddress
  | last :: before =>
    if before.any (255 < ·) || Nat.pow 256 (5 - numbers.length) ≤ last then throw .invalidShortAddress
    let high := before.reverse.foldl (fun n b => 256 * n + b) 0
    return .short (high * Nat.pow 256 (5 - numbers.length) + last)

def piecesOf? : List (List Char) → Option (List Nat)
  | [] => some []
  | [last] =>
    if last.contains '.' then
      match (split '.' last).mapM (digitsIn? 10) with
      | some [a, b, c, d] =>
        if [a, b, c, d].all (· < 256) && (split '.' last).all (fun p => p == ['0'] || p.head? != some '0')
        then some [256 * a + b, 256 * c + d] else none
      | _ => none
    else (piece? last).map ([·])
  | p :: rest => do return (← piece? p) :: (← piecesOf? rest)
where
  piece? (cs : List Char) : Option Nat :=
    if 0 < cs.length && cs.length ≤ 4 then digitsIn? 16 cs else none

def side? (cs : List Char) : Option (List Nat) := if cs.isEmpty then some [] else piecesOf? (split ':' cs)

def sides (before : List Char) : List Char → Option (List Char × List Char)
  | ':' :: ':' :: rest => some (before.reverse, rest)
  | c :: rest => sides (c :: before) rest
  | [] => none

def ofPieces (cs : List Char) : Except Fault Host :=
  let pieces := match sides [] cs with
    | some (left, right) => do
      let l ← side? left
      let r ← side? right
      if l.length + r.length < 8 then return l ++ List.replicate (8 - l.length - r.length) 0 ++ r
      else none
    | none => piecesOf? (split ':' cs)
  match pieces with
  | some ps => if ps.length = 8 then .ok (.long ps) else .error .invalidLongAddress
  | none => .error .invalidLongAddress

def isForbidden (c : Char) : Bool :=
  c.toNat ≤ 0x20 || c.toNat == 0x7F ||
    ['#', '%', '/', ':', '<', '>', '?', '@', '[', '\\', ']', '^', '|'].contains c

def ofChars (cs : List Char) : Except Fault Host :=
  match cs with
  | '[' :: rest =>
    if rest.getLast? == some ']' then ofPieces rest.dropLast else .error .invalidLongAddress
  | _ =>
    match Text.Utf8.decode (decode cs) with
    | .error _ => .error .invalidName
    | .ok decoded =>
      let name := decoded.map Char.toLower
      if name.isEmpty then .error .emptyHost
      else if name.any isForbidden then .error .invalidName
      else if endsInNumber name then ofNumbers name
      else .ok (.name (String.ofList name))

def longestGap (ps : List Nat) : Option (Nat × Nat) :=
  let runAt (i : Nat) : Nat := ((ps.drop i).takeWhile (· == 0)).length
  (List.range ps.length).foldl (fun best i =>
    let n := runAt i
    match best with
    | some (_, m) => if m < n then some (i, n) else best
    | none => if 1 < n then some (i, n) else none) none

def pieceText (n : Nat) : String := String.ofList (Nat.toDigits 16 n)

def text : Host → String
  | .name t => t
  | .short n =>
    ".".intercalate ([n / Nat.pow 256 3, n / Nat.pow 256 2, n / 256, n].map fun b => toString (b % 256))
  | .long ps =>
    let written (qs : List Nat) := ":".intercalate (qs.map pieceText)
    match longestGap ps with
    | some (start, size) =>
      "[" ++ written (ps.take start) ++ "::" ++ written (ps.drop (start + size)) ++ "]"
    | none => "[" ++ written ps ++ "]"

end Host
end QueryWarden.Url
