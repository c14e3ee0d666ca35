import QueryWarden.Text.Blank

/-! Instants of the proleptic Gregorian calendar and their RFC 3339 texts. Reading is relaxed: blanks
may stand between the parts, numbers need no padding, a sign allows any year, and the offset may
lack its colon. Writing is in UTC with as few groups of three fraction digits as are needed. -/
namespace QueryWarden.Wire

/-- An instant in UTC: the day counted from 1970-01-01, the second of the day, and nanoseconds,
which reach 10^9 and beyond within a leap second. -/
structure Instant where
  day : Int
  second : Nat
  nano : Nat
deriving Repr, DecidableEq

namespace Instant

inductive Fault where
  | outOfRange
  | impossible
  | invalid
  | tooShort
  | tooLong
deriving Repr, DecidableEq

def Fault.message : Fault → String
  | .outOfRange => "input is out of range"
  | .impossible => "no possible date and time matching input"
  | .invalid => "input contains invalid characters"
  | .tooShort => "premature end of input"
  | .tooLong => "trailing input"

/-- The number of days from 1970-01-01 to a date; the year is counted from March so that the leap
day is its last. -/
def dayOfDate (year : Int) (month day : Nat) : Int :=
  let y := if month ≤ 2 then year - 1 else year
  let era := Int.fdiv y 400
  let yearOfEra := (y - era * 400).toNat
  let dayOfYear := (153 * ((month + 9) % 12) + 2) / 5 + day - 1
  let dayOfEra := yearOfEra * 365 + yearOfEra / 4 - yearOfEra / 100 + dayOfYear
  era * 146097 + dayOfEra - 719468

def dateOfDay (day : Int) : Int × Nat × Nat :=
  let z := day + 719468
  let era := Int.fdiv z 146097
  let dayOfEra := (z - era * 146097).toNat
  let yearOfEra := (dayOfEra - dayOfEra / 1460 + dayOfEra / 36524 - dayOfEra / 146096) / 365
  let dayOfYear := dayOfEra - (365 * yearOfEra + yearOfEra / 4 - yearOfEra / 100)
  let shifted := (5 * dayOfYear + 2) / 153
  let month := if shifted < 10 then shifted + 3 else shifted - 9
  let year := Int.ofNat yearOfEra + era * 400 + (if month ≤ 2 then 1 else 0)
  (year, month, dayOfYear - (153 * shifted + 2) / 5 + 1)

def isLeap (year : Int) : Bool := year % 4 = 0 && (year % 100 ≠ 0 || year % 400 = 0)

def monthLength (year : Int) (month : Nat) : Nat :=
  if month = 2 then if isLeap year then 29 else 28
  else if month = 4 ∨ month = 6 ∨ month = 9 ∨ month = 11 then 30 else 31

def isYear (year : Int) : Bool := -262143 ≤ year && year ≤ 262142

def skipBlanks (cs : List Char) : List Char := Text.trimLeft cs

def leadingDigits (most : Option Nat) (cs : List Char) : List Char :=
  let ds := cs.takeWhile Char.isDigit
  match most with
  | some n => ds.take n
  | none => ds

def valueOf (ds : List Char) : Nat := ds.foldl (fun n d => n * 10 + (d.toNat - 48)) 0

def number (most : Option Nat) (cs : List Char) : Except Fault (Nat × List Char) :=
  let ds := leadingDigits most cs
  if cs.isEmpty then .error .tooShort
  else if ds.isEmpty then .error .invalid
  else if Nat.pow 2 63 - 1 < valueOf ds then .error .outOfRange
  else .ok (valueOf ds, cs.drop ds.length)

def literal (c : Char) (cs : List Char) : Except Fault (List Char) :=
  match skipBlanks cs with
  | [] => .error .tooShort
  | d :: rest => if c = d then .ok rest else .error .invalid

def part (low high : Nat) (cs : List Char) : Except Fault (Nat × List Char) := do
  let (n, rest) ← number (some 2) (skipBlanks cs)
  if low ≤ n ∧ n ≤ high then return (n, rest) else throw .outOfRange

def signedNumber (cs : List Char) : Except Fault (Int × List Char) :=
  match cs with
  | '-' :: rest => (number none rest).map fun (n, rest) => (-(n : Int), rest)
  | '+' :: rest => (number none rest).map fun (n, rest) => ((n : Int), rest)
  | cs => (number (some 4) cs).map fun (n, rest) => ((n : Int), rest)

def yearPart (cs : List Char) : Except Fault (Int × List Char) := do
  let (year, rest) ← signedNumber (skipBlanks cs)
  if -(Int.pow 2 31) ≤ year ∧ year < Int.pow 2 31 then return (year, rest) else throw .outOfRange

def fraction (cs : List Char) : Except Fault (Nat × List Char) :=
  match cs with
  | '.' :: rest => do
    let (n, after) ← number (some 9) rest
    let count := rest.length - after.length
    return (n * Nat.pow 10 (9 - count), after.dropWhile Char.isDigit)
  | _ => .ok (0, cs)

def twoDigits (cs : List Char) : Except Fault (Nat × Nat × List Char) :=
  match cs with
  | a :: b :: rest =>
    if a.isDigit ∧ b.isDigit then .ok (a.toNat - 48, b.toNat - 48, rest) else .error .invalid
  | [a] => if a.utf8Size < 2 then .error .tooShort else .error .invalid
  | [] => .error .tooShort

def offsetSign (cs : List Char) : Except Fault (Bool × List Char) :=
  match cs with
  | '+' :: rest => .ok (false, rest)
  | '-' :: rest => .ok (true, rest)
  | '\u2212' :: rest => .ok (true, rest)
  | _ :: _ => .error .invalid
  | [] => .error .tooShort

def hoursMinutes (cs : List Char) : Except Fault (Nat × List Char) := do
  let (h, i, rest) ← twoDigits cs
  let (m, n, rest) ← twoDigits (rest.dropWhile fun c => c = ':' || Text.isBlank c)
  if 6 ≤ m then throw .outOfRange else return ((h * 10 + i) * 60 + (m * 10 + n), rest)

def offset (cs : List Char) : Except Fault (Int × List Char) :=
  match skipBlanks cs with
  | 'Z' :: rest | 'z' :: rest => .ok (0, rest)
  | cs =>
    match cs.map Char.toUpper with
    | 'U' :: 'T' :: 'C' :: _ => .ok (0, cs.drop 3)
    | _ => do
      let (west, rest) ← offsetSign cs
      let (minutes, rest) ← hoursMinutes rest
      return (if west then -(minutes : Int) else minutes, rest)

def timeMark (cs : List Char) : Except Fault (List Char) :=
  match cs with
  | 't' :: rest | 'T' :: rest | ' ' :: rest => .ok rest
  | _ :: _ => .error .invalid
  | [] => .error .tooShort

structure Stamp where
  year : Int
  month : Nat
  day : Nat
  hour : Nat
  minute : Nat
  second : Nat
  nano : Nat
  east : Int

def stamp (cs : List Char) : Except Fault (Stamp × List Char) := do
  let (year, cs) ← yearPart cs
  let cs ← literal '-' cs
  let (month, cs) ← part 1 12 cs
  let cs ← literal '-' cs
  let (day, cs) ← part 1 31 cs
  let cs ← timeMark cs
  let (hour, cs) ← part 0 23 cs
  let cs ← literal ':' cs
  let (minute, cs) ← part 0 59 cs
  let cs ← literal ':' cs
  let (second, cs) ← part 0 60 cs
  let (nano, cs) ← fraction cs
  let (east, cs) ← offset cs
  return (⟨year, month, day, hour, minute, second, nano, east⟩, cs)

def Stamp.ofDay (s : Stamp) : Int :=
  s.hour * 3600 + s.minute * 60 + (if s.second = 60 then 59 else s.second) - s.east * 60

def Stamp.instant (s : Stamp) : Except Fault Instant :=
  let day := dayOfDate s.year s.month s.day + Int.fdiv s.ofDay 86400
  if !isYear s.year || monthLength s.year s.month < s.day then .error .outOfRange
  else if 1440 ≤ s.east.natAbs then .error .outOfRange
  else if !isYear (dateOfDay day).1 then .error .impossible
  else .ok ⟨day, (Int.fmod s.ofDay 86400).toNat, s.nano + (if s.second = 60 then 1000000000 else 0)⟩

/-- The instant that a text names. -/
def ofText (text : String) : Except Fault Instant := do
  let (stamp, rest) ← stamp text.toList
  if (skipBlanks rest).isEmpty then stamp.instant else throw .tooLong

def padded (width n : Nat) : List Char :=
  let ds := Nat.toDigits 10 n
  List.replicate (width - ds.length) '0' ++ ds

def yearText (year : Int) : List Char :=
  if 0 ≤ year ∧ year ≤ 9999 then padded 4 year.toNat
  else (if year < 0 then '-' else '+') :: padded 4 year.natAbs

def fractionText (nano : Nat) : List Char :=
  if nano = 0 then []
  else if nano % 1000000 = 0 then '.' :: padded 3 (nano / 1000000)
  else if nano % 1000 = 0 then '.' :: padded 6 (nano / 1000)
  else '.' :: padded 9 nano

def text (t : Instant) : String :=
  let (year, month, day) := dateOfDay t.day
  let (carry, nano) := if 1000000000 ≤ t.nano then (1, t.nano - 1000000000) else (0, t.nano)
  String.ofList (yearText year ++ '-' :: padded 2 month ++ '-' :: padded 2 day ++ 'T' ::
    padded 2 (t.second / 3600) ++ ':' :: padded 2 (t.second / 60 % 60) ++ ':' ::
    padded 2 (t.second % 60 + carry) ++ fractionText nano ++ ['Z'])

end Instant
end QueryWarden.Wire
