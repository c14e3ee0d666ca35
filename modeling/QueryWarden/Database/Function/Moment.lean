import QueryWarden.Database.Numeral
import QueryWarden.Wire.Instant

/-! Moments of the calendar. A moment is counted in milliseconds from noon of the 24th of November in the
year -4713. A date and a time are kept as they were written until something asks for their count, so that
a day behind the end of its month stays as it is for so long. Local time is standard time. -/
namespace QueryWarden.Database

structure CalendarDate where
  year : Int
  month : Int
  day : Int

structure DayTime where
  hour : Int
  minute : Int
  second : Float

inductive Reckoning where
  | unknown
  | standard
  | civil
deriving Repr, DecidableEq

structure Moment where
  /-- The milliseconds that have passed. -/
  count : Option Int
  date : Option CalendarDate
  time : Option DayTime
  /-- Minutes by which the time is ahead of standard time. -/
  ahead : Int
  /-- A number of which it is open what it counts. -/
  number : Option Float
  /-- Days by which the date lies behind the end of its month. -/
  excess : Int
  /-- Whether parts of seconds are shown. -/
  fine : Bool
  reckoning : Reckoning

namespace CalendarDate

def usual : CalendarDate := ⟨2000, 1, 1⟩

def countAt1970 : Int := 210866760000000

def dayCount : Int := 86400000

def count? (d : CalendarDate) : Option Int :=
  if d.year < -4713 || 9999 < d.year then none
  else some ((Wire.Instant.dayOfDate d.year d.month.toNat 1 + d.day - 1) * dayCount + countAt1970)

def ofCount (n : Int) : CalendarDate :=
  let (year, month, day) := Wire.Instant.dateOfDay (Int.fdiv (n - countAt1970) dayCount)
  ⟨year, month, day⟩

def later (d : CalendarDate) (years months : Int) : CalendarDate :=
  let m := d.month - 1 + months
  ⟨d.year + years + Int.fdiv m 12, Int.fmod m 12 + 1, d.day⟩

def excess (d : CalendarDate) : Int :=
  max 0 (d.day - Wire.Instant.monthLength d.year d.month.toNat)

end CalendarDate

namespace DayTime

def count (t : DayTime) : Int :=
  t.hour * 3600000 + t.minute * 60000 + truncated (t.second * 1000.0 + 0.5)

def ofCount (n : Int) : DayTime :=
  let n := Int.fmod (n - CalendarDate.countAt1970) CalendarDate.dayCount
  ⟨n / 3600000, n / 60000 % 60, floatOfInt (n % 60000) / 1000.0⟩

end DayTime

namespace Moment

def blank : Moment := ⟨none, none, none, 0, none, 0, false, .unknown⟩

def current (count : Int) : Moment := { blank with count := some count, reckoning := .standard }

def countOf (t : Wire.Instant) : Int :=
  t.day * CalendarDate.dayCount + Int.ofNat (t.second * 1000 + t.nano / 1000000) +
    CalendarDate.countAt1970

def ofNumber (r : Float) : Moment :=
  { blank with
    number := some r
    count := if 0.0 ≤ r && r < 5373484.5 then some (truncated (r * 86400000.0 + 0.5)) else none }

def lastCount : Int := 464269060799999

def counted? (m : Moment) : Option Moment :=
  match m.count, m.number with
  | some _, _ => some m
  | none, some _ => none
  | none, none => do
    let start ← (m.date.getD .usual).count?
    match m.time with
    | none => return { m with count := some start }
    | some t =>
      let n := start + t.count
      if m.ahead = 0 then return { m with count := some n }
      return { m with
        count := some (n - m.ahead * 60000), date := none, time := none, ahead := 0,
        reckoning := .standard }

def dated? (m : Moment) : Option Moment :=
  match m.date, m.count with
  | some _, _ => some m
  | none, none => some { m with date := some .usual }
  | none, some n =>
    if n < 0 || lastCount < n then none else some { m with date := some (.ofCount n) }

def timed? (m : Moment) : Option Moment :=
  match m.time with
  | some _ => some m
  | none => do
    let m ← m.counted?
    let n ← m.count
    return { m with time := some (.ofCount n), number := none }

def parted? (m : Moment) : Option Moment := do (← m.dated?).timed?

def bare (m : Moment) : Moment := { m with date := none, time := none, ahead := 0 }

def moved? (m : Moment) (n : Int) : Option Moment := do
  let m ← m.counted?
  return { m.bare with count := m.count.map (· + n) }

def later? (m : Moment) (years months : Int) : Option Moment := do
  let m ← m.parted?
  let d := (m.date.getD .usual).later years months
  return { m with date := some d, count := none, excess := d.excess }

def field (count least most : Nat) (bs : List UInt8) : Option (Nat × List UInt8) :=
  let n := digitsValue (bs.take count)
  if count ≤ bs.length && (bs.take count).all isDigit && least ≤ n && n ≤ most then
    some (n, bs.drop count)
  else none

def behind (mark : Char) : List UInt8 → Option (List UInt8)
  | b :: rest => if charOf b == mark then some rest else none
  | [] => none

def isOver (bs : List UInt8) : Bool := bs.all isSpace

def pair (most : Nat) (bs : List UInt8) : Option (Nat × Nat × List UInt8) := do
  let (a, rest) ← field 2 0 most bs
  let (b, rest) ← field 2 0 59 (← behind ':' rest)
  return (a, b, rest)

def zone (bs : List UInt8) : Option (Int × Reckoning) :=
  match bs.dropWhile isSpace with
  | [] => some (0, .unknown)
  | b :: rest =>
    let signed (sign : Int) : Option (Int × Reckoning) := do
      let (h, m, rest) ← pair 14 rest
      let n := Int.ofNat (60 * h + m)
      if isOver rest then some (sign * n, if n = 0 then .standard else .unknown) else none
    match charOf b with
    | '-' => signed (-1)
    | '+' => signed 1
    | 'Z' | 'z' => if isOver rest then some (0, .standard) else none
    | _ => none

def partOfSecond : List UInt8 → Float × List UInt8
  | 46 :: rest =>
    match rest.takeWhile isDigit with
    | [] => (0.0, 46 :: rest)
    | ds =>
      let (value, scale) := ds.foldl (fun (v, s) d =>
        (v * 10.0 + Float.ofNat (d.toNat - 48), s * 10.0)) ((0.0 : Float), (1.0 : Float))
      let part := value / scale
      (if 0.999 < part then 0.999 else part, rest.drop ds.length)
  | bs => (0.0, bs)

def ofTime (bs : List UInt8) : Option Moment := do
  let (h, m, rest) ← pair 24 bs
  let (second, rest) ← match behind ':' rest with
    | none => pure (0.0, rest)
    | some rest => do
      let (s, rest) ← field 2 0 59 rest
      let (part, rest) := partOfSecond rest
      pure (Float.ofNat s + part, rest)
  let (ahead, reckoning) ← zone rest
  return { blank with time := some ⟨h, m, second⟩, ahead := ahead, reckoning := reckoning }

def dateFields (digits most leastMonth leastDay : Nat) (bs : List UInt8) :
    Option (Nat × Nat × Nat × List UInt8) := do
  let (y, rest) ← field digits 0 most bs
  let (m, rest) ← field 2 leastMonth 12 (← behind '-' rest)
  let (d, rest) ← field 2 leastDay 31 (← behind '-' rest)
  return (y, m, d, rest)

def ofDate (bs : List UInt8) : Option Moment := do
  let (negative, rest) := match behind '-' bs with
    | some rest => (true, rest)
    | none => (false, bs)
  let (y, month, day, rest) ← dateFields 4 9999 1 1 rest
  let rest := rest.dropWhile fun b => isSpace b || charOf b == 'T'
  let m ← if rest.isEmpty then pure blank else ofTime rest
  let date : CalendarDate := ⟨if negative then -Int.ofNat y else y, month, day⟩
  let m := { m with date := some date, excess := date.excess }
  if m.ahead = 0 then return m else m.counted?

def isWord (word : String) (bs : List UInt8) : Bool := bs.map lowerByte == asciiBytes word.toList

def numberOf (bs : List UInt8) : Option Float := (numberOfText? bs).map Value.toFloat

def ofText (now : Int) (bs : List UInt8) : Option Moment :=
  match ofDate bs, ofTime bs with
  | some m, _ | none, some m => some m
  | none, none =>
    if isWord "now" bs then some (current now)
    else if isWord "subsec" bs || isWord "subsecond" bs then some { current now with fine := true }
    else (numberOf bs).map ofNumber

end Moment
end QueryWarden.Database
