import QueryWarden.Database.Function.Adjustment
import QueryWarden.Database.Function.Scalar

/-! The functions of dates and times. Each gets the count of the present moment in front of its own
arguments: a moment and the words that adjust it. What names no moment gives nothing. -/
namespace QueryWarden.Database

namespace Moment

def checked? (m : Moment) : Option Moment := do
  let m ← m.counted?
  let n ← m.count
  if 0 ≤ n && n ≤ lastCount then some m else none

def ofArguments (now : Int) : List Value → Option Moment
  | [] => some (current now)
  | v :: words => do
    let m ← match v with
      | .null => none
      | .integer _ | .real _ => some (ofNumber v.toFloat)
      | v => ofText now (Text.beforeZero (Scalar.textOf v))
    let m ← words.zipIdx.foldlM (fun m (w, i) =>
      if w.isNull then none else m.adjusted? (i == 0) (Text.beforeZero (Scalar.textOf w))) m
    let m ← m.checked?
    return if words.isEmpty && m.date.any fun d => 28 < d.day then { m with date := none } else m

def digits (width : Nat) (n : Int) : List UInt8 :=
  (List.range width).reverse.map fun i => (48 + n.natAbs / Nat.pow 10 i % 10).toUInt8

def dateText (d : CalendarDate) : List UInt8 :=
  (if d.year < 0 then [45] else []) ++ digits 4 d.year ++ 45 :: digits 2 d.month ++
    45 :: digits 2 d.day

def timeText (fine : Bool) (t : DayTime) : List UInt8 :=
  digits 2 t.hour ++ 58 :: digits 2 t.minute ++ 58 ::
    (if fine then
      let n := truncated (1000.0 * t.second + 0.5)
      digits 2 (n / 1000) ++ 46 :: digits 3 n
    else digits 2 (truncated t.second))

def seconds (n : Int) : Int := n / 1000 - 210866760000

def realSeconds (n : Int) : Float := floatOfInt (n - CalendarDate.countAt1970) / 1000.0

def dayNumber (n : Int) : Int := (n + 43200000) / CalendarDate.dayCount

def wide (zeros : Bool) (width : Nat) (n : Int) : List UInt8 :=
  ({ Format.Spec.plain with zeros := zeros, width := width }).whole n

def shown? (letter : Char) (n : Int) (d : CalendarDate) (t : DayTime) (fine : Bool) :
    Option (List UInt8) :=
  let sinceMonday := dayNumber n % 7
  let sinceSunday := (dayNumber n + 1) % 7
  let dayOfYear (n : Int) (year : Int) : Int :=
    let first := Wire.Instant.dayOfDate year 1 1 * CalendarDate.dayCount + CalendarDate.countAt1970
    Int.tdiv (n - first - t.count + 43200000) CalendarDate.dayCount
  let ordinal := dayOfYear n d.year
  let thursday := n + (3 - sinceMonday) * CalendarDate.dayCount
  let weekYear := (CalendarDate.ofCount thursday).year
  let hour := if t.hour % 12 = 0 then 12 else if 12 < t.hour then t.hour - 12 else t.hour
  let text (s : String) : Option (List UInt8) := some (asciiBytes s.toList)
  match letter with
  | 'd' => some (wide true 2 d.day)
  | 'e' => some (wide false 2 d.day)
  | 'f' =>
    let s := if 59.999 < t.second then 59.999 else t.second
    some (({ Format.Spec.plain with zeros := true, width := 6, precision := some 3 }).real .fixed false s)
  | 'F' => some (wide true 4 d.year ++ 45 :: wide true 2 d.month ++ 45 :: wide true 2 d.day)
  | 'g' => some (wide true 2 (Int.tmod weekYear 100))
  | 'G' => some (wide true 4 weekYear)
  | 'H' => some (wide true 2 t.hour)
  | 'k' => some (wide false 2 t.hour)
  | 'I' => some (wide true 2 hour)
  | 'l' => some (wide false 2 hour)
  | 'j' => some (wide true 3 (ordinal + 1))
  | 'J' =>
    some (({ Format.Spec.plain with precision := some 16 }).real .general false
      (floatOfInt n / 86400000.0))
  | 'm' => some (wide true 2 d.month)
  | 'M' => some (wide true 2 t.minute)
  | 'p' => text (if 12 ≤ t.hour then "PM" else "AM")
  | 'P' => text (if 12 ≤ t.hour then "pm" else "am")
  | 'R' => some (wide true 2 t.hour ++ 58 :: wide true 2 t.minute)
  | 's' =>
    some (if fine then
      ({ Format.Spec.plain with precision := some 3 }).real .fixed false (realSeconds n)
    else wide false 1 (seconds n))
  | 'S' => some (wide true 2 (truncated t.second))
  | 'T' => some (wide true 2 t.hour ++ 58 :: wide true 2 t.minute ++ 58 ::
      wide true 2 (truncated t.second))
  | 'u' => some (digits 1 (sinceMonday + 1))
  | 'w' => some (digits 1 sinceSunday)
  | 'U' => some (wide true 2 ((ordinal - sinceSunday + 7) / 7))
  | 'V' => some (wide true 2 (dayOfYear thursday weekYear / 7 + 1))
  | 'W' => some (wide true 2 ((ordinal - sinceMonday + 7) / 7))
  | 'Y' => some (wide true 4 d.year)
  | '%' => some [37]
  | _ => none

def expand (n : Int) (d : CalendarDate) (t : DayTime) (fine : Bool) :
    List UInt8 → Option (List UInt8)
  | [] => some []
  | [37] => none
  | 37 :: b :: rest => do return (← shown? (charOf b) n d t fine) ++ (← expand n d t fine rest)
  | b :: rest => do return b :: (← expand n d t fine rest)

/-- The difference of a moment to the one at `goal` as years, months and what is left in milliseconds. The
moment, which already lies in the month of the other, goes on month by month, back in time or not, until
nothing is left over on the wrong side. -/
def spans (bound : Nat) (backward : Bool) (goal : Int) (date : CalendarDate) (time : DayTime)
    (years months : Int) : Option (Int × Int × Int) :=
  match bound with
  | 0 => none
  | bound + 1 => do
    let n := (← date.count?) + time.count
    if if backward then goal < n else n < goal then
      let (years, months) := if months = 0 then (years - 1, 11) else (years, months - 1)
      spans bound backward goal (date.later 0 (if backward then -1 else 1)) time years months
    else return (years, months, if backward then goal - n else n - goal)

def differenceText (a b : Moment) : Option (List UInt8) := do
  let a ← a.parted?
  let b ← b.parted?
  let n ← a.count
  let k ← b.count
  let d := a.date.getD .usual
  let e := b.date.getD .usual
  let backward := k ≤ n
  let months := if backward then d.month - e.month else e.month - d.month
  let years := if backward then d.year - e.year else e.year - d.year
  let (years, months) := if months < 0 then (years - 1, months + 12) else (years, months)
  let (years, months, left) ← spans 30 backward n ⟨d.year, d.month, e.day⟩
    (b.time.getD ⟨0, 0, 0.0⟩) years months
  let whole := left + 148699540800000
  let days := (CalendarDate.ofCount whole).day
  let t := DayTime.ofCount whole
  let second := ({ Format.Spec.plain with zeros := true, width := 6, precision := some 3 }).real .fixed
    false t.second
  return (if backward then 43 else 45) :: wide true 4 years ++ 45 :: wide true 2 months ++
    45 :: wide true 2 (days - 1) ++ 32 :: wide true 2 t.hour ++ 58 :: wide true 2 t.minute ++
    58 :: second

end Moment

namespace Calendar
open Moment

def ofMoment (name : String) (most : Option Nat) (f : Moment → Option Value) : Scalar :=
  ⟨name, 1, most, fun _ vs =>
    match vs with
    | now :: vs => .ok (((Moment.ofArguments now.toInt vs).bind f).getD .null)
    | [] => .ok .null⟩

def dateOf (m : Moment) : Option Value := do
  return .text (dateText ((← m.dated?).date.getD .usual))

def timeOf (m : Moment) : Option Value := do
  return .text (timeText m.fine ((← m.timed?).time.getD ⟨0, 0, 0.0⟩))

def bothOf (m : Moment) : Option Value := do
  let m ← m.parted?
  return .text (dateText (m.date.getD .usual) ++ 32 :: timeText m.fine (m.time.getD ⟨0, 0, 0.0⟩))

def all : List Scalar :=
  [ofMoment "date" none dateOf, ofMoment "time" none timeOf, ofMoment "datetime" none bothOf,
    ofMoment "current_date" (some 1) dateOf, ofMoment "current_time" (some 1) timeOf,
    ofMoment "current_timestamp" (some 1) bothOf,
    ofMoment "julianday" none fun m => do return .real (floatOfInt (← m.count) / 86400000.0),
    ofMoment "unixepoch" none fun m => do
      let n ← m.count
      return if m.fine then .real (realSeconds n) else .integer (seconds n),
    ⟨"strftime", 1, none, fun _ vs =>
      match vs with
      | now :: format :: vs => .ok ((do
        if format.isNull then none
        let m ← (← Moment.ofArguments now.toInt vs).parted?
        let text ← expand (← m.count) (m.date.getD .usual) (m.time.getD ⟨0, 0, 0.0⟩) m.fine
          (Text.beforeZero (Scalar.textOf format))
        return Value.text text : Option Value).getD .null)
      | _ => .ok .null⟩,
    ⟨"timediff", 3, some 3, fun _ vs =>
      match vs with
      | [now, a, b] => .ok ((do
        let text ← differenceText (← Moment.ofArguments now.toInt [a])
          (← Moment.ofArguments now.toInt [b])
        return Value.text text : Option Value).getD .null)
      | _ => .ok .null⟩]

def named? (name : String) : Option Scalar := all.find? (sameName ·.name name)

end Calendar
end QueryWarden.Database
