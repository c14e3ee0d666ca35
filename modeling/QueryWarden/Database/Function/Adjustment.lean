import QueryWarden.Database.Function.Moment

/-! What the words behind a moment make of it: steps of some units, the beginning of a unit, the next day
of the week, another reading of its number, another clock. A word that cannot be followed leaves no
moment. -/
namespace QueryWarden.Database.Moment

structure Step where
  name : String
  limit : Float
  seconds : Float

/-- The units; a month and a year have these seconds only where a part of one is asked for. -/
def steps : List Step :=
  [⟨"second", 464270000000000.0, 1.0⟩, ⟨"minute", 7737900000000.0, 60.0⟩,
    ⟨"hour", 128970000000.0, 3600.0⟩, ⟨"day", 5373485.0, 86400.0⟩,
    ⟨"month", 176546.0, 2592000.0⟩, ⟨"year", 14713.0, 31536000.0⟩]

def numberLength (bs : List UInt8) : Nat :=
  let ends (n : Nat) : Bool :=
    match bs[n]? with
    | none => true
    | some b =>
      charOf b == ':' || isSpace b ||
        (charOf b == '-' && (n = 5 || n = 6) && (field (n - 1) 0 14712 (bs.drop 1)).isSome)
  ((List.range bs.length).find? fun n => 0 < n && ends n).getD bs.length

def movedByTime? (m : Moment) (negative : Bool) (bs : List UInt8) : Option Moment := do
  let n ← (← (← ofTime bs).counted?).count
  let n := Int.fmod (n - CalendarDate.countAt1970) CalendarDate.dayCount
  m.moved? (if negative then -n else n)

def movedByDate? (m : Moment) (negative : Bool) (digits : Nat) (bs : List UInt8) : Option Moment := do
  let (years, months, days, rest) ← dateFields digits 14712 0 0 bs
  if 12 ≤ months || 31 ≤ days then none
  let sign : Int := if negative then -1 else 1
  let m ← m.later? (sign * years) (sign * months)
  let m ← m.moved? (sign * days * CalendarDate.dayCount)
  match rest with
  | [] => return m
  | b :: rest =>
    if isSpace b && (pair 24 rest).isSome then m.movedByTime? negative rest else none

def movedBySteps? (m : Moment) (r : Float) (bs : List UInt8) : Option Moment := do
  let word := bs.dropWhile isSpace
  if word.length < 3 || 10 < word.length then none
  let word := if (word.getLast?.map lowerByte) == some 115 then word.dropLast else word
  let step ← steps.find? fun s => isWord s.name word && -s.limit < r && r < s.limit
  let m ← m.counted?
  let whole := truncated r
  let m := { m with excess := 0 }
  let (m, r) ← match step.name with
    | "month" => do pure (← m.later? 0 whole, r - floatOfInt whole)
    | "year" => do pure (← m.later? whole 0, r - floatOfInt whole)
    | _ => pure (m, r)
  m.moved? (truncated (r * 1000.0 * step.seconds + (if r < 0.0 then -0.5 else 0.5)))

def movedBy? (m : Moment) (bs : List UInt8) : Option Moment := do
  let n := numberLength bs
  let r ← numberOf (bs.take n)
  let sign := (bs.head?.map charOf).getD ' '
  let negative := sign == '-'
  match (bs[n]?).map charOf with
  | some '-' =>
    if sign == '+' || negative then m.movedByDate? negative (n - 1) (bs.drop 1) else none
  | some ':' => m.movedByTime? negative (if sign.isDigit then bs else bs.drop 1)
  | _ => m.movedBySteps? r (bs.drop n)

def startOf? (m : Moment) (bs : List UInt8) : Option Moment := do
  if m.count.isNone && m.date.isNone && m.time.isNone then none
  let m ← m.dated?
  let d := m.date.getD .usual
  let date ←
    if isWord "day" bs then some d
    else if isWord "month" bs then some { d with day := 1 }
    else if isWord "year" bs then some { d with month := 1, day := 1 }
    else none
  return { m with
    date := some date, time := some ⟨0, 0, 0.0⟩, count := none, number := none, ahead := 0 }

def weekday? (m : Moment) (bs : List UInt8) : Option Moment := do
  let r ← numberOf bs
  let wanted := truncated r
  if r < 0.0 || 7.0 ≤ r || floatOfInt wanted != r then none
  let m ← { ← m.parted? with ahead := 0, count := none }.counted?
  let n ← m.count
  m.moved? (Int.fmod (wanted - (n + 129600000) / CalendarDate.dayCount) 7 * CalendarDate.dayCount)

def epoch? (m : Moment) (r : Float) : Option Moment :=
  let n := r * 1000.0 + 210866760000000.0
  if 0.0 ≤ n && n < 464269060800000.0 then
    some { m.bare with count := some (truncated (n + 0.5)), number := none }
  else none

def guessed? (m : Moment) : Option Moment :=
  match m.number, m.count with
  | some r, none =>
    if -210866760000.0 ≤ r && r ≤ 253402300799.0 then m.epoch? r else some m
  | _, _ => some { m with number := none }

def local? (m : Moment) : Option Moment :=
  if m.reckoning = .civil then some m
  else do
    let m ← { ← m.counted? with date := none, time := none }.parted?
    return { m with count := none, ahead := 0, reckoning := .civil }

def standard? (m : Moment) : Option Moment :=
  if m.reckoning = .standard then some m else do return current (← (← m.counted?).count)

def adjusted? (first : Bool) (m : Moment) (bs : List UInt8) : Option Moment :=
  match bs.map fun b => charOf (lowerByte b) with
  | [] => none
  | c :: _ =>
    if c.isDigit || c == '+' || c == '-' then m.movedBy? bs
    else if isWord "auto" bs then if first then m.guessed? else none
    else if isWord "ceiling" bs then do return { (← m.counted?).bare with excess := 0 }
    else if isWord "floor" bs then m.moved? (-m.excess * CalendarDate.dayCount)
    else if isWord "julianday" bs then
      if first && m.number.isSome && m.count.isSome then some { m with number := none } else none
    else if isWord "localtime" bs then m.local?
    else if isWord "unixepoch" bs then
      match m.number with
      | some r => if first then m.epoch? r else none
      | none => none
    else if isWord "utc" bs then m.standard?
    else if isWord "weekday " (bs.take 8) then m.weekday? (bs.drop 8)
    else if isWord "start of " (bs.take 9) then m.startOf? (bs.drop 9)
    else if isWord "subsec" bs || isWord "subsecond" bs then some { m with fine := true }
    else none

end QueryWarden.Database.Moment
