import Mathlib.Algebra.Order.Ring.Nat
import Mathlib.Data.List.Induction
import Mathlib.Data.List.TakeWhile
import QueryWarden.Proofs.Fallible
import QueryWarden.Proofs.Text.Blank
import QueryWarden.Proofs.Wire.Calendar

/-! An instant is read back from its text. Whatever a text may look like in which an instant is given, the
instant has a year of at most six digits and a place in its day, and only the last second of a minute may
be a leap second; such an instant is written in one way, and this way is read as the same instant. -/
namespace QueryWarden.Wire.Instant
open Text (isBlank)

/-! Digits. -/

theorem valueOf_eq (ds : List Char) : valueOf ds = Nat.ofDigitChars 10 ds 0 :=
  congrArg (List.foldl · 0 ds) (funext₂ fun n _ => by rw [Nat.mul_comm]; rfl)

theorem valueOf_lt {ds : List Char} (digits : ∀ c ∈ ds, c.isDigit = true) : valueOf ds < 10 ^ ds.length := by
  induction ds using List.reverseRecOn with
  | nil => decide
  | append_singleton ds c ih =>
    have before : valueOf ds < 10 ^ ds.length := ih fun x hx => digits x (List.mem_append_left _ hx)
    have last : c.toNat ≤ 57 := by
      have digit := digits c (List.mem_append_right _ (List.mem_singleton_self c))
      simp only [Char.isDigit, Bool.and_eq_true, decide_eq_true_eq, ge_iff_le, UInt32.le_iff_toNat_le] at digit
      exact digit.2
    have value : valueOf (ds ++ [c]) = valueOf ds * 10 + (c.toNat - 48) := by simp [valueOf]
    rw [value, List.length_append, List.length_singleton, Nat.pow_succ]
    omega

theorem padded_isDigit (width n : Nat) : ∀ c ∈ padded width n, c.isDigit = true := by
  intro c hc
  obtain zero | digit := List.mem_append.mp hc
  · rw [List.eq_of_mem_replicate zero]
    rfl
  · exact Nat.isDigit_of_mem_toDigits (by decide) (by decide) digit

theorem padded_ne_nil (width n : Nat) : padded width n ≠ [] :=
  List.append_ne_nil_of_right_ne_nil _ Nat.toDigits_ne_nil

theorem valueOf_padded (width n : Nat) : valueOf (padded width n) = n := by
  have zeros : ∀ k, (List.replicate k '0').foldl (fun n d => n * 10 + (d.toNat - 48)) 0 = 0 := by
    intro k
    induction k with
    | zero => rfl
    | succ k ih => simpa [List.replicate_succ] using ih
  rw [padded, valueOf, List.foldl_append, zeros]
  exact (valueOf_eq _).trans (Nat.ofDigitChars_toDigits (by decide) (by decide))

theorem padded_length {width n : Nat} (wide : 0 < width) (small : n < 10 ^ width) :
    (padded width n).length = width := by
  have length := (Nat.length_toDigits_le_iff (b := 10) (by decide) wide).mpr small
  rw [padded, List.length_append, List.length_replicate]
  omega

/-! The parts of a text. -/

variable {rest : List Char}

def EndsDigits (rest : List Char) : Prop := ∀ c ∈ rest.head?, c.isDigit = false

theorem endsDigits_cons {c : Char} (h : c.isDigit = false) (rest : List Char) : EndsDigits (c :: rest) := by
  rintro x ⟨⟩
  exact h

theorem number_digits {most : Option Nat} {ds : List Char} (digits : ∀ c ∈ ds, c.isDigit = true)
    (full : ds ≠ []) (short : ∀ n ∈ most, ds.length ≤ n) (small : valueOf ds < 2 ^ 63)
    (ends : EndsDigits rest) : number most (ds ++ rest) = .ok (valueOf ds, rest) := by
  have taken : (ds ++ rest).takeWhile Char.isDigit = ds := by
    rw [List.takeWhile_append_of_pos digits]
    cases rest with
    | nil => simp
    | cons c rest => simp [ends c rfl]
  have leading : leadingDigits most (ds ++ rest) = ds := by
    cases most with
    | none => exact taken
    | some n =>
      rw [leadingDigits, taken]
      exact List.take_of_length_le (short n rfl)
  have bound : ¬ Nat.pow 2 63 - 1 < valueOf ds := by
    have power : Nat.pow 2 63 = 2 ^ 63 := rfl
    omega
  rw [number, leading, List.drop_left]
  simp only [List.isEmpty_iff, List.append_eq_nil_iff, full, false_and, if_false, if_neg bound]

/-- A padded number is read back, if all its digits are looked at. -/
theorem number_padded {most : Option Nat} {width n : Nat} (short : ∀ k ∈ most, (padded width n).length ≤ k)
    (fits : n < 2 ^ 63) (ends : EndsDigits rest) : number most (padded width n ++ rest) = .ok (n, rest) := by
  have value := valueOf_padded width n
  have read := number_digits (padded_isDigit width n) (padded_ne_nil width n) short (value.symm ▸ fits) ends
  rwa [value] at read

/-- A padded number begins with a digit. -/
theorem padded_leads (width n : Nat) : ∃ d more, padded width n = d :: more ∧ d.isDigit = true := by
  obtain ⟨d, more, digits⟩ := List.exists_cons_of_ne_nil (padded_ne_nil width n)
  exact ⟨d, more, digits, padded_isDigit width n d (digits ▸ List.mem_cons_self ..)⟩

theorem skipBlanks_cons {c : Char} (solid : isBlank c = false) (rest : List Char) :
    skipBlanks (c :: rest) = c :: rest :=
  List.dropWhile_cons_of_neg (by rw [solid]; decide)

theorem skipBlanks_padded (width n : Nat) (rest : List Char) :
    skipBlanks (padded width n ++ rest) = padded width n ++ rest := by
  obtain ⟨d, more, digits, digit⟩ := padded_leads width n
  have solid : isBlank d = false := by
    cases blank : isBlank d with
    | false => rfl
    | true => exact absurd digit (by rw [Text.isDigit_of_isBlank blank]; decide)
  rw [digits]
  exact skipBlanks_cons solid (more ++ rest)

theorem part_padded {low high n : Nat} (short : high < 100) (least : low ≤ n) (most : n ≤ high)
    (ends : EndsDigits rest) : part low high (padded 2 n ++ rest) = .ok (n, rest) := by
  have two : (padded 2 n).length = 2 := padded_length (by decide) (by omega)
  rw [part, skipBlanks_padded, number_padded (by simp [two]) (by omega) ends]
  exact if_pos ⟨least, most⟩

theorem literal_cons {c : Char} (solid : isBlank c = false) (rest : List Char) :
    literal c (c :: rest) = .ok rest := by
  rw [literal, skipBlanks_cons solid]
  exact if_pos rfl

/-- A number without a sign has four digits at most. -/
theorem signedNumber_digit {d : Char} (digit : d.isDigit = true) (more : List Char) :
    signedNumber (d :: more) = (number (some 4) (d :: more)).map fun (n, rest) => ((n : Int), rest) := by
  have apart : d ≠ '-' ∧ d ≠ '+' := by
    constructor <;> rintro rfl <;> cases digit
  unfold signedNumber
  split
  · rename_i minus
    exact absurd (List.cons.inj minus).1 apart.1
  · rename_i plus
    exact absurd (List.cons.inj plus).1 apart.2
  · rfl

theorem signedNumber_yearText {year : Int} (h : isYear year = true) (ends : EndsDigits rest) :
    signedNumber (skipBlanks (yearText year ++ rest)) = .ok (year, rest) := by
  simp only [isYear, Bool.and_eq_true, decide_eq_true_eq] at h
  have signed : number none (padded 4 year.natAbs ++ rest) = .ok (year.natAbs, rest) :=
    number_padded nofun (by omega) ends
  by_cases short : 0 ≤ year ∧ year ≤ 9999
  · have value : (year.toNat : Int) = year := by omega
    have four : (padded 4 year.toNat).length = 4 := padded_length (by decide) (by omega)
    have plain : number (some 4) (padded 4 year.toNat ++ rest) = .ok (year.toNat, rest) :=
      number_padded (by simp [four]) (by omega) ends
    rw [yearText, if_pos short, skipBlanks_padded]
    obtain ⟨d, more, digits, digit⟩ := padded_leads 4 year.toNat
    rw [digits, List.cons_append] at plain ⊢
    rw [signedNumber_digit digit, plain]
    exact congrArg (fun y => Except.ok (y, rest)) value
  · rw [yearText, if_neg short, List.cons_append]
    by_cases below : year < 0
    · have value : -(year.natAbs : Int) = year := by omega
      rw [if_pos below, skipBlanks_cons (by decide), signedNumber, signed]
      exact congrArg (fun y => Except.ok (y, rest)) value
    · have value : (year.natAbs : Int) = year := by omega
      rw [if_neg below, skipBlanks_cons (by decide), signedNumber, signed]
      exact congrArg (fun y => Except.ok (y, rest)) value

theorem yearPart_yearText {year : Int} (h : isYear year = true) (ends : EndsDigits rest) :
    yearPart (yearText year ++ rest) = .ok (year, rest) := by
  have inside : -(Int.pow 2 31) ≤ year ∧ year < Int.pow 2 31 := by
    have power : Int.pow 2 31 = 2147483648 := rfl
    simp only [isYear, Bool.and_eq_true, decide_eq_true_eq] at h
    omega
  rw [yearPart, signedNumber_yearText h ends]
  exact if_pos inside

theorem fraction_padded {count n nano : Nat} (within : 0 < count ∧ count ≤ 9) (small : n < 10 ^ count)
    (value : n * 10 ^ (9 - count) = nano) :
    fraction ('.' :: padded count n ++ ['Z']) = .ok (nano, ['Z']) := by
  have length := padded_length within.1 small
  have fits : n < 2 ^ 63 := by
    have nine : 10 ^ count ≤ 10 ^ 9 := Nat.pow_le_pow_right (by decide) within.2
    omega
  have read : number (some 9) (padded count n ++ ['Z']) = .ok (n, ['Z']) :=
    number_padded (by simpa [length] using within.2) fits (endsDigits_cons rfl [])
  have taken : (padded count n ++ ['Z']).length - ['Z'].length = count := by
    rw [List.length_append, Nat.add_sub_cancel, length]
  rw [List.cons_append, fraction, read]
  show Except.ok (n * 10 ^ (9 - _), _) = _
  rw [taken, value]
  rfl

theorem fraction_fractionText {nano : Nat} (small : nano < 1000000000) :
    fraction (fractionText nano ++ ['Z']) = .ok (nano, ['Z']) := by
  rw [fractionText]
  split_ifs
  · subst nano
    rfl
  · exact fraction_padded (by decide) (by omega) (by omega)
  · exact fraction_padded (by decide) (by omega) (by omega)
  · exact fraction_padded (by decide) (by omega) (by omega)

theorem fractionText_ends (nano : Nat) : EndsDigits (fractionText nano ++ ['Z']) := by
  rw [fractionText]
  split_ifs <;> exact endsDigits_cons rfl _

/-! Instants. -/

structure Sound (t : Instant) : Prop where
  year : isYear (dateOfDay t.day).1 = true
  second : t.second < 86400
  nano : t.nano < 2000000000
  leap : 1000000000 ≤ t.nano → t.second % 60 = 59

def parts (t : Instant) : Stamp where
  year := (dateOfDay t.day).1
  month := (dateOfDay t.day).2.1
  day := (dateOfDay t.day).2.2
  hour := t.second / 3600
  minute := t.second / 60 % 60
  second := t.second % 60 + if 1000000000 ≤ t.nano then 1 else 0
  nano := if 1000000000 ≤ t.nano then t.nano - 1000000000 else t.nano
  east := 0

theorem text_eq (t : Instant) : (text t).toList =
    yearText t.parts.year ++ '-' :: (padded 2 t.parts.month ++ '-' :: (padded 2 t.parts.day ++
      'T' :: (padded 2 t.parts.hour ++ ':' :: (padded 2 t.parts.minute ++ ':' ::
        (padded 2 t.parts.second ++ (fractionText t.parts.nano ++ ['Z'])))))) := by
  rw [text]
  by_cases leap : 1000000000 ≤ t.nano <;> simp [parts, leap]

theorem monthLength_le (year : Int) (month : Nat) : monthLength year month ≤ 31 := by
  rw [monthLength]
  split_ifs <;> decide

/-- The parts of an instant are in their bounds. -/
theorem parts_bounds {t : Instant} (h : Sound t) :
    t.parts.hour ≤ 23 ∧ t.parts.minute ≤ 59 ∧ t.parts.second ≤ 60 ∧ t.parts.nano < 1000000000 ∧
      (t.parts.second = 60 ↔ 1000000000 ≤ t.nano) := by
  obtain ⟨-, second, nano, leap⟩ := h
  simp only [parts]
  split_ifs with leaps
  · have last := leap leaps
    omega
  · omega

theorem stamp_text {t : Instant} (h : Sound t) : stamp (text t).toList = .ok (t.parts, []) := by
  obtain ⟨month, ⟨first, last⟩, -⟩ := dateOfDay_spec t.day
  have lastDay : (dateOfDay t.day).2.2 ≤ 31 := last.trans (monthLength_le ..)
  obtain ⟨hour, minute, second, nano, -⟩ := parts_bounds h
  have ends {c : Char} (mark : c.isDigit = false) (rest : List Char) := endsDigits_cons mark rest
  rw [text_eq]
  refine bind_eq_ok.mpr ⟨_, yearPart_yearText h.year (ends rfl _), ?_⟩
  refine bind_eq_ok.mpr ⟨_, literal_cons rfl _, ?_⟩
  refine bind_eq_ok.mpr ⟨_, part_padded (by decide) month.1 month.2 (ends rfl _), ?_⟩
  refine bind_eq_ok.mpr ⟨_, literal_cons rfl _, ?_⟩
  refine bind_eq_ok.mpr ⟨_, part_padded (by decide) first lastDay (ends rfl _), ?_⟩
  refine bind_eq_ok.mpr ⟨_, rfl, ?_⟩
  refine bind_eq_ok.mpr ⟨_, part_padded (by decide) (Nat.zero_le _) hour (ends rfl _), ?_⟩
  refine bind_eq_ok.mpr ⟨_, literal_cons rfl _, ?_⟩
  refine bind_eq_ok.mpr ⟨_, part_padded (by decide) (Nat.zero_le _) minute (ends rfl _), ?_⟩
  refine bind_eq_ok.mpr ⟨_, literal_cons rfl _, ?_⟩
  refine bind_eq_ok.mpr ⟨_, part_padded (by decide) (Nat.zero_le _) second (fractionText_ends _), ?_⟩
  refine bind_eq_ok.mpr ⟨_, fraction_fractionText nano, ?_⟩
  rfl

/-- The second of the day that the parts of an instant name. -/
theorem parts_ofDay {t : Instant} (h : Sound t) : t.parts.ofDay = t.second := by
  obtain ⟨-, -, -, leap⟩ := h
  simp only [Stamp.ofDay, parts]
  split_ifs with leaps
  · have last := leap leaps
    omega
  · omega
  · omega
  · omega

/-- The parts of an instant name it. -/
theorem instant_parts {t : Instant} (h : Sound t) : t.parts.instant = .ok t := by
  obtain ⟨-, ⟨-, last⟩, day⟩ := dateOfDay_spec t.day
  obtain ⟨-, -, -, -, leapSecond⟩ := parts_bounds h
  have inMonth : ¬ monthLength t.parts.year t.parts.month < t.parts.day := Nat.not_lt.mpr last
  have year : isYear t.parts.year = true := h.year
  have within : (t.second : Int) < 86400 := by exact_mod_cast h.second
  have sameDay : dayOfDate t.parts.year t.parts.month t.parts.day + Int.fdiv t.second 86400 = t.day := by
    rw [Int.fdiv_eq_ediv_of_nonneg _ (by decide), Int.ediv_eq_zero_of_lt (by omega) within, Int.add_zero]
    exact day
  have sameSecond : (Int.fmod t.second 86400).toNat = t.second := by
    rw [Int.fmod_eq_emod_of_nonneg _ (by decide), Int.emod_eq_of_lt (by omega) within]
    rfl
  have sameNano : t.parts.nano + (if 1000000000 ≤ t.nano then 1000000000 else 0) = t.nano := by
    simp only [parts]
    split_ifs <;> omega
  simp only [Stamp.instant, parts_ofDay h, sameDay, sameSecond, leapSecond, sameNano, year, h.year, inMonth,
    decide_false, Bool.not_true, Bool.or_self, Bool.false_eq_true, if_false]
  rfl

theorem ofText_text {t : Instant} (h : Sound t) : ofText (text t) = .ok t := by
  rw [ofText, stamp_text h]
  exact instant_parts h

/-! What is read is sound. -/

theorem leadingDigits_begin (most : Option Nat) (cs : List Char) : leadingDigits most cs <+: cs := by
  have digits := List.takeWhile_prefix (l := cs) Char.isDigit
  cases most with
  | none => exact digits
  | some n => exact (List.take_prefix n _).trans digits

theorem leadingDigits_isDigit (most : Option Nat) (cs : List Char) :
    ∀ c ∈ leadingDigits most cs, c.isDigit = true := by
  intro c hc
  cases most with
  | none => exact List.mem_takeWhile_imp hc
  | some n => exact List.mem_takeWhile_imp (List.mem_of_mem_take hc)

/-- A number of at most so many digits is less than the power of ten with as many zeros. -/
theorem number_lt {most : Nat} {cs : List Char} {n : Nat} (h : number (some most) cs = .ok (n, rest)) :
    ∃ count, count ≤ most ∧ cs.length = count + rest.length ∧ n < 10 ^ count := by
  have whole := List.prefix_iff_eq_append.mp (leadingDigits_begin (some most) cs)
  have length := congrArg List.length whole
  rw [List.length_append] at length
  rw [number] at h
  split_ifs at h
  cases h
  exact ⟨(leadingDigits (some most) cs).length, List.length_take_le .., length.symm,
    valueOf_lt (leadingDigits_isDigit (some most) cs)⟩

theorem fraction_lt {cs : List Char} {nano : Nat} (h : fraction cs = .ok (nano, rest)) :
    nano < 1000000000 := by
  unfold fraction at h
  split at h
  · obtain ⟨⟨n, after⟩, read, h⟩ := bind_eq_ok.mp h
    obtain ⟨count, most, length, small⟩ := number_lt read
    cases h
    rw [length, Nat.add_sub_cancel]
    calc n * 10 ^ (9 - count) < 10 ^ count * 10 ^ (9 - count) :=
          Nat.mul_lt_mul_of_pos_right small (Nat.pow_pos (by decide))
      _ = 1000000000 := by rw [← Nat.pow_add, Nat.add_sub_cancel' most]
  · cases h
    decide

/-- A stamp that is read has a fraction of a second. -/
theorem stamp_nano {cs : List Char} {s : Stamp} (h : stamp cs = .ok (s, rest)) : s.nano < 1000000000 := by
  obtain ⟨⟨year, cs⟩, -, h⟩ := bind_eq_ok.mp h
  obtain ⟨cs, -, h⟩ := bind_eq_ok.mp h
  obtain ⟨⟨month, cs⟩, -, h⟩ := bind_eq_ok.mp h
  obtain ⟨cs, -, h⟩ := bind_eq_ok.mp h
  obtain ⟨⟨day, cs⟩, -, h⟩ := bind_eq_ok.mp h
  obtain ⟨cs, -, h⟩ := bind_eq_ok.mp h
  obtain ⟨⟨hour, cs⟩, -, h⟩ := bind_eq_ok.mp h
  obtain ⟨cs, -, h⟩ := bind_eq_ok.mp h
  obtain ⟨⟨minute, cs⟩, -, h⟩ := bind_eq_ok.mp h
  obtain ⟨cs, -, h⟩ := bind_eq_ok.mp h
  obtain ⟨⟨second, cs⟩, -, h⟩ := bind_eq_ok.mp h
  obtain ⟨⟨nano, cs⟩, nano_read, h⟩ := bind_eq_ok.mp h
  obtain ⟨⟨east, cs⟩, -, h⟩ := bind_eq_ok.mp h
  cases h
  exact fraction_lt nano_read

theorem sound_of_instant {s : Stamp} {t : Instant} (nano : s.nano < 1000000000)
    (h : s.instant = .ok t) : Sound t := by
  have leap : (if s.second = 60 then 1000000000 else 0) = 0 ∨
      s.ofDay = s.hour * 3600 + s.minute * 60 + 59 - s.east * 60 ∧
        (if s.second = 60 then 1000000000 else 0) = 1000000000 := by
    rw [Stamp.ofDay]
    split_ifs
    · exact .inr ⟨rfl, rfl⟩
    · exact .inl rfl
  rw [Stamp.instant] at h
  generalize (if s.second = 60 then 1000000000 else 0) = extra at h leap
  split_ifs at h with _ _ year
  cases h
  have nonneg : 0 ≤ Int.fmod s.ofDay 86400 := Int.fmod_nonneg_of_pos _ (by decide)
  have within : Int.fmod s.ofDay 86400 < 86400 := Int.fmod_lt_of_pos _ (by decide)
  constructor
  case year => simpa using year
  case second => exact (Int.toNat_lt nonneg).mpr within
  case nano => dsimp only; omega
  case leap =>
    rw [Int.fmod_eq_emod_of_nonneg _ (by decide)]
    intro leaps
    dsimp only at leaps ⊢
    omega

/-- Every instant that is read is sound. -/
theorem sound_of_ofText {s : String} {t : Instant} (h : ofText s = .ok t) : Sound t := by
  obtain ⟨⟨stamp, rest⟩, read, h⟩ := bind_eq_ok.mp h
  dsimp only at h
  split_ifs at h
  exact sound_of_instant (stamp_nano read) h

end QueryWarden.Wire.Instant
