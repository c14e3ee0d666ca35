import QueryWarden.Proofs.Json.Scalars

/-! The texts of numbers: an integer that sixty-four bits hold is read back as itself, and the shortest
decimal of a double is read as a number. -/
namespace QueryWarden.Json
open Text.Utf8 (Glyph)

/-! Digits. -/

theorem digitValue_digitChar : ∀ d < 10, digitValue (Nat.digitChar d) = d := by decide

theorem toDigits_isDigit (n : Nat) : ∀ c ∈ Nat.toDigits 10 n, c.isDigit = true :=
  fun _ hc => Nat.isDigit_of_mem_toDigits (by decide) (by decide) hc

/-- The digits of a positive number begin with one that is not zero. -/
theorem toDigits_leads {n : Nat} (h : 0 < n) :
    ∃ d more, Nat.toDigits 10 n = d :: more ∧ digitValue d ≠ 0 := by
  induction n using Nat.strongRecOn with
  | _ n ih =>
    rw [Nat.toDigits_eq_if (by decide)]
    split
    · rename_i small
      exact ⟨_, [], rfl, by rw [digitValue_digitChar n small]; omega⟩
    · obtain ⟨d, more, digits, nonzero⟩ := ih (n / 10) (by omega) (by omega)
      exact ⟨d, _, by rw [digits, List.cons_append], nonzero⟩

theorem whole_toDigits (n : Nat) : Whole (Nat.toDigits 10 n) := by
  refine ⟨toDigits_isDigit n, ?_⟩
  obtain rfl | positive := Nat.eq_zero_or_pos n
  · exact ⟨'0', [], rfl, .inl rfl⟩
  · obtain ⟨d, more, digits, nonzero⟩ := toDigits_leads positive
    exact ⟨d, more, digits, .inr nonzero⟩

theorem digits_toDigits (n : Nat) : Digits (Nat.toDigits 10 n) :=
  ⟨toDigits_isDigit n, Nat.toDigits_ne_nil⟩

/-- Digits whose number fits are read as that number. -/
theorem whole_of_toDigits {n : Nat} (fits : n ≤ greatestNatural) :
    Significand.whole ((Nat.toDigits 10 n).map digitValue) = ⟨n, 0, false⟩ := by
  induction n using Nat.strongRecOn with
  | _ n ih =>
    rw [Nat.toDigits_eq_if (by decide)]
    split
    · rename_i small
      have within : ¬ greatestNatural < n := by omega
      simp only [List.map_cons, List.map_nil, digitValue_digitChar n small, Significand.whole,
        List.foldl_cons, List.foldl_nil, Bool.false_eq_true, if_false, Nat.zero_mul, Nat.zero_add,
        if_neg within]
    · have before := ih (n / 10) (by omega) (by omega)
      have sum : n / 10 * 10 + n % 10 = n := by omega
      have within : ¬ greatestNatural < n := by omega
      rw [Significand.whole] at before ⊢
      rw [List.map_append, List.foldl_append, before]
      simp only [List.map_cons, List.map_nil, digitValue_digitChar (n % 10) (by omega), List.foldl_cons,
        List.foldl_nil, Bool.false_eq_true, if_false, sum, if_neg within]

/-! Doubles. -/

/-- The shortest decimal of a positive double is positive. -/
theorem onGrid_positive {m : Nat} (h : m ≠ 0) {q top : Int} {value : Real.Ratio} {n : Nat}
    {d : Real.Decimal} (found : Real.onGrid value (.around m q) top n = some d) : d.digits ≠ 0 := by
  have low : 0 < (Real.Interval.around m q).low.numerator := by
    have : 0 < 4 * m - (if m = Nat.pow 2 52 ∧ q > -1074 then 1 else 2) := by split <;> omega
    simp only [Real.Interval.around, Real.Ratio.scaled]
    split
    · exact Nat.mul_pos this (Nat.pow_pos (by decide))
    · exact this
  have zero : ∀ k, (Real.Interval.around m q).holds k 0 = false := by
    intro k
    have shifted : 0 < ((Real.Interval.around m q).low.shift k).numerator := by
      rw [Real.Ratio.shift]
      split
      · exact Nat.mul_pos low (Nat.pow_pos (by decide))
      · exact low
    have none : ¬ ((Real.Interval.around m q).low.shift k).numerator ≤ 0 := by omega
    simp only [Real.Interval.holds, Nat.zero_mul]
    split <;> simp [none]
  have either : ∀ {shift : Int} {a b : Nat},
      (if (Real.Interval.around m q).holds shift a && a != 0 then some (Real.Decimal.mk a (-shift))
        else if (Real.Interval.around m q).holds shift b then some ⟨b, -shift⟩ else none) = some d →
      d.digits ≠ 0 := by
    intro shift a b found
    split at found
    · rename_i first
      cases found
      simp only [Bool.and_eq_true, bne_iff_ne] at first
      exact first.2
    · split at found
      · rename_i other
        cases found
        rintro rfl
        rw [zero] at other
        cases other
      · cases found
  rw [Real.onGrid] at found
  dsimp only at found
  split at found
  · exact either found
  · exact either found

theorem shortest_positive {m : Nat} (h : m ≠ 0) (q : Int) : (Real.shortest m q).digits ≠ 0 := by
  unfold Real.shortest
  dsimp only
  generalize search : (List.range 17).findSome? _ = found
  cases found with
  | none => exact h
  | some d =>
    obtain ⟨n, -, onGrid⟩ := List.exists_of_findSome?_eq_some search
    exact onGrid_positive h onGrid

structure Significant (ds : List Char) : Prop where
  digits : ∀ c ∈ ds, c.isDigit = true
  leads : ∃ d more, ds = d :: more ∧ digitValue d ≠ 0

/-- The digits of a positive decimal, without the zeros at the end. -/
theorem significant_normal {d : Real.Decimal} (positive : d.digits ≠ 0) : Significant d.normal.1 := by
  obtain ⟨x, more, digits, nonzero⟩ := toDigits_leads (Nat.pos_of_ne_zero positive)
  have kept : d.normal.1 = x :: (more.reverse.dropWhile (· == '0')).reverse := by
    have notZero : x ≠ '0' := by
      rintro rfl
      exact nonzero rfl
    have last : ([x].dropWhile fun c => c == '0') = [x] := by
      simp [List.dropWhile, beq_eq_false_iff_ne.mpr notZero]
    rw [Real.Decimal.normal]
    dsimp only
    rw [digits, List.reverse_cons, List.dropWhile_append, last]
    split
    · rename_i none
      rw [List.isEmpty_iff.mp none]
      rfl
    · simp
  refine ⟨?_, x, _, kept, nonzero⟩
  intro c hc
  apply toDigits_isDigit d.digits
  rw [kept] at hc
  rw [digits]
  obtain rfl | hc := List.mem_cons.mp hc
  · exact List.mem_cons_self ..
  · apply List.mem_cons_of_mem
    exact List.mem_reverse.mp ((List.dropWhile_sublist _).subset (List.mem_reverse.mp hc))

/-- A double is written as a whole number with a fraction, an exponent, or both. -/
theorem write_split {digits : List Char} (significant : Significant digits) (point : Int) :
    ∃ ds ts, RealStyle.json.write digits point = ds ++ ts ∧ Whole ds ∧ Tail ts := by
  obtain ⟨isDigit, d, more, rfl, nonzero⟩ := significant
  have zeros : ∀ n, ∀ c ∈ List.replicate n '0', c.isDigit = true := by
    intro n c hc
    rw [List.eq_of_mem_replicate hc]
    rfl
  unfold RealStyle.write
  dsimp only
  split
  · refine ⟨['0'], _, rfl, ⟨by simp, '0', [], rfl, .inl rfl⟩, .fraction ⟨?_, by simp⟩⟩
    intro c hc
    obtain hc | hc := List.mem_append.mp hc
    · exact zeros _ c hc
    · exact isDigit c hc
  split
  · rename_i inside
    split
    · refine ⟨_, ['.', '0'], rfl, ⟨?_, d, _, List.cons_append .., .inr nonzero⟩, .fraction ⟨by simp, nofun⟩⟩
      intro c hc
      obtain hc | hc := List.mem_append.mp hc
      · exact isDigit c hc
      · exact zeros _ c hc
    · rename_i longer
      refine ⟨_, _, rfl, ⟨fun c hc => isDigit c ((List.take_subset _ _) hc), d, more.take (point.toNat - 1),
        ?_, .inr nonzero⟩, .fraction ⟨fun c hc => isDigit c ((List.drop_subset _ _) hc), ?_⟩⟩
      · obtain ⟨n, hn⟩ : ∃ n, point.toNat = n + 1 := ⟨point.toNat - 1, by omega⟩
        rw [hn]
        rfl
      · rw [ne_eq, List.drop_eq_nil_iff]
        simp only [Int.ofNat_eq_natCast] at longer
        omega
  · have exponent : Exponent ((if point - 1 < 0 then ['-'] else if RealStyle.json.plus then ['+'] else []) ++
        Nat.toDigits 10 (point - 1).natAbs) := by
      split
      · exact .down (digits_toDigits _)
      · exact .up (digits_toDigits _)
    have first : Whole [d] := ⟨by simpa using isDigit d (List.mem_cons_self ..), d, [], rfl, .inl rfl⟩
    cases more with
    | nil => exact ⟨[d], _, by simp [RealStyle.json], first, .exponent exponent⟩
    | cons d' more =>
      have rest : Digits (d' :: more) := ⟨fun c hc => isDigit c (List.mem_cons_of_mem d hc), nofun⟩
      exact ⟨[d], _, by simp [RealStyle.json], first, .both rest exponent⟩

theorem realText_split {x : Float} {cs : List Char} (h : realText? x = some cs) :
    ∃ (negative : Bool) (ds ts : List Char),
      cs = (if negative then ['-'] else []) ++ (ds ++ ts) ∧ Whole ds ∧ Tail ts := by
  unfold realText? at h
  split at h
  · rename_i negative q _
    cases h
    exact ⟨negative, ['0'], ['.', '0'], rfl, whole_toDigits 0, .fraction (digits_toDigits 0)⟩
  · rename_i negative m q nonzero _
    cases h
    obtain ⟨ds, ts, split, whole, tail⟩ := write_split
      (significant_normal (shortest_positive nonzero q)) (Real.shortest m q).normal.2
    exact ⟨negative, ds, ts, congrArg _ split, whole, tail⟩
  · cases h

end QueryWarden.Json
