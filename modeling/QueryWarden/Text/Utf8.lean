/-! UTF-8 over lists of bytes: writing a character, and reading bytes back with the place and the
extent of the first byte sequence that stands for no character. -/
namespace QueryWarden.Text.Utf8

def encodeChar (c : Char) : List UInt8 :=
  let n := c.toNat
  if n < 0x80 then [n.toUInt8]
  else if n < 0x800 then [(0xC0 + n / 0x40).toUInt8, (0x80 + n % 0x40).toUInt8]
  else if n < 0x10000 then
    [(0xE0 + n / 0x1000).toUInt8, (0x80 + n / 0x40 % 0x40).toUInt8, (0x80 + n % 0x40).toUInt8]
  else
    [(0xF0 + n / 0x40000).toUInt8, (0x80 + n / 0x1000 % 0x40).toUInt8,
      (0x80 + n / 0x40 % 0x40).toUInt8, (0x80 + n % 0x40).toUInt8]

def encode (cs : List Char) : List UInt8 := cs.flatMap encodeChar

def bytes (s : String) : List UInt8 := encode s.toList

/-- Why bytes at one place stand for no character: a sequence of `length` bytes can begin no
character, or the text ends inside one. -/
inductive Fault where
  | invalid (length : Nat)
  | incomplete
deriving Repr, DecidableEq

private def isTail (b : UInt8) : Bool := 0x80 ≤ b && b ≤ 0xBF

private def bits (b : UInt8) : Nat := b.toNat % 0x40

/-- The range of second bytes that may follow a leading byte of a longer character, and how many
bytes follow the second; `none` for a byte that begins no longer character. -/
private def second (b : UInt8) : Option (UInt8 × UInt8 × Nat) :=
  if 0xC2 ≤ b && b ≤ 0xDF then some (0x80, 0xBF, 0)
  else if b == 0xE0 then some (0xA0, 0xBF, 1)
  else if b == 0xED then some (0x80, 0x9F, 1)
  else if 0xE1 ≤ b && b ≤ 0xEF then some (0x80, 0xBF, 1)
  else if b == 0xF0 then some (0x90, 0xBF, 2)
  else if 0xF1 ≤ b && b ≤ 0xF3 then some (0x80, 0xBF, 2)
  else if b == 0xF4 then some (0x80, 0x8F, 2)
  else none

def decodeChar : List UInt8 → Except Fault (Char × List UInt8)
  | [] => .error .incomplete
  | a :: rest =>
    if a < 0x80 then .ok (Char.ofNat a.toNat, rest) else
    match second a with
    | none => .error (.invalid 1)
    | some (low, high, more) =>
      match rest with
      | [] => .error .incomplete
      | b :: rest =>
        if b < low || high < b then .error (.invalid 1) else
        match more, rest with
        | 0, rest => .ok (Char.ofNat (a.toNat % 0x20 * 0x40 + bits b), rest)
        | _, [] => .error .incomplete
        | 1, c :: rest =>
          if !isTail c then .error (.invalid 2) else
          .ok (Char.ofNat (a.toNat % 0x10 * 0x1000 + bits b * 0x40 + bits c), rest)
        | _, [c] => if !isTail c then .error (.invalid 2) else .error .incomplete
        | _, c :: d :: rest =>
          if !isTail c then .error (.invalid 2) else
          if !isTail d then .error (.invalid 3) else
          .ok (Char.ofNat (a.toNat % 8 * 0x40000 + bits b * 0x1000 + bits c * 0x40 + bits d), rest)

private theorem lead {n : Nat} (h : 0x80 ≤ n) (h' : n < 0x100) :
    ¬ n.toUInt8 < 0x80 ∧ n.toUInt8.toNat = n := by
  have upper : ∀ k < 0x80, ¬ (0x80 + k).toUInt8 < 0x80 ∧ (0x80 + k).toUInt8.toNat = 0x80 + k := by
    decide
  have := upper (n - 0x80) (by omega)
  rwa [Nat.add_sub_cancel' h] at this

private theorem tail : ∀ m < 0x40,
    isTail (0x80 + m).toUInt8 = true ∧ bits (0x80 + m).toUInt8 = m ∧
      ((0x80 + m).toUInt8 < 0x80 || 0xBF < (0x80 + m).toUInt8) = false := by
  decide

private theorem second_two : ∀ k < 0x20, 2 ≤ k → second (0xC0 + k).toUInt8 = some (0x80, 0xBF, 0) := by
  decide

/-- Which second bytes may follow a leading byte of three, and of four. -/
private theorem second_three : ∀ k < 0x10, ∀ m < 0x40, (k = 0 → 0x20 ≤ m) → (k = 13 → m < 0x20) →
    ∃ low high, second (0xE0 + k).toUInt8 = some (low, high, 1) ∧
      ((0x80 + m).toUInt8 < low || high < (0x80 + m).toUInt8) = false := by
  have ranges : ∀ k < 0x10, second (0xE0 + k).toUInt8 =
      some (if k = 0 then 0xA0 else 0x80, if k = 13 then 0x9F else 0xBF, 1) := by decide
  intro k hk m hm zero thirteen
  refine ⟨_, _, ranges k hk, ?_⟩
  by_cases hz : k = 0
  · subst hz
    have : ∀ m < 0x40, 0x20 ≤ m →
        ((0x80 + m).toUInt8 < 0xA0 || 0xBF < (0x80 + m).toUInt8) = false := by decide
    exact this m hm (zero rfl)
  by_cases ht : k = 13
  · subst ht
    have : ∀ m < 0x40, m < 0x20 →
        ((0x80 + m).toUInt8 < 0x80 || 0x9F < (0x80 + m).toUInt8) = false := by decide
    exact this m hm (thirteen rfl)
  · rw [if_neg hz, if_neg ht]
    exact (tail m hm).2.2

@[inherit_doc second_three]
private theorem second_four : ∀ k < 5, ∀ m < 0x40, (k = 0 → 0x10 ≤ m) → (k = 4 → m < 0x10) →
    ∃ low high, second (0xF0 + k).toUInt8 = some (low, high, 2) ∧
      ((0x80 + m).toUInt8 < low || high < (0x80 + m).toUInt8) = false := by
  have ranges : ∀ k < 5, second (0xF0 + k).toUInt8 =
      some (if k = 0 then 0x90 else 0x80, if k = 4 then 0x8F else 0xBF, 2) := by decide
  intro k hk m hm zero four
  refine ⟨_, _, ranges k hk, ?_⟩
  by_cases hz : k = 0
  · subst hz
    have : ∀ m < 0x40, 0x10 ≤ m →
        ((0x80 + m).toUInt8 < 0x90 || 0xBF < (0x80 + m).toUInt8) = false := by decide
    exact this m hm (zero rfl)
  by_cases hf : k = 4
  · subst hf
    have : ∀ m < 0x40, m < 0x10 →
        ((0x80 + m).toUInt8 < 0x80 || 0x8F < (0x80 + m).toUInt8) = false := by decide
    exact this m hm (four rfl)
  · rw [if_neg hz, if_neg hf]
    exact (tail m hm).2.2

/-- A character that is written is read back. -/
theorem decodeChar_encodeChar (c : Char) (rest : List UInt8) :
    decodeChar (encodeChar c ++ rest) = .ok (c, rest) := by
  have valid : c.toNat < 0xD800 ∨ 0xDFFF < c.toNat ∧ c.toNat < 0x110000 := c.valid
  have same : ∀ {n}, n = c.toNat → Char.ofNat n = c := by
    rintro n rfl
    exact Char.ofNat_toNat c
  unfold encodeChar
  generalize c.toNat = n at valid same
  dsimp only
  split
  · rename_i small
    have ascii : ∀ k < 0x80, k.toUInt8 < 0x80 ∧ k.toUInt8.toNat = k := by decide
    obtain ⟨low, toNat⟩ := ascii n small
    simp [decodeChar, low, toNat, same]
  split
  · rename_i large small
    obtain ⟨high, toNat⟩ := @lead (0xC0 + n / 0x40) (by omega) (by omega)
    obtain ⟨-, bits_b, range⟩ := tail (n % 0x40) (by omega)
    simp only [List.cons_append, List.nil_append, decodeChar, if_neg high,
      second_two (n / 0x40) (by omega) (by omega), range, Bool.false_eq_true, if_false, toNat, bits_b]
    rw [same (by omega)]
  split
  · rename_i large small
    obtain ⟨high, toNat⟩ := @lead (0xE0 + n / 0x1000) (by omega) (by omega)
    obtain ⟨-, bits_b, -⟩ := tail (n / 0x40 % 0x40) (by omega)
    obtain ⟨tail_c, bits_c, -⟩ := tail (n % 0x40) (by omega)
    obtain ⟨low, up, second_a, range⟩ := second_three (n / 0x1000) (by omega) (n / 0x40 % 0x40) (by omega)
      (by omega) (by omega)
    simp only [List.cons_append, List.nil_append, decodeChar, if_neg high, second_a, range,
      Bool.false_eq_true, if_false, toNat, bits_b, tail_c, bits_c, Bool.not_true]
    rw [same (by omega)]
  · rename_i large
    obtain ⟨high, toNat⟩ := @lead (0xF0 + n / 0x40000) (by omega) (by omega)
    obtain ⟨-, bits_b, -⟩ := tail (n / 0x1000 % 0x40) (by omega)
    obtain ⟨tail_c, bits_c, -⟩ := tail (n / 0x40 % 0x40) (by omega)
    obtain ⟨tail_d, bits_d, -⟩ := tail (n % 0x40) (by omega)
    obtain ⟨low, up, second_a, range⟩ := second_four (n / 0x40000) (by omega) (n / 0x1000 % 0x40) (by omega)
      (by omega) (by omega)
    simp only [List.cons_append, List.nil_append, decodeChar, if_neg high, second_a, range,
      Bool.false_eq_true, if_false, toNat, bits_b, tail_c, bits_c, tail_d, bits_d, Bool.not_true]
    rw [same (by omega)]

/-- Which leading bytes begin longer characters, and the second bytes that may follow them. -/
private theorem second_eq_some {a low high : UInt8} {more : Nat} (h : second a = some (low, high, more)) :
    0x80 ≤ low.toNat ∧ high.toNat ≤ 0xBF ∧
      ((more = 0 ∧ 0xC2 ≤ a.toNat ∧ a.toNat ≤ 0xDF) ∨
      (more = 1 ∧ 0xE0 ≤ a.toNat ∧ a.toNat ≤ 0xEF ∧ (a.toNat = 0xE0 → 0xA0 ≤ low.toNat) ∧
        (a.toNat = 0xED → high.toNat ≤ 0x9F)) ∨
      (more = 2 ∧ 0xF0 ≤ a.toNat ∧ a.toNat ≤ 0xF4 ∧ (a.toNat = 0xF0 → 0x90 ≤ low.toNat) ∧
        (a.toNat = 0xF4 → high.toNat ≤ 0x8F))) := by
  have nat : ∀ {b : UInt8}, a = b ↔ a.toNat = b.toNat := UInt8.toNat_inj.symm
  simp only [second, Bool.and_eq_true, decide_eq_true_eq, UInt8.le_iff_toNat_le, beq_iff_eq, nat,
    UInt8.reduceToNat] at h
  repeat' split at h
  all_goals cases h
  all_goals simp
  all_goals omega

private theorem toNat_ofNat {n : Nat} (valid : n < 0xD800 ∨ 0xDFFF < n ∧ n < 0x110000) : (Char.ofNat n).toNat = n := by
  have h : n.isValidChar := valid
  exact (congrArg Char.toNat (dif_pos h)).trans rfl

private theorem toUInt8_eq {n : Nat} {b : UInt8} (h : n = b.toNat) : n.toUInt8 = b := by
  subst h
  exact UInt8.ofNat_toNat

private theorem encodeChar_two {a b : UInt8} (ha : 0xC2 ≤ a.toNat ∧ a.toNat ≤ 0xDF)
    (hb : 0x80 ≤ b.toNat ∧ b.toNat ≤ 0xBF) :
    encodeChar (Char.ofNat (a.toNat % 0x20 * 0x40 + bits b)) = [a, b] := by
  have hn : a.toNat % 0x20 * 0x40 + bits b = (a.toNat - 0xC0) * 0x40 + (b.toNat - 0x80) := by
    unfold bits
    omega
  rw [hn]
  generalize hk : (a.toNat - 0xC0) * 0x40 + (b.toNat - 0x80) = n
  dsimp only [encodeChar]
  rw [toNat_ofNat (by omega), if_neg (by omega), if_pos (by omega), toUInt8_eq (b := a) (by omega),
    toUInt8_eq (b := b) (by omega)]

private theorem encodeChar_three {a b c : UInt8} (ha : 0xE0 ≤ a.toNat ∧ a.toNat ≤ 0xEF)
    (hb : 0x80 ≤ b.toNat ∧ b.toNat ≤ 0xBF) (low : a.toNat = 0xE0 → 0xA0 ≤ b.toNat)
    (high : a.toNat = 0xED → b.toNat ≤ 0x9F) (hc : 0x80 ≤ c.toNat ∧ c.toNat ≤ 0xBF) :
    encodeChar (Char.ofNat (a.toNat % 0x10 * 0x1000 + bits b * 0x40 + bits c)) = [a, b, c] := by
  have hn : a.toNat % 0x10 * 0x1000 + bits b * 0x40 + bits c =
      (a.toNat - 0xE0) * 0x1000 + (b.toNat - 0x80) * 0x40 + (c.toNat - 0x80) := by
    unfold bits
    omega
  rw [hn]
  generalize hk : (a.toNat - 0xE0) * 0x1000 + (b.toNat - 0x80) * 0x40 + (c.toNat - 0x80) = n
  dsimp only [encodeChar]
  rw [toNat_ofNat (by omega), if_neg (by omega), if_neg (by omega), if_pos (by omega),
    toUInt8_eq (b := a) (by omega), toUInt8_eq (b := b) (by omega), toUInt8_eq (b := c) (by omega)]

private theorem encodeChar_four {a b c d : UInt8} (ha : 0xF0 ≤ a.toNat ∧ a.toNat ≤ 0xF4)
    (hb : 0x80 ≤ b.toNat ∧ b.toNat ≤ 0xBF) (low : a.toNat = 0xF0 → 0x90 ≤ b.toNat)
    (high : a.toNat = 0xF4 → b.toNat ≤ 0x8F) (hc : 0x80 ≤ c.toNat ∧ c.toNat ≤ 0xBF)
    (hd : 0x80 ≤ d.toNat ∧ d.toNat ≤ 0xBF) :
    encodeChar (Char.ofNat (a.toNat % 8 * 0x40000 + bits b * 0x1000 + bits c * 0x40 + bits d)) =
      [a, b, c, d] := by
  have hn : a.toNat % 8 * 0x40000 + bits b * 0x1000 + bits c * 0x40 + bits d =
      (a.toNat - 0xF0) * 0x40000 + (b.toNat - 0x80) * 0x1000 + (c.toNat - 0x80) * 0x40 +
        (d.toNat - 0x80) := by
    unfold bits
    omega
  rw [hn]
  generalize hk : (a.toNat - 0xF0) * 0x40000 + (b.toNat - 0x80) * 0x1000 + (c.toNat - 0x80) * 0x40 +
    (d.toNat - 0x80) = n
  dsimp only [encodeChar]
  rw [toNat_ofNat (by omega), if_neg (by omega), if_neg (by omega), if_neg (by omega),
    toUInt8_eq (b := a) (by omega), toUInt8_eq (b := b) (by omega), toUInt8_eq (b := c) (by omega),
    toUInt8_eq (b := d) (by omega)]

private theorem isTail_range {b : UInt8} (h : ¬(!isTail b) = true) : 0x80 ≤ b.toNat ∧ b.toNat ≤ 0xBF := by
  simpa [isTail, UInt8.le_iff_toNat_le] using h

/-- What is read as a character is how it is written. -/
theorem eq_encodeChar_of_decodeChar {bs rest : List UInt8} {c : Char} (h : decodeChar bs = .ok (c, rest)) :
    bs = encodeChar c ++ rest := by
  unfold decodeChar at h
  split at h
  · cases h
  rename_i a tail
  split at h
  · rename_i small
    cases h
    have low : a.toNat < 0x80 := UInt8.lt_iff_toNat_lt.mp small
    rw [encodeChar, toNat_ofNat (by omega), if_pos low, toUInt8_eq rfl]
    rfl
  split at h
  · cases h
  rename_i low high more lead
  obtain ⟨lows, highs, ranges⟩ := second_eq_some lead
  split at h
  · cases h
  rename_i b tail
  split at h
  · cases h
  rename_i range
  simp only [Bool.or_eq_true, decide_eq_true_eq, not_or, UInt8.not_lt, UInt8.le_iff_toNat_le] at range
  split at h
  · obtain ⟨-, least, most⟩ | ⟨none, -⟩ | ⟨none, -⟩ := ranges
    · cases h
      rw [encodeChar_two ⟨least, most⟩ ⟨by omega, by omega⟩]
      rfl
    · cases none
    · cases none
  · cases h
  · rename_i c' tail
    split at h
    · cases h
    rename_i third
    obtain ⟨none, -⟩ | ⟨-, least, most, least', most'⟩ | ⟨none, -⟩ := ranges
    · cases none
    · cases h
      rw [encodeChar_three ⟨least, most⟩ (by omega) (by omega) (by omega) (isTail_range third)]
      rfl
    · cases none
  · split at h <;> cases h
  · rename_i c' d tail zero one
    split at h
    · cases h
    rename_i third
    split at h
    · cases h
    rename_i fourth
    obtain ⟨none, -⟩ | ⟨none, -⟩ | ⟨-, least, most, least', most'⟩ := ranges
    · exact absurd none zero
    · exact absurd none one
    · cases h
      rw [encodeChar_four ⟨least, most⟩ (by omega) (by omega) (by omega) (isTail_range third) (isTail_range fourth)]
      rfl

inductive Glyph where
  | char (value : Char)
  | stray (byte : UInt8)
deriving Repr, DecidableEq

def Glyph.width : Glyph → Nat
  | .char c => c.utf8Size
  | .stray _ => 1

def decodeFrom (index : Nat) : Nat → List UInt8 → Except (Nat × Fault) (List Char)
  | 0, _ => .ok []
  | _ + 1, [] => .ok []
  | budget + 1, bs =>
    match decodeChar bs with
    | .error fault => .error (index, fault)
    | .ok (c, rest) => (decodeFrom (index + c.utf8Size) budget rest).map (c :: ·)

/-- The text that the bytes encode, or where and why they encode none. -/
def decode (bs : List UInt8) : Except (Nat × Fault) (List Char) := decodeFrom 0 bs.length bs

def glyphsOf : Nat → List UInt8 → List Glyph
  | 0, _ => []
  | _ + 1, [] => []
  | budget + 1, b :: bs =>
    match decodeChar (b :: bs) with
    | .ok (c, rest) => .char c :: glyphsOf budget rest
    | .error _ => .stray b :: glyphsOf budget bs

def glyphs (bs : List UInt8) : List Glyph := glyphsOf bs.length bs

def Fault.message (index : Nat) : Fault → String
  | .invalid n => "invalid utf-8 sequence of " ++ toString n ++ " bytes from index " ++ toString index
  | .incomplete => "incomplete utf-8 byte sequence from index " ++ toString index

end QueryWarden.Text.Utf8
