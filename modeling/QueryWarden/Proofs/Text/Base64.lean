import Mathlib.Data.Nat.Basic
import QueryWarden.Text.Base64

/-! Bytes in Base64 are read back, whatever their number leaves for the last group. -/
namespace QueryWarden.Text.Base64

theorem value?_digit : ∀ n < 64, value? (digit n) = some n := by decide

theorem digit_ne_pad : ∀ n < 64, digit n ≠ '=' := by decide

theorem toUInt8_eq {n : Nat} {b : UInt8} (h : n = b.toNat) : n.toUInt8 = b := by
  subst h
  exact UInt8.ofNat_toNat

section
variable {i j k l n : Nat}

theorem decode_one (hi : i < 64) (hj : j < 64) (joined : i * 64 + j = n) (whole : n % 16 = 0) :
    decode [digit i, digit j, '=', '='] = some [(n / 16).toUInt8] := by
  rw [decode.eq_2]
  simp [value?_digit i hi, value?_digit j hj, joined, whole]

theorem decode_two (hi : i < 64) (hj : j < 64) (hk : k < 64) (joined : i * 4096 + j * 64 + k = n)
    (whole : n % 4 = 0) :
    decode [digit i, digit j, digit k, '='] = some [(n / 1024).toUInt8, (n / 4 % 256).toUInt8] := by
  rw [decode.eq_3 _ _ _ (digit_ne_pad k hk)]
  simp [value?_digit i hi, value?_digit j hj, value?_digit k hk, joined, whole]

theorem decode_three (hi : i < 64) (hj : j < 64) (hk : k < 64) (hl : l < 64)
    (joined : i * 262144 + j * 4096 + k * 64 + l = n) (rest : List Char) :
    decode (digit i :: digit j :: digit k :: digit l :: rest) =
      (decode rest).map fun more =>
        (n / 65536).toUInt8 :: (n / 256 % 256).toUInt8 :: (n % 256).toUInt8 :: more := by
  have full := digit_ne_pad l hl
  rw [decode.eq_4 _ _ _ _ _ (fun _ pad _ => full pad) (fun pad _ => full pad)]
  simp only [value?_digit i hi, value?_digit j hj, value?_digit k hk, value?_digit l hl, joined,
    Option.bind_eq_bind, Option.bind_some]
  cases decode rest <;> rfl

end

/-- A number is made of its last three digits of base 64 and what stands before them. -/
theorem digits_joined (n : Nat) :
    n / 262144 * 262144 + n / 4096 % 64 * 4096 + n / 64 % 64 * 64 + n % 64 = n := by
  have second : n / 4096 = n / 64 / 64 := (Nat.div_div_eq_div_mul n 64 64).symm
  have third : n / 262144 = n / 64 / 64 / 64 := by rw [Nat.div_div_eq_div_mul, Nat.div_div_eq_div_mul]
  rw [second, third]
  generalize hq : n / 64 = q
  omega

theorem decode_encode (bytes : List UInt8) : decode (encode bytes) = some bytes := by
  induction bytes using encode.induct with
  | case1 => rfl
  | case2 a =>
    have low := a.toNat_lt
    simp only [encode]
    generalize hn : a.toNat * 16 = n
    have joined : n / 64 * 64 + n % 64 = n := by omega
    rw [decode_one (by omega) (by omega) joined (by omega), toUInt8_eq (b := a) (by omega)]
  | case3 a b =>
    have lowA := a.toNat_lt
    have lowB := b.toNat_lt
    simp only [encode]
    generalize hn : (a.toNat * 256 + b.toNat) * 4 = n
    have joined : n / 4096 * 4096 + n / 64 % 64 * 64 + n % 64 = n := by omega
    rw [decode_two (by omega) (by omega) (by omega) joined (by omega), toUInt8_eq (b := a) (by omega),
      toUInt8_eq (b := b) (by omega)]
  | case4 a b c rest ih =>
    have lowA := a.toNat_lt
    have lowB := b.toNat_lt
    have lowC := c.toNat_lt
    simp only [encode]
    generalize hn : a.toNat * 65536 + b.toNat * 256 + c.toNat = n
    have joined := digits_joined n
    have high : n / 262144 < 64 := by omega
    have group := decode_three high (by omega) (by omega) (by omega) joined (encode rest)
    rw [group, ih, Option.map_some, toUInt8_eq (b := a) (by omega), toUInt8_eq (b := b) (by omega),
      toUInt8_eq (b := c) (by omega)]

end QueryWarden.Text.Base64
