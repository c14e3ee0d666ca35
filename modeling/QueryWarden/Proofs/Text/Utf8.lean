import QueryWarden.Text.Utf8

/-! A text that is written as bytes is read back, and a line feed among its bytes is one of its
characters. -/
namespace QueryWarden.Text.Utf8

theorem encode_cons (c : Char) (cs : List Char) : encode (c :: cs) = encodeChar c ++ encode cs := rfl

theorem encodeChar_ne_nil (c : Char) : encodeChar c ≠ [] := by
  unfold encodeChar
  dsimp only
  split
  · nofun
  split
  · nofun
  split <;> nofun

theorem decodeFrom_encode (cs : List Char) (index : Nat) {budget : Nat}
    (enough : (encode cs).length ≤ budget) : decodeFrom index budget (encode cs) = .ok cs := by
  induction cs generalizing index budget with
  | nil => cases budget <;> rfl
  | cons c cs ih =>
    rw [encode_cons] at enough ⊢
    have read := decodeChar_encodeChar c (encode cs)
    cases bytes : encodeChar c with
    | nil => exact absurd bytes (encodeChar_ne_nil c)
    | cons b bs =>
      rw [bytes] at enough read
      simp only [List.cons_append, List.length_cons, List.length_append] at enough read ⊢
      cases budget with
      | zero => omega
      | succ budget =>
        rw [decodeFrom, read]
        · dsimp only
          rw [ih (index + c.utf8Size) (by omega)]
          rfl
        · nofun

theorem decode_encode (cs : List Char) : decode (encode cs) = .ok cs :=
  decodeFrom_encode cs 0 (Nat.le_refl _)

theorem glyphsOf_encode (cs : List Char) {budget : Nat} (enough : (encode cs).length ≤ budget) :
    glyphsOf budget (encode cs) = cs.map .char := by
  induction cs generalizing budget with
  | nil => cases budget <;> rfl
  | cons c cs ih =>
    rw [encode_cons] at enough ⊢
    have read := decodeChar_encodeChar c (encode cs)
    cases bytes : encodeChar c with
    | nil => exact absurd bytes (encodeChar_ne_nil c)
    | cons b bs =>
      rw [bytes] at enough read
      simp only [List.cons_append, List.length_cons, List.length_append] at enough read ⊢
      obtain ⟨budget, rfl⟩ : ∃ n, budget = n + 1 := ⟨budget - 1, by omega⟩
      have later : (encode cs).length ≤ budget := by omega
      simp only [glyphsOf, read, ih later, List.map_cons]

/-- A text that is written as bytes is seen again character by character. -/
theorem glyphs_bytes (s : String) : glyphs (bytes s) = s.toList.map .char :=
  glyphsOf_encode s.toList (Nat.le_refl _)

theorem encode_of_decodeFrom {budget index : Nat} {bs : List UInt8} {cs : List Char} (enough : bs.length ≤ budget)
    (h : decodeFrom index budget bs = .ok cs) : bs = encode cs := by
  induction budget generalizing index bs cs with
  | zero =>
    cases h
    exact List.eq_nil_of_length_eq_zero (Nat.le_zero.mp enough)
  | succ budget ih =>
    cases bs with
    | nil =>
      cases h
      rfl
    | cons b bs =>
      rw [decodeFrom] at h
      · split at h
        · cases h
        rename_i c rest read
        have written := eq_encodeChar_of_decodeChar read
        have shorter : rest.length ≤ budget := by
          have some : 0 < (encodeChar c).length := List.length_pos_iff.mpr (encodeChar_ne_nil c)
          have lengths := congrArg List.length written
          simp only [List.length_cons, List.length_append] at lengths enough
          omega
        cases more : decodeFrom (index + c.utf8Size) budget rest with
        | error fault =>
          rw [more] at h
          cases h
        | ok cs' =>
          rw [more] at h
          cases h
          rw [encode_cons, ← ih shorter more, written]
      · nofun

/-- Bytes are read as characters exactly if they are how these are written. -/
theorem decode_eq_ok_iff {bs : List UInt8} {cs : List Char} : decode bs = .ok cs ↔ bs = encode cs := by
  constructor
  · exact encode_of_decodeFrom (Nat.le_refl _)
  · rintro rfl
    exact decode_encode cs

theorem lineFeed_encode : encodeChar '\n' = [10] := by decide

/-- No byte of another character is a line feed. -/
theorem lineFeed_notMem {c : Char} (h : c ≠ '\n') : 10 ∉ encodeChar c := by
  have other : ∀ {n}, n < 0x100 → n ≠ 10 → (10 : UInt8) ≠ n.toUInt8 := by
    intro n small apart he
    have toNat : 10 = n % 256 := congrArg UInt8.toNat he
    omega
  have apart : c.toNat ≠ 10 := by
    intro he
    exact h (by rw [← Char.ofNat_toNat c, he])
  have valid : c.toNat < 0xD800 ∨ 0xDFFF < c.toNat ∧ c.toNat < 0x110000 := c.valid
  unfold encodeChar
  generalize c.toNat = n at apart valid
  dsimp only
  intro among
  split at among
  · exact other (by omega) apart (List.mem_singleton.mp among)
  split at among
  · simp only [List.mem_cons, List.not_mem_nil, or_false] at among
    obtain he | he := among
    all_goals exact other (by omega) (by omega) he
  split at among
  · simp only [List.mem_cons, List.not_mem_nil, or_false] at among
    obtain he | he | he := among
    all_goals exact other (by omega) (by omega) he
  · simp only [List.mem_cons, List.not_mem_nil, or_false] at among
    obtain he | he | he | he := among
    all_goals exact other (by omega) (by omega) he

end QueryWarden.Text.Utf8
