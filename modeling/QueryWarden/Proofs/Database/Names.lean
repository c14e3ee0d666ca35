import QueryWarden.Database.Connection
import QueryWarden.Database.Function.Scalar
import QueryWarden.Database.Value
import QueryWarden.Proofs.Text.Utf8

/-! The names of tables: their order by bytes, which is that of their characters, and which of them a layout hides.
It hides those that fit the pattern in the query for the tables, and these are more than the reserved names: in a
pattern the low line stands for any character. -/
namespace QueryWarden.Database
open Text.Utf8

/-! ## The order of bytes -/

theorem compareBytes_refl (bs : List UInt8) : compareBytes bs bs = .eq := by
  induction bs with
  | nil => rfl
  | cons b bs ih =>
    rw [compareBytes, if_neg (UInt8.lt_irrefl b), if_neg (UInt8.lt_irrefl b)]
    exact ih

/-- A common beginning does not count. -/
theorem compareBytes_append_left (as bs cs : List UInt8) :
    compareBytes (as ++ bs) (as ++ cs) = compareBytes bs cs := by
  induction as with
  | nil => rfl
  | cons a as ih =>
    rw [List.cons_append, List.cons_append, compareBytes, if_neg (UInt8.lt_irrefl a),
      if_neg (UInt8.lt_irrefl a)]
    exact ih

/-- Two bytes decide, unless they are equal. -/
theorem compareBytes_cons {a b : Nat} {as bs : List UInt8} (ha : a < 0x100) (hb : b < 0x100) (h : a ≤ b)
    (further : a = b → compareBytes as bs = .lt) :
    compareBytes (a.toUInt8 :: as) (b.toUInt8 :: bs) = .lt := by
  have toNat_a : a.toUInt8.toNat = a := Nat.mod_eq_of_lt ha
  have toNat_b : b.toUInt8.toNat = b := Nat.mod_eq_of_lt hb
  rw [compareBytes]
  by_cases same : a = b
  · subst same
    rw [if_neg (UInt8.lt_irrefl _), if_neg (UInt8.lt_irrefl _)]
    exact further rfl
  · rw [if_pos]
    rw [UInt8.lt_iff_toNat_lt, toNat_a, toNat_b]
    omega

/-- The bytes of a smaller character are smaller, whatever comes behind them. -/
theorem compareBytes_encodeChar {c d : Char} (h : c < d) (as bs : List UInt8) :
    compareBytes (encodeChar c ++ as) (encodeChar d ++ bs) = .lt := by
  have smaller : c.toNat < d.toNat := h
  have valid : d.toNat < 0xD800 ∨ 0xDFFF < d.toNat ∧ d.toNat < 0x110000 := d.valid
  have first : ∀ {a b : Nat} {as bs : List UInt8}, a < b → b < 0x100 →
      compareBytes (a.toUInt8 :: as) (b.toUInt8 :: bs) = .lt :=
    fun h hb => compareBytes_cons (by omega) hb (by omega) fun same => absurd same (by omega)
  unfold encodeChar
  generalize c.toNat = n, d.toNat = m at smaller valid
  dsimp only
  -- characters of different widths differ in their first bytes, others in the first byte that is not the same
  split
  · split
    · exact first smaller (by omega)
    split
    · exact first (by omega) (by omega)
    split <;> exact first (by omega) (by omega)
  rw [if_neg (show ¬ m < 0x80 by omega)]
  split
  · split
    · refine compareBytes_cons (by omega) (by omega) (by omega) fun _ => ?_
      exact first (by omega) (by omega)
    split <;> exact first (by omega) (by omega)
  rw [if_neg (show ¬ m < 0x800 by omega)]
  split
  · split
    · refine compareBytes_cons (by omega) (by omega) (by omega) fun _ => ?_
      refine compareBytes_cons (by omega) (by omega) (by omega) fun _ => ?_
      exact first (by omega) (by omega)
    · exact first (by omega) (by omega)
  rw [if_neg (show ¬ m < 0x10000 by omega)]
  refine compareBytes_cons (by omega) (by omega) (by omega) fun _ => ?_
  refine compareBytes_cons (by omega) (by omega) (by omega) fun _ => ?_
  refine compareBytes_cons (by omega) (by omega) (by omega) fun _ => ?_
  exact first (by omega) (by omega)

theorem compareBytes_encode {cs ds : List Char} (h : cs < ds) : compareBytes (encode cs) (encode ds) = .lt := by
  induction h with
  | @nil d ds =>
    rw [encode_cons]
    cases bytes : encodeChar d with
    | nil => exact absurd bytes (encodeChar_ne_nil d)
    | cons b bs => rfl
  | rel h => exact compareBytes_encodeChar h _ _
  | cons _ ih => exact (compareBytes_append_left _ _ _).trans ih

/-- Texts that are in the order of their characters are in the order of their bytes. -/
theorem compareBytes_bytes {a b : String} (h : a ≤ b) : compareBytes (bytes a) (bytes b) ≠ .gt := by
  by_cases same : a = b
  · rw [same, compareBytes_refl]
    nofun
  · have smaller : a.toList < b.toList :=
      Decidable.byContradiction fun larger =>
        same (String.toList_inj.mp (List.le_antisymm h larger))
    rw [bytes, bytes, compareBytes_encode smaller]
    nofun

theorem compareBytes_swap (as bs : List UInt8) : (compareBytes as bs).swap = compareBytes bs as := by
  induction as generalizing bs with
  | nil => cases bs <;> rfl
  | cons a as ih =>
    cases bs with
    | nil => rfl
    | cons b bs =>
      rw [compareBytes, compareBytes]
      by_cases less : a < b
      · rw [if_pos less, if_neg (UInt8.lt_asymm less), if_pos less]
        rfl
      · rw [if_neg less, if_neg less]
        by_cases greater : b < a
        · rw [if_pos greater, if_pos greater]
          rfl
        · rw [if_neg greater, if_neg greater]
          exact ih bs

theorem compareBytes_bytes_gt (a b : String) : (compareBytes (bytes a) (bytes b) != .gt) = !decide (b < a) := by
  by_cases later : b < a
  · rw [← compareBytes_swap, bytes, bytes, compareBytes_encode later, decide_eq_true later]
    rfl
  · rw [bne_iff_ne.mpr (compareBytes_bytes (String.not_lt.mp later)), decide_eq_false later]
    rfl

theorem compareBytes_bytes_eq (a b : String) : (compareBytes (bytes a) (bytes b) == .eq) = (a == b) := by
  by_cases same : a = b
  · subst same
    rw [compareBytes_refl, beq_self_eq_true a]
    rfl
  · rw [beq_false_of_ne same]
    have differ : a.toList ≠ b.toList := fun h => same (String.toList_inj.mp h)
    rcases Decidable.em (a.toList < b.toList) with less | more
    · rw [bytes, bytes, compareBytes_encode less]
      rfl
    · have greater : b.toList < a.toList := by
        refine Decidable.byContradiction fun h => differ (List.le_antisymm ?_ ?_)
        · exact h
        · exact more
      rw [← compareBytes_swap, bytes, bytes, compareBytes_encode greater]
      rfl

/-- Bytes can be read as a text exactly if they are those of the text. -/
theorem charactersAt_eq_ok_iff {column : Nat} {bs : List UInt8} {s : String} :
    charactersAt column bs = .ok s ↔ bs = bytes s := by
  unfold charactersAt
  constructor
  · intro read
    split at read
    · next decoded =>
      cases read
      rw [decode_eq_ok_iff.mp decoded, bytes, String.toList_ofList]
    · cases read
  · rintro rfl
    rw [bytes, decode_encode]
    exact congrArg Except.ok String.ofList_toList

/-! ## Hidden names -/

/-- Whether a name begins as no table of a user may, its letters in either case. -/
def IsReserved (name : String) : Prop := "sqlite_".toList <+: name.toList.map Char.toLower

instance (name : String) : Decidable (IsReserved name) := inferInstanceAs (Decidable (_ <+: _))

/-- Whether a name only looks reserved: it goes on with another character where a reserved one has its low line. -/
def IsLookalike (name : String) : Prop :=
  ∃ c rest, name.toList.map Char.toLower = "sqlite".toList ++ c :: rest ∧ c ≠ '_'

theorem isHidden_iff {name : String} :
    isHidden name = true ↔ ∃ c rest, name.toList.map Char.toLower = "sqlite".toList ++ c :: rest := by
  have parts : name.toList.map Char.toLower =
      (name.toList.take 6).map Char.toLower ++ (name.toList.drop 6).map Char.toLower := by
    rw [← List.map_append, List.take_append_drop]
  have length : ((name.toList.take 6).map Char.toLower).length ≤ 6 := by
    rw [List.length_map, List.length_take]
    exact Nat.min_le_left ..
  unfold isHidden
  rw [List.splitAt_eq, parts]
  cases behind : name.toList.drop 6 with
  | nil =>
    refine iff_of_false (by nofun) ?_
    rintro ⟨c, rest, same⟩
    have lengths := congrArg List.length same
    simp only [List.map_nil, List.append_nil, List.length_append, List.length_cons] at lengths
    have six : "sqlite".toList.length = 6 := rfl
    omega
  | cons c cs =>
    have six : ((name.toList.take 6).map Char.toLower).length = "sqlite".toList.length := by
      have more := congrArg List.length behind
      rw [List.length_drop, List.length_cons] at more
      rw [List.length_map, List.length_take, Nat.min_eq_left (by omega)]
      rfl
    have small : "sqlite".toList.map Char.toLower = "sqlite".toList := by decide
    simp only [sameName, String.toList_ofList, beq_iff_eq, small, List.map_cons]
    constructor
    · intro same
      exact ⟨_, _, by rw [same]⟩
    · rintro ⟨c, rest, same⟩
      exact (List.append_inj same six).1

/-- What is hidden is reserved or only looks so. -/
theorem isHidden_iff_reserved {name : String} : isHidden name = true ↔ IsReserved name ∨ IsLookalike name := by
  rw [isHidden_iff]
  constructor
  · rintro ⟨c, rest, same⟩
    by_cases line : c = '_'
    · exact .inl ⟨rest, by rw [same, line]; rfl⟩
    · exact .inr ⟨c, rest, same, line⟩
  · rintro (⟨rest, same⟩ | ⟨c, rest, same, -⟩)
    · exact ⟨'_', rest, same.symm⟩
    · exact ⟨c, rest, same⟩

theorem IsLookalike.not_isReserved {name : String} (h : IsLookalike name) : ¬ IsReserved name := by
  rintro ⟨rest, reserved⟩
  obtain ⟨c, rest', same, line⟩ := h
  have parts : "sqlite".toList ++ '_' :: rest = "sqlite".toList ++ c :: rest' := reserved.trans same
  exact line (List.cons.inj (List.append_cancel_left parts)).1.symm

/-! ## The pattern -/

/-- The bytes of a character: the first begins one, and the others, where there are any, go on with it. -/
theorem encodeChar_shape (c : Char) : ∃ b more, encodeChar c = b :: more ∧ Text.continues b = false ∧
    (∀ m ∈ more, Text.continues m = true) ∧ (0xC0 ≤ b ∨ more = [] ∧ c.toNat < 0x80) := by
  have valid : c.toNat < 0xD800 ∨ 0xDFFF < c.toNat ∧ c.toNat < 0x110000 := c.valid
  have nat : ∀ {n}, n < 0x100 → n.toUInt8.toNat = n := fun h => Nat.mod_eq_of_lt h
  have within : ∀ {n}, n < 0x40 → Text.continues (0x80 + n).toUInt8 = true := by
    intro n h
    simp only [Text.continues, Bool.and_eq_true, decide_eq_true_eq, UInt8.le_iff_toNat_le]
    rw [nat (by omega)]
    simp
    omega
  have first : ∀ {n}, n < 0x100 → (n < 0x80 ∨ 0xC0 ≤ n) → Text.continues n.toUInt8 = false := by
    intro n h outside
    simp only [Text.continues, Bool.and_eq_false_iff, decide_eq_false_iff_not, UInt8.not_le,
      UInt8.lt_iff_toNat_lt]
    rw [nat h]
    simp
    omega
  have long : ∀ {n}, n < 0x100 → 0xC0 ≤ n → (0xC0 : UInt8) ≤ n.toUInt8 := by
    intro n h great
    rw [UInt8.le_iff_toNat_le, nat h]
    exact great
  unfold encodeChar
  generalize c.toNat = n at valid
  dsimp only
  split
  · rename_i small
    exact ⟨_, _, rfl, first (by omega) (by omega), nofun, .inr ⟨rfl, small⟩⟩
  split
  · refine ⟨_, _, rfl, first (by omega) (by omega), ?_, .inl (long (by omega) (by omega))⟩
    simp only [List.forall_mem_cons]
    exact ⟨within (by omega), nofun⟩
  split
  · refine ⟨_, _, rfl, first (by omega) (by omega), ?_, .inl (long (by omega) (by omega))⟩
    simp only [List.forall_mem_cons]
    exact ⟨within (by omega), within (by omega), nofun⟩
  · refine ⟨_, _, rfl, first (by omega) (by omega), ?_, .inl (long (by omega) (by omega))⟩
    simp only [List.forall_mem_cons]
    exact ⟨within (by omega), within (by omega), within (by omega), nofun⟩

theorem split_go_more {done : List (List UInt8)} {before more : List UInt8} (rest : List UInt8) (begun : before ≠ [])
    (within : ∀ m ∈ more, Text.continues m = true) (lead : before.getLast?.any (0xC0 ≤ ·) = true ∨ more = []) :
    Text.split.go done before (more ++ rest) = Text.split.go done (more.reverse ++ before) rest := by
  induction more generalizing before with
  | nil => rfl
  | cons m more ih =>
    have lead := lead.resolve_right (List.cons_ne_nil m more)
    have last : (m :: before).getLast? = before.getLast? := by
      cases before with
      | nil => exact absurd rfl begun
      | cons b bs => rw [List.getLast?_cons_cons]
    rw [List.cons_append, Text.split.go, if_neg (by simpa using begun), if_pos (by simp [within m, lead]),
      ih (List.cons_ne_nil m before) (fun n among => within n (.tail m among)) (.inl (last ▸ lead))]
    simp

theorem split_go_encode (cs : List Char) {done : List (List UInt8)} {before : List UInt8} (begun : before ≠ []) :
    Text.split.go done before (encode cs) = (cs.map encodeChar).reverse ++ before.reverse :: done := by
  induction cs generalizing done before with
  | nil => simp [encode, Text.split.go, begun]
  | cons c cs ih =>
    obtain ⟨b, more, shape, starts, within, lead⟩ := encodeChar_shape c
    rw [encode_cons, shape, List.cons_append, Text.split.go, if_neg (by simpa using begun), if_neg (by simp [starts]),
      split_go_more _ (by simp) within (by simpa using lead.imp_right And.left), ih (by simp)]
    simp [shape]

/-- The characters of a text are found in its bytes. -/
theorem split_encode (cs : List Char) : Text.split (encode cs) = cs.map encodeChar := by
  cases cs with
  | nil => rfl
  | cons c cs =>
    obtain ⟨b, more, shape, starts, within, lead⟩ := encodeChar_shape c
    rw [Text.split, encode_cons, shape, List.cons_append, Text.split.go, List.isEmpty_nil, if_pos rfl,
      split_go_more _ (by simp) within (by simpa using lead.imp_right And.left), split_go_encode cs (by simp)]
    simp [shape]

theorem encodeChar_injective {c d : Char} (h : encodeChar c = encodeChar d) : c = d := by
  have read := decodeChar_encodeChar c []
  rw [h, decodeChar_encodeChar d []] at read
  cases read
  rfl

theorem continues_great {m : UInt8} (h : Text.continues m = true) : 0x80 ≤ m := by
  simp only [Text.continues, Bool.and_eq_true, decide_eq_true_eq] at h
  exact h.1

/-- Letters are made small in the bytes as in the characters. -/
theorem lower_encodeChar (c : Char) : (encodeChar c).map lowerByte = encodeChar c.toLower := by
  by_cases small : c.toNat < 0x80
  · have ascii : ∀ n < 0x80, (encodeChar (Char.ofNat n)).map lowerByte = encodeChar (Char.ofNat n).toLower := by
      decide
    have := ascii c.toNat small
    rwa [Char.ofNat_toNat] at this
  · have same : c.toLower = c := by
      have above : ¬ c.val ≤ 'Z'.val := by
        rw [UInt32.le_iff_toNat_le]
        exact fun least => small (Nat.lt_of_le_of_lt least (by decide))
      exact dif_neg fun both => above both.2
    obtain ⟨b, more, shape, starts, within, lead⟩ := encodeChar_shape c
    have great : ∀ {m : UInt8}, 0x80 ≤ m → lowerByte m = m := by
      intro m h
      rw [UInt8.le_iff_toNat_le] at h
      have past : ¬ m.toNat ≤ (90 : UInt8).toNat := fun least => absurd (Nat.le_trans h least) (by decide)
      rw [lowerByte, if_neg (by simpa [UInt8.le_iff_toNat_le] using fun _ => past)]
    rw [same, shape, List.map_cons, List.map_congr_left fun m among => great (continues_great (within m among)),
      List.map_id', great]
    exact UInt8.le_trans (by decide) (lead.resolve_right fun ascii => small ascii.2)

/-- A letter of a pattern stands for itself, in either case. -/
theorem same_encodeChar (c d : Char) :
    Text.like.same (encodeChar c) (encodeChar d) = true ↔ c.toLower = d.toLower := by
  rw [Text.like.same, beq_iff_eq, lower_encodeChar, lower_encodeChar]
  exact ⟨encodeChar_injective, congrArg encodeChar⟩

theorem like_nil (bound : Nat) (c : List UInt8) (p : List (List UInt8)) :
    Text.like none (bound + 1) (c :: p) [] = (decide (c = [37]) && Text.like none bound p []) := by
  cases p <;> simp [Text.like]

theorem like_cons (bound : Nat) (c t : List UInt8) (p s : List (List UInt8)) :
    Text.like none (bound + 1) (c :: p) (t :: s) =
      if c = [37] then Text.like none bound p (t :: s) || Text.like none bound (c :: p) s
      else (c == [95] || Text.like.same c t) && Text.like none bound p s := by
  cases p <;> simp [Text.like]

/-- Letters of a pattern stand for themselves. -/
theorem like_letters {bound : Nat} {letters : List Char} {text : List Char} {p : List (List UInt8)}
    (percent : '%' ∉ letters) (line : '_' ∉ letters) :
    Text.like none (bound + letters.length) (letters.map encodeChar ++ p) (text.map encodeChar) = true ↔
      ∃ start rest, text = start ++ rest ∧ start.map Char.toLower = letters.map Char.toLower ∧
        Text.like none bound p (rest.map encodeChar) = true := by
  induction letters generalizing text with
  | nil =>
    constructor
    · exact fun fits => ⟨[], text, rfl, rfl, fits⟩
    · rintro ⟨start, rest, rfl, starts, fits⟩
      rw [List.map_eq_nil_iff.mp starts]
      exact fits
  | cons c letters ih =>
    rw [List.mem_cons, not_or] at percent line
    have not_percent : encodeChar c ≠ [37] := fun same => percent.1 (encodeChar_injective (d := '%') same).symm
    have not_line : encodeChar c ≠ [95] := fun same => line.1 (encodeChar_injective (d := '_') same).symm
    rw [List.length_cons, ← Nat.add_assoc, List.map_cons, List.cons_append]
    cases text with
    | nil => simp [like_nil, not_percent]
    | cons d text =>
      rw [List.map_cons, like_cons, if_neg not_percent, beq_eq_false_iff_ne.mpr not_line, Bool.false_or, Bool.and_eq_true,
        same_encodeChar, ih percent.2 line.2]
      constructor
      · rintro ⟨same, start, rest, rfl, starts, fits⟩
        exact ⟨d :: start, rest, rfl, by rw [List.map_cons, List.map_cons, starts, same], fits⟩
      · rintro ⟨start, rest, parts, starts, fits⟩
        cases start with
        | nil => nomatch starts
        | cons e start =>
          obtain ⟨rfl, rfl⟩ := List.cons.inj parts
          obtain ⟨same, starts⟩ := List.cons.inj starts
          exact ⟨same.symm, start, rest, rfl, starts, fits⟩

/-- The sign for any text fits any text. -/
theorem like_any {bound : Nat} (s : List (List UInt8)) (enough : s.length + 1 < bound) :
    Text.like none bound [[37]] s = true := by
  induction s generalizing bound with
  | nil =>
    obtain ⟨bound, rfl⟩ := Nat.exists_eq_add_of_le enough
    rw [Nat.add_comm]
    rfl
  | cons t s ih =>
    cases bound with
    | zero => omega
    | succ bound =>
      rw [like_cons, if_pos rfl, ih (Nat.lt_of_succ_lt_succ enough), Bool.or_true]

/-- A low line and the sign for any text fit what is not empty. -/
theorem like_some {bound : Nat} (s : List (List UInt8)) (enough : s.length + 1 < bound) :
    Text.like none (bound + 1) [[95], [37]] s = !s.isEmpty := by
  cases s with
  | nil => rfl
  | cons t s =>
    rw [like_cons, if_neg (by decide), like_any s (Nat.lt_of_succ_lt enough)]
    rfl

/-- What is hidden is what the pattern in the query for the tables fits. -/
theorem likeFunction_isHidden (name : String) :
    Scalar.likeFunction [.ofString "sqlite_%", .ofString name] = .ok (.ofBool (isHidden name)) := by
  have pattern : Text.split (bytes "sqlite_%") = "sqlite".toList.map encodeChar ++ [[95], [37]] := by decide
  have characters : Text.split (bytes name) = name.toList.map encodeChar := split_encode _
  have steps : Text.patternBound (Text.split (bytes "sqlite_%")) (Text.split (bytes name)) =
      2 * name.toList.length + 11 + 1 + "sqlite".toList.length := by
    rw [Text.patternBound, pattern, characters, List.length_map]
    simp
    omega
  have behind : ∀ {start rest : List Char}, name.toList = start ++ rest →
      Text.like none (2 * name.toList.length + 11 + 1) [[95], [37]] (rest.map encodeChar) = !rest.isEmpty := by
    intro start rest parts
    rw [like_some _ (by rw [parts, List.length_map, List.length_append]; omega), List.isEmpty_map]
  have fits : Text.like none (Text.patternBound (Text.split (bytes "sqlite_%")) (Text.split (bytes name)))
      (Text.split (bytes "sqlite_%")) (Text.split (bytes name)) = isHidden name := by
    rw [steps, characters, pattern, Bool.eq_iff_iff, like_letters (by decide) (by decide), isHidden_iff]
    constructor
    · rintro ⟨start, rest, parts, starts, more⟩
      cases rest with
      | nil =>
        rw [behind parts] at more
        cases more
      | cons c rest =>
        refine ⟨c.toLower, rest.map Char.toLower, ?_⟩
        rw [parts, List.map_append, starts]
        rfl
    · rintro ⟨c, rest, parts⟩
      obtain ⟨start, rest', parts', starts, rests⟩ := List.map_eq_append_iff.mp parts
      refine ⟨start, rest', parts', starts, ?_⟩
      rw [behind parts']
      cases rest' with
      | nil => nomatch rests
      | cons => rfl
  show Except.ok (Value.ofBool (Text.like none _ _ _)) = _
  exact congrArg (Except.ok ∘ Value.ofBool) fits

end QueryWarden.Database
