import QueryWarden.Json.Printer

/-! A compact document stands on one line: no character of it is a control character. -/
namespace QueryWarden.Json

def Visible (cs : List Char) : Prop := ∀ c ∈ cs, 0x20 ≤ c.toNat

@[simp] theorem visible_nil : Visible [] := nofun

@[simp] theorem visible_cons {c : Char} {cs : List Char} :
    Visible (c :: cs) ↔ 0x20 ≤ c.toNat ∧ Visible cs := by
  simp [Visible]

@[simp] theorem visible_append {cs ds : List Char} : Visible (cs ++ ds) ↔ Visible cs ∧ Visible ds := by
  simp [Visible, or_imp, forall_and]

theorem Visible.subset {cs ds : List Char} (h : Visible ds) (sub : cs ⊆ ds) : Visible cs :=
  fun c hc => h c (sub hc)

theorem Visible.lineFeed_notMem {cs : List Char} (h : Visible cs) : '\n' ∉ cs := fun among =>
  absurd (h _ among) (by decide)

theorem visible_of_isDigit {cs : List Char} (h : ∀ c ∈ cs, c.isDigit = true) : Visible cs := by
  intro c hc
  have digit := h c hc
  simp only [Char.isDigit, Bool.and_eq_true, decide_eq_true_eq] at digit
  have : (48 : UInt32).toNat ≤ c.val.toNat := UInt32.le_iff_toNat_le.mp digit.1
  exact Nat.le_trans (by decide) this

theorem toDigits_visible (n : Nat) : Visible (Nat.toDigits 10 n) :=
  visible_of_isDigit fun _ hc => Nat.isDigit_of_mem_toDigits (by decide) (by decide) hc

theorem intText_visible (n : Int) : Visible (intText n) := by
  unfold intText
  split
  · rw [visible_cons]
    exact ⟨by decide, toDigits_visible _⟩
  · exact toDigits_visible _

theorem write_visible {digits : List Char} (h : Visible digits) (point : Int) :
    Visible (RealStyle.json.write digits point) := by
  have zeros : ∀ n, Visible (List.replicate n '0') := by
    intro n c hc
    rw [List.eq_of_mem_replicate hc]
    decide
  have taken : ∀ n, Visible (digits.take n) := fun n => h.subset (List.take_subset n digits)
  have left : ∀ n, Visible (digits.drop n) := fun n => h.subset (List.drop_subset n digits)
  unfold RealStyle.write
  dsimp only
  split
  · simp [h, zeros]
  split
  · split
    · simp [h, zeros]
    · simp [taken, left]
  · have fraction : Visible (if digits.length ≤ 1 then [] else '.' :: digits.drop 1) := by
      split
      · exact visible_nil
      · simp only [visible_cons, left, and_true]
        decide
    have sign : Visible (if point - 1 < 0 then ['-'] else if RealStyle.json.plus then ['+'] else []) := by
      split
      · simp
      · split <;> simp
    have mark : 0x20 ≤ RealStyle.json.mark.toNat := by decide
    simp only [visible_append, visible_cons, taken, fraction, sign, mark, toDigits_visible, and_self]

theorem realText_visible {x : Float} {cs : List Char} (h : realText? x = some cs) : Visible cs := by
  have sign : ∀ {negative : Bool}, Visible (if negative then ['-'] else []) := by
    intro negative
    cases negative <;> simp
  unfold realText? at h
  split at h
  · cases h
    simp [sign]
  · rename_i negative m q _ _
    dsimp only at h
    cases h
    rw [visible_append]
    refine ⟨sign, write_visible ?_ _⟩
    rw [Real.Decimal.normal]
    apply (toDigits_visible (Real.shortest m q).digits).subset
    intro c hc
    have hc := List.mem_reverse.mp hc
    exact List.mem_reverse.mp ((List.dropWhile_sublist _).subset hc)
  · cases h

theorem Number.text_visible (n : Number) : Visible n.text := by
  cases n with
  | int n => exact intText_visible n
  | real x =>
    rw [Number.text]
    cases h : realText? x with
    | none => simp
    | some cs => exact realText_visible h

theorem quote_visible (s : String) : Visible (quote s) := by
  have body : Visible (s.toList.flatMap escapeChar) := by
    intro c hc
    obtain ⟨d, -, hd⟩ := List.mem_flatMap.mp hc
    exact escapeChar_visible d c hd
  simp [quote, body]

mutual
theorem compactChars_visible : (j : Json) → Visible (compactChars j)
  | .null => by simp [compactChars]
  | .bool true => by simp [compactChars]
  | .bool false => by simp [compactChars]
  | .num n => n.text_visible
  | .str s => quote_visible s
  | .arr [] => by simp [compactChars]
  | .arr (item :: rest) => by simp [compactChars, compactChars_visible item, compactItems_visible rest]
  | .obj [] => by simp [compactChars]
  | .obj ((name, value) :: rest) => by
    simp [compactChars, quote_visible name, compactChars_visible value, compactMembers_visible rest]
theorem compactItems_visible : (items : List Json) → Visible (compactItems items)
  | [] => by simp [compactItems]
  | item :: rest => by simp [compactItems, compactChars_visible item, compactItems_visible rest]
theorem compactMembers_visible : (members : List (String × Json)) → Visible (compactMembers members)
  | [] => by simp [compactMembers]
  | (name, value) :: rest => by
    simp [compactMembers, quote_visible name, compactChars_visible value, compactMembers_visible rest]
end

theorem compact_lineFeed_notMem (j : Json) : '\n' ∉ j.compact.toList := by
  rw [compact, String.toList_ofList]
  exact (compactChars_visible j).lineFeed_notMem

end QueryWarden.Json
