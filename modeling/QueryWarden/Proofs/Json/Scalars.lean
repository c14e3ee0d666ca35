import QueryWarden.Json.Scalar

/-! Scalars that are written are read back: a quoted text gives the text, and a number is a number. -/
namespace QueryWarden.Json
open Text.Utf8 (Glyph)

def glyphs (cs : List Char) : List Glyph := cs.map .char

def Place.after (p : Place) (cs : List Char) : Place := (glyphs cs).foldl Place.pass p

@[simp] theorem glyphs_nil : glyphs [] = [] := rfl
@[simp] theorem glyphs_cons (c : Char) (cs : List Char) : glyphs (c :: cs) = .char c :: glyphs cs := rfl
@[simp] theorem glyphs_append (cs ds : List Char) : glyphs (cs ++ ds) = glyphs cs ++ glyphs ds :=
  List.map_append

theorem Place.after_cons (p : Place) (c : Char) (cs : List Char) :
    p.after (c :: cs) = (p.pass (.char c)).after cs := rfl
theorem Place.after_append (p : Place) (cs ds : List Char) :
    p.after (cs ++ ds) = (p.after cs).after ds := by
  simp [Place.after]

@[simp] theorem next_cons (g : Glyph) (rest : List Glyph) (p : Place) :
    Cursor.next ⟨g :: rest, p⟩ = ⟨rest, p.pass g⟩ := rfl

variable {rest : List Glyph} {p : Place}

/-! Quoted texts. -/

/-- An escape of two digits stands for its number. -/
theorem hexEscape_two {n : Nat} (h : n < 0x100) (rest : List Glyph) (p : Place) :
    Cursor.hexEscape ⟨glyphs ['0', '0', hexDigit (n / 16), hexDigit (n % 16)] ++ rest, p⟩ =
      .ok (n, ⟨rest, p.after ['0', '0', hexDigit (n / 16), hexDigit (n % 16)]⟩) := by
  have value : ∀ d < 16, Text.hexValue? (hexDigit d) = some d := by decide
  have zero : Text.hexValue? '0' = some 0 := by decide
  have sum : n / 16 * 16 + n % 16 = n := by omega
  simp only [glyphs_cons, glyphs_nil, List.cons_append, List.nil_append, Cursor.hexEscape, zero,
    value _ (show n / 16 < 16 by omega), value _ (show n % 16 < 16 by omega), bind, Option.bind,
    Nat.zero_mul, Nat.zero_add, sum, next_cons]
  rfl

/-- How a character is spelled: as itself, behind a stroke, or by its number. -/
theorem escapeChar_cases (x : Char) :
    (escapeChar x = [x] ∧ x ≠ '"' ∧ x ≠ '\\' ∧ ¬ x.toNat < 0x20) ∨
    (∃ e, escapeChar x = ['\\', e] ∧ e ≠ 'u' ∧ shortEscape? e = some x) ∨
    escapeChar x = ['\\', 'u', '0', '0', hexDigit (x.toNat / 16), hexDigit (x.toNat % 16)] ∧
      x.toNat < 0x20 := by
  unfold escapeChar
  split
  · subst x
    exact .inr (.inl ⟨'"', rfl, by decide, rfl⟩)
  split
  · subst x
    exact .inr (.inl ⟨'\\', rfl, by decide, rfl⟩)
  split
  · rename_i notQuote notStroke visible
    exact .inl ⟨rfl, notQuote, notStroke, Nat.not_lt.mpr visible⟩
  split
  · subst x
    exact .inr (.inl ⟨'n', rfl, by decide, rfl⟩)
  split
  · subst x
    exact .inr (.inl ⟨'r', rfl, by decide, rfl⟩)
  split
  · subst x
    exact .inr (.inl ⟨'t', rfl, by decide, rfl⟩)
  split
  · rename_i number
    refine .inr (.inl ⟨'b', rfl, by decide, ?_⟩)
    rw [← Char.ofNat_toNat x, number]
    rfl
  split
  · rename_i number
    refine .inr (.inl ⟨'f', rfl, by decide, ?_⟩)
    rw [← Char.ofNat_toNat x, number]
    rfl
  · rename_i low _ _ _ _ _
    exact .inr (.inr ⟨rfl, Nat.lt_of_not_le low⟩)

/-- The escape of a control character stands for it. -/
theorem unicodeEscape_control {x : Char} (low : x.toNat < 0x20) (rest : List Glyph) (p : Place) :
    Cursor.unicodeEscape
        ⟨glyphs ['0', '0', hexDigit (x.toNat / 16), hexDigit (x.toNat % 16)] ++ rest, p⟩ =
      .ok (x, ⟨rest, p.after ['0', '0', hexDigit (x.toNat / 16), hexDigit (x.toNat % 16)]⟩) := by
  have notTrailing : ¬ (0xDC00 ≤ x.toNat ∧ x.toNat ≤ 0xDFFF) := by omega
  have notLeading : x.toNat < 0xD800 ∨ 0xDBFF < x.toNat := by omega
  rw [Cursor.unicodeEscape, hexEscape_two (by omega)]
  simp only [bind, Except.bind, if_neg notTrailing, if_pos notLeading, pure, Except.pure, Char.ofNat_toNat]

theorem readText_escapeChar (x : Char) (budget : Nat) (read : List Char) (rest : List Glyph) (p : Place) :
    readText (budget + 1) read true ⟨glyphs (escapeChar x) ++ rest, p⟩ =
      readText budget (x :: read) true ⟨rest, p.after (escapeChar x)⟩ := by
  obtain ⟨spelled, notQuote, notStroke, visible⟩ | ⟨e, spelled, notU, short⟩ | ⟨spelled, low⟩ :=
    escapeChar_cases x
  · rw [spelled]
    simp only [glyphs_cons, glyphs_nil, List.cons_append, List.nil_append, readText, if_neg visible]
    rfl
  · rw [spelled]
    simp only [glyphs_cons, glyphs_nil, List.cons_append, List.nil_append, readText, next_cons, short]
    rfl
  · rw [spelled]
    have number := unicodeEscape_control low rest (p.after ['\\', 'u'])
    simp only [glyphs_cons, glyphs_nil, List.cons_append, List.nil_append, Place.after,
      List.foldl_cons, List.foldl_nil] at number ⊢
    simp only [readText, next_cons, number]

theorem skipText_escapeChar (x : Char) (budget : Nat) (rest : List Glyph) (p : Place) :
    skipText (budget + 1) ⟨glyphs (escapeChar x) ++ rest, p⟩ =
      skipText budget ⟨rest, p.after (escapeChar x)⟩ := by
  obtain ⟨spelled, notQuote, notStroke, visible⟩ | ⟨e, spelled, notU, short⟩ | ⟨spelled, low⟩ :=
    escapeChar_cases x
  · rw [spelled]
    simp only [glyphs_cons, glyphs_nil, List.cons_append, List.nil_append, skipText, if_neg visible]
    rfl
  · rw [spelled]
    simp only [glyphs_cons, glyphs_nil, List.cons_append, List.nil_append, skipText, next_cons, short,
      Option.isSome_some, if_true]
    rfl
  · rw [spelled]
    have number := hexEscape_two (show x.toNat < 0x100 by omega) rest (p.after ['\\', 'u'])
    simp only [glyphs_cons, glyphs_nil, List.cons_append, List.nil_append, Place.after,
      List.foldl_cons, List.foldl_nil] at number ⊢
    simp only [skipText, next_cons, number]

theorem readText_quoted (cs : List Char) {budget : Nat} (enough : cs.length < budget)
    (read : List Char) (rest : List Glyph) (p : Place) :
    readText budget read true ⟨glyphs (cs.flatMap escapeChar ++ ['"']) ++ rest, p⟩ =
      .ok (String.ofList (read.reverse ++ cs), ⟨rest, p.after (cs.flatMap escapeChar ++ ['"'])⟩) := by
  induction cs generalizing budget read p with
  | nil =>
    cases budget with
    | zero => cases enough
    | succ budget => simp [readText, Place.after]
  | cons x cs ih =>
    cases budget with
    | zero => cases enough
    | succ budget =>
      have more := ih (Nat.lt_of_succ_lt_succ enough) (x :: read) (p.after (escapeChar x))
      rw [List.flatMap_cons, List.append_assoc, glyphs_append, List.append_assoc, readText_escapeChar,
        more, Place.after_append p]
      simp

theorem skipText_quoted (cs : List Char) {budget : Nat} (enough : cs.length < budget)
    (rest : List Glyph) (p : Place) :
    skipText budget ⟨glyphs (cs.flatMap escapeChar ++ ['"']) ++ rest, p⟩ =
      .ok ⟨rest, p.after (cs.flatMap escapeChar ++ ['"'])⟩ := by
  induction cs generalizing budget p with
  | nil =>
    cases budget with
    | zero => cases enough
    | succ budget => simp [skipText, Place.after]
  | cons x cs ih =>
    cases budget with
    | zero => cases enough
    | succ budget =>
      have more := ih (Nat.lt_of_succ_lt_succ enough) (p.after (escapeChar x))
      rw [List.flatMap_cons, List.append_assoc, glyphs_append, List.append_assoc, skipText_escapeChar,
        more, Place.after_append p]

theorem length_le_escaped (cs : List Char) : cs.length ≤ (cs.flatMap escapeChar).length := by
  induction cs with
  | nil => exact Nat.le_refl _
  | cons x cs ih =>
    have some : 0 < (escapeChar x).length := by
      obtain ⟨spelled, -⟩ | ⟨e, spelled, -⟩ | ⟨spelled, -⟩ := escapeChar_cases x <;> simp [spelled]
    rw [List.flatMap_cons, List.length_append, List.length_cons]
    omega

/-- A text in quotes is read as the text, from behind the opening quote on. -/
theorem text_quoted (s : String) (rest : List Glyph) (p : Place) :
    Cursor.text ⟨glyphs (s.toList.flatMap escapeChar ++ ['"']) ++ rest, p⟩ =
      ⟨.ok s, .ok ⟨rest, p.after (s.toList.flatMap escapeChar ++ ['"'])⟩⟩ := by
  have enough : s.toList.length <
      (glyphs (s.toList.flatMap escapeChar ++ ['"']) ++ rest).length + 1 := by
    have longer := length_le_escaped s.toList
    simp only [glyphs, List.length_append, List.length_map]
    omega
  rw [Cursor.text, readText_quoted _ enough, skipText_quoted _ enough]
  simp [Except.map]

/-! Numbers. -/

def NoDigit (rest : List Glyph) : Prop := ∀ x more, rest = .char x :: more → x.isDigit = false

def digitValue (c : Char) : Nat := c.toNat - 48

theorem digits_of_digits {ds : List Char} (digits : ∀ c ∈ ds, c.isDigit = true) {rest : List Glyph}
    (ends : NoDigit rest) (p : Place) :
    Cursor.digits ⟨glyphs ds ++ rest, p⟩ = (ds.map digitValue, ⟨rest, p.after ds⟩) := by
  have go : ∀ (read : List Nat) (p : Place), Cursor.digits.go read (glyphs ds ++ rest) p =
      (read.reverse ++ ds.map digitValue, ⟨rest, p.after ds⟩) := by
    induction ds with
    | nil =>
      intro read p
      cases rest with
      | nil => simp [Cursor.digits.go, Place.after]
      | cons g rest =>
        cases g with
        | char x => simp [Cursor.digits.go, ends x rest rfl, Place.after]
        | stray b => simp [Cursor.digits.go, Place.after]
    | cons d ds ih =>
      intro read p
      have more := ih (fun c hc => digits c (List.mem_cons_of_mem d hc)) (digitValue d :: read)
        (p.pass (.char d))
      have digit := digits d (List.mem_cons_self ..)
      rw [glyphs_cons, List.cons_append, Cursor.digits.go, if_pos digit]
      rw [show d.toNat - 48 = digitValue d from rfl, more]
      simp [Place.after_cons]
  exact go [] p

structure Whole (ds : List Char) : Prop where
  digits : ∀ c ∈ ds, c.isDigit = true
  leads : ∃ d more, ds = d :: more ∧ (more = [] ∨ digitValue d ≠ 0)

structure Digits (ds : List Char) : Prop where
  digits : ∀ c ∈ ds, c.isDigit = true
  some : ds ≠ []

structure EndsNumber (rest : List Glyph) : Prop where
  noDigit : NoDigit rest
  noPoint : ∀ more, rest ≠ .char '.' :: more
  noMark : ∀ more, rest ≠ .char 'e' :: more ∧ rest ≠ .char 'E' :: more

theorem readNumber_leads {ds : List Char} (whole : Whole ds) (negative : Bool) (apart : NoDigit rest)
    (p : Place) :
    readNumber negative ⟨glyphs ds ++ rest, p⟩ =
      readTail negative (Significand.whole (ds.map digitValue)) ⟨rest, p.after ds⟩ := by
  rw [readNumber, digits_of_digits whole.digits apart]
  obtain ⟨d, more, rfl, leads⟩ := whole.leads
  dsimp only
  split
  · rename_i none
    simp at none
  · rename_i zero
    obtain rfl | nonzero := leads
    · simp at zero
    · injection zero with value
      exact absurd value nonzero
  · rfl

theorem readTail_none (negative : Bool) (s : Significand) (ends : EndsNumber rest) (p : Place) :
    readTail negative s ⟨rest, p⟩ =
      match Number.ofWhole negative s with
      | some n => ⟨.ok n, .ok ⟨rest, p⟩⟩
      | none => ⟨.error (.at .numberOutOfRange p), .ok ⟨rest, p⟩⟩ := by
  rw [readTail]
  split
  · rename_i point
    exact absurd point (ends.noPoint _)
  · rename_i mark
    exact absurd mark (ends.noMark _).1
  · rename_i mark
    exact absurd mark (ends.noMark _).2
  · rfl

inductive Exponent : List Char → Prop where
  | up {es : List Char} (h : Digits es) : Exponent ('+' :: es)
  | down {es : List Char} (h : Digits es) : Exponent ('-' :: es)

inductive Tail : List Char → Prop where
  | fraction {fs : List Char} (h : Digits fs) : Tail ('.' :: fs)
  | exponent {es : List Char} (h : Exponent es) : Tail ('e' :: es)
  | both {fs es : List Char} (h : Digits fs) (h' : Exponent es) : Tail ('.' :: (fs ++ 'e' :: es))

theorem readExponent_signed {es : List Char} (signed : Exponent es) (negative : Bool) (s : Significand)
    (ends : NoDigit rest) (p : Place) :
    ∃ value, readExponent negative s ⟨glyphs es ++ rest, p⟩ = ⟨value, .ok ⟨rest, p.after es⟩⟩ := by
  cases signed with
  | up h | down h =>
    rename_i es
    have some : es.map digitValue ≠ [] := by simpa using h.some
    simp only [readExponent, glyphs_cons, List.cons_append, next_cons, digits_of_digits h.digits ends,
      List.isEmpty_iff, some, if_false]
    split
    · exact ⟨_, rfl⟩
    · exact ⟨_, rfl⟩

theorem noDigit_cons {x : Char} (h : x.isDigit = false) (more : List Glyph) :
    NoDigit (.char x :: more) := by
  rintro y more ⟨⟩
  exact h

theorem readTail_some {ts : List Char} (tail : Tail ts) (negative : Bool) (s : Significand)
    (ends : EndsNumber rest) (p : Place) :
    ∃ value, readTail negative s ⟨glyphs ts ++ rest, p⟩ = ⟨value, .ok ⟨rest, p.after ts⟩⟩ := by
  cases tail with
  | exponent h => exact readExponent_signed h negative s ends.noDigit _
  | fraction h =>
    rename_i fs
    have some : fs.map digitValue ≠ [] := by simpa using h.some
    simp only [readTail, glyphs_cons, List.cons_append, next_cons, digits_of_digits h.digits ends.noDigit,
      List.isEmpty_iff, some, if_false]
    split
    · exact absurd rfl (ends.noMark _).1
    · exact absurd rfl (ends.noMark _).2
    · split
      · exact ⟨_, rfl⟩
      · exact ⟨_, rfl⟩
  | both h h' =>
    rename_i fs es
    have some : fs.map digitValue ≠ [] := by simpa using h.some
    have mark : NoDigit (.char 'e' :: (glyphs es ++ rest)) := noDigit_cons (by decide) _
    obtain ⟨value, read⟩ := readExponent_signed h' negative (s.fraction (fs.map digitValue)) ends.noDigit
      (((p.pass (.char '.')).after fs).pass (.char 'e'))
    refine ⟨value, ?_⟩
    simp only [readTail, glyphs_cons, glyphs_append, List.cons_append, List.append_assoc, next_cons,
      digits_of_digits h.digits mark, List.isEmpty_iff, some, if_false, read, Place.after_cons,
      Place.after_append]

/-- A number that is written is read as a number. -/
theorem readNumber_real {ds ts : List Char} (whole : Whole ds) (tail : Tail ts) (negative : Bool)
    (ends : EndsNumber rest) (p : Place) :
    ∃ value, readNumber negative ⟨glyphs (ds ++ ts) ++ rest, p⟩ =
      ⟨value, .ok ⟨rest, p.after (ds ++ ts)⟩⟩ := by
  have apart : NoDigit (glyphs ts ++ rest) := by
    cases tail <;> exact noDigit_cons (by decide) _
  obtain ⟨value, read⟩ := readTail_some tail negative (Significand.whole (ds.map digitValue)) ends
    (p.after ds)
  refine ⟨value, ?_⟩
  rw [glyphs_append, List.append_assoc, readNumber_leads whole negative apart, read, Place.after_append]

end QueryWarden.Json
