import QueryWarden.Json.Node
import QueryWarden.Proofs.Json.Numbers

/-! Documents are read back, compact ones and indented ones: whatever follows, reading takes exactly the spelling
of a value and gives a tree that shows the value. White space may stand behind a bracket, a comma or a colon and
before the bracket that closes. -/
namespace QueryWarden.Json
open Text.Utf8 (Glyph)

def Fits (n : Int) : Prop := -(Nat.pow 2 63 : Int) ≤ n ∧ n ≤ greatestNatural

mutual
/-- A part of a document shows a value. Of a double it shows that it is a number. -/
inductive Shows : Node → Json → Prop where
  | null (span : Span) : Shows (.null span) .null
  | bool (b : Bool) (span : Span) : Shows (.bool b span) (.bool b)
  | int {n : Int} {value : Except Fault Number} (span : Span) (h : Fits n → value = .ok (.int n)) :
      Shows (.number value span) (.num (.int n))
  | real (x : Float) (value : Except Fault Number) (span : Span) :
      Shows (.number value span) (.num (.real x))
  /-- JSON has no spelling for doubles that are not finite. -/
  | unspelled {x : Float} (span : Span) (h : realText? x = none) : Shows (.null span) (.num (.real x))
  | text (s : String) (span : Span) : Shows (.text (.ok s) span) (.str s)
  | list {items : List Item} {values : List Json} (start stop : Place) (h : ShowsItems items values) :
      Shows (.list start items (.shut stop)) (.arr values)
  | object {members : List Member} {values : List (String × Json)} (start stop : Place)
      (h : ShowsMembers members values) : Shows (.object start members (.shut stop)) (.obj values)
inductive ShowsItems : List Item → List Json → Prop where
  | nil : ShowsItems [] []
  | cons {node : Node} {value : Json} {items : List Item} {values : List Json} (peek : Place)
      (first : Shows node value) (rest : ShowsItems items values) :
      ShowsItems (.mk peek node :: items) (value :: values)
/-- The members of an object show its names and values. -/
inductive ShowsMembers : List Member → List (String × Json) → Prop where
  | nil : ShowsMembers [] []
  | cons {node : Node} {value : Json} {members : List Member} {values : List (String × Json)}
      (name : String) (places : MemberPlaces) (first : Shows node value)
      (rest : ShowsMembers members values) :
      ShowsMembers (.mk (.ok name) places node :: members) ((name, value) :: values)
end

variable {rest : List Glyph} {p : Place}

def Opens (x : Char) : Prop := x ∉ [' ', '\n', '\t', '\r'] ∧ x ≠ ']'

instance (x : Char) : Decidable (Opens x) := inferInstanceAs (Decidable (_ ∧ _))

theorem skipSpace_full {x : Char} (full : x ∉ [' ', '\n', '\t', '\r']) (rest : List Glyph) (p : Place) :
    Cursor.skipSpace ⟨.char x :: rest, p⟩ = ⟨.char x :: rest, p⟩ := by
  rw [Cursor.skipSpace, Cursor.skipSpace.go]
  all_goals simp_all

theorem skipSpace_opens {x : Char} (opens : Opens x) (rest : List Glyph) (p : Place) :
    Cursor.skipSpace ⟨.char x :: rest, p⟩ = ⟨.char x :: rest, p⟩ :=
  skipSpace_full opens.1 rest p

def Blank (cs : List Char) : Prop := ∀ c ∈ cs, c ∈ [' ', '\n', '\t', '\r']

theorem blank_nil : Blank [] := nofun

theorem blank_single {c : Char} (white : c ∈ [' ', '\n', '\t', '\r']) : Blank [c] := by
  intro d among
  rw [List.mem_singleton.mp among]
  exact white

theorem Blank.head {c : Char} {cs : List Char} (blank : Blank (c :: cs)) :
    c = ' ' ∨ c = '\n' ∨ c = '\t' ∨ c = '\r' := by
  simpa using blank c List.mem_cons_self

theorem Blank.tail {c : Char} {cs : List Char} (blank : Blank (c :: cs)) : Blank cs :=
  fun d among => blank d (List.mem_cons_of_mem c among)

theorem skipSpace_gap {gap : List Char} (blank : Blank gap) {x : Char} (full : x ∉ [' ', '\n', '\t', '\r'])
    (rest : List Glyph) (p : Place) :
    Cursor.skipSpace ⟨glyphs gap ++ .char x :: rest, p⟩ = ⟨.char x :: rest, p.after gap⟩ := by
  induction gap generalizing p with
  | nil => exact skipSpace_full full rest p
  | cons c gap ih =>
    have later := ih blank.tail (p.pass (.char c))
    obtain rfl | rfl | rfl | rfl := blank.head
    all_goals exact later

theorem skipSpace_blank {gap : List Char} (blank : Blank gap) (p : Place) :
    Cursor.skipSpace ⟨glyphs gap, p⟩ = ⟨[], p.after gap⟩ := by
  induction gap generalizing p with
  | nil => rfl
  | cons c gap ih =>
    have later := ih blank.tail (p.pass (.char c))
    obtain rfl | rfl | rfl | rfl := blank.head
    all_goals exact later

theorem opens_of_isDigit {x : Char} (digit : x.isDigit = true) : Opens x := by
  constructor
  · intro among
    obtain ⟨rfl⟩ | ⟨rfl⟩ | ⟨rfl⟩ | ⟨rfl⟩ := by simpa using among
    all_goals cases digit
  · rintro rfl
    cases digit

def sign (negative : Bool) : List Char := if negative then ['-'] else []

theorem sign_opens (negative : Bool) {d : Char} (digit : d.isDigit = true) (more : List Char) :
    ∃ x behind, sign negative ++ d :: more = x :: behind ∧ Opens x := by
  cases negative with
  | true => exact ⟨'-', _, rfl, by decide⟩
  | false => exact ⟨d, more, rfl, opens_of_isDigit digit⟩

theorem intText_sign (n : Int) : intText n = sign (n < 0) ++ Nat.toDigits 10 n.natAbs := by
  rw [intText]
  by_cases below : n < 0 <;> simp [sign, below]

theorem number_opens (n : Number) : ∃ x more, n.text = x :: more ∧ Opens x := by
  cases n with
  | int n =>
    obtain ⟨isDigit, d, more, digits, -⟩ := whole_toDigits n.natAbs
    rw [Number.text, intText_sign, digits]
    exact sign_opens _ (isDigit d (digits ▸ List.mem_cons_self ..)) more
  | real x =>
    rw [Number.text]
    cases spelled : realText? x with
    | none => exact ⟨'n', _, rfl, by decide⟩
    | some cs =>
      obtain ⟨negative, ds, ts, rfl, ⟨isDigit, d, more, rfl, -⟩, -⟩ := realText_split spelled
      exact sign_opens negative (isDigit d (List.mem_cons_self ..)) (more ++ ts)

/-! Scalars. -/

/-- A number is read from its sign on. -/
theorem readValue_number (budget : Nat) (negative : Bool) {d : Char} (digit : d.isDigit = true)
    (more : List Char) (rest : List Glyph) (p : Place) {value : Except Fault Number}
    (read : readNumber negative ⟨glyphs (d :: more) ++ rest, p.after (sign negative)⟩ =
      ⟨value, .ok ⟨rest, (p.after (sign negative)).after (d :: more)⟩⟩) :
    readValue (budget + 1) ⟨glyphs (sign negative ++ d :: more) ++ rest, p⟩ =
      (.number value ⟨p, p.after (sign negative ++ d :: more)⟩,
        some ⟨rest, p.after (sign negative ++ d :: more)⟩) := by
  cases negative with
  | true =>
    have minus : Opens '-' := by decide
    change readValue (budget + 1) ⟨.char '-' :: (glyphs (d :: more) ++ rest), p⟩ = _
    rw [readValue, skipSpace_opens minus]
    change Scalar.node .other .number _
      (readNumber true ⟨glyphs (d :: more) ++ rest, p.after (sign true)⟩) = _
    rw [read]
    rfl
  | false =>
    have apart : d ≠ 'n' ∧ d ≠ 't' ∧ d ≠ 'f' ∧ d ≠ '-' ∧ d ≠ '"' ∧ d ≠ '[' ∧ d ≠ '{' := by
      refine ⟨?_, ?_, ?_, ?_, ?_, ?_, ?_⟩ <;> rintro rfl <;> cases digit
    obtain ⟨n, t, f, minus, quote, bracket, brace⟩ := apart
    change readValue (budget + 1) ⟨.char d :: (glyphs more ++ rest), p⟩ = _
    rw [readValue, skipSpace_opens (opens_of_isDigit digit)]
    simp only [digit, if_true]
    change Scalar.node .other .number _
      (readNumber false ⟨glyphs (d :: more) ++ rest, p.after (sign false)⟩) = _
    rw [read]
    rfl

theorem ofWhole_fits {n : Int} (fits : Fits n) :
    Number.ofWhole (n < 0) ⟨n.natAbs, 0, false⟩ = some (.int n) := by
  have low : Nat.pow 2 63 = 9223372036854775808 := rfl
  obtain ⟨least, -⟩ := fits
  rw [low] at least
  by_cases below : n < 0
  · have inside : 0 < n.natAbs ∧ n.natAbs ≤ Nat.pow 2 63 := by rw [low]; omega
    have value : -(n.natAbs : Int) = n := by omega
    rw [decide_eq_true below, Number.ofWhole]
    simp only [Bool.not_true, Bool.false_eq_true, if_false, if_pos inside, value]
  · have value : (n.natAbs : Int) = n := by omega
    rw [decide_eq_false below, Number.ofWhole]
    simp only [Bool.not_false, Bool.false_eq_true, if_false, if_true, value]

/-- The digits of an integer are read as a number: as the integer, if a document can hold it. -/
theorem readNumber_int (n : Int) (ends : EndsNumber rest) (p : Place) :
    ∃ value, readNumber (n < 0) ⟨glyphs (Nat.toDigits 10 n.natAbs) ++ rest, p⟩ =
      ⟨value, .ok ⟨rest, p.after (Nat.toDigits 10 n.natAbs)⟩⟩ ∧ (Fits n → value = .ok (.int n)) := by
  rw [readNumber_leads (whole_toDigits n.natAbs) _ ends.noDigit, readTail_none _ _ ends]
  have exact_of_fits : Fits n → Number.ofWhole (n < 0)
      (Significand.whole ((Nat.toDigits 10 n.natAbs).map digitValue)) = some (.int n) := by
    intro fits
    have small : n.natAbs ≤ greatestNatural := by
      have bounds : Nat.pow 2 63 = 9223372036854775808 ∧ greatestNatural = 18446744073709551615 :=
        ⟨rfl, rfl⟩
      obtain ⟨least, greatest⟩ := fits
      rw [bounds.1] at least
      rw [bounds.2] at greatest ⊢
      omega
    rw [whole_of_toDigits small, ofWhole_fits fits]
  cases found : Number.ofWhole (n < 0)
      (Significand.whole ((Nat.toDigits 10 n.natAbs).map digitValue)) with
  | some m =>
    refine ⟨.ok m, rfl, fun fits => ?_⟩
    rw [exact_of_fits fits] at found
    cases found
    rfl
  | none =>
    refine ⟨_, rfl, fun fits => ?_⟩
    rw [exact_of_fits fits] at found
    cases found

/-- A number is read back, however it is spelled. -/
theorem readValue_text (n : Number) (ends : EndsNumber rest) (budget : Nat) (p : Place) :
    ∃ node, readValue (budget + 1) ⟨glyphs n.text ++ rest, p⟩ = (node, some ⟨rest, p.after n.text⟩) ∧
      Shows node (.num n) := by
  cases n with
  | int n =>
    obtain ⟨value, read, fits⟩ := readNumber_int n ends (p.after (sign (n < 0)))
    obtain ⟨isDigit, d, more, digits, -⟩ := whole_toDigits n.natAbs
    rw [Number.text, intText_sign]
    rw [digits] at read isDigit ⊢
    exact ⟨_, readValue_number budget _ (isDigit d (List.mem_cons_self ..)) more rest p read,
      .int _ fits⟩
  | real x =>
    cases spelled : realText? x with
    | none =>
      rw [Number.text, spelled]
      exact ⟨.null ⟨p, p.after ['n', 'u', 'l', 'l']⟩, rfl, .unspelled _ spelled⟩
    | some cs =>
      obtain ⟨negative, ds, ts, rfl, whole, tail⟩ := realText_split spelled
      obtain ⟨value, read⟩ := readNumber_real whole tail negative ends (p.after (sign negative))
      obtain ⟨isDigit, d, more, rfl, -⟩ := whole
      rw [Number.text, spelled]
      exact ⟨_, readValue_number budget negative (isDigit d (List.mem_cons_self ..)) (more ++ ts) rest p read,
        .real x value _⟩

theorem readValue_quote (s : String) (budget : Nat) (rest : List Glyph) (p : Place) :
    readValue (budget + 1) ⟨glyphs (quote s) ++ rest, p⟩ =
      (.text (.ok s) ⟨p, p.after (quote s)⟩, some ⟨rest, p.after (quote s)⟩) := by
  have mark : Opens '"' := by decide
  change readValue (budget + 1) ⟨.char '"' :: (glyphs (s.toList.flatMap escapeChar ++ ['"']) ++ rest), p⟩ = _
  rw [readValue, skipSpace_opens mark]
  change Scalar.node .quoted .text _ (Cursor.text ⟨glyphs (s.toList.flatMap escapeChar ++ ['"']) ++ rest, _⟩) = _
  rw [text_quoted]
  rfl

/-! Lists and objects. -/

theorem endsNumber_nil : EndsNumber [] := ⟨nofun, nofun, fun _ => ⟨nofun, nofun⟩⟩

/-- What stands behind an item or a member ends a number. -/
theorem endsNumber_cons {x : Char} (mark : x = ',' ∨ x = ']' ∨ x = '}') (more : List Glyph) :
    EndsNumber (.char x :: more) := by
  obtain rfl | rfl | rfl := mark
  all_goals exact ⟨noDigit_cons (by decide) more, nofun, fun _ => ⟨nofun, nofun⟩⟩

/-- An item that is read, behind the bracket or behind a comma. -/
theorem readItems_first {gap : List Char} (blank : Blank gap) {x : Char} (opens : Opens x) {budget : Nat}
    {more : List Glyph} {node : Node} {after : Cursor}
    (read : readValue budget ⟨.char x :: more, p.after gap⟩ = (node, some after)) :
    ∃ peek, readItems (budget + 1) true ⟨glyphs gap ++ .char x :: more, p⟩ =
      (.mk peek node :: (readItems budget false after).1, (readItems budget false after).2) := by
  have bracket := opens.2
  rw [readItems, skipSpace_gap blank opens.1]
  simp only [Bool.not_true, Bool.false_and, if_true, read]
  split
  · rename_i none
    cases none
  · rename_i shut
    cases shut
    exact absurd rfl bracket
  · exact ⟨_, rfl⟩

theorem readItems_next {gap : List Char} (blank : Blank gap) {x : Char} (opens : Opens x) {budget : Nat}
    {more : List Glyph} {node : Node} {after : Cursor}
    (read : readValue budget ⟨.char x :: more, (p.pass (.char ',')).after gap⟩ = (node, some after)) :
    ∃ peek, readItems (budget + 1) false ⟨.char ',' :: (glyphs gap ++ .char x :: more), p⟩ =
      (.mk peek node :: (readItems budget false after).1, (readItems budget false after).2) := by
  have comma : Opens ',' := by decide
  have bracket := opens.2
  rw [readItems, skipSpace_opens comma]
  simp only [Char.isValue, Glyph.char.injEq, Char.reduceEq, imp_self, Bool.not_false, ne_eq,
    not_true_eq_false, decide_false, Bool.and_false, Bool.false_eq_true, if_false, next_cons,
    skipSpace_gap blank opens.1, read]
  split
  · rename_i none
    cases none
  · rename_i shut
    cases shut
    exact absurd rfl bracket
  · exact ⟨_, rfl⟩

theorem readItems_shut {gap : List Char} (blank : Blank gap) (budget : Nat) (rest : List Glyph) (p : Place) :
    readItems (budget + 1) false ⟨glyphs (gap ++ [']']) ++ rest, p⟩ =
      ([], .shut (p.after (gap ++ [']'])), some ⟨rest, p.after (gap ++ [']'])⟩) := by
  rw [glyphs_append, List.append_assoc, Place.after_append]
  change readItems (budget + 1) false ⟨glyphs gap ++ .char ']' :: rest, p⟩ = _
  rw [readItems, skipSpace_gap blank (by decide)]
  rfl

/-- A name and its value that are read, behind the brace or behind a comma. -/
theorem readMembers_first {gap : List Char} (blank : Blank gap) (name : String) {budget : Nat} {more : List Glyph}
    {node : Node} {after : Cursor}
    (read : readValue budget ⟨more, ((p.after gap).after (quote name)).pass (.char ':')⟩ = (node, some after)) :
    ∃ places, readMembers (budget + 1) true ⟨glyphs gap ++ (glyphs (quote name) ++ .char ':' :: more), p⟩ =
      (.mk (.ok name) places node :: (readMembers budget false after).1,
        (readMembers budget false after).2) := by
  have mark : Opens '"' := by decide
  have colon : Opens ':' := by decide
  have text := text_quoted name (.char ':' :: more) ((p.after gap).pass (.char '"'))
  rw [quote, Place.after_cons] at read
  rw [quote, glyphs_cons, List.cons_append]
  generalize glyphs (name.toList.flatMap escapeChar ++ ['"']) ++ .char ':' :: more = inside at text ⊢
  rw [readMembers, skipSpace_gap blank mark.1]
  simp only [Char.isValue, Glyph.char.injEq, Char.reduceEq, imp_self, Bool.not_true, Bool.false_and,
    Bool.false_eq_true, if_false, if_true, next_cons, text, skipSpace_opens colon, read]
  exact ⟨_, rfl⟩

theorem readMembers_next {gap : List Char} (blank : Blank gap) (name : String) {budget : Nat} {more : List Glyph}
    {node : Node} {after : Cursor}
    (read : readValue budget ⟨more, (((p.pass (.char ',')).after gap).after (quote name)).pass (.char ':')⟩ =
      (node, some after)) :
    ∃ places, readMembers (budget + 1) false
        ⟨.char ',' :: (glyphs gap ++ (glyphs (quote name) ++ .char ':' :: more)), p⟩ =
      (.mk (.ok name) places node :: (readMembers budget false after).1,
        (readMembers budget false after).2) := by
  have comma : Opens ',' := by decide
  have mark : Opens '"' := by decide
  have colon : Opens ':' := by decide
  have text := text_quoted name (.char ':' :: more) (((p.pass (.char ',')).after gap).pass (.char '"'))
  rw [quote, Place.after_cons] at read
  rw [quote, glyphs_cons, List.cons_append]
  generalize glyphs (name.toList.flatMap escapeChar ++ ['"']) ++ .char ':' :: more = inside at text ⊢
  rw [readMembers, skipSpace_opens comma]
  simp only [Char.isValue, Glyph.char.injEq, Char.reduceEq, imp_self, Bool.not_false, ne_eq,
    not_true_eq_false, decide_false, Bool.and_false, Bool.false_eq_true, if_false, next_cons,
    skipSpace_gap blank mark.1, text, skipSpace_opens colon, read]
  exact ⟨_, rfl⟩

theorem readMembers_shut {gap : List Char} (blank : Blank gap) (budget : Nat) (rest : List Glyph) (p : Place) :
    readMembers (budget + 1) false ⟨glyphs (gap ++ ['}']) ++ rest, p⟩ =
      ([], .shut (p.after (gap ++ ['}'])), some ⟨rest, p.after (gap ++ ['}'])⟩) := by
  rw [glyphs_append, List.append_assoc, Place.after_append]
  change readMembers (budget + 1) false ⟨glyphs gap ++ .char '}' :: rest, p⟩ = _
  rw [readMembers, skipSpace_gap blank (by decide)]
  rfl

/-! Spellings. -/

mutual
inductive Spelling : List Char → Json → Prop where
  | null : Spelling ['n', 'u', 'l', 'l'] .null
  | yes : Spelling ['t', 'r', 'u', 'e'] (.bool true)
  | no : Spelling ['f', 'a', 'l', 's', 'e'] (.bool false)
  | number (n : Number) : Spelling n.text (.num n)
  | text (s : String) : Spelling (quote s) (.str s)
  | noItems : Spelling ['[', ']'] (.arr [])
  | items {gap cs more : List Char} {item : Json} {items : List Json} (blank : Blank gap)
      (first : Spelling cs item) (rest : ItemsSpelling more items) :
      Spelling ('[' :: (gap ++ (cs ++ more))) (.arr (item :: items))
  | noMembers : Spelling ['{', '}'] (.obj [])
  | members {gap space cs more : List Char} {value : Json} {members : List (String × Json)} (name : String)
      (blank : Blank gap) (apart : Blank space) (first : Spelling cs value)
      (rest : MembersSpelling more members) :
      Spelling ('{' :: (gap ++ (quote name ++ ':' :: (space ++ (cs ++ more))))) (.obj ((name, value) :: members))
inductive ItemsSpelling : List Char → List Json → Prop where
  | shut {gap : List Char} (blank : Blank gap) : ItemsSpelling (gap ++ [']']) []
  | next {gap cs more : List Char} {item : Json} {items : List Json} (blank : Blank gap)
      (first : Spelling cs item) (rest : ItemsSpelling more items) :
      ItemsSpelling (',' :: (gap ++ (cs ++ more))) (item :: items)
inductive MembersSpelling : List Char → List (String × Json) → Prop where
  | shut {gap : List Char} (blank : Blank gap) : MembersSpelling (gap ++ ['}']) []
  | next {gap space cs more : List Char} {value : Json} {members : List (String × Json)} (name : String)
      (blank : Blank gap) (apart : Blank space) (first : Spelling cs value)
      (rest : MembersSpelling more members) :
      MembersSpelling (',' :: (gap ++ (quote name ++ ':' :: (space ++ (cs ++ more))))) ((name, value) :: members)
end

theorem Spelling.opens {cs : List Char} {j : Json} (spelling : Spelling cs j) :
    ∃ x more, cs = x :: more ∧ Opens x := by
  cases spelling with
  | null => exact ⟨'n', _, rfl, by decide⟩
  | yes => exact ⟨'t', _, rfl, by decide⟩
  | no => exact ⟨'f', _, rfl, by decide⟩
  | number n => exact number_opens n
  | text s => exact ⟨'"', _, rfl, by decide⟩
  | noItems | items => exact ⟨'[', _, rfl, by decide⟩
  | noMembers | members => exact ⟨'{', _, rfl, by decide⟩

theorem endsNumber_gap {gap : List Char} (blank : Blank gap) {rest : List Glyph} (ends : EndsNumber rest) :
    EndsNumber (glyphs gap ++ rest) := by
  cases gap with
  | nil => exact ends
  | cons c gap =>
    obtain rfl | rfl | rfl | rfl := blank.head
    all_goals exact ⟨noDigit_cons (by decide) _, nofun, fun _ => ⟨nofun, nofun⟩⟩

theorem ItemsSpelling.ends {cs : List Char} {items : List Json} (spelling : ItemsSpelling cs items)
    (rest : List Glyph) : EndsNumber (glyphs cs ++ rest) := by
  cases spelling with
  | shut blank =>
    rw [glyphs_append, List.append_assoc]
    exact endsNumber_gap blank (endsNumber_cons (.inr (.inl rfl)) rest)
  | next => exact endsNumber_cons (.inl rfl) _

theorem MembersSpelling.ends {cs : List Char} {members : List (String × Json)} (spelling : MembersSpelling cs members)
    (rest : List Glyph) : EndsNumber (glyphs cs ++ rest) := by
  cases spelling with
  | shut blank =>
    rw [glyphs_append, List.append_assoc]
    exact endsNumber_gap blank (endsNumber_cons (.inr (.inr rfl)) rest)
  | next => exact endsNumber_cons (.inl rfl) _

/-- White space before a value is passed over. -/
theorem readValue_gap {gap : List Char} (blank : Blank gap) {x : Char} (opens : Opens x) (budget : Nat)
    (more : List Glyph) (p : Place) :
    readValue (budget + 1) ⟨glyphs gap ++ .char x :: more, p⟩ =
      readValue (budget + 1) ⟨.char x :: more, p.after gap⟩ := by
  rw [readValue, readValue, skipSpace_gap blank opens.1, skipSpace_opens opens]

/-! Documents. The budget counts two for each character, and every value has one. -/

mutual
theorem readValue_spelling : {cs : List Char} → {j : Json} → Spelling cs j → (budget : Nat) →
    2 * cs.length ≤ budget + 1 → (rest : List Glyph) → EndsNumber rest → (p : Place) →
    ∃ node, readValue budget ⟨glyphs cs ++ rest, p⟩ = (node, some ⟨rest, p.after cs⟩) ∧ Shows node j
  | _, _, spelling, 0, enough, _, _, _ => by
    obtain ⟨x, more, chars, -⟩ := spelling.opens
    rw [chars, List.length_cons] at enough
    omega
  | _, _, .null, budget + 1, _, rest, _, p => ⟨_, rfl, .null _⟩
  | _, _, .yes, budget + 1, _, rest, _, p => ⟨_, rfl, .bool true _⟩
  | _, _, .no, budget + 1, _, rest, _, p => ⟨_, rfl, .bool false _⟩
  | _, _, .number n, budget + 1, _, rest, ends, p => readValue_text n ends budget p
  | _, _, .text s, budget + 1, _, rest, _, p => ⟨_, readValue_quote s budget rest p, .text s _⟩
  | _, _, .noItems, budget + 1, enough, rest, _, p => by
    obtain ⟨budget, rfl⟩ : ∃ n, budget = n + 1 := ⟨budget - 1, by simp at enough; omega⟩
    exact ⟨_, rfl, .list _ _ .nil⟩
  | _, _, @Spelling.items gap cs more item items blank first others, budget + 1, enough, rest, _, p => by
    obtain ⟨x, tail, chars, opens⟩ := first.opens
    simp only [List.length_cons, List.length_append, chars] at enough
    obtain ⟨budget, rfl⟩ : ∃ n, budget = n + 1 := ⟨budget - 1, by omega⟩
    have bracket : Opens '[' := by decide
    obtain ⟨node, read, shows⟩ := readValue_spelling first budget (by rw [chars, List.length_cons]; omega)
      (glyphs more ++ rest) (others.ends rest) ((p.pass (.char '[')).after gap)
    obtain ⟨shown, reads, all⟩ := readItems_spelling others budget (by omega) rest
      (((p.pass (.char '[')).after gap).after cs)
    rw [chars, glyphs_cons, List.cons_append] at read
    obtain ⟨peek, step⟩ := readItems_first blank opens read
    rw [← chars, reads] at step
    refine ⟨.list p (.mk peek node :: shown) (.shut (p.after ('[' :: (gap ++ (cs ++ more))))), ?_,
      .list _ _ (.cons peek shows all)⟩
    simp only [glyphs_cons, glyphs_append, List.cons_append, List.append_assoc, Place.after_cons,
      Place.after_append]
    rw [readValue, skipSpace_opens bracket]
    simp only [chars, glyphs_cons, List.cons_append, next_cons]
    rw [chars] at step
    simp only [step]
  | _, _, .noMembers, budget + 1, enough, rest, _, p => by
    obtain ⟨budget, rfl⟩ : ∃ n, budget = n + 1 := ⟨budget - 1, by simp at enough; omega⟩
    exact ⟨_, rfl, .object _ _ .nil⟩
  | _, _, @Spelling.members gap space cs more value members name blank apart first others, budget + 1, enough,
      rest, _, p => by
    obtain ⟨x, tail, chars, opens⟩ := first.opens
    simp only [List.length_cons, List.length_append, chars] at enough
    have quoted : 0 < (quote name).length := by simp [quote]
    obtain ⟨budget, rfl⟩ : ∃ n, budget = n + 2 := ⟨budget - 2, by omega⟩
    have brace : Opens '{' := by decide
    obtain ⟨node, read, shows⟩ := readValue_spelling first (budget + 1) (by rw [chars, List.length_cons]; omega)
      (glyphs more ++ rest) (others.ends rest)
      (((((p.pass (.char '{')).after gap).after (quote name)).pass (.char ':')).after space)
    obtain ⟨shown, reads, all⟩ := readMembers_spelling others (budget + 1) (by omega) rest
      ((((((p.pass (.char '{')).after gap).after (quote name)).pass (.char ':')).after space).after cs)
    rw [chars, glyphs_cons, List.cons_append, ← readValue_gap apart opens] at read
    obtain ⟨places, step⟩ := readMembers_first blank name read
    rw [← chars, reads] at step
    refine ⟨.object p (.mk (.ok name) places node :: shown)
      (.shut (p.after ('{' :: (gap ++ (quote name ++ ':' :: (space ++ (cs ++ more))))))), ?_,
      .object _ _ (.cons name places shows all)⟩
    simp only [glyphs_cons, glyphs_append, List.cons_append, List.append_assoc, Place.after_cons,
      Place.after_append]
    rw [readValue, skipSpace_opens brace]
    simp only [chars, glyphs_cons, List.cons_append, next_cons]
    rw [chars] at step
    simp only [step]
theorem readItems_spelling : {cs : List Char} → {items : List Json} → ItemsSpelling cs items → (budget : Nat) →
    2 * cs.length ≤ budget + 1 → (rest : List Glyph) → (p : Place) →
    ∃ shown, readItems budget false ⟨glyphs cs ++ rest, p⟩ =
      (shown, .shut (p.after cs), some ⟨rest, p.after cs⟩) ∧ ShowsItems shown items
  | _, _, .shut blank, budget, enough, rest, p => by
    obtain ⟨budget, rfl⟩ : ∃ n, budget = n + 1 := ⟨budget - 1, by simp at enough; omega⟩
    exact ⟨[], readItems_shut blank budget rest p, .nil⟩
  | _, _, @ItemsSpelling.next gap cs more item items blank first others, budget, enough, rest, p => by
    obtain ⟨x, tail, chars, opens⟩ := first.opens
    simp only [List.length_cons, List.length_append] at enough
    obtain ⟨budget, rfl⟩ : ∃ n, budget = n + 1 := ⟨budget - 1, by omega⟩
    obtain ⟨node, read, shows⟩ := readValue_spelling first budget (by omega)
      (glyphs more ++ rest) (others.ends rest) ((p.pass (.char ',')).after gap)
    obtain ⟨shown, reads, all⟩ := readItems_spelling others budget (by omega) rest
      (((p.pass (.char ',')).after gap).after cs)
    rw [chars, glyphs_cons, List.cons_append] at read
    obtain ⟨peek, step⟩ := readItems_next blank opens read
    rw [← chars, reads] at step
    refine ⟨.mk peek node :: shown, ?_, .cons peek shows all⟩
    simp only [glyphs_cons, glyphs_append, List.cons_append, List.append_assoc, Place.after_cons,
      Place.after_append]
    rw [chars] at step ⊢
    exact step
theorem readMembers_spelling : {cs : List Char} → {members : List (String × Json)} → MembersSpelling cs members →
    (budget : Nat) → 2 * cs.length ≤ budget + 1 → (rest : List Glyph) → (p : Place) →
    ∃ shown, readMembers budget false ⟨glyphs cs ++ rest, p⟩ =
      (shown, .shut (p.after cs), some ⟨rest, p.after cs⟩) ∧ ShowsMembers shown members
  | _, _, .shut blank, budget, enough, rest, p => by
    obtain ⟨budget, rfl⟩ : ∃ n, budget = n + 1 := ⟨budget - 1, by simp at enough; omega⟩
    exact ⟨[], readMembers_shut blank budget rest p, .nil⟩
  | _, _, @MembersSpelling.next gap space cs more value members name blank apart first others, budget, enough,
      rest, p => by
    obtain ⟨x, tail, chars, opens⟩ := first.opens
    simp only [List.length_cons, List.length_append, chars] at enough
    have quoted : 0 < (quote name).length := by simp [quote]
    obtain ⟨budget, rfl⟩ : ∃ n, budget = n + 2 := ⟨budget - 2, by omega⟩
    obtain ⟨node, read, shows⟩ := readValue_spelling first (budget + 1) (by rw [chars, List.length_cons]; omega)
      (glyphs more ++ rest) (others.ends rest)
      (((((p.pass (.char ',')).after gap).after (quote name)).pass (.char ':')).after space)
    obtain ⟨shown, reads, all⟩ := readMembers_spelling others (budget + 1) (by omega) rest
      ((((((p.pass (.char ',')).after gap).after (quote name)).pass (.char ':')).after space).after cs)
    rw [chars, glyphs_cons, List.cons_append, ← readValue_gap apart opens] at read
    obtain ⟨places, step⟩ := readMembers_next blank name read
    rw [← chars, reads] at step
    refine ⟨.mk (.ok name) places node :: shown, ?_, .cons name places shows all⟩
    simp only [glyphs_cons, glyphs_append, List.cons_append, List.append_assoc, Place.after_cons,
      Place.after_append]
    rw [chars] at step ⊢
    exact step
end

/-- A text that spells a value is read as a tree that shows it, with nothing behind it but white space. -/
theorem ofText_spelling {cs gap : List Char} {j : Json} (spelling : Spelling cs j) (blank : Blank gap) :
    ∃ node, Document.ofText (String.ofList (cs ++ gap)) = ⟨node, none⟩ ∧ Shows node j := by
  have ends : EndsNumber (glyphs gap) := List.append_nil (glyphs gap) ▸ endsNumber_gap blank endsNumber_nil
  obtain ⟨node, read, shows⟩ := readValue_spelling spelling (2 * (cs ++ gap).length + 2)
    (by rw [List.length_append]; omega) (glyphs gap) ends .start
  refine ⟨node, ?_, shows⟩
  have text : (String.ofList (cs ++ gap)).toList.map Glyph.char = glyphs cs ++ glyphs gap := by simp [glyphs]
  have length : (glyphs cs ++ glyphs gap).length = (cs ++ gap).length := by simp [glyphs]
  rw [Document.ofText, text, Document.ofGlyphs, length, read]
  dsimp only
  rw [skipSpace_blank blank]
  rfl

mutual
theorem spelling_compact : (j : Json) → Spelling (compactChars j) j
  | .null => .null
  | .bool true => .yes
  | .bool false => .no
  | .num n => .number n
  | .str s => .text s
  | .arr [] => .noItems
  | .arr (item :: items) => .items blank_nil (spelling_compact item) (spelling_compactItems items)
  | .obj [] => .noMembers
  | .obj ((name, value) :: members) =>
    .members name blank_nil blank_nil (spelling_compact value) (spelling_compactMembers members)
theorem spelling_compactItems : (items : List Json) → ItemsSpelling (compactItems items) items
  | [] => .shut blank_nil
  | item :: items => .next blank_nil (spelling_compact item) (spelling_compactItems items)
theorem spelling_compactMembers : (members : List (String × Json)) → MembersSpelling (compactMembers members) members
  | [] => .shut blank_nil
  | (name, value) :: members =>
    .next name blank_nil blank_nil (spelling_compact value) (spelling_compactMembers members)
end

/-- A document that is written is read as a tree that shows its value, with nothing behind it. -/
theorem ofText_compact (j : Json) : ∃ node, Document.ofText j.compact = ⟨node, none⟩ ∧ Shows node j := by
  have read := ofText_spelling (spelling_compact j) blank_nil
  rw [List.append_nil] at read
  exact read

theorem blank_newline (depth : Nat) : Blank (newline depth) := by
  intro c among
  rcases List.mem_cons.mp among with rfl | among
  · decide
  · rw [List.eq_of_mem_replicate among]
    decide

mutual
theorem spelling_pretty : (depth : Nat) → (j : Json) → Spelling (prettyChars depth j) j
  | _, .null => .null
  | _, .bool true => .yes
  | _, .bool false => .no
  | _, .num n => .number n
  | _, .str s => .text s
  | _, .arr [] => .noItems
  | depth, .arr (item :: items) => by
    rw [prettyChars, List.append_assoc]
    exact .items (blank_newline _) (spelling_pretty (depth + 1) item) (spelling_prettyItems depth items)
  | _, .obj [] => .noMembers
  | depth, .obj ((name, value) :: members) => by
    rw [prettyChars, List.append_assoc]
    exact .members name (blank_newline _) (blank_single (by decide)) (spelling_pretty (depth + 1) value)
      (spelling_prettyMembers depth members)
theorem spelling_prettyItems : (depth : Nat) → (items : List Json) → ItemsSpelling (prettyItems depth items) items
  | depth, [] => .shut (blank_newline depth)
  | depth, item :: items => by
    rw [prettyItems, List.append_assoc]
    exact .next (blank_newline _) (spelling_pretty (depth + 1) item) (spelling_prettyItems depth items)
theorem spelling_prettyMembers : (depth : Nat) → (members : List (String × Json)) →
    MembersSpelling (prettyMembers depth members) members
  | depth, [] => .shut (blank_newline depth)
  | depth, (name, value) :: members => by
    rw [prettyMembers, List.append_assoc]
    exact .next name (blank_newline _) (blank_single (by decide)) (spelling_pretty (depth + 1) value)
      (spelling_prettyMembers depth members)
end

/-- An indented document is read back too, white space behind it or not. -/
theorem ofText_pretty (j : Json) {gap : List Char} (blank : Blank gap) :
    ∃ node, Document.ofText (j.pretty ++ String.ofList gap) = ⟨node, none⟩ ∧ Shows node j := by
  have read := ofText_spelling (spelling_pretty 0 j) blank
  rw [String.ofList_append] at read
  exact read

end QueryWarden.Json
