import QueryWarden.Proofs.Fallible
import QueryWarden.Proofs.Sql.Bodies
import QueryWarden.Sql.Tokens

/-! What a line feed behind a text changes in what begins at one of its characters. Main result: it stays
what it is, and takes no more than the line feed, unless it is a sign that ends the text and may begin a
name. -/
namespace QueryWarden.Sql

/-- The signs that are a mark alone at the end of a text, and elsewhere begin a name in the dialect. -/
def Dialect.bareSigns (d : Dialect) : List (List Char) := [['@'], ['@', '@'], ['#']].filter (·.all d.beginsWord)

namespace Lexeme
open Quotation
variable {d : Dialect} {t : List Char} {room : Nat}

/-- What begins at a character with `room` further ones stays what it is when a line feed follows them, and
may take the line feed where it took them all. -/
inductive Stays (room : Nat) : Lexeme → Lexeme → Prop where
  | fault (message : String) (width : Nat) (x : Lexeme) : Stays room (.fault message width) x
  | token (k : Token) {n : Nat} (within : n ≤ room) : Stays room (.token k n) (.token k n)
  | layout {n : Nat} (within : n ≤ room) : Stays room (.layout n) (.layout n)
  | tokenToEnd (k : Token) : Stays room (.token k room) (.token k (room + 1))
  | layoutToEnd : Stays room (.layout room) (.layout (room + 1))

theorem continuesWord_lineFeed (d : Dialect) : d.continuesWord '\n' = false := by cases d <;> decide

theorem continuesOperator_lineFeed (d : Dialect) : d.continuesOperator '\n' = false := by
  cases d <;> decide

theorem symbol_stays {text : String} (within : text.length - 1 ≤ room) :
    Stays room (symbol text) (symbol text) := .token _ within

theorem operator_stays {text : String} {rest : List Char} (within : text.length - 1 + rest.length ≤ room) :
    Stays room (operator d text rest) (operator d text (rest ++ '\n' :: t)) := by
  have taken : (rest.takeWhile d.continuesOperator).length ≤ rest.length :=
    (List.takeWhile_sublist _).length_le
  unfold operator
  rw [takeWhile_line (continuesOperator_lineFeed d)]
  split
  · exact symbol_stays (by omega)
  · exact .token _ (by omega)

theorem word_stays {start rest : List Char} (within : start.length - 1 + rest.length ≤ room) :
    Stays room (word d start rest) (word d start (rest ++ '\n' :: t)) := by
  have taken : (rest.takeWhile d.continuesWord).length ≤ rest.length :=
    (List.takeWhile_sublist _).length_le
  unfold word
  rw [takeWhile_line (continuesWord_lineFeed d)]
  exact .token _ (by omega)

theorem literal_stays {kind : LiteralKind} {width n : Nat} {o o' : Option Body} (kept : Kept n o o')
    (within : width - 1 + n ≤ room) : Stays room (literal kind width o) (literal kind width o') := by
  unfold literal
  cases o with
  | none => exact .fault _ _ _
  | some b =>
    obtain ⟨inside, rfl⟩ := kept b rfl
    exact .token _ (by omega)

theorem quotedWord_stays {quote : Char} (inline : closingQuote quote ≠ '\n') (rest : List Char) :
    Stays rest.length (quotedWord quote rest) (quotedWord quote (rest ++ '\n' :: t)) := by
  have kept := read?_kept (t := t) inline false rest
  unfold quotedWord
  cases h : read? (closingQuote quote) false rest with
  | none => exact .fault _ _ _
  | some b =>
    obtain ⟨inside, again⟩ := kept b h
    rw [again]
    exact .token _ inside

theorem raw_oneQuote_stays {quote : Char} (inline : quote ≠ '\n') (one : LiteralKind) (rest : List Char) :
    Stays (rest.length + 1) (raw.oneQuote quote one rest) (raw.oneQuote quote one (rest ++ '\n' :: t)) := by
  have kept := read?_kept (t := t) inline false rest
  unfold raw.oneQuote
  cases h : read? quote false rest with
  | none => exact .fault _ _ _
  | some b =>
    obtain ⟨inside, again⟩ := kept b h
    rw [again]
    exact .token _ (by omega)

theorem raw_stays {quote : Char} (inline : quote ≠ '\n') (one three : LiteralKind) (rest : List Char) :
    Stays (rest.length + 1) (raw quote one three rest) (raw quote one three (rest ++ '\n' :: t)) := by
  have other : ('\n' == quote) = false := by simpa using inline.symm
  have alone := raw_oneQuote_stays (t := t) inline one rest
  match rest with
  | [] =>
    unfold raw
    exact .fault _ _ _
  | [a] =>
    by_cases shut : a == quote
    · simp only [raw, List.cons_append, List.nil_append, shut, other, if_true]
      exact .token _ (by simp)
    · simpa [raw, shut] using alone
  | a :: b :: more =>
    by_cases shut : a == quote
    · by_cases third : b == quote
      · have kept := readTriple?_kept (t := t) quote 0 more
        simp only [raw, List.cons_append, shut, third, if_true]
        cases h : readTriple? quote 0 more with
        | none => exact .fault _ _ _
        | some x =>
          obtain ⟨inside, again⟩ := kept x h
          rw [again]
          exact .token _ (by simp; omega)
      · simp only [raw, List.cons_append, shut, third, if_true]
        exact .token _ (by simp)
    · simpa [raw, shut] using alone

theorem head?_line {c : Char} (inline : c ≠ '\n') (cs : List Char) :
    ((cs ++ '\n' :: t).head? == some c) = (cs.head? == some c) := by
  cases cs with
  | nil =>
    have other : ('\n' == c) = false := by simpa using inline.symm
    simp [other]
  | cons a cs => rfl

theorem exponent_line (cs : List Char) : exponent (cs ++ '\n' :: t) = exponent cs := by
  match cs with
  | [] => rfl
  | [c] => simp [exponent]
  | c :: s :: more =>
    have short : (if s == '+' || s == '-' then [s] else []).length ≤ (s :: more).length := by
      split <;> simp
    simp only [exponent, List.cons_append]
    rw [← List.cons_append, List.drop_append_of_le_length short, takeWhile_line (by decide)]

theorem exponent_length_le (cs : List Char) : (exponent cs).length ≤ cs.length := by
  match cs with
  | [] => exact Nat.le_refl _
  | [c] => simp [exponent]
  | c :: s :: more =>
    have taken (n : Nat) : (((s :: more).drop n).takeWhile Char.isDigit).length ≤ (s :: more).length - n := by
      rw [← List.length_drop]
      exact (List.takeWhile_sublist _).length_le
    have short : (if s == '+' || s == '-' then [s] else []).length ≤ (s :: more).length := by
      split <;> simp
    simp only [exponent]
    split
    · split
      · simp
      · have room := taken (if s == '+' || s == '-' then [s] else []).length
        simp only [List.length_cons, List.length_append] at room short ⊢
        omega
    · simp

def fraction (after : List Char) : List Char :=
  match after with
  | '.' :: more => '.' :: more.takeWhile Char.isDigit
  | _ => []

def suffix (d : Dialect) (rest : List Char) : List Char :=
  if d.wordsBeginWithDigits && rest.head? != some 'e' && rest.head? != some 'E' then
    rest.takeWhile d.continuesWord
  else []

def decimal (d : Dialect) (mantissa rest : List Char) : Lexeme :=
  if mantissa == ['.'] then symbol "."
  else if (suffix d rest).isEmpty then
    let digits := mantissa ++ exponent rest
    let long := (rest.drop (exponent rest).length).head? == some 'L'
    .token (.number (String.ofList digits) long) (digits.length + (if long then 1 else 0) - 1)
  else .token (.word (.plain (mantissa ++ suffix d rest))) (mantissa.length + (suffix d rest).length - 1)

theorem number_hex {cs more : List Char} (whole : cs.takeWhile Char.isDigit = ['0'])
    (after : cs.drop 1 = 'x' :: more) :
    number d cs = .token (.literal .hex (String.ofList (more.takeWhile Text.isHexDigit)))
      (1 + (more.takeWhile Text.isHexDigit).length) := by
  simp only [number, whole, List.length_singleton, after]

theorem number_decimal {cs : List Char}
    (plain : ∀ more, cs.takeWhile Char.isDigit = ['0'] → cs.drop 1 = 'x' :: more → False) :
    number d cs = decimal d (cs.takeWhile Char.isDigit ++ fraction (cs.dropWhile Char.isDigit))
      ((cs.dropWhile Char.isDigit).drop (fraction (cs.dropWhile Char.isDigit)).length) := by
  have split := List.takeWhile_append_dropWhile (p := Char.isDigit) (l := cs)
  unfold number
  generalize cs.takeWhile Char.isDigit = whole at *
  generalize cs.dropWhile Char.isDigit = after at *
  subst split
  simp only [List.drop_left]
  split
  · exact (plain _ rfl rfl).elim
  · simp only [decimal, List.append_assoc, List.length_append, ← List.drop_drop, List.drop_left]
    rfl

theorem suffix_line (rest : List Char) : suffix d (rest ++ '\n' :: t) = suffix d rest := by
  simp only [suffix, bne, head?_line (by decide : 'e' ≠ '\n'), head?_line (by decide : 'E' ≠ '\n'),
    takeWhile_line (continuesWord_lineFeed d)]

theorem suffix_length_le (rest : List Char) : (suffix d rest).length ≤ rest.length := by
  unfold suffix
  split
  · exact (List.takeWhile_sublist _).length_le
  · exact Nat.zero_le _

theorem decimal_line (mantissa rest : List Char) :
    decimal d mantissa (rest ++ '\n' :: t) = decimal d mantissa rest := by
  simp only [decimal, suffix_line, head?_line (by decide : 'L' ≠ '\n'), exponent_line,
    List.drop_append_of_le_length (exponent_length_le rest)]

theorem decimal_stays {mantissa rest : List Char} (within : mantissa.length + rest.length ≤ room + 1) :
    Stays room (decimal d mantissa rest) (decimal d mantissa rest) := by
  have tail := exponent_length_le rest
  have named := suffix_length_le (d := d) rest
  unfold decimal
  split
  · exact symbol_stays (Nat.zero_le _)
  · split
    · refine .token _ ?_
      rw [List.length_append]
      split
      · rename_i long
        have more : (exponent rest).length < rest.length := by
          rcases h : rest.drop (exponent rest).length with _ | ⟨a, after⟩
          · simp [h] at long
          · exact lt_length_of_drop h
        omega
      · omega
    · exact .token _ (by omega)

theorem fraction_line (after : List Char) : fraction (after ++ '\n' :: t) = fraction after := by
  unfold fraction
  split
  · rename_i more same
    obtain ⟨body, rfl, rfl⟩ := cons_of_line (by decide) same
    simp only [takeWhile_line (p := Char.isDigit) (by decide)]
  · rename_i other
    split
    · exact (other _ rfl).elim
    · rfl

theorem fraction_length_le (after : List Char) : (fraction after).length ≤ after.length := by
  unfold fraction
  split
  · exact Nat.succ_le_succ (List.takeWhile_sublist _).length_le
  · exact Nat.zero_le _

theorem dropWhile_line {p : Char → Bool} (stops : p '\n' = false) (cs : List Char) :
    (cs ++ '\n' :: t).dropWhile p = cs.dropWhile p ++ '\n' :: t := by
  induction cs with
  | nil => simp [stops]
  | cons c cs ih =>
    cases h : p c
    · simp [h]
    · simp [h, ih]

theorem number_stays (c : Char) (rest : List Char) :
    Stays rest.length (number d (c :: rest)) (number d (c :: (rest ++ '\n' :: t))) := by
  have digits := takeWhile_line (t := t) (p := Char.isDigit) (by decide) (c :: rest)
  have behind := dropWhile_line (t := t) (p := Char.isDigit) (by decide) (c :: rest)
  rw [List.cons_append] at digits behind
  by_cases hex : ∃ more, (c :: rest).takeWhile Char.isDigit = ['0'] ∧ rest = 'x' :: more
  · obtain ⟨more, whole, rfl⟩ := hex
    have taken : (more.takeWhile Text.isHexDigit).length ≤ more.length := (List.takeWhile_sublist _).length_le
    have after : (c :: ('x' :: more ++ '\n' :: t)).drop 1 = 'x' :: (more ++ '\n' :: t) := rfl
    rw [number_hex whole rfl, number_hex (digits.trans whole) after,
      takeWhile_line (p := Text.isHexDigit) (by decide +kernel)]
    exact .token _ (by rw [List.length_cons]; omega)
  · have again (more : List Char) (whole : (c :: (rest ++ '\n' :: t)).takeWhile Char.isDigit = ['0'])
        (after : (c :: (rest ++ '\n' :: t)).drop 1 = 'x' :: more) : False := by
      obtain ⟨body, rfl, -⟩ := cons_of_line (by decide) after
      exact hex ⟨body, digits.symm.trans whole, rfl⟩
    rw [number_decimal fun more whole after => hex ⟨more, whole, after⟩, number_decimal again, digits, behind,
      fraction_line, List.drop_append_of_le_length (fraction_length_le _), decimal_line]
    have whole := congrArg List.length (List.takeWhile_append_dropWhile (p := Char.isDigit) (l := c :: rest))
    have part := fraction_length_le ((c :: rest).dropWhile Char.isDigit)
    simp only [List.length_append, List.length_cons] at whole
    exact decimal_stays (by rw [List.length_append, List.length_drop]; omega)

theorem lineComment_stays {width : Nat} {rest : List Char} (within : width - 1 + rest.length = room) :
    Stays room (lineComment width rest) (lineComment width (rest ++ '\n' :: t)) := by
  have taken : (rest.takeWhile (· != '\n')).length ≤ rest.length := (List.takeWhile_sublist _).length_le
  unfold lineComment
  simp only [takeWhile_line (p := (· != '\n')) (by decide), List.length_append, List.length_cons]
  subst within
  by_cases more : (rest.takeWhile (· != '\n')).length < rest.length
  · rw [if_pos more, if_pos (by omega)]
    exact .layout (by omega)
  · have full : (rest.takeWhile (· != '\n')).length = rest.length := by omega
    rw [if_neg more, if_pos (by omega), full]
    exact .layoutToEnd

theorem blockComment_stays (rest : List Char) :
    Stays (rest.length + 1) (blockComment rest) (blockComment (rest ++ '\n' :: t)) := by
  unfold blockComment
  cases h : comment? 0 ' ' rest with
  | none => exact .fault _ _ _
  | some n =>
    obtain ⟨inside, again⟩ := comment?_kept (t := t) h
    rw [again]
    exact .layout (by omega)

theorem dollar_stays (rest : List Char) : Stays rest.length (dollar rest) (dollar (rest ++ '\n' :: t)) := by
  unfold dollar
  split
  · rename_i body
    have kept : Kept body.length (readUntil? ['$', '$'] body) (readUntil? ['$', '$'] (body ++ '\n' :: t)) :=
      readUntil?_kept (by decide) body
    simp only [List.cons_append]
    cases h : readUntil? ['$', '$'] body with
    | none => exact .fault _ _ _
    | some b =>
      obtain ⟨inside, again⟩ := kept b h
      rw [again]
      exact .token _ (by simp; omega)
  · rename_i other
    have stops : (Text.isAlphanumeric '\n' || '\n' == '_') = false := by decide +kernel
    have taken := List.takeWhile_append_dropWhile (p := fun c => Text.isAlphanumeric c || c == '_') (l := rest)
    split
    · rename_i body again
      exact absurd again (ne_cons_of_line (by decide) other body)
    · simp only [takeWhile_line (p := fun c => Text.isAlphanumeric c || c == '_') stops]
      generalize rest.takeWhile (fun c => Text.isAlphanumeric c || c == '_') = tag at *
      generalize rest.dropWhile (fun c => Text.isAlphanumeric c || c == '_') = after at *
      subst taken
      simp only [List.append_assoc, List.drop_left, List.length_append]
      split
      · rename_i body _
        have kept := readTagged?_kept (t := t) tag body
        simp only [List.cons_append]
        cases found : readTagged? tag body with
        | none => exact .fault _ _ _
        | some b =>
          obtain ⟨inside, again⟩ := kept b found
          rw [again]
          exact .token _ (by simp; omega)
      · rename_i plain
        split
        · rename_i body h
          exact absurd h (ne_cons_of_line (by decide) plain body)
        · exact .token _ (Nat.le_add_right ..)

theorem marked?_stays (c : Char) (rest : List Char) :
    Option.Rel (Stays rest.length) (marked? d c rest) (marked? d c (rest ++ '\n' :: t)) := by
  have stays {kind : LiteralKind} {quote : Char} (inline : quote ≠ '\n') (backslash : Bool) (body : List Char) :
      Stays (body.length + 1) (literal kind 2 (read? quote backslash body))
        (literal kind 2 (read? quote backslash (body ++ '\n' :: t))) :=
    literal_stays (read?_kept inline backslash body) (by omega)
  unfold marked?
  split
  all_goals try simp only [*, List.cons_append]
  · split
    · exact .some (stays (by decide) _ _)
    · exact .none
  · split
    · exact .some (stays (by decide) _ _)
    · exact .none
  · split
    · exact .some (raw_stays (by decide) _ _ _)
    · exact .none
  · split
    · exact .some (raw_stays (by decide) _ _ _)
    · exact .none
  · exact .some (stays (by decide) _ _)
  · rename_i body _
    have kept := readEscaped?_kept (t := t) body
    cases h : readEscaped? body with
    | none => cases readEscaped? (body ++ '\n' :: t) <;> exact .some (.fault _ _ _)
    | some b =>
      obtain ⟨inside, again⟩ := kept b h
      rw [again]
      exact .some (.token _ (by simp; omega))
  · rename_i body _
    split
    · have kept := readUnicode_kept (t := t) 3 body
      cases h : readUnicode 3 body with
      | error e => cases readUnicode 3 (body ++ '\n' :: t) <;> exact .some (.fault _ _ _)
      | ok b =>
        obtain ⟨inside, again⟩ := kept b (toOption_eq_some.mpr h)
        rw [toOption_eq_some.mp again]
        exact .some (.token _ (by simp; omega))
    · exact .none
  · exact .some (stays (by decide) _ _)
  · rename_i byte byteDouble raw rawDouble national escaped unicode hex
    split
    · rename_i letter same
      exact (ne_cons_of_line (by decide) (fun body => byte body letter) _ same).elim
    · rename_i letter same
      exact (ne_cons_of_line (by decide) (fun body => byteDouble body letter) _ same).elim
    · rename_i letter same
      exact (ne_cons_of_line (by decide) (fun body => raw body letter) _ same).elim
    · rename_i letter same
      exact (ne_cons_of_line (by decide) (fun body => rawDouble body letter) _ same).elim
    · rename_i letter same
      exact (ne_cons_of_line (by decide) (fun body => national body letter) _ same).elim
    · rename_i letter same
      exact (ne_cons_of_line (by decide) (fun body => escaped body letter) _ same).elim
    · rename_i letter same
      obtain ⟨after, rfl, quoted⟩ := cons_of_line (by decide) same
      exact (ne_cons_of_line (by decide) (fun body quote => unicode body letter (quote ▸ rfl)) _ quoted).elim
    · rename_i letter same
      exact (ne_cons_of_line (by decide) (fun body => hex body letter) _ same).elim
    · exact .none

theorem atSign_stays {rest : List Char} (closed : '@' :: rest ∉ d.bareSigns) :
    Stays rest.length (atSign d rest) (atSign d (rest ++ '\n' :: t)) := by
  unfold atSign
  split
  · exact symbol_stays (by simp [String.length])
  · exact symbol_stays (by simp [String.length])
  · split
    · simp only [List.cons_append]
      split
      · exact word_stays (by simp; omega)
      · exact symbol_stays (by simp [String.length])
    · have plain : d.beginsWord '@' = false := by simpa [Dialect.bareSigns] using closed
      simp only [List.cons_append, List.nil_append, plain, Bool.and_false, Bool.false_eq_true, if_false]
      exact symbol_stays (by simp [String.length])
  · simp only [List.cons_append]
    split
    · exact word_stays (by simp; omega)
    · exact symbol_stays (Nat.zero_le _)
  · have plain : d.beginsWord '@' = false := by simpa [Dialect.bareSigns] using closed
    simp only [List.nil_append, plain, Bool.and_false, Bool.false_eq_true, if_false]
    exact symbol_stays (Nat.zero_le _)

theorem numberSign_stays {rest : List Char} (closed : '#' :: rest ∉ d.bareSigns) :
    Stays rest.length (numberSign d rest) (numberSign d (rest ++ '\n' :: t)) := by
  unfold numberSign
  split
  · exact operator_stays (by simp +arith [String.length])
  · exact operator_stays (by simp +arith [String.length])
  · split
    all_goals try grind [→ cons_of_line]
    rename_i same
    cases same
    exact operator_stays (by simp +arith [String.length])
  · rename_i c more dash twice once
    have twice (after : List Char) (mark : c = '>') : more ++ '\n' :: t = '>' :: after → False := (once mark).elim
    simp only [List.cons_append]
    split
    · exact symbol_stays (Nat.zero_le _)
    · split
      · exact word_stays (by simp +arith)
      · rw [← List.cons_append]
        exact operator_stays (by simp [String.length])
  · have plain : d.beginsWord '#' = false := by simpa [Dialect.bareSigns] using closed
    have kept : Stays 0 (operator d "#" []) (operator d "#" ('\n' :: t)) := operator_stays (Nat.le_refl _)
    have alone : operator d "#" [] = symbol "#" := rfl
    simpa [plain, alone] using kept

theorem dash_stays (rest : List Char) :
    Option.Rel (Stays rest.length) (punctuation? d '-' rest) (punctuation? d '-' (rest ++ '\n' :: t)) := by
  simp only [punctuation?]
  split
  · simp only [List.cons_append, head?_line (by decide : ' ' ≠ '\n')]
    split
    · exact .some (lineComment_stays (Nat.add_comm ..))
    · exact .some (operator_stays (by simp [String.length]))
  all_goals split
  all_goals try grind [→ cons_of_line]
  all_goals try (rename_i same; cases same)
  all_goals exact .some (operator_stays (by simp +arith [String.length]))

theorem slash_stays (rest : List Char) :
    Option.Rel (Stays rest.length) (punctuation? d '/' rest) (punctuation? d '/' (rest ++ '\n' :: t)) := by
  simp only [punctuation?]
  split
  · exact .some (blockComment_stays _)
  · simp only [List.cons_append]
    split
    all_goals exact .some (symbol_stays (by simp [String.length]))
  · split
    all_goals try grind [→ cons_of_line]
    exact .some (symbol_stays (Nat.zero_le _))

theorem percent_stays (rest : List Char) :
    Option.Rel (Stays rest.length) (punctuation? d '%' rest) (punctuation? d '%' (rest ++ '\n' :: t)) := by
  cases rest with
  | nil => exact .some (symbol_stays (Nat.zero_le _))
  | cons c more =>
    simp only [punctuation?, List.cons_append]
    split
    · exact .some (symbol_stays (Nat.zero_le _))
    · rw [← List.cons_append]
      exact .some (operator_stays (by simp [String.length]))

theorem question_stays (rest : List Char) :
    Option.Rel (Stays rest.length) (punctuation? d '?' rest) (punctuation? d '?' (rest ++ '\n' :: t)) := by
  simp only [punctuation?]
  split
  · split
    · exact .some (symbol_stays (by simp [String.length]))
    · exact .some (symbol_stays (by simp [String.length]))
    · simp only [List.cons_append]
      exact .some (.token _ (by simp))
    · exact .some (.tokenToEnd _)
  · simp only [takeWhile_line (p := Text.isNumeric) (by decide +kernel)]
    exact .some (.token _ (List.takeWhile_sublist _).length_le)

theorem punctuation?_stays {c : Char} {rest : List Char} (closed : c :: rest ∉ d.bareSigns) :
    Option.Rel (Stays rest.length) (punctuation? d c rest) (punctuation? d c (rest ++ '\n' :: t)) := by
  unfold punctuation?
  split
  all_goals first
    | exact .some (symbol_stays (Nat.zero_le _))
    | exact dash_stays rest
    | exact slash_stays rest
    | exact percent_stays rest
    | exact question_stays rest
    | exact .some (atSign_stays closed)
    | exact .none
    | skip
  case h_24 =>
    split
    · exact .some (lineComment_stays (Nat.zero_add _))
    · exact .some (numberSign_stays closed)
  all_goals split
  all_goals split
  all_goals try grind [→ cons_of_line]
  all_goals try (rename_i same; cases same)
  all_goals first
    | exact .some (symbol_stays (by simp [String.length]))
    | exact .some (operator_stays (by simp +arith [String.length]))

theorem return_stays (rest : List Char) :
    Stays rest.length (.layout (if rest.head? == some '\n' then 1 else 0))
      (.layout (if (rest ++ '\n' :: t).head? == some '\n' then 1 else 0)) := by
  cases rest with
  | nil => exact .layoutToEnd
  | cons c more =>
    refine .layout ?_
    split <;> simp

theorem ofChars_stays {c : Char} {rest : List Char} (closed : c :: rest ∉ d.bareSigns) :
    Stays rest.length (ofChars d c rest) (ofChars d c (rest ++ '\n' :: t)) := by
  have mark := marked?_stays (d := d) (t := t) c rest
  have sign := punctuation?_stays (t := t) closed
  have quotation {kind : LiteralKind} {quote : Char} (inline : quote ≠ '\n') :
      Stays rest.length (literal kind 1 (read? quote d.escapesByBackslash rest))
        (literal kind 1 (read? quote d.escapesByBackslash (rest ++ '\n' :: t))) :=
    literal_stays (read?_kept inline _ rest) (Nat.le_of_eq (Nat.zero_add _))
  unfold ofChars
  split
  · exact .layout (Nat.zero_le _)
  rename_i blank
  split
  · exact return_stays rest
  generalize marked? d c rest = m, marked? d c (rest ++ '\n' :: t) = m' at mark ⊢
  cases mark with
  | some same => exact same
  | none =>
    dsimp only
    split
    · exact quotation (by decide)
    split
    · exact quotation (by decide)
    split
    · refine quotedWord_stays (fun shut => ?_) rest
      have wide : c = '\n' := by
        unfold closingQuote at shut
        split at shut
        · cases shut
        · exact shut
      exact blank (by simp [wide])
    split
    · exact number_stays c rest
    generalize punctuation? d c rest = p, punctuation? d c (rest ++ '\n' :: t) = p' at sign ⊢
    cases sign with
    | some same => exact same
    | none =>
      dsimp only
      split
      · exact word_stays (Nat.le_of_eq (Nat.zero_add _))
      split
      · exact dollar_stays rest
      split
      · exact .layout (Nat.zero_le _)
      · exact .token _ (Nat.zero_le _)

end Lexeme
end QueryWarden.Sql
