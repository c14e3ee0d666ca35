import QueryWarden.Proofs.Sql.Scanning
import QueryWarden.Proofs.Text.Blank
import QueryWarden.Sql.Parser

/-! Tails: what may stand behind a candidate without being part of it. A tail gives terminators and no other
tokens, and no name goes on into it. -/
namespace QueryWarden.Sql
open Lexeme
variable {d : Dialect} {s t : List Char} {ts : List Located}

theorem comment?_closed (text t : List Char) {last : Char} (opens : ¬ ['/', '*'] <:+: last :: text)
    (closes : ¬ ['*', '/'] <:+: last :: text) (apart : (last :: text).getLast? ≠ some '/') :
    Quotation.comment? 0 last (text ++ '*' :: '/' :: t) = some (text.length + 2) := by
  induction text generalizing last with
  | nil =>
    have other : last ≠ '/' := by simpa using apart
    simp [Quotation.comment?, other]
  | cons c text ih =>
    have later {mark : List Char} (h : ¬ mark <:+: last :: c :: text) : ¬ mark <:+: c :: text :=
      fun inside => h (List.IsInfix.trans inside (List.suffix_cons _ _).isInfix)
    have opening : (last == '/' && c == '*') = false := by
      by_contra both
      simp only [Bool.not_eq_false, Bool.and_eq_true, beq_iff_eq] at both
      obtain ⟨rfl, rfl⟩ := both
      exact opens ⟨[], text, rfl⟩
    have closing : (last == '*' && c == '/') = false := by
      by_contra both
      simp only [Bool.not_eq_false, Bool.and_eq_true, beq_iff_eq] at both
      obtain ⟨rfl, rfl⟩ := both
      exact closes ⟨[], text, rfl⟩
    have rest := ih (later opens) (later closes) (by simpa using apart)
    simp [Quotation.comment?, opening, closing, rest]

theorem punctuation?_blank {c : Char} (blank : Text.isBlank c = true) (rest : List Char) :
    punctuation? d c rest = none := by
  unfold punctuation?
  split
  all_goals first
    | exact absurd blank (by decide)
    | rfl

theorem marked?_blank {c : Char} (blank : Text.isBlank c = true) (rest : List Char) :
    marked? d c rest = none := by
  have low : c.toLower = c := by
    unfold Char.toLower
    refine dif_neg fun upper => ?_
    have first : 'A'.val.toNat = 65 := rfl
    have last : 'Z'.val.toNat = 90 := rfl
    simp only [ge_iff_le, UInt32.le_iff_toNat_le] at upper
    simp only [Text.isBlank, Bool.or_eq_true, Bool.and_eq_true, decide_eq_true_eq, beq_iff_eq, Char.toNat] at blank
    omega
  unfold marked?
  rw [low]
  split
  all_goals first
    | exact absurd blank (by decide)
    | rfl

theorem ofChars_blank {c : Char} (blank : Text.isBlank c = true) (apart : d.beginsWord c = false)
    (rest : List Char) :
    ofChars d c rest = .layout 0 ∨ c = '\r' ∧ rest.head? = some '\n' ∧ ofChars d c rest = .layout 1 := by
  by_cases back : c = '\r'
  · subst back
    by_cases line : rest.head? = some '\n'
    · exact .inr ⟨rfl, line, by simp [ofChars, line]⟩
    · exact .inl (by simp [ofChars, line])
  · have digit := Text.isDigit_of_isBlank blank
    have other (a : Char) (solid : Text.isBlank a = false) : c ≠ a := by
      rintro rfl
      rw [blank] at solid
      cases solid
    have unquoted : d.quotesWord c = false := by
      cases d <;> simp [Dialect.quotesWord, other '"' (by decide), other '[' (by decide), other '\x60' (by decide)]
    refine .inl ?_
    simp [ofChars, back, marked?_blank blank, punctuation?_blank blank, digit, unquoted, apart, blank,
      other '\'' (by decide), other '"' (by decide), other '.' (by decide),
      other '$' (by decide)]

theorem lineComment_line {text : List Char} (inline : '\n' ∉ text) (t : List Char) :
    lineComment 2 (text ++ '\n' :: t) = .layout (text.length + 2) := by
  have whole : text.takeWhile (· != '\n') = text := by
    rw [List.takeWhile_eq_self_iff]
    intro c mem
    simpa using ne_of_mem_of_not_mem mem inline
  simp [lineComment, Quotation.takeWhile_line (p := (· != '\n')) (by decide), whole]
  omega

theorem ofChars_dashes {more : List Char} (opens : d.dashesNeedBlank = true → more.head? = some ' ') :
    ofChars d '-' ('-' :: more) = lineComment 2 more := by
  cases d with
  | mysql =>
    obtain ⟨more, rfl⟩ : ∃ more', more = ' ' :: more' := by
      simpa [List.head?_eq_some_iff] using opens rfl
    rfl
  | _ => rfl

/-- What may stand behind a candidate without being part of it: white space that is no part of a name,
terminators, and comments that end. -/
inductive IsTail (d : Dialect) : List Char → Prop where
  | nil : IsTail d []
  | blank {c : Char} {t : List Char} (blank : Text.isBlank c = true) (apart : d.beginsWord c = false) :
      IsTail d t → IsTail d (c :: t)
  | terminator {t : List Char} : IsTail d t → IsTail d (';' :: t)
  | line {text t : List Char} (inline : '\n' ∉ text)
      (opens : d.dashesNeedBlank = true → text.head? = some ' ') :
      IsTail d t → IsTail d ('-' :: '-' :: text ++ '\n' :: t)
  | block {text t : List Char} (opens : ¬ ['/', '*'] <:+: text) (closes : ¬ ['*', '/'] <:+: text)
      (apart : text.getLast? ≠ some '/') : IsTail d t → IsTail d ('/' :: '*' :: text ++ '*' :: '/' :: t)

theorem IsTail.scans (h : IsTail d t) (p : Place) : ∃ us q, Ended us ∧ Scans d p t us q [] := by
  induction h generalizing p with
  | nil => exact ⟨[], p, by simp [Ended], .here p []⟩
  | @blank c t blank apart _ ih =>
    obtain lone | ⟨rfl, line, both⟩ := ofChars_blank blank apart t
    · obtain ⟨us, q, ended, scans⟩ := ih (p.pass c)
      exact ⟨_, q, ended, .layout lone scans⟩
    · obtain ⟨us, q, ended, scans⟩ := ih (p.pass '\r')
      obtain ⟨t, rfl⟩ : ∃ t', t = '\n' :: t' := by simpa [List.head?_eq_some_iff] using line
      cases scans with
      | step opens behind =>
        have lone : (ofChars d '\n' t).taken = some (none, 0) := rfl
        cases lone.symm.trans opens
        exact ⟨_, q, ended, .layout both behind⟩
  | @terminator t _ ih =>
    obtain ⟨us, q, ended, scans⟩ := ih (p.pass ';')
    have mark : (ofChars d ';' t).taken = some (some .terminator, 0) := by cases d <;> rfl
    refine ⟨_, q, ?_, .step mark scans⟩
    simpa [Ended] using ended
  | @line text t inline opens _ ih =>
    have comment : (ofChars d '-' ('-' :: (text ++ ['\n']) ++ t)).taken = some (none, text.length + 2) := by
      rw [List.cons_append, List.append_assoc, List.singleton_append, ofChars_dashes, lineComment_line inline]
      · rfl
      · intro blank
        simp [opens blank]
    obtain ⟨us, q, ended, scans⟩ := ih (p.passAll ('-' :: '-' :: (text ++ ['\n'])))
    have past := Scans.past (by simpa using comment) scans
    exact ⟨us, q, ended, by simpa using past⟩
  | @block text t opens closes apart _ ih =>
    have comment : (ofChars d '/' ('*' :: (text ++ ['*', '/']) ++ t)).taken = some (none, text.length + 3) := by
      have solid {a b : Char} (apart : a ≠ ' ') (h : ¬ [a, b] <:+: text) : ¬ [a, b] <:+: ' ' :: text := by
        simpa [List.infix_cons_iff, apart] using h
      have closed := comment?_closed text t (solid (by decide) opens) (solid (by decide) closes) (by
        cases text with
        | nil => simp
        | cons => simpa using apart)
      have block : ofChars d '/' ('*' :: (text ++ ['*', '/']) ++ t) = blockComment (text ++ '*' :: '/' :: t) := by
        simp only [List.cons_append, List.append_assoc, List.nil_append]
        cases d <;> rfl
      rw [block, blockComment, closed]
      exact congrArg (fun n => some (none, n)) (Nat.add_comm ..)
    obtain ⟨us, q, ended, scans⟩ := ih (p.passAll ('/' :: '*' :: (text ++ ['*', '/'])))
    have past := Scans.past (by simpa using comment) scans
    exact ⟨us, q, ended, by simpa using past⟩

theorem IsTail.takeWhile (h : IsTail d t) : t.takeWhile d.continuesWord = [] := by
  cases h with
  | nil => rfl
  | @blank c t blank apart _ =>
    have digit := Text.isDigit_of_isBlank blank
    have other : c ≠ '$' := by
      rintro rfl
      cases blank
    have solid : d.continuesWord c = false := by
      cases d <;> simp [Dialect.continuesWord, apart, digit, other]
    simp [solid]
  | terminator => cases d <;> rfl
  | line => cases d <;> rfl
  | block => cases d <;> rfl

theorem word_of_sign {sign : List Char} (mem : sign ∈ d.bareSigns) (apart : t.takeWhile d.continuesWord = []) :
    ∃ c rest, sign = c :: rest ∧
      (ofChars d c (rest ++ ['\n'] ++ t)).taken =
        some (some (.word (.plain (sign ++ ['\n']))), (rest ++ ['\n']).length) := by
  have named {c : Char} {rest : List Char}
      (opens : ofChars d c (rest ++ ['\n'] ++ t) = word d (c :: rest ++ ['\n']) t) :
      (ofChars d c (rest ++ ['\n'] ++ t)).taken =
        some (some (.word (.plain (c :: rest ++ ['\n']))), (rest ++ ['\n']).length) := by
    rw [opens]
    simp [word, apart, Lexeme.taken]
  simp only [Dialect.bareSigns, List.mem_filter, List.mem_cons, List.not_mem_nil, or_false] at mem
  obtain ⟨rfl | rfl | rfl, begins⟩ := mem
  all_goals exact ⟨_, _, rfl, named (by cases d <;> first | rfl | cases begins)⟩

/-- What is read of a text with a line feed and a tail behind it: the same tokens whatever the tail is, up
to terminators at the end, and they are those of the text alone unless a sign is the last that is read. -/
theorem tokens_tail (h : tokens d s = .ok ts) :
    ∃ kept, (∀ t, IsTail d t → ∃ us, Ended us ∧ tokens d (s ++ '\n' :: t) = .ok (kept ++ us)) ∧
      (¬ Dangles d s → kept = ts) := by
  obtain ⟨q, scans⟩ := scans_of_tokens h
  obtain apart | ⟨sign, mem, kept, q', before, further⟩ := scans.line
  · refine ⟨ts, fun t tail => ?_, fun _ => rfl⟩
    obtain ⟨q', whole⟩ := apart t
    obtain ⟨us, r, ended, rest⟩ := tail.scans q'
    exact ⟨us, ended, (whole.trans rest).to_end⟩
  · refine ⟨kept ++ [⟨.word (.plain (sign ++ ['\n'])), q'⟩], fun t tail => ?_, fun closed => ?_⟩
    · obtain ⟨c, rest, rfl, named⟩ := word_of_sign mem tail.takeWhile
      obtain ⟨us, r, ended, behind⟩ := tail.scans (q'.passAll (c :: (rest ++ ['\n'])))
      have name := Scans.past named behind
      rw [List.append_assoc, List.singleton_append, ← List.cons_append] at name
      refine ⟨us, ended, ?_⟩
      rw [List.append_assoc]
      exact ((further t).trans name).to_end
    · exact absurd ⟨sign, mem, kept, q', before⟩ closed

end QueryWarden.Sql
