import QueryWarden.Proofs.Guard.Acceptance
import QueryWarden.Proofs.Guard.SingleStatement
import QueryWarden.Proofs.Sql.OneQuery
import QueryWarden.Proofs.Sql.PlainSelect
import QueryWarden.Proofs.Sql.Tails

/-! What of a candidate's characters has no part in the verdict: a text in a literal, whatever it is, and
what stands behind the candidate on lines of its own, which may be white space, terminators and comments.
There is one slip. A sign that may begin a name takes the line feed behind it for the rest of the name,
where it takes a space for the end of the sign. -/
namespace QueryWarden.Guard
open Sql
variable {d : Dialect} {s t : String} {ts us : List Located}

theorem accepts_alike {a b : String} {kept : List Located} (h : tokens d a.toList = .ok (kept ++ us))
    (h' : tokens d b.toList = .ok (kept ++ ts)) (ended : Ended us) (ended' : Ended ts) :
    Accepts d a ↔ Accepts d b := by
  have same (q : Query) : statements d a = .ok [.query q] ↔ statements d b = .ok [.query q] := by
    simp only [statements_eq_query_iff, h, h', Except.ok.injEq, exists_eq_left',
      readScript_append_ended kept ended, readScript_append_ended kept ended']
  simp only [accepts_iff, same]

/-- A tail behind a candidate has no part in the verdict, unless a sign that may begin a name is the last
that is read of the candidate. And then the verdict is the one on the candidate with a line feed, whatever
the tail is. -/
theorem accepts_tail_iff (h : tokens d s.toList = .ok ts) (tail : IsTail d t.toList) :
    (¬ Dangles d s.toList → (Accepts d (s ++ "\n" ++ t) ↔ Accepts d s)) ∧
      (Dangles d s.toList → (Accepts d (s ++ "\n" ++ t) ↔ Accepts d (s ++ "\n"))) := by
  obtain ⟨kept, tails, same⟩ := tokens_tail h
  obtain ⟨us, ended, behind⟩ := tails t.toList tail
  obtain ⟨vs, ended', alone⟩ := tails [] .nil
  have whole : tokens d (s ++ "\n" ++ t).toList = .ok (kept ++ us) := by simpa using behind
  have line : tokens d (s ++ "\n").toList = .ok (kept ++ vs) := by simpa using alone
  refine ⟨fun closed => ?_, fun _ => accepts_alike whole line ended ended'⟩
  have bare : tokens d s.toList = .ok (kept ++ []) := by
    rw [List.append_nil, same closed]
    exact h
  exact accepts_alike whole bare ended (by simp [Ended])

theorem comments_behind_query_accepted :
    (tokens .mssql "SELECT 1".toList).isOk = true ∧ ¬ Dangles .mssql "SELECT 1".toList ∧
      IsTail .mssql "; -- DROP\n/* ; */".toList ∧
      Accepts .mssql ("SELECT 1" ++ "\n" ++ "; -- DROP\n/* ; */") := by
  have ok : (tokens .mssql "SELECT 1".toList).isOk = true := by decide +kernel
  have closed : ¬ Dangles .mssql "SELECT 1".toList := fun dangles => absurd dangles.suffix (by decide)
  have block : IsTail .mssql "/* ; */".toList :=
    @IsTail.block _ " ; ".toList [] (by decide) (by decide) (by decide) .nil
  have tail : IsTail .mssql "; -- DROP\n/* ; */".toList :=
    .terminator (.blank rfl rfl (@IsTail.line _ " DROP".toList _ (by decide) nofun block))
  cases h : tokens .mssql "SELECT 1".toList with
  | ok ts => exact ⟨rfl, closed, tail, ((accepts_tail_iff h tail).1 closed).mpr (by decide +kernel)⟩
  | error e =>
    rw [h] at ok
    cases ok

/-- A line feed makes a name of a sign at the end, and the candidate is accepted. Without it, or with a space
in its place, the sign is an operator that lacks an operand. -/
theorem line_feed_completes_name :
    Dangles .mssql "SELECT 1 @".toList ∧ (tokens .mssql "SELECT 1 @".toList).isOk = true ∧
      IsTail .mssql "".toList ∧ Accepts .mssql ("SELECT 1 @" ++ "\n" ++ "") ∧
      ¬ Accepts .mssql "SELECT 1 @" ∧ ¬ Accepts .mssql "SELECT 1 @ " := by
  have dangles : Dangles .mssql "SELECT 1 @".toList :=
    ⟨['@'], by decide, _, _, .token rfl (.layout rfl (.token rfl (.layout rfl (.here _ _))))⟩
  exact ⟨dangles, by decide +kernel, .nil, by decide +kernel, by decide +kernel, by decide +kernel⟩

/-! A text in a literal: quotes, terminators, comment marks and line feeds in it are part of the literal, and
the candidate is read as one query. -/

open Lexeme

def inQuotes (text : String) : String := "'" ++ String.ofList (Quotation.double '\'' text.toList) ++ "'"

def wordAt (text : String) (p : Place) : Located := ⟨.word (.plain text.toList), p⟩

def noteQuery (text : String) : Query :=
  ⟨[], .select ⟨[.aliased (.literal (.text .single text)) ⟨"note", none⟩], none,
    [⟨.table [⟨"Products", none⟩] [] none, []⟩], []⟩, [], []⟩

theorem scans_behind_text (p : Place) :
    ∃ q p₁ p₂ p₃ p₄, Scans .sqlite p " AS note FROM Products".toList
      [wordAt "AS" p₁, wordAt "note" p₂, wordAt "FROM" p₃, wordAt "Products" p₄] q [] :=
  ⟨_, _, _, _, _, .layout rfl (.token rfl (.layout rfl (.token rfl (.layout rfl (.token rfl (.layout rfl (.token rfl
    (.here _ _))))))))⟩

theorem ofChars_inQuotes (text : String) (behind : List Char) (ends : behind.head? ≠ some '\'') :
    ofChars .sqlite '\'' (Quotation.double '\'' text.toList ++ ['\''] ++ behind) =
      .token (.literal .single text) (Quotation.double '\'' text.toList ++ ['\'']).length := by
  have opens (body : List Char) :
      ofChars .sqlite '\'' body = literal .single 1 (Quotation.read? '\'' false body) := rfl
  rw [opens, List.append_assoc, List.singleton_append, Quotation.read?_double _ _ _ ends]
  simp [literal]

theorem tokens_note (text : String) :
    ∃ p₁ p₂ p₃ p₄ p₅ p₆, tokens .sqlite ("SELECT " ++ inQuotes text ++ " AS note FROM Products").toList = .ok
      [wordAt "SELECT" p₁, ⟨.literal .single text, p₂⟩, wordAt "AS" p₃, wordAt "note" p₄, wordAt "FROM" p₅,
        wordAt "Products" p₆] := by
  have chars : ("SELECT " ++ inQuotes text ++ " AS note FROM Products").toList =
      "SELECT ".toList ++
        '\'' :: (Quotation.double '\'' text.toList ++ ['\''] ++ " AS note FROM Products".toList) := by
    simp [inQuotes]
  rw [chars]
  have literal := ofChars_inQuotes text " AS note FROM Products".toList (by decide)
  generalize Quotation.double '\'' text.toList ++ ['\''] = body at literal ⊢
  obtain ⟨q, p₃, p₄, p₅, p₆, behind⟩ := scans_behind_text ((⟨1, 8⟩ : Place).passAll ('\'' :: body))
  have quoted := Scans.past (congrArg Lexeme.taken literal) behind
  have lead : Scans .sqlite .start ("SELECT ".toList ++ '\'' :: (body ++ " AS note FROM Products".toList))
      [wordAt "SELECT" ⟨1, 1⟩] ⟨1, 8⟩ ('\'' :: (body ++ " AS note FROM Products".toList)) :=
    .token rfl (.layout rfl (.here _ _))
  exact ⟨_, _, p₃, p₄, p₅, p₆, (lead.trans quoted).to_end⟩

theorem statement_note (text : String) (b n : Nat) (p₁ p₂ p₃ p₄ p₅ p₆ : Place) :
    Grammar.statementAt .sqlite (b + 1) (n + 3) [wordAt "SELECT" p₁, ⟨.literal .single text, p₂⟩, wordAt "AS" p₃,
      wordAt "note" p₄, wordAt "FROM" p₅, wordAt "Products" p₆] = .ok (.query (noteQuery text), []) := by
  have begins : (Word.plain "SELECT".toList).key = "SELECT" := by decide
  have named : (Word.plain "AS".toList).key = "AS" := by decide
  have leads : (Word.plain "FROM".toList).key = "FROM" := by decide
  have plain : (Word.plain "Products".toList).key ∉ ["LATERAL", "TABLE", "UNNEST"] := by decide
  have budget : (Grammar.atDepth .sqlite (b + 1) (n + 1)).budget = b + 1 := rfl
  have item :
      (Grammar.atDepth .sqlite (b + 1) (n + 1)).selectItem.run [⟨.literal .single text, p₂⟩, wordAt "AS" p₃,
          wordAt "note" p₄, wordAt "FROM" p₅, wordAt "Products" p₆] =
        .ok (.aliased (.literal (.text .single text)) ⟨"note", none⟩,
          [wordAt "FROM" p₅, wordAt "Products" p₆]) :=
    Grammar.selectItem_literal budget named (Grammar.expr_literal .sqlite n named)
  have select := Grammar.select_end (p := p₁) budget begins (by simp) item leads plain
  have query := Grammar.queryRule_select budget begins select
  rw [Grammar.statementAt]
  simp only [bind, StateT.bind, Except.bind, queryStarts_run]
  rw [if_pos (by simp only [wordAt, viewAt_word, keyOf_word, begins]; decide)]
  exact Rule.map_of_ok query

/-- A text in a literal has no part in the verdict. -/
theorem text_in_quotes_accepted (text : String) :
    Accepts .sqlite ("SELECT " ++ inQuotes text ++ " AS note FROM Products") := by
  obtain ⟨p₁, p₂, p₃, p₄, p₅, p₆, found⟩ := tokens_note text
  have parsed : statements .sqlite ("SELECT " ++ inQuotes text ++ " AS note FROM Products") =
      .ok [.query (noteQuery text)] := by
    refine statements_eq_query_iff.mpr ⟨_, found, readScript_one_iff.mpr ⟨?_, [], ?_, ?_⟩⟩
    · simp [Ended, wordAt, Token.terminator]
    · exact .inl (by simp [Ended])
    · exact statement_note text 6 47 ..
  have ordinary : beginsStatement ⟨"note", none⟩ = false := by decide +kernel
  rw [accepts_query_iff parsed]
  simp [noteQuery, writes, hides, bodyHides, itemHides, ordinary, anyTableHides, factorHides, aliasHides,
    anyJoinHides]

example : Accepts .sqlite "SELECT '''; DROP TABLE Orders; --' AS note FROM Products" := by decide +kernel

end QueryWarden.Guard
