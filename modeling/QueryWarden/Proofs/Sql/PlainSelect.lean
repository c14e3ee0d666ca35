import QueryWarden.Sql.Grammar.Query
import QueryWarden.Sql.Phrase

/-! How a query is read that selects one item from one table. First what the words, marks and repetitions
of the grammar give on the tokens in front of them, and at the end of a text, where nothing that may be
missing is found; then the rules from an item to a query. A literal as the item is an item whatever its
text is. -/
namespace QueryWarden.Sql
variable {ts rest : List Located} {v : Word} {kind : LiteralKind} {w : String} {place : Place}

@[simp] theorem viewAt_nil (n : Nat) : viewAt [] n = none := rfl

@[simp] theorem viewAt_succ (t : Located) (n : Nat) : viewAt (t :: ts) (n + 1) = viewAt ts n := rfl

@[simp] theorem viewAt_word : viewAt (⟨.word v, place⟩ :: ts) 0 = some (.word v) := rfl

@[simp] theorem viewAt_literal : viewAt (⟨.literal kind w, place⟩ :: ts) 0 = some (.literal kind w) := rfl

@[simp] theorem behind_word : behind (⟨.word v, place⟩ :: ts) = ts := rfl

@[simp] theorem behind_literal : behind (⟨.literal kind w, place⟩ :: ts) = ts := rfl

@[simp] theorem keyOf_none : keyOf none = "" := rfl

@[simp] theorem keyOf_word : keyOf (some (.word v)) = v.key := rfl

@[simp] theorem keyOf_literal : keyOf (some (.literal kind w)) = "" := rfl

@[simp] theorem symbolOf_none : symbolOf none = "" := rfl

@[simp] theorem symbolOf_word : symbolOf (some (.word v)) = "" := rfl

@[simp] theorem symbolOf_literal : symbolOf (some (.literal kind w)) = "" := rfl

namespace Parser
variable {α β : Type} {a : α} {k : String} {b : Nat}

@[simp] theorem run_pure (a : α) : (pure a : Parser α).run ts = .ok (a, ts) := rfl

@[simp] theorem run_bind (p : Parser α) (f : α → Parser β) :
    (p >>= f).run ts =
      match p.run ts with
      | .ok (a, rest) => (f a).run rest
      | .error e => .error e := rfl

@[simp] theorem run_map (f : α → β) (p : Parser α) :
    (f <$> p).run ts =
      match p.run ts with
      | .ok (a, rest) => .ok (f a, rest)
      | .error e => .error e := rfl

@[simp] theorem run_peek : peek.run ts = .ok (viewAt ts 0, ts) := rfl

@[simp] theorem run_skip : skip.run ts = .ok ((), behind ts) := rfl

@[simp] theorem run_keyAt (n : Nat) : (keyAt n).run ts = .ok (keyOf (viewAt ts n), ts) := rfl

@[simp] theorem run_symbolAt (n : Nat) : (symbolAt n).run ts = .ok (symbolOf (viewAt ts n), ts) := rfl

@[simp] theorem run_expected (what : String) :
    (expected what : Parser α).run ts =
      .error (.syntaxError ("Expected: " ++ what ++ ", found: " ++ foundText ts)) := rfl

@[simp] theorem run_attempt (p : Parser α) :
    (attempt p).run ts =
      match p.run ts with
      | .ok (a, rest) => .ok (some a, rest)
      | .error (.syntaxError _) => .ok (none, ts)
      | .error e => .error e := rfl

@[simp] theorem run_orNothing (p : Parser (Option α)) :
    (orNothing p).run ts =
      match p.run ts with
      | .ok (none, _) => .ok (none, ts)
      | r => r := rfl

@[simp] theorem run_word? (k : String) :
    (word? k).run ts = if keyOf (viewAt ts 0) == k then .ok (true, behind ts) else .ok (false, ts) := by
  simp only [word?, run_bind, run_keyAt]
  split <;> rfl

@[simp] theorem run_mark? (m : String) :
    (mark? m).run ts = if symbolOf (viewAt ts 0) == m then .ok (true, behind ts) else .ok (false, ts) := by
  simp only [mark?, run_bind, run_symbolAt]
  split <;> rfl

@[simp] theorem run_provided (condition : Bool) (p : Parser Bool) :
    (provided condition p).run ts = if condition then p.run ts else .ok (false, ts) := by
  cases condition <;> rfl

theorem list_one {p : Parser α} (h : p.run ts = .ok (a, rest)) (last : symbolOf (viewAt rest 0) ≠ ",") :
    (list (b + 1) p).run ts = .ok ([a], rest) := by
  simp [Parser.list, h, last]

theorem many_none {p : Parser (Option α)} (h : p.run ts = .ok (none, rest)) :
    (many (b + 1) p).run ts = .ok ([], rest) := by
  simp [many, h]

theorem extend_none {p : α → Parser (Option α)} (h : (p a).run ts = .ok (none, rest)) :
    (extend (b + 1) p a).run ts = .ok (a, rest) := by
  simp [extend, h]

theorem word?_end (some : k ≠ "") : (word? k).run [] = .ok (false, []) := by
  simp [some.symm]

@[simp] theorem words?_end (some : k ≠ "") (ks : List String) : (words? (k :: ks)).run [] = .ok (false, []) := by
  simp [words?, wordsAhead, some.symm]

@[simp] theorem wordOf?_end {ks : List String} (some : "" ∉ ks) : (wordOf? ks).run [] = .ok (none, []) := by
  simp [wordOf?, some]

theorem following?_end {lead : Parser Bool} {p : Parser α} (h : lead.run [] = .ok (false, [])) :
    (following? lead p).run [] = .ok (none, []) := by
  simp [following?, h]

@[simp] theorem after?_end {p : Parser α} (some : k ≠ "") : (after? k p).run [] = .ok (none, []) :=
  following?_end (word?_end some)

@[simp] theorem afterAll?_end {p : Parser α} (some : k ≠ "") (ks : List String) :
    (afterAll? (k :: ks) p).run [] = .ok (none, []) :=
  following?_end (words?_end some ks)

end Parser
end QueryWarden.Sql

namespace QueryWarden.Sql.Grammar
open Sql.Parser
variable {g : Grammar} {b : Nat} {ts : List Located} {w : String} {p q r : Place} {v start lead : Word}

theorem dataType_literal (budget : g.budget = b + 1) (kind : LiteralKind) :
    ∃ message, g.dataType.run (⟨.literal kind w, p⟩ :: ts) = .error (.syntaxError message) := by
  simp [dataType, budget, typeAt.wholeType, typeAt]

theorem operandAt_literal (budget : g.budget = b + 1) (depth : Nat) (plain : keyOf (viewAt ts 0) ≠ "COLLATE") :
    (g.operandAt (depth + 1)).run (⟨.literal .single w, p⟩ :: ts) =
      .ok (.literal (.text .single w), ts) := by
  obtain ⟨message, untyped⟩ :
      ∃ message, g.dataType.run (⟨.literal .single w, p⟩ :: ts) = .error (.syntaxError message) :=
    dataType_literal budget .single
  simp [operandAt, typedLiteral?, untyped, bareOperand, value, plain]

theorem operation_literal (budget : g.budget = b + 1) (n : Nat) (named : keyOf (viewAt ts 0) = "AS") :
    (g.operation n).run (⟨.literal .single w, p⟩ :: ts) = .ok (.literal (.text .single w), ts) := by
  have plain : keyOf (viewAt ts 0) ≠ "COLLATE" := by
    rw [named]
    decide
  have next : g.nextPrecedence.run ts = .ok (0, ts) := by
    unfold keyOf at named
    split at named
    · rename_i v ahead
      simp [nextPrecedence, ahead, named, precedenceOf, wordBinding?]
    · exact absurd named (by decide)
  simp only [operation, run_bind, budget, operandAt_literal budget b plain]
  exact extend_none (by simp [next])

theorem expr_literal (d : Dialect) (n : Nat) (named : keyOf (viewAt ts 0) = "AS") :
    (atDepth d (b + 1) (n + 1)).expr.run (⟨.literal .single w, p⟩ :: ts) =
      .ok (.literal (.text .single w), ts) := by
  have budget : ({ atDepth d (b + 1) n with prior := false } : Grammar).budget = b + 1 := by cases n <;> rfl
  exact operation_literal budget 0 named

/-- A literal with an alias behind `AS` is an item, where literals are read as expressions. -/
theorem selectItem_literal (budget : g.budget = b + 1) (named : start.key = "AS")
    (read : g.expr.run (⟨.literal .single w, p⟩ :: ⟨.word start, q⟩ :: ⟨.word v, r⟩ :: ts) =
      .ok (.literal (.text .single w), ⟨.word start, q⟩ :: ⟨.word v, r⟩ :: ts)) :
    g.selectItem.run (⟨.literal .single w, p⟩ :: ⟨.word start, q⟩ :: ⟨.word v, r⟩ :: ts) =
      .ok (.aliased (.literal (.text .single w)) v.ident, ts) := by
  have unstarred :
      g.exprOrStar.run (⟨.literal .single w, p⟩ :: ⟨.word start, q⟩ :: ⟨.word v, r⟩ :: ts) =
        .ok (.literal (.text .single w), ⟨.word start, q⟩ :: ⟨.word v, r⟩ :: ts) := by
    simp [exprOrStar, starredName?, ident, budget, starredName?.parts, read]
  simp [selectItem, unstarred, selectItem.itemOf, alias?, named]

theorem objectName_end (budget : g.budget = b + 1) :
    g.objectName.run [⟨.word v, p⟩] = .ok ([v.ident], []) := by
  simp [objectName, objectName.parts, budget, ident]

theorem tableAlias?_end (g : Grammar) : g.tableAlias?.run [] = .ok (none, []) := by
  simp [tableAlias?, alias?]

theorem turned_end (budget : g.budget = b + 1) (table : TableFactor) :
    (g.turned table).run [] = .ok (table, []) := by
  rw [turned, budget]
  exact extend_none (by simp)

theorem namedTable_end (budget : g.budget = b + 1) :
    g.namedTable.run [⟨.word v, p⟩] = .ok (.table [v.ident] [] none, []) := by
  simp [namedTable, objectName_end budget, onlyIn, following?_end, tableAlias?_end, namedTable.marksAheadOfWith,
    turned_end budget]

theorem join?_end (g : Grammar) (factor : Parser TableFactor) : (g.join? factor).run [] = .ok (none, []) := by
  simp [join?]

theorem tableWithJoins_end (budget : g.budget = b + 1) (plain : v.key ∉ ["LATERAL", "TABLE", "UNNEST"]) :
    g.tableWithJoins.run [⟨.word v, p⟩] = .ok (⟨.table [v.ident] [] none, []⟩, []) := by
  simp only [List.mem_cons, List.not_mem_nil, or_false, not_or] at plain
  have factor : g.tableFactor.run [⟨.word v, p⟩] = .ok (.table [v.ident] [] none, []) := by
    rw [tableFactor, budget]
    simp [tableFactorAt, plain, onlyIn, namedTable_end budget]
  have joins : (many g.budget (g.join? g.tableFactor)).run [] = .ok ([], []) := by
    rw [budget]
    exact many_none (join?_end g _)
  simp only [tableWithJoins, tableWithJoinsBy, run_bind, factor, joins, run_pure]

theorem windows?_end (g : Grammar) : g.windows?.run [] = .ok ([], []) := by
  simp [windows?]

theorem connectBy?_end (g : Grammar) : g.connectBy?.run [] = .ok ([], []) := by
  simp [connectBy?]

/-- A `SELECT` of one item from one table, at the end of a text. -/
theorem select_end (budget : g.budget = b + 1) {item : SelectItem} (begins : start.key = "SELECT")
    (first : keyOf (viewAt ts 0) ∉ ["ALL", "DISTINCT", "TOP"])
    (read : g.selectItem.run ts = .ok (item, [⟨.word lead, q⟩, ⟨.word v, r⟩])) (leads : lead.key = "FROM")
    (plain : v.key ∉ ["LATERAL", "TABLE", "UNNEST"]) :
    g.select.run (⟨.word start, p⟩ :: ts) =
      .ok (⟨[item], none, [⟨.table [v.ident] [] none, []⟩], []⟩, []) := by
  simp only [List.mem_cons, List.not_mem_nil, or_false, not_or] at first
  have items : g.selectItems.run ts = .ok ([item], [⟨.word lead, q⟩, ⟨.word v, r⟩]) := by
    rw [selectItems, commas, budget]
    exact list_one read (by simp)
  have tables :
      (g.commas g.tableWithJoins).run [⟨.word v, r⟩] = .ok ([⟨.table [v.ident] [] none, []⟩], []) := by
    rw [commas, budget]
    exact list_one (tableWithJoins_end budget plain) (by simp)
  have views : g.lateralViews.run [] = .ok ([], []) := by
    rw [lateralViews, budget]
    exact many_none (by simp)
  simp [select, expectWord, begins, distinct?, allOrDistinct, checked, first, items, into?, leads, after?, following?,
    tables, views, onlyIn, groupBy?, exprsBy?, windows?_end, connectBy?_end]

theorem body_select (budget : g.budget = b + 1) (begins : start.key = "SELECT") {s : Select}
    (read : g.select.run (⟨.word start, p⟩ :: ts) = .ok (s, [])) :
    g.body.run (⟨.word start, p⟩ :: ts) = .ok (.select s, []) := by
  have part : g.bodyPart.run (⟨.word start, p⟩ :: ts) = .ok (.select s, []) := by
    simp [bodyPart, begins, read]
  have alone (e : SetExpr) : (g.intersections e).run [] = .ok (e, []) := by
    rw [intersections, budget]
    exact extend_none (by simp)
  simp only [body, run_bind, part, alone, budget]
  exact extend_none (by simp)

theorem limits_end (g : Grammar) (limited skipped : Bool) (n : Nat) :
    (g.limits limited skipped [] n).run [] = .ok ([], []) := by
  induction n generalizing limited skipped with
  | zero => rfl
  | succ n ih => simp [limits, following?_end, ih]

/-- A query that is a `SELECT` alone. -/
theorem queryRule_select (budget : g.budget = b + 1) (begins : start.key = "SELECT") {s : Select}
    (read : g.select.run (⟨.word start, p⟩ :: ts) = .ok (s, [])) :
    g.queryRule.run (⟨.word start, p⟩ :: ts) = .ok (⟨[], .select s, [], []⟩, []) := by
  have clauses : g.forClauses?.run [] = .ok ((), []) := by
    simp [forClauses?, budget, many_none]
  simp [queryRule, with?, begins, reading, body_select budget begins read, queryOrder?, limits_end, following?_end,
    onlyIn, tableSettings?, clauses, format?]

end QueryWarden.Sql.Grammar
