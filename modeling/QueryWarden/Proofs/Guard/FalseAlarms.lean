import QueryWarden.Proofs.Guard.HiddenAliases

/-! The guard raises no false alarm. Where a query that reads is refused, one of the `SELECT`s in it has an
alias without quotes that is spelled like the first word of a statement. -/
namespace QueryWarden.Guard
open Sql

/-- A thing in place of a table stands among some tables: listed or joined there, or in parentheses. -/
inductive Joined (tables : List TableWithJoins) : TableFactor → Prop where
  | listed {t : TableWithJoins} {f : TableFactor} (listed : t ∈ tables) (among : f ∈ factorsOf t) :
      Joined tables f
  | nested {inner : TableWithJoins} {a : Option TableAlias} {f : TableFactor}
      (outer : Joined tables (.nestedJoin inner a)) (among : f ∈ factorsOf inner) : Joined tables f

/-- The `SELECT`s that are reached from a body through parentheses, set operations, derived tables and
joins in parentheses. -/
inductive Reached : SetExpr → Select → Prop where
  | whole (s : Select) : Reached (.select s) s
  | inside {q : Query} {s : Select} (there : Reached q.body s) : Reached (.query q) s
  | onLeft {o : SetOperator} {l r : SetExpr} {s : Select} (there : Reached l s) :
      Reached (.setOperation o l r) s
  | onRight {o : SetOperator} {l r : SetExpr} {s : Select} (there : Reached r s) :
      Reached (.setOperation o l r) s
  | derived {outer s : Select} {lateral : Bool} {q : Query} {a : Option TableAlias}
      (among : Joined outer.tables (.derived lateral q a)) (there : Reached q.body s) :
      Reached (.select outer) s

/-- A name is an alias of a `SELECT`, for one who sees some of the things in place of a table: of one of
its items or of one of its tables. -/
inductive LabelOf (seen : TableFactor → Bool) (s : Select) : Ident → Prop where
  | item {e : Expr} {i : Ident} (among : .aliased e i ∈ s.projection) : LabelOf seen s i
  | table {f : TableFactor} {a : TableAlias} (among : Joined s.tables f) (visible : seen f = true)
      (labelled : f.label = some a) : LabelOf seen s a.name

variable {i : Ident} {s : Select}

theorem LabelOf.all {seen : TableFactor → Bool} (h : LabelOf seen s i) : LabelOf (fun _ => true) s i := by
  cases h with
  | item among => exact .item among
  | table among _ labelled => exact .table among rfl labelled

/-- What is an alias at a thing among the tables of a `SELECT` is one in the whole `SELECT`. -/
theorem aliasIn_of_joined {seen : TableFactor → Bool} {f : TableFactor} (among : Joined s.tables f)
    (there : AliasAt seen i f) : AliasIn seen i (.select s) := by
  induction among with
  | listed listed among => exact .table listed among there
  | nested _ among ih => exact ih (.joined among there)

theorem aliasIn_of_reached {b : SetExpr} (reached : Reached b s) (named : LabelOf isLookedAt s i) :
    AliasIn isLookedAt i b := by
  induction reached with
  | whole s =>
    cases named with
    | item among => exact .item among
    | table among visible labelled => exact aliasIn_of_joined among (.label visible labelled rfl)
  | inside _ ih => exact .inside (ih named)
  | onLeft _ ih => exact .onLeft (ih named)
  | onRight _ ih => exact .onRight (ih named)
  | derived among _ ih => exact aliasIn_of_joined among (.derived (ih named))

mutual
theorem reached_of_aliasIn {b : SetExpr} : AliasIn isLookedAt i b →
    ∃ s, Reached b s ∧ LabelOf isLookedAt s i
  | .item among => ⟨_, .whole _, .item among⟩
  | .table listed among there => reached_of_aliasAt (.listed listed among) there
  | .inside there => by
    obtain ⟨s, reached, named⟩ := reached_of_aliasIn there
    exact ⟨s, .inside reached, named⟩
  | .onLeft there => by
    obtain ⟨s, reached, named⟩ := reached_of_aliasIn there
    exact ⟨s, .onLeft reached, named⟩
  | .onRight there => by
    obtain ⟨s, reached, named⟩ := reached_of_aliasIn there
    exact ⟨s, .onRight reached, named⟩
theorem reached_of_aliasAt {outer : Select} {f : TableFactor} (among : Joined outer.tables f) :
    AliasAt isLookedAt i f → ∃ s, Reached (.select outer) s ∧ LabelOf isLookedAt s i
  | .label visible labelled named => ⟨outer, .whole _, named ▸ .table among visible labelled⟩
  | .derived there => by
    obtain ⟨s, reached, named⟩ := reached_of_aliasIn there
    exact ⟨s, .derived among reached, named⟩
  | .joined within there => reached_of_aliasAt (.nested among within) there
  | .pivoted visible _ => by cases visible
  | .unpivoted visible _ => by cases visible
  | .matched visible _ => by cases visible
end

/-- The aliases at which the guard looks are those of the `SELECT`s that it reaches. -/
theorem showsAlias_iff_reached (q : Query) :
    ShowsAlias q i ↔ ∃ s, Reached q.body s ∧ LabelOf isLookedAt s i :=
  ⟨reached_of_aliasIn, fun ⟨_, reached, named⟩ => aliasIn_of_reached reached named⟩

theorem beginsStatement_iff : beginsStatement i = true ↔
    i.quote = none ∧ ∃ w ∈ statementWords, Text.equalsIgnoringCase w i.value = true := by
  rw [beginsStatement, Bool.and_eq_true, Option.isNone_iff_eq_none, List.any_eq_true]

/-- A query that reads is refused exactly if one of the `SELECT`s reached from its body has an alias without
quotes that is a statement's first word, in whatever case. Where every alias of theirs is in quotes or an
ordinary word, the candidate is accepted. -/
theorem refused_for_alias_iff {d : Dialect} {text : String} {st : Statement}
    (parsed : statements d text = .ok [st]) (reads : statementKind st = readKind) :
    ∃ q, st = .query q ∧
      (¬ Accepts d text ↔
        ∃ s i, Reached q.body s ∧ LabelOf isLookedAt s i ∧ i.quote = none ∧
          ∃ w ∈ statementWords, Text.equalsIgnoringCase w i.value = true) ∧
      ((∀ s i, Reached q.body s → LabelOf (fun _ => true) s i →
          i.quote = none → ∀ w ∈ statementWords, Text.equalsIgnoringCase w i.value = false) →
        Accepts d text) := by
  cases st with
  | other k => exact absurd reads (name_ne_readKind k)
  | query q =>
    have accepts : Accepts d text ↔ hides q = false := by
      rw [accepts_query_iff parsed, ← queryKind_eq_readKind_iff]
      exact and_iff_right reads
    have hidden : hides q = true ↔ ∃ s i, Reached q.body s ∧ LabelOf isLookedAt s i ∧ i.quote = none ∧
        ∃ w ∈ statementWords, Text.equalsIgnoringCase w i.value = true := by
      simp only [hides_iff, showsAlias_iff_reached, beginsStatement_iff]
      constructor
      · rintro ⟨i, ⟨s, reached, named⟩, begins⟩
        exact ⟨s, i, reached, named, begins⟩
      · rintro ⟨s, i, reached, named, begins⟩
        exact ⟨i, ⟨s, reached, named⟩, begins⟩
    refine ⟨q, rfl, ?_, ?_⟩
    · rw [accepts, Bool.not_eq_false, hidden]
    · intro ordinary
      rw [accepts, Bool.eq_false_iff, Ne, hidden]
      rintro ⟨s, i, reached, named, unquoted, w, listed, spelled⟩
      rw [ordinary s i reached named.all unquoted w listed] at spelled
      cases spelled

theorem alias_in_derived_table_found :
    ∃ q, statements .sqlite "SELECT 1 UNION SELECT * FROM (SELECT 2 DELETE FROM Orders) AS x" =
        .ok [.query q] ∧ queryKind q = readKind ∧
      ∃ s i, Reached q.body s ∧ LabelOf isLookedAt s i ∧ i.quote = none ∧
        ∃ w ∈ statementWords, Text.equalsIgnoringCase w i.value = true := by
  have h : (onlyQuery (statements .sqlite "SELECT 1 UNION SELECT * FROM (SELECT 2 DELETE FROM Orders) AS x")).any
      (fun q => queryKind q == readKind) = true := by
    decide +kernel
  obtain ⟨q, parsed, reads⟩ := (Option.any_eq_true _ _).mp h
  have parsed := onlyQuery_eq_some.mp parsed
  have reads : queryKind q = readKind := beq_iff_eq.mp reads
  obtain ⟨q', same, refused, -⟩ := refused_for_alias_iff parsed reads
  cases same
  exact ⟨q, parsed, reads, refused.mp (by decide +kernel)⟩

example : Accepts .sqlite "SELECT Price AS \"Update\" FROM Products AS u" := by decide +kernel

end QueryWarden.Guard
