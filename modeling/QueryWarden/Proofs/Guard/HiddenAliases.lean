import QueryWarden.Proofs.Guard.Acceptance

/-! Which aliases the guard looks at. It follows a query into parentheses, set operations, derived tables
and joins in parentheses, but it neither looks at the other things that stand in place of a table nor into
them; so an alias there that is spelled like the first word of a statement is not seen. -/
namespace QueryWarden.Guard
open Sql

def factorsOf : TableWithJoins → List TableFactor
  | ⟨relation, joins⟩ => relation :: joins.map (·.relation)

/-- The things in place of a table that the guard looks at. -/
def isLookedAt : TableFactor → Bool
  | .table .. | .derived .. | .nestedJoin .. => true
  | _ => false

mutual
/-- A name is an alias in a body, for one who sees some of the things in place of a table: of an item of a
`SELECT` or of one of its tables, behind any number of parentheses and set operations. -/
inductive AliasIn (seen : TableFactor → Bool) (i : Ident) : SetExpr → Prop where
  | item {s : Select} {e : Expr} (among : .aliased e i ∈ s.projection) : AliasIn seen i (.select s)
  | table {s : Select} {t : TableWithJoins} {f : TableFactor} (listed : t ∈ s.tables)
      (among : f ∈ factorsOf t) (there : AliasAt seen i f) : AliasIn seen i (.select s)
  | inside {q : Query} (there : AliasIn seen i q.body) : AliasIn seen i (.query q)
  | onLeft {o : SetOperator} {l r : SetExpr} (there : AliasIn seen i l) : AliasIn seen i (.setOperation o l r)
  | onRight {o : SetOperator} {l r : SetExpr} (there : AliasIn seen i r) : AliasIn seen i (.setOperation o l r)
/-- A name is the alias of what stands in place of a table, or one inside of it: in the query of a derived
table, among tables joined in parentheses, or on the table that is turned or searched for patterns. -/
inductive AliasAt (seen : TableFactor → Bool) (i : Ident) : TableFactor → Prop where
  | label {f : TableFactor} {a : TableAlias} (visible : seen f = true) (labelled : f.label = some a)
      (named : a.name = i) : AliasAt seen i f
  | derived {lateral : Bool} {q : Query} {a : Option TableAlias} (there : AliasIn seen i q.body) :
      AliasAt seen i (.derived lateral q a)
  | joined {inner : TableWithJoins} {a : Option TableAlias} {f : TableFactor} (among : f ∈ factorsOf inner)
      (there : AliasAt seen i f) : AliasAt seen i (.nestedJoin inner a)
  | pivoted {t : TableFactor} {es : List Expr} {a : Option TableAlias}
      (visible : seen (.pivot t es a) = true) (there : AliasAt seen i t) : AliasAt seen i (.pivot t es a)
  | unpivoted {t : TableFactor} {cs : List Ident} {a : Option TableAlias}
      (visible : seen (.unpivot t cs a) = true) (there : AliasAt seen i t) : AliasAt seen i (.unpivot t cs a)
  | matched {t : TableFactor} {es : List Expr} {a : Option TableAlias}
      (visible : seen (.matchRecognize t es a) = true) (there : AliasAt seen i t) :
      AliasAt seen i (.matchRecognize t es a)
end

/-- A name is an alias somewhere in a query: of an item, or of anything in place of a table. -/
abbrev HasAlias (q : Query) (i : Ident) : Prop := AliasIn (fun _ => true) i q.body

/-- A name is an alias at which the guard looks. -/
abbrev ShowsAlias (q : Query) (i : Ident) : Prop := AliasIn isLookedAt i q.body

variable {i : Ident}

/-! What the guard looks at is found. -/

theorem factorHides_of_label {f : TableFactor} {a : TableAlias} (visible : isLookedAt f = true)
    (labelled : f.label = some a) (begins : beginsStatement a.name = true) : factorHides f = true := by
  have hidden : aliasHides f.label = true := by
    rw [labelled]
    exact begins
  cases f with
  | table n es b => exact hidden
  | derived l q b =>
    rw [factorHides, Bool.or_eq_true]
    exact .inl hidden
  | nestedJoin t b =>
    obtain ⟨relation, joins⟩ := t
    rw [factorHides, Bool.or_eq_true, Bool.or_eq_true]
    exact .inl (.inl hidden)
  | _ => cases visible

mutual
theorem bodyHides_of_aliasIn (begins : beginsStatement i = true) : ∀ b : SetExpr,
    AliasIn isLookedAt i b → bodyHides b = true
  | .select ⟨projection, into, tables, clauses⟩, h => by
    rw [bodyHides, Bool.or_eq_true]
    cases h with
    | item among => exact .inl (List.any_eq_true.mpr ⟨_, among, begins⟩)
    | table listed among there => exact .inr (anyTableHides_of_aliasAt begins tables listed among there)
  | .query ⟨ctes, body, order, limits⟩, .inside there => bodyHides_of_aliasIn begins body there
  | .setOperation o l r, h => by
    rw [bodyHides, Bool.or_eq_true]
    cases h with
    | onLeft there => exact .inl (bodyHides_of_aliasIn begins l there)
    | onRight there => exact .inr (bodyHides_of_aliasIn begins r there)
  | .values _, h => by cases h
  | .insert _, h => by cases h
  | .update _, h => by cases h
  | .table _, h => by cases h
theorem anyTableHides_of_aliasAt (begins : beginsStatement i = true) : ∀ (tables : List TableWithJoins)
    {t : TableWithJoins} {f : TableFactor}, t ∈ tables → f ∈ factorsOf t → AliasAt isLookedAt i f →
    anyTableHides tables = true
  | ⟨relation, joins⟩ :: rest, t, f, listed, among, there => by
    rw [anyTableHides, Bool.or_eq_true, Bool.or_eq_true]
    obtain rfl | later := List.mem_cons.mp listed
    · obtain here | joined := List.mem_cons.mp among
      · exact .inl (.inl (factorHides_of_aliasAt begins relation (here ▸ there)))
      · obtain ⟨j, within, rfl⟩ := List.mem_map.mp joined
        exact .inl (.inr (anyJoinHides_of_aliasAt begins joins within there))
    · exact .inr (anyTableHides_of_aliasAt begins rest later among there)
theorem anyJoinHides_of_aliasAt (begins : beginsStatement i = true) : ∀ (joins : List Join) {j : Join},
    j ∈ joins → AliasAt isLookedAt i j.relation → anyJoinHides joins = true
  | ⟨relation, conditions⟩ :: rest, j, among, there => by
    rw [anyJoinHides, Bool.or_eq_true]
    obtain rfl | later := List.mem_cons.mp among
    · exact .inl (factorHides_of_aliasAt begins relation there)
    · exact .inr (anyJoinHides_of_aliasAt begins rest later there)
theorem factorHides_of_aliasAt (begins : beginsStatement i = true) : ∀ f : TableFactor,
    AliasAt isLookedAt i f → factorHides f = true
  | .derived l ⟨ctes, body, order, limits⟩ a, .derived there => by
    rw [factorHides, Bool.or_eq_true]
    exact .inr (bodyHides_of_aliasIn begins body there)
  | .nestedJoin ⟨relation, joins⟩ a, .joined among there => by
    rw [factorHides, Bool.or_eq_true, Bool.or_eq_true]
    obtain here | joined := List.mem_cons.mp among
    · exact .inl (.inr (factorHides_of_aliasAt begins relation (here ▸ there)))
    · obtain ⟨j, within, rfl⟩ := List.mem_map.mp joined
      exact .inr (anyJoinHides_of_aliasAt begins joins within there)
  | f, .label visible labelled named => factorHides_of_label visible labelled (named ▸ begins)
end

/-! What is found is an alias at which the guard looks. -/

theorem aliasAt_of_label {f : TableFactor} (visible : isLookedAt f = true)
    (hidden : aliasHides f.label = true) :
    ∃ i, AliasAt isLookedAt i f ∧ beginsStatement i = true := by
  obtain ⟨a, labelled, begins⟩ := (Option.any_eq_true _ _).mp hidden
  exact ⟨a.name, .label visible labelled rfl, begins⟩

mutual
theorem aliasIn_of_bodyHides : ∀ b : SetExpr, bodyHides b = true →
    ∃ i, AliasIn isLookedAt i b ∧ beginsStatement i = true
  | .select ⟨projection, into, tables, clauses⟩, h => by
    rw [bodyHides, Bool.or_eq_true] at h
    obtain item | table := h
    · obtain ⟨x, among, begins⟩ := List.any_eq_true.mp item
      cases x with
      | aliased e i => exact ⟨i, .item among, begins⟩
      | _ => cases begins
    · obtain ⟨t, listed, f, among, i, there, begins⟩ := aliasAt_of_anyTableHides tables table
      exact ⟨i, .table listed among there, begins⟩
  | .query ⟨_, body, _, _⟩, h => by
    obtain ⟨i, there, begins⟩ := aliasIn_of_bodyHides body h
    exact ⟨i, .inside there, begins⟩
  | .setOperation o l r, h => by
    rw [bodyHides, Bool.or_eq_true] at h
    obtain h | h := h
    · obtain ⟨i, there, begins⟩ := aliasIn_of_bodyHides l h
      exact ⟨i, .onLeft there, begins⟩
    · obtain ⟨i, there, begins⟩ := aliasIn_of_bodyHides r h
      exact ⟨i, .onRight there, begins⟩
  | .values _, h => by cases h
  | .insert _, h => by cases h
  | .update _, h => by cases h
  | .table _, h => by cases h
theorem aliasAt_of_anyTableHides : ∀ tables : List TableWithJoins, anyTableHides tables = true →
    ∃ t ∈ tables, ∃ f ∈ factorsOf t, ∃ i, AliasAt isLookedAt i f ∧ beginsStatement i = true
  | [], h => by cases h
  | ⟨relation, joins⟩ :: rest, h => by
    rw [anyTableHides, Bool.or_eq_true, Bool.or_eq_true] at h
    obtain (here | joined) | later := h
    · exact ⟨_, List.mem_cons_self .., relation, List.mem_cons_self .., aliasAt_of_factorHides relation here⟩
    · obtain ⟨j, among, found⟩ := aliasAt_of_anyJoinHides joins joined
      exact ⟨_, List.mem_cons_self .., j.relation,
        List.mem_cons_of_mem _ (List.mem_map_of_mem among), found⟩
    · obtain ⟨t, listed, found⟩ := aliasAt_of_anyTableHides rest later
      exact ⟨t, List.mem_cons_of_mem _ listed, found⟩
theorem aliasAt_of_anyJoinHides : ∀ joins : List Join, anyJoinHides joins = true →
    ∃ j ∈ joins, ∃ i, AliasAt isLookedAt i j.relation ∧ beginsStatement i = true
  | [], h => by cases h
  | ⟨relation, conditions⟩ :: rest, h => by
    rw [anyJoinHides, Bool.or_eq_true] at h
    obtain here | later := h
    · exact ⟨_, List.mem_cons_self .., aliasAt_of_factorHides relation here⟩
    · obtain ⟨j, among, found⟩ := aliasAt_of_anyJoinHides rest later
      exact ⟨j, List.mem_cons_of_mem _ among, found⟩
theorem aliasAt_of_factorHides : ∀ f : TableFactor, factorHides f = true →
    ∃ i, AliasAt isLookedAt i f ∧ beginsStatement i = true
  | .table n es a, hidden => aliasAt_of_label rfl hidden
  | .derived l ⟨ctes, body, order, limits⟩ a, h => by
    rw [factorHides, Bool.or_eq_true] at h
    obtain hidden | h := h
    · exact aliasAt_of_label rfl hidden
    · obtain ⟨i, there, begins⟩ := aliasIn_of_bodyHides body h
      exact ⟨i, .derived there, begins⟩
  | .nestedJoin ⟨relation, joins⟩ a, h => by
    rw [factorHides, Bool.or_eq_true, Bool.or_eq_true] at h
    obtain (hidden | here) | joined := h
    · exact aliasAt_of_label rfl hidden
    · obtain ⟨i, there, begins⟩ := aliasAt_of_factorHides relation here
      exact ⟨i, .joined (List.mem_cons_self ..) there, begins⟩
    · obtain ⟨j, among, i, there, begins⟩ := aliasAt_of_anyJoinHides joins joined
      exact ⟨i, .joined (List.mem_cons_of_mem _ (List.mem_map_of_mem among)) there, begins⟩
  | .tableFunction .., h => by cases h
  | .function .., h => by cases h
  | .unnest .., h => by cases h
  | .jsonTable .., h => by cases h
  | .pivot .., h => by cases h
  | .unpivot .., h => by cases h
  | .matchRecognize .., h => by cases h
end

/-- The guard finds a second statement hidden in a query exactly if an alias at which it looks is spelled
like the first word of one. -/
theorem hides_iff (q : Query) :
    hides q = true ↔ ∃ i, ShowsAlias q i ∧ beginsStatement i = true := by
  obtain ⟨ctes, body, order, limits⟩ := q
  constructor
  · exact aliasIn_of_bodyHides body
  · rintro ⟨i, there, begins⟩
    exact bodyHides_of_aliasIn begins body there

/-- Of a candidate that is one query, the guard refuses an alias spelled like the first word of a statement
wherever it looks at it. It refuses such an alias wherever it stands exactly if the query has none, or
writes in its outermost body, or has one at which the guard looks. -/
theorem keyword_alias_refused_iff {d : Dialect} {text : String} {q : Query}
    (parsed : statements d text = .ok [.query q]) :
    (∀ i, ShowsAlias q i → beginsStatement i = true → ¬ Accepts d text) ∧
    ((∀ i, HasAlias q i → beginsStatement i = true → ¬ Accepts d text) ↔
      ∀ i, HasAlias q i → beginsStatement i = true →
        writes q.body = true ∨ ∃ j, ShowsAlias q j ∧ beginsStatement j = true) := by
  have accepts : Accepts d text ↔ writes q.body = false ∧ hides q = false := by
    rw [accepts_iff]
    constructor
    · rintro ⟨q', parsed', unwritten, unhidden⟩
      cases parsed.symm.trans parsed'
      exact ⟨unwritten, unhidden⟩
    · exact fun h => ⟨q, parsed, h⟩
  constructor
  · intro i shows begins accepted
    have hidden := (hides_iff q).mpr ⟨i, shows, begins⟩
    rw [(accepts.mp accepted).2] at hidden
    cases hidden
  · refine forall₃_congr fun i has begins => ?_
    rw [accepts, ← hides_iff]
    cases writes q.body <;> cases hides q <;> simp

theorem keyword_item_refused :
    ∃ q i, statements .sqlite "SELECT 1 DELETE FROM Orders" = .ok [.query q] ∧
      ShowsAlias q i ∧ beginsStatement i = true ∧ ¬ Accepts .sqlite "SELECT 1 DELETE FROM Orders" := by
  have h : (onlyQuery (statements .sqlite "SELECT 1 DELETE FROM Orders")).any hides = true := by
    decide +kernel
  obtain ⟨q, parsed, hidden⟩ := (Option.any_eq_true _ _).mp h
  have parsed := onlyQuery_eq_some.mp parsed
  obtain ⟨i, shows, begins⟩ := (hides_iff q).mp hidden
  exact ⟨q, i, parsed, shows, begins, (keyword_alias_refused_iff parsed).1 i shows begins⟩

def tableFunctionAlias? : SetExpr → Option Ident
  | .select ⟨_, _, [⟨.tableFunction _ (some a), _⟩], _⟩ => some a.name
  | _ => none

theorem aliasIn_of_tableFunctionAlias {b : SetExpr} (h : tableFunctionAlias? b = some i) :
    AliasIn (fun _ => true) i b := by
  unfold tableFunctionAlias? at h
  split at h
  · cases h
    exact .table (List.mem_singleton_self _) (List.mem_cons_self ..) (.label rfl rfl rfl)
  · cases h

/-- A table function may have the first word of a statement for its alias. -/
theorem table_function_alias_accepted :
    Accepts .sqlite "SELECT * FROM TABLE(f()) drop" ∧
    ∃ q i, statements .sqlite "SELECT * FROM TABLE(f()) drop" = .ok [.query q] ∧
      HasAlias q i ∧ beginsStatement i = true := by
  have h : (onlyQuery (statements .sqlite "SELECT * FROM TABLE(f()) drop")).any
      (fun q => (tableFunctionAlias? q.body).any beginsStatement) = true := by
    decide +kernel
  obtain ⟨q, parsed, found⟩ := (Option.any_eq_true _ _).mp h
  obtain ⟨i, named, begins⟩ := (Option.any_eq_true _ _).mp found
  exact ⟨by decide +kernel, q, i, onlyQuery_eq_some.mp parsed, aliasIn_of_tableFunctionAlias named, begins⟩

end QueryWarden.Guard
