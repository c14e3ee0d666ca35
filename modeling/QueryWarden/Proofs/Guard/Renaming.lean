import Mathlib.Data.List.Forall2
import QueryWarden.Proofs.Guard.Acceptance

/-! What a verdict can depend on: the shape of the statements, and of each alias whether it begins a
statement. Two lists of statements that differ in names, values, expressions and aliases alone, as far as
the guard's own question about an alias is answered alike, get one verdict. -/
namespace QueryWarden.Guard
open Sql

/-- Items of one kind; an alias for an alias, and both or neither begin a statement. -/
inductive ItemLike : SelectItem → SelectItem → Prop where
  | unnamed (e e' : Expr) : ItemLike (.unnamed e) (.unnamed e')
  | aliased (e e' : Expr) {i i' : Ident} (same : beginsStatement i = beginsStatement i') :
      ItemLike (.aliased e i) (.aliased e' i')
  | allColumnsOf (n n' : ObjectName) : ItemLike (.allColumnsOf n) (.allColumnsOf n')
  | allColumns : ItemLike .allColumns .allColumns

/-- Aliases of tables: both are missing, or both or neither begin a statement. -/
inductive LabelLike : Option TableAlias → Option TableAlias → Prop where
  | missing : LabelLike none none
  | present {a a' : TableAlias} (same : beginsStatement a.name = beginsStatement a'.name) :
      LabelLike (some a) (some a')

mutual

/-- Bodies of one shape. Of bodies that change or write down rows the kind alone counts. -/
inductive BodyLike : SetExpr → SetExpr → Prop where
  | select {s s' : Select} (items : List.Forall₂ ItemLike s.projection s'.projection)
      (into : s.into.isSome = s'.into.isSome) (tables : TablesLike s.tables s'.tables) :
      BodyLike (.select s) (.select s')
  | query {q q' : Query} (body : BodyLike q.body q'.body) : BodyLike (.query q) (.query q')
  | setOperation (o o' : SetOperator) {l l' r r' : SetExpr} (left : BodyLike l l') (right : BodyLike r r') :
      BodyLike (.setOperation o l r) (.setOperation o' l' r')
  | values (rows rows' : List (List Expr)) : BodyLike (.values rows) (.values rows')
  | insert (n n' : Insertion) : BodyLike (.insert n) (.insert n')
  | update (t t' : TableWithJoins) : BodyLike (.update t) (.update t')
  | table (n n' : ObjectName) : BodyLike (.table n) (.table n')

inductive TablesLike : List TableWithJoins → List TableWithJoins → Prop where
  | nil : TablesLike [] []
  | cons {t t' : TableWithJoins} {ts ts' : List TableWithJoins} (relation : FactorLike t.relation t'.relation)
      (joins : JoinsLike t.joins t'.joins) (rest : TablesLike ts ts') : TablesLike (t :: ts) (t' :: ts')

inductive JoinsLike : List Join → List Join → Prop where
  | nil : JoinsLike [] []
  | cons {j j' : Join} {js js' : List Join} (relation : FactorLike j.relation j'.relation)
      (rest : JoinsLike js js') : JoinsLike (j :: js) (j' :: js')

inductive FactorLike : TableFactor → TableFactor → Prop where
  | table (n n' : ObjectName) (es es' : List Expr) {a a' : Option TableAlias} (label : LabelLike a a') :
      FactorLike (.table n es a) (.table n' es' a')
  | derived (lateral lateral' : Bool) {q q' : Query} {a a' : Option TableAlias}
      (body : BodyLike q.body q'.body) (label : LabelLike a a') :
      FactorLike (.derived lateral q a) (.derived lateral' q' a')
  | tableFunction (e e' : Expr) {a a' : Option TableAlias} (label : LabelLike a a') :
      FactorLike (.tableFunction e a) (.tableFunction e' a')
  | function (n n' : ObjectName) (es es' : List Expr) {a a' : Option TableAlias} (label : LabelLike a a') :
      FactorLike (.function n es a) (.function n' es' a')
  | unnest (es es' : List Expr) {a a' : Option TableAlias} (label : LabelLike a a') (o o' : Option Ident) :
      FactorLike (.unnest es a o) (.unnest es' a' o')
  | jsonTable (e e' : Expr) {a a' : Option TableAlias} (label : LabelLike a a') :
      FactorLike (.jsonTable e a) (.jsonTable e' a')
  | nestedJoin {t t' : TableWithJoins} {a a' : Option TableAlias}
      (relation : FactorLike t.relation t'.relation) (joins : JoinsLike t.joins t'.joins)
      (label : LabelLike a a') : FactorLike (.nestedJoin t a) (.nestedJoin t' a')
  | pivot {t t' : TableFactor} (inner : FactorLike t t') (es es' : List Expr) {a a' : Option TableAlias}
      (label : LabelLike a a') : FactorLike (.pivot t es a) (.pivot t' es' a')
  | unpivot {t t' : TableFactor} (inner : FactorLike t t') (cs cs' : List Ident) {a a' : Option TableAlias}
      (label : LabelLike a a') : FactorLike (.unpivot t cs a) (.unpivot t' cs' a')
  | matchRecognize {t t' : TableFactor} (inner : FactorLike t t') (es es' : List Expr)
      {a a' : Option TableAlias} (label : LabelLike a a') :
      FactorLike (.matchRecognize t es a) (.matchRecognize t' es' a')

end

/-- Statements of one shape: queries whose bodies are, or two others of one kind. -/
inductive StatementLike : Statement → Statement → Prop where
  | query {q q' : Query} (body : BodyLike q.body q'.body) : StatementLike (.query q) (.query q')
  | other (k : StatementKind) : StatementLike (.other k) (.other k)

theorem ItemLike.hides {x x' : SelectItem} (h : ItemLike x x') : itemHides x = itemHides x' := by
  cases h with
  | aliased e e' same => exact same
  | _ => rfl

theorem LabelLike.hides {a a' : Option TableAlias} (h : LabelLike a a') : aliasHides a = aliasHides a' := by
  cases h with
  | missing => rfl
  | present same => exact same

theorem anyItemHides_eq {xs xs' : List SelectItem} (h : List.Forall₂ ItemLike xs xs') :
    xs.any itemHides = xs'.any itemHides := by
  induction h with
  | nil => rfl
  | cons like _ ih => rw [List.any_cons, List.any_cons, like.hides, ih]

/-! What the guard finds in a tree, by the fields of its records. -/

theorem hides_eq (q : Query) : hides q = bodyHides q.body := by cases q; rfl

theorem bodyHides_select (s : Select) :
    bodyHides (.select s) = (s.projection.any itemHides || anyTableHides s.tables) := by
  cases s; rfl

theorem bodyHides_query (q : Query) : bodyHides (.query q) = bodyHides q.body := by cases q; rfl

theorem anyTableHides_cons (t : TableWithJoins) (ts : List TableWithJoins) :
    anyTableHides (t :: ts) = ((factorHides t.relation || anyJoinHides t.joins) || anyTableHides ts) := by
  cases t; rfl

theorem anyJoinHides_cons (j : Join) (js : List Join) :
    anyJoinHides (j :: js) = (factorHides j.relation || anyJoinHides js) := by
  cases j; rfl

theorem factorHides_derived (lateral : Bool) (q : Query) (a : Option TableAlias) :
    factorHides (.derived lateral q a) = (aliasHides a || bodyHides q.body) := by
  cases q; rfl

theorem factorHides_nestedJoin (t : TableWithJoins) (a : Option TableAlias) :
    factorHides (.nestedJoin t a) =
      ((aliasHides a || factorHides t.relation) || anyJoinHides t.joins) := by
  cases t; rfl

mutual
theorem BodyLike.hides {b b' : SetExpr} : BodyLike b b' → bodyHides b = bodyHides b'
  | .select items _ tables => by
    rw [bodyHides_select, bodyHides_select, anyItemHides_eq items, tables.hides]
  | .query body => by rw [bodyHides_query, bodyHides_query, body.hides]
  | .setOperation _ _ left right => by rw [bodyHides, bodyHides, left.hides, right.hides]
  | .values _ _ => rfl
  | .insert _ _ => rfl
  | .update _ _ => rfl
  | .table _ _ => rfl
theorem TablesLike.hides {ts ts' : List TableWithJoins} :
    TablesLike ts ts' → anyTableHides ts = anyTableHides ts'
  | .nil => rfl
  | .cons relation joins rest => by
    rw [anyTableHides_cons, anyTableHides_cons, relation.hides, joins.hides, rest.hides]
theorem JoinsLike.hides {js js' : List Join} : JoinsLike js js' → anyJoinHides js = anyJoinHides js'
  | .nil => rfl
  | .cons relation rest => by rw [anyJoinHides_cons, anyJoinHides_cons, relation.hides, rest.hides]
theorem FactorLike.hides {f f' : TableFactor} : FactorLike f f' → factorHides f = factorHides f'
  | .table _ _ _ _ label => label.hides
  | .derived _ _ body label => by
    rw [factorHides_derived, factorHides_derived, label.hides, body.hides]
  | .nestedJoin relation joins label => by
    rw [factorHides_nestedJoin, factorHides_nestedJoin, label.hides, relation.hides, joins.hides]
  | .tableFunction .. => rfl
  | .function .. => rfl
  | .unnest .. => rfl
  | .jsonTable .. => rfl
  | .pivot .. => rfl
  | .unpivot .. => rfl
  | .matchRecognize .. => rfl
end

theorem BodyLike.queryKind {q q' : Query} (h : BodyLike q.body q'.body) : queryKind q = queryKind q' := by
  unfold Guard.queryKind
  generalize q.body = b at h
  generalize q'.body = b' at h
  cases h with
  | select items into tables => simp only [into]
  | _ => rfl

theorem StatementLike.judge {st st' : Statement} (h : StatementLike st st') : judge [st] = judge [st'] := by
  cases h with
  | query body => simp only [Guard.judge, statementKind, body.queryKind, hides_eq, body.hides]
  | other k => rfl

/-- Names are irrelevant to the guard. Statements of one shape get one verdict, with its reason and its
kind, whatever their names, values, expressions and aliases are, as long as an alias that begins a
statement stands where one did. -/
theorem judge_like {found found' : List Statement} (h : List.Forall₂ StatementLike found found') :
    judge found = judge found' := by
  cases h with
  | nil => rfl
  | cons like rest =>
    cases rest with
    | nil => exact like.judge
    | cons _ _ => rfl

def columnInUnion (column : Expr) (label table : Ident) : Query :=
  ⟨[], .setOperation .union
    (.query ⟨[], .select ⟨[.aliased column label], none, [⟨.table [table] [] none, []⟩], []⟩, [], []⟩)
    (.select ⟨[.allColumns], none, [], []⟩), [], []⟩

theorem columnInUnion_like (e e' : Expr) {i i' : Ident} (t t' : Ident)
    (same : beginsStatement i = beginsStatement i') :
    StatementLike (.query (columnInUnion e i t)) (.query (columnInUnion e' i' t')) := by
  refine .query (.setOperation _ _ (.query (.select ?_ rfl ?_)) (.select ?_ rfl .nil))
  · exact .cons (.aliased e e' same) .nil
  · exact .cons (.table _ _ _ _ .missing) .nil .nil
  · exact .cons .allColumns .nil

theorem other_column_judged_alike :
    beginsStatement ⟨"DELETE", none⟩ = beginsStatement ⟨"exec", none⟩ ∧
      judge [.query (columnInUnion (.name [⟨"Name", none⟩]) ⟨"DELETE", none⟩ ⟨"Orders", none⟩)] =
        judge [.query (columnInUnion (.literal (.number "1")) ⟨"exec", none⟩ ⟨"Archive", some '"'⟩)] := by
  have same : beginsStatement ⟨"DELETE", none⟩ = beginsStatement ⟨"exec", none⟩ := by decide +kernel
  exact ⟨same, judge_like (.cons (columnInUnion_like _ _ _ _ same) .nil)⟩

end QueryWarden.Guard
