import QueryWarden.Guard.Inspection

/-! When the guard accepts a candidate: it is one query, its outermost body does not write, and no alias
in it could begin a second statement. -/
namespace QueryWarden.Guard
open Sql

def Accepts (d : Dialect) (text : String) : Prop := ∃ v, inspect d text = .ok v ∧ v.safe = true

def accepted (d : Dialect) (text : String) : Bool :=
  match inspect d text with
  | .ok v => v.safe
  | .error _ => false

theorem accepted_eq_true (d : Dialect) (text : String) : accepted d text = true ↔ Accepts d text := by
  unfold accepted Accepts
  cases h : inspect d text with
  | error e => simp
  | ok v => simp

instance (d : Dialect) (text : String) : Decidable (Accepts d text) :=
  decidable_of_iff _ (accepted_eq_true d text)

def onlyQuery : Except Fault (List Statement) → Option Query
  | .ok [.query q] => some q
  | _ => none

theorem onlyQuery_eq_some {found : Except Fault (List Statement)} {q : Query} :
    onlyQuery found = some q ↔ found = .ok [.query q] := by
  unfold onlyQuery
  split <;> simp_all

/-- Whether a body writes by itself, whatever the bodies inside it do: an `INSERT`, an `UPDATE`, and a
`SELECT` that makes a table. -/
def writes : SetExpr → Bool
  | .insert _ | .update _ => true
  | .select s => s.into.isSome
  | _ => false

theorem queryKind_eq_readKind_iff (q : Query) : queryKind q = readKind ↔ writes q.body = false := by
  unfold queryKind
  cases q.body with
  | select s => cases h : s.into <;> simp [writes, h, readKind]
  | insert i => simp [writes, readKind]
  | update t => simp [writes, readKind]
  | query q => simp [writes]
  | setOperation o l r => simp [writes]
  | values rows => simp [writes]
  | table n => simp [writes]

/-- No other statement goes by the name of a query that reads. -/
theorem name_ne_readKind (k : StatementKind) : k.name ≠ readKind := by
  cases k <;> decide

theorem judge_query (q : Query) :
    (judge [.query q]).safe = true ↔ writes q.body = false ∧ hides q = false := by
  rw [← queryKind_eq_readKind_iff]
  by_cases hk : queryKind q = readKind
  · cases hh : hides q <;> simp [judge, statementKind, hk, hh, Verdict.rejected, Verdict.ok]
  · simp [judge, statementKind, hk, Verdict.violation]

theorem judge_other (k : StatementKind) : (judge [.other k]).safe = false := by
  simp [judge, statementKind, name_ne_readKind k, Verdict.violation]

theorem judge_safe_iff (ss : List Statement) :
    (judge ss).safe = true ↔ ∃ q, ss = [.query q] ∧ writes q.body = false ∧ hides q = false := by
  match ss with
  | [] => simp [judge, Verdict.rejected]
  | [.other k] => simp [judge_other]
  | [.query q] => simp [judge_query]
  | _ :: _ :: _ => simp [judge, Verdict.rejected]

theorem accepts_iff (d : Dialect) (text : String) :
    Accepts d text ↔
      ∃ q, statements d text = .ok [.query q] ∧ writes q.body = false ∧ hides q = false := by
  unfold Accepts inspect
  cases h : statements d text with
  | ok found => simpa using judge_safe_iff found
  | error e => cases e <;> simp [Verdict.rejected]

theorem accepts_query_iff {d : Dialect} {text : String} {q : Query}
    (parsed : statements d text = .ok [.query q]) :
    Accepts d text ↔ writes q.body = false ∧ hides q = false := by
  rw [accepts_iff]
  constructor
  · rintro ⟨q', parsed', unwritten, unhidden⟩
    cases parsed.symm.trans parsed'
    exact ⟨unwritten, unhidden⟩
  · exact fun h => ⟨q, parsed, h⟩

end QueryWarden.Guard
