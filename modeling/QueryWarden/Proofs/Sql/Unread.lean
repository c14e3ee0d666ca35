import Mathlib.Data.List.TakeWhile
import QueryWarden.Proofs.Sql.Passing
import QueryWarden.Sql.Script

/-! What reading a script leaves unread: nothing, unless it stops at an `END` where a terminator could
stand. -/
namespace QueryWarden.Sql

def pastTerminators (ts : List Located) : List Located := ts.dropWhile (·.token = .terminator)

/-- How a script is read: the statements found, and the tokens left unread. A statement has to stand
behind a terminator or at the beginning. -/
inductive Reads (statement : Rule Statement) :
    Bool → List Located → List Statement → List Located → Prop where
  /-- The text has ended. -/
  | ended {delimited : Bool} {ts : List Located} (none : pastTerminators ts = []) :
      Reads statement delimited ts [] []
  | next {delimited : Bool} {ts mid rest : List Located} {s : Statement} {found : List Statement}
      (some : pastTerminators ts ≠ []) (read : statement (pastTerminators ts) = .ok (s, mid))
      (more : Reads statement false mid found rest) : Reads statement delimited ts (s :: found) rest
  /-- An `END` stands where a terminator could stand. -/
  | stop {ts : List Located} (same : pastTerminators ts = ts)
      (here : keyOf (viewAt ts 0) = "END") : Reads statement false ts [] ts

theorem terminators_run (ts : List Located) :
    Rule.terminators ts = .ok (ts.head?.map (·.token) = some .terminator, pastTerminators ts) := rfl

theorem atEnd_run (ts : List Located) : Rule.atEnd ts = .ok (ts.isEmpty, ts) := rfl

theorem keyAt_run (n : Nat) (ts : List Located) :
    (liftM (Parser.keyAt n) : Rule String) ts = .ok (keyOf (viewAt ts n), ts) := rfl

theorem pastTerminators_of_head {ts : List Located}
    (h : ts.head?.map (·.token) ≠ some .terminator) : pastTerminators ts = ts := by
  cases ts with
  | nil => rfl
  | cons t ts =>
    have ht : t.token ≠ .terminator := by simpa using h
    simp [pastTerminators, ht]

/-- What a script gives is what is read of it. -/
theorem script_reads (g : Grammar) (statement : Rule Statement) (budget : Nat) (delimited : Bool)
    (found : List Statement) {ts rest : List Located} {all : List Statement}
    (h : g.script statement budget delimited found ts = .ok (all, rest)) :
    ∃ more, all = found.reverse ++ more ∧ Reads statement delimited ts more rest := by
  induction budget generalizing delimited found ts with
  | zero => cases h
  | succ budget ih =>
    rw [Grammar.script] at h
    simp only [bind, StateT.bind, terminators_run, atEnd_run, Except.bind] at h
    split at h
    · rename_i hnone
      have none : pastTerminators ts = [] := List.isEmpty_iff.mp hnone
      rw [none] at h
      cases h
      exact ⟨[], (List.append_nil _).symm, .ended none⟩
    · rename_i hsome
      have some : pastTerminators ts ≠ [] := fun none => hsome (List.isEmpty_iff.mpr none)
      split at h
      · cases hread : statement (pastTerminators ts) with
        | error e => simp [StateT.bind, bind, Except.bind, hread] at h
        | ok r =>
          obtain ⟨s, mid⟩ := r
          simp only [StateT.bind, bind, Except.bind, hread] at h
          obtain ⟨more, hall, reads⟩ := ih false (s :: found) h
          exact ⟨s :: more, by simpa using hall, .next some hread reads⟩
      · rename_i hbegin
        rw [Bool.or_eq_true, not_or, decide_eq_true_eq] at hbegin
        have same := pastTerminators_of_head hbegin.1
        rw [Bool.not_eq_true] at hbegin
        rw [same] at h
        simp only [StateT.bind, bind, Except.bind, keyAt_run, beq_iff_eq] at h
        split at h
        · rename_i here
          cases h
          rw [hbegin.2]
          exact ⟨[], (List.append_nil _).symm, .stop same here⟩
        · cases h

/-- Mapping what a rule gives leaves alone what it has read. -/
theorem Rule.map_ok {α β : Type} {f : α → β} {r : Rule α} {ts rest : List Located} {b : β}
    (h : (f <$> r) ts = .ok (b, rest)) : ∃ a, r ts = .ok (a, rest) ∧ b = f a := by
  simp only [Functor.map, StateT.map, bind, Except.bind, pure, Except.pure] at h
  cases hr : r ts with
  | error e => simp [hr] at h
  | ok x =>
    obtain ⟨a, left⟩ := x
    simp only [hr, Except.ok.injEq, Prod.mk.injEq] at h
    obtain ⟨rfl, rfl⟩ := h
    exact ⟨a, rfl, rfl⟩

/-- A statement that is a query is read by the parser for queries. -/
theorem statementAt_query {d : Dialect} {budget depth : Nat} {ts rest : List Located} {q : Query}
    (h : Grammar.statementAt d budget depth ts = .ok (.query q, rest)) : Passes ts rest := by
  cases depth with
  | zero => cases h
  | succ depth =>
    have starts : (liftM Parser.queryStarts : Rule Bool) ts =
        .ok (["SELECT", "WITH", "VALUES"].contains (keyOf (viewAt ts 0)) ||
          symbolOf (viewAt ts 0) == "(", ts) := rfl
    rw [Grammar.statementAt] at h
    simp only [bind, StateT.bind, Except.bind, starts] at h
    split at h
    · obtain ⟨q', hq, -⟩ := Rule.map_ok h
      exact Parser.onward _ hq
    · obtain ⟨kind, -, hkind⟩ := Rule.map_ok h
      cases hkind

/-- Where one query is all that a script holds, nothing but terminators stands in front of it, the
parser for queries has passed what follows, and it stopped before an `END` or only terminators are
left. -/
theorem readScript_query {d : Dialect} {ts rest : List Located} {q : Query}
    (h : readScript d ts = .ok ([.query q], rest)) :
    ∃ lead body mid, ts = lead ++ body ++ mid ∧ Ended lead ∧ Swallowed body ∧
      (Ended mid ∧ rest = [] ∨ rest = mid ∧ keyOf (viewAt mid 0) = "END") := by
  obtain ⟨more, hall, reads⟩ := script_reads _ _ _ _ _ h
  cases hall
  cases reads with
  | @next _ _ mid _ _ _ some read more =>
    obtain ⟨body, hbody, swallowed⟩ := (statementAt_query read).body
    refine ⟨ts.takeWhile (·.token = .terminator), body, mid, ?_, ?_, swallowed, ?_⟩
    · rw [List.append_assoc, ← hbody, pastTerminators, List.takeWhile_append_dropWhile]
    · intro t ht
      simpa using List.mem_takeWhile_imp ht
    · cases more with
      | ended none =>
        refine .inl ⟨?_, rfl⟩
        intro t ht
        simpa using List.dropWhile_eq_nil_iff.mp none t ht
      | stop same here => exact .inr ⟨rfl, here⟩

end QueryWarden.Sql
