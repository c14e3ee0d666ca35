import QueryWarden.Proofs.Fallible
import QueryWarden.Proofs.Sql.Unread

/-! Whether a script is one query does not depend on the terminators at its end. -/
namespace QueryWarden.Sql
variable {d : Dialect} {budget depth : Nat} {ts us mid rest : List Located} {q : Query}

theorem pastTerminators_eq_nil : pastTerminators ts = [] ↔ Ended ts := by
  simp [pastTerminators, List.dropWhile_eq_nil_iff, Ended]

theorem Alike.ended_of (h : Alike ts us) (ended : Ended ts) : Ended us := by
  induction h with
  | ended _ other => exact other
  | cons t _ ih =>
    rw [Ended, List.forall_mem_cons] at ended ⊢
    exact ⟨ended.1, ih ended.2⟩

theorem Alike.symm (h : Alike ts us) : Alike us ts := by
  induction h with
  | ended h h' => exact .ended h' h
  | cons t _ ih => exact .cons t ih

theorem Alike.pastTerminators (h : Alike ts us) : Alike (pastTerminators ts) (pastTerminators us) := by
  induction h with
  | ended h h' =>
    rw [pastTerminators_eq_nil.mpr h, pastTerminators_eq_nil.mpr h']
    exact .refl []
  | @cons t as bs h ih =>
    by_cases ends : t.token = .terminator
    · simpa [Sql.pastTerminators, ends] using ih
    · simpa [Sql.pastTerminators, ends] using Alike.cons t h

theorem budgetOf_append_ended (ts : List Located) (h : Ended us) : budgetOf (ts ++ us) = budgetOf ts := by
  unfold budgetOf
  rw [List.reverse_append, List.dropWhile_append_of_pos (by simpa [Ended] using h)]

def Settled (ts : List Located) : Prop := Ended ts ∨ keyOf (viewAt ts 0) = "END"

theorem Alike.settled (h : Alike ts us) : Settled ts → Settled us := by
  rintro (ended | stops)
  · exact .inl (h.ended_of ended)
  · exact .inr (viewAt_alike h 0 ▸ stops)

theorem queryStarts_run (ts : List Located) :
    (liftM Parser.queryStarts : Rule Bool) ts =
      .ok (["SELECT", "WITH", "VALUES"].contains (keyOf (viewAt ts 0)) || symbolOf (viewAt ts 0) == "(", ts) :=
  rfl

theorem Rule.map_of_ok {α β : Type} {f : α → β} {r : Rule α} {a : α} (h : r ts = .ok (a, rest)) :
    (f <$> r) ts = .ok (f a, rest) := by
  simp only [Functor.map, StateT.map, bind, Except.bind, pure, Except.pure, h]

/-- A statement that is a query is read as one, up to the terminators at the end of the tokens. -/
theorem statementAt_alike (alike : Alike ts us)
    (h : Grammar.statementAt d budget depth ts = .ok (.query q, mid)) :
    ∃ mid', Grammar.statementAt d budget depth us = .ok (.query q, mid') ∧ Alike mid mid' := by
  cases depth with
  | zero => cases h
  | succ depth =>
    rw [Grammar.statementAt] at h ⊢
    simp only [bind, StateT.bind, Except.bind, queryStarts_run, ← viewAt_alike alike] at h ⊢
    split at h
    · rename_i begins
      obtain ⟨q', found, same⟩ := Rule.map_ok h
      cases same
      rw [if_pos begins]
      have steady := (Grammar.atDepth d budget depth).query.steady alike
      have run : (Grammar.atDepth d budget depth).query.run ts = .ok (q, mid) := found
      rw [run] at steady
      generalize again : (Grammar.atDepth d budget depth).query.run us = outcome at steady
      cases steady with
      | ok _ left => exact ⟨_, Rule.map_of_ok again, left⟩
    · obtain ⟨kind, -, hkind⟩ := Rule.map_ok h
      cases hkind

theorem cons_of_key (h : keyOf (viewAt ts 0) ≠ "") : ∃ t rest, ts = t :: rest ∧ t.token ≠ .terminator := by
  cases ts with
  | nil => exact absurd rfl h
  | cons t rest =>
    refine ⟨t, rest, rfl, fun ends => h ?_⟩
    simp [viewAt, ends, keyOf]

theorem script_one (g : Grammar) (statement : Rule Statement) (budget : Nat) {s : Statement}
    (some : ¬ Ended ts) (read : statement (pastTerminators ts) = .ok (s, mid)) (settled : Settled mid) :
    ∃ rest, g.script statement (budget + 2) true [] ts = .ok ([s], rest) := by
  have more : (pastTerminators ts).isEmpty = false := by
    rw [List.isEmpty_eq_false_iff, ne_eq, pastTerminators_eq_nil]
    exact some
  rw [Grammar.script]
  simp only [bind, StateT.bind, terminators_run, atEnd_run, Except.bind, more, read, Bool.or_true, if_true,
    Bool.false_eq_true, if_false]
  rw [Grammar.script]
  simp only [bind, StateT.bind, terminators_run, atEnd_run, Except.bind, Bool.or_false]
  obtain ended | stops := settled
  · rw [pastTerminators_eq_nil.mpr ended]
    exact ⟨[], rfl⟩
  · obtain ⟨t, left, rfl, plain⟩ := cons_of_key (by rw [stops]; decide)
    have same : pastTerminators (t :: left) = t :: left := pastTerminators_of_head (by simpa using plain)
    simp only [same, List.head?_cons, Option.map_some, Option.some.injEq, plain, decide_false, List.isEmpty_cons,
      Bool.false_eq_true, if_false, StateT.bind, bind, Except.bind, keyAt_run, stops, beq_self_eq_true, if_true]
    exact ⟨_, rfl⟩

/-- A script is one query exactly if a query stands behind the terminators in front, and reading goes no
further behind it. -/
theorem readScript_one_iff :
    (∃ rest, readScript d ts = .ok ([.query q], rest)) ↔
      ¬ Ended ts ∧ ∃ mid, Settled mid ∧
        Grammar.statementAt d (budgetOf ts) maxDepth (pastTerminators ts) = .ok (.query q, mid) := by
  constructor
  · rintro ⟨rest, h⟩
    obtain ⟨more, hall, reads⟩ := script_reads _ _ _ _ _ h
    cases hall
    cases reads with
    | next some read more =>
      refine ⟨fun ended => some (pastTerminators_eq_nil.mpr ended), _, ?_, read⟩
      cases more with
      | ended none => exact .inl (pastTerminators_eq_nil.mp none)
      | stop same here => exact .inr here
  · rintro ⟨some, mid, settled, read⟩
    have budget : ∃ n, budgetOf ts = n + 2 := by
      have left : ts.reverse.dropWhile (·.token = .terminator) ≠ [] := by
        intro none
        refine some fun t mem => ?_
        simpa using List.dropWhile_eq_nil_iff.mp none t (List.mem_reverse.mpr mem)
      exact ⟨_, congrArg (· + 1) (Nat.succ_pred (List.length_pos_iff.mpr left).ne').symm⟩
    obtain ⟨n, budget⟩ := budget
    unfold readScript
    simp only [budget] at read ⊢
    exact script_one _ _ _ some read settled

/-- Whether a script is one query does not depend on the terminators at its end. -/
theorem readScript_append_ended (ts : List Located) (h : Ended us) (q : Query) :
    (∃ rest, readScript d (ts ++ us) = .ok ([.query q], rest)) ↔
      ∃ rest, readScript d ts = .ok ([.query q], rest) := by
  have transfer {as bs : List Located} (alike : Alike as bs) (budget : budgetOf as = budgetOf bs)
      (one : ∃ rest, readScript d as = .ok ([.query q], rest)) :
      ∃ rest, readScript d bs = .ok ([.query q], rest) := by
    obtain ⟨some, mid, settled, read⟩ := readScript_one_iff.mp one
    obtain ⟨mid', read', alike'⟩ := statementAt_alike alike.pastTerminators read
    exact readScript_one_iff.mpr
      ⟨fun ended => some (alike.symm.ended_of ended), mid', alike'.settled settled, budget ▸ read'⟩
  have alike := Alike.append_ended ts h
  have budget := budgetOf_append_ended ts h
  exact ⟨transfer alike.symm budget, transfer alike budget.symm⟩

theorem statements_eq_query_iff {text : String} :
    statements d text = .ok [.query q] ↔
      ∃ ts, tokens d text.toList = .ok ts ∧ ∃ rest, readScript d ts = .ok ([.query q], rest) := by
  unfold statements
  cases tokens d text.toList with
  | error e => simp
  | ok ts => simp [statementsOf, map_eq_ok]

end QueryWarden.Sql
