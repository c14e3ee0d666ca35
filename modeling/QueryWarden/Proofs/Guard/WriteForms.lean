import QueryWarden.Proofs.Guard.Acceptance

/-! What writes inside an accepted candidate. The guard asks the outermost body alone whether it writes,
although it follows parentheses and set operations when it looks at aliases; so a body that writes passes
as soon as it stands in parentheses or on one side of a set operation. -/
namespace QueryWarden.Guard
open Sql

/-- The bodies that are reached from a body through parentheses and through both sides of set
operations, the body itself among them. -/
inductive Part : SetExpr → SetExpr → Prop where
  | whole (b : SetExpr) : Part b b
  | inside {q : Query} {b : SetExpr} : Part q.body b → Part (.query q) b
  | onLeft {o : SetOperator} {l r b : SetExpr} : Part l b → Part (.setOperation o l r) b
  | onRight {o : SetOperator} {l r b : SetExpr} : Part r b → Part (.setOperation o l r) b

def writesWithin : SetExpr → Bool
  | .query ⟨_, body, _, _⟩ => writesWithin body
  | .setOperation _ l r => writesWithin l || writesWithin r
  | b => writes b

theorem writesWithin_of_writes {b : SetExpr} (h : writes b = true) : writesWithin b = true := by
  cases b with
  | select s => exact h
  | insert i => rfl
  | update t => rfl
  | query q => cases h
  | setOperation o l r => cases h
  | values rows => cases h
  | table n => cases h

theorem writesWithin_of_part {body b : SetExpr} (h : Part body b) (hb : writes b = true) :
    writesWithin body = true := by
  induction h with
  | whole b => exact writesWithin_of_writes hb
  | @inside q b _ ih =>
    cases q with
    | mk ctes body order limits => exact ih hb
  | onLeft _ ih => simp [writesWithin, ih hb]
  | onRight _ ih => simp [writesWithin, ih hb]

theorem part_of_writesWithin : ∀ body : SetExpr, writesWithin body = true →
    ∃ b, Part body b ∧ writes b = true
  | .select s, h => ⟨_, .whole _, h⟩
  | .insert i, _ => ⟨_, .whole _, rfl⟩
  | .update t, _ => ⟨_, .whole _, rfl⟩
  | .values rows, h => by cases h
  | .table n, h => by cases h
  | .query ⟨_, body, _, _⟩, h => by
    obtain ⟨b, hp, hb⟩ := part_of_writesWithin body h
    exact ⟨b, .inside hp, hb⟩
  | .setOperation o l r, h => by
    simp only [writesWithin, Bool.or_eq_true] at h
    cases h with
    | inl h =>
      obtain ⟨b, hp, hb⟩ := part_of_writesWithin l h
      exact ⟨b, .onLeft hp, hb⟩
    | inr h =>
      obtain ⟨b, hp, hb⟩ := part_of_writesWithin r h
      exact ⟨b, .onRight hp, hb⟩

theorem no_part_writes_iff (body : SetExpr) :
    (∀ b, Part body b → writes b = false) ↔ writesWithin body = false := by
  constructor
  · intro h
    cases hw : writesWithin body with
    | false => rfl
    | true =>
      obtain ⟨b, hp, hb⟩ := part_of_writesWithin body hw
      rw [h b hp] at hb
      cases hb
  · intro h b hp
    cases hb : writes b with
    | false => rfl
    | true =>
      rw [writesWithin_of_part hp hb] at h
      cases h

/-- An accepted candidate is one query whose outermost body does not write. No part of its body writes
either exactly if every query that hides no second statement and writes in some part writes in its
outermost body, which is the one part that the guard asks. -/
theorem accepted_reads_throughout_iff (d : Dialect) (text : String) :
    (Accepts d text → ∃ q, statements d text = .ok [.query q] ∧ writes q.body = false) ∧
    ((Accepts d text →
        ∃ q, statements d text = .ok [.query q] ∧ ∀ b, Part q.body b → writes b = false) ↔
      ∀ q, statements d text = .ok [.query q] → hides q = false → writesWithin q.body = true →
        writes q.body = true) := by
  refine ⟨?_, ?_, ?_⟩
  · intro h
    obtain ⟨q, hq, hw, _⟩ := (accepts_iff d text).mp h
    exact ⟨q, hq, hw⟩
  · intro h q hq hh hw
    cases hb : writes q.body with
    | true => rfl
    | false =>
      obtain ⟨q', hq', hr⟩ := h ((accepts_iff d text).mpr ⟨q, hq, hb, hh⟩)
      have he : q' = q := by simpa using hq'.symm.trans hq
      subst he
      rw [(no_part_writes_iff q'.body).mp hr] at hw
      cases hw
  · intro h hacc
    obtain ⟨q, hq, hw, hh⟩ := (accepts_iff d text).mp hacc
    refine ⟨q, hq, (no_part_writes_iff q.body).mpr ?_⟩
    cases hn : writesWithin q.body with
    | false => rfl
    | true =>
      rw [h q hq hh hn] at hw
      cases hw

/-- An `INSERT` in parentheses is accepted. -/
theorem parenthesised_insert_accepted :
    Accepts .sqlite "(INSERT INTO Orders VALUES (1))" ∧
    ∃ q, statements .sqlite "(INSERT INTO Orders VALUES (1))" = .ok [.query q] ∧
      ∃ b, Part q.body b ∧ writes b = true := by
  have h : (onlyQuery (statements .sqlite "(INSERT INTO Orders VALUES (1))")).any
      (writesWithin ·.body) = true := by
    decide +kernel
  refine ⟨by decide +kernel, ?_⟩
  obtain ⟨q, hq, hw⟩ := (Option.any_eq_true _ _).mp h
  exact ⟨q, onlyQuery_eq_some.mp hq, part_of_writesWithin _ hw⟩

end QueryWarden.Guard
