import QueryWarden.Cli.Run

/-! The sorts of documents that the program prints. A document refuses, or it tells another error, or it is what
was asked for; which of these it is can be told from its members, and so can the exit code. -/
namespace QueryWarden.Cli

/-- A document that refuses: an unsafe verdict, a rejection, or the error of an input that is none. -/
inductive Refused : Json → Prop where
  | verdict {v : Guard.Verdict} (refuses : v.safe = false) : Refused v.toJson
  | rejection (details query : String) : Refused (ResponseBody.rejection details query).toJson
  | invalid (message : String) : Refused (envelope "INVALID_INPUT" message)

inductive Failed : Json → Prop where
  | error {code : String} (other : code ≠ "INVALID_INPUT") (message : String) : Failed (envelope code message)

/-- A document of what was asked for: a safe verdict, an answer with its data, a layout, or that a script ran. -/
inductive Done : Json → Prop where
  | verdict {v : Guard.Verdict} (safe : v.safe = true) : Done v.toJson
  | answer (question query : String) (data : ResultSet) : Done (ResponseBody.answer question query data).toJson
  | schema (snapshot : Schema.Snapshot) : Done snapshot.toJson
  | ready (database script : String) :
      Done (.obj [("database", .str database), ("ok", .bool true), ("script", .str script)])

def exitCodeOf (d : Json) : Nat :=
  match d.member? "error" with
  | some (.str _) => 2
  | some info =>
    match info.member? "code" with
    | some (.str "INVALID_INPUT") => 2
    | _ => 1
  | none =>
    match d.member? "is_safe" with
    | some (.bool false) => 2
    | _ => 0

theorem exitCodeOf_verdict (v : Guard.Verdict) : exitCodeOf v.toJson = if v.safe then 0 else 2 := by
  obtain ⟨safe, reason, kind⟩ := v
  cases safe <;> cases reason <;> cases kind <;> rfl

theorem Refused.exitCode {d : Json} (h : Refused d) : exitCodeOf d = 2 := by
  cases h with
  | verdict refuses => rw [exitCodeOf_verdict, refuses]; rfl
  | rejection => rfl
  | invalid => rfl

theorem Failed.exitCode {d : Json} (h : Failed d) : exitCodeOf d = 1 := by
  obtain ⟨other, message⟩ := h
  rename_i code
  show (match some (Json.str code) with
    | some (.str "INVALID_INPUT") => 2
    | _ => 1) = 1
  split
  · next same =>
    cases same
    exact absurd rfl other
  · rfl

theorem Done.exitCode {d : Json} (h : Done d) : exitCodeOf d = 0 := by
  cases h with
  | verdict safe => rw [exitCodeOf_verdict, safe]; rfl
  | answer => rfl
  | schema => rfl
  | ready => rfl

inductive Agrees : Nat → Json → Prop where
  | refused {d : Json} (h : Refused d) : Agrees 2 d
  | failed {d : Json} (h : Failed d) : Agrees 1 d
  | done {d : Json} (h : Done d) : Agrees 0 d

theorem Agrees.code_eq {code : Nat} {d : Json} (h : Agrees code d) : code = exitCodeOf d := by
  cases h with
  | refused h => exact h.exitCode.symm
  | failed h => exact h.exitCode.symm
  | done h => exact h.exitCode.symm

theorem Agrees.sort {code : Nat} {d : Json} (h : Agrees code d) : Refused d ∨ Failed d ∨ Done d := by
  cases h with
  | refused h => exact .inl h
  | failed h => exact .inr (.inl h)
  | done h => exact .inr (.inr h)

/-- No document is of two sorts, so that the exit code tells the sort. -/
theorem Agrees.sorts {code : Nat} {d : Json} (h : Agrees code d) :
    (code = 2 ↔ Refused d) ∧ (code = 1 ↔ Failed d) ∧ (code = 0 ↔ Done d) := by
  have code_eq := h.code_eq
  refine ⟨⟨fun two => ?_, fun refused => code_eq.trans refused.exitCode⟩,
    ⟨fun one => ?_, fun failed => code_eq.trans failed.exitCode⟩,
    ⟨fun zero => ?_, fun done => code_eq.trans done.exitCode⟩⟩
  · cases h with
    | refused h => exact h
    | failed | done => cases two
  · cases h with
    | failed h => exact h
    | refused | done => cases one
  · cases h with
    | done h => exact h
    | refused | failed => cases zero

end QueryWarden.Cli
