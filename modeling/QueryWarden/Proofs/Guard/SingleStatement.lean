import QueryWarden.Proofs.Guard.Acceptance
import QueryWarden.Proofs.Sql.Unread

/-! How much of an accepted candidate its one statement accounts for. The guard counts the statements
found and does not ask what was left unread, and the parser passes a few tokens without looking. -/
namespace QueryWarden.Guard
open Sql

/-- No terminator stands between two tokens that are none. -/
def Undivided (ts : List Located) : Prop :=
  ∀ before semi after, ts = before ++ semi :: after → semi.token = .terminator →
    Ended before ∨ Ended after

/-- An accepted candidate has been read as one query. -/
theorem accepted_script {d : Dialect} {text : String} (h : Accepts d text) :
    ∃ ts q rest, tokens d text.toList = .ok ts ∧ readScript d ts = .ok ([.query q], rest) := by
  obtain ⟨q, hq, -, -⟩ := (accepts_iff d text).mp h
  unfold statements at hq
  cases ht : tokens d text.toList with
  | error e => simp [ht] at hq
  | ok ts =>
    simp only [ht, statementsOf] at hq
    cases hr : readScript d ts with
    | error e => simp [hr, Except.map] at hq
    | ok r =>
      obtain ⟨found, rest⟩ := r
      simp only [hr, Except.map, Except.ok.injEq] at hq
      subst hq
      exact ⟨ts, q, rest, rfl, hr⟩

/-- Of tokens that begin and end with terminators, one that divides the others stands in the middle. -/
theorem divided_within {lead body trail before after : List Located} {semi : Located}
    (he : lead ++ body ++ trail = before ++ semi :: after) (hl : Ended lead) (ht : Ended trail) :
    Ended before ∨ Ended after ∨ ∃ mid rest, before = lead ++ mid ∧ body = mid ++ semi :: rest := by
  rw [List.append_assoc] at he
  obtain ⟨mid, rfl, hmid⟩ | ⟨mid, rfl, -⟩ := List.append_eq_append_iff.mp he
  · obtain ⟨more, rfl, htrail⟩ | ⟨more, hbody, hafter⟩ := List.append_eq_append_iff.mp hmid
    · refine .inr (.inl fun t hm => ht t ?_)
      rw [htrail]
      exact List.mem_append_right _ (List.mem_cons_of_mem _ hm)
    · cases more with
      | nil =>
        refine .inr (.inl fun t hm => ht t ?_)
        rw [List.nil_append] at hafter
        rw [← hafter]
        exact List.mem_cons_of_mem _ hm
      | cons x more =>
        cases (List.cons.inj hafter).1
        exact .inr (.inr ⟨mid, more, rfl, hbody⟩)
  · exact .inl fun t hm => hl t (List.mem_append_left _ hm)

/-- Of an accepted candidate nothing but terminators is left unread exactly if the reading does not stop
before an `END`. And then no terminator divides it exactly if none does that is passed whatever it is,
behind `TABLE` and a name or in the path of an `OPERATOR`. -/
theorem accepted_accounts_for_all_iff (d : Dialect) (text : String) (h : Accepts d text) :
    ∃ ts q rest, tokens d text.toList = .ok ts ∧ readScript d ts = .ok ([.query q], rest) ∧
      rest <:+ ts ∧ (Ended rest ↔ keyOf (viewAt rest 0) ≠ "END") ∧
      (Ended rest ∧ Undivided ts ↔
        keyOf (viewAt rest 0) ≠ "END" ∧
          ∀ before semi after, ts = before ++ semi :: after → semi.token = .terminator →
            Swallows before → Ended before ∨ Ended after) := by
  obtain ⟨ts, q, rest, htokens, hread⟩ := accepted_script h
  obtain ⟨lead, body, mid, hts, hlead, swallowed, hrest⟩ := readScript_query hread
  have ended : Ended rest ↔ keyOf (viewAt rest 0) ≠ "END" := by
    obtain ⟨-, rfl⟩ | ⟨rfl, here⟩ := hrest
    · simp [Ended, viewAt, keyOf]
    · constructor
      · intro he
        simp [viewAt_ended he, keyOf]
      · intro hne
        exact absurd here hne
  refine ⟨ts, q, rest, htokens, hread, ?_, ended, ?_⟩
  · obtain ⟨-, rfl⟩ | ⟨rfl, -⟩ := hrest
    · exact List.nil_suffix
    · exact ⟨lead ++ body, hts.symm⟩
  · constructor
    · rintro ⟨he, undivided⟩
      exact ⟨ended.mp he, fun before semi after hsplit hs _ => undivided before semi after hsplit hs⟩
    · rintro ⟨hne, harmless⟩
      refine ⟨ended.mpr hne, ?_⟩
      intro before semi after hsplit hs
      have trail : Ended mid := by
        obtain ⟨he, -⟩ | ⟨rfl, here⟩ := hrest
        · exact he
        · exact absurd here hne
      obtain hb | ha | ⟨front, back, rfl, hbody⟩ := divided_within (hts.symm.trans hsplit) hlead trail
      · exact .inl hb
      · exact .inr ha
      · have swallows := (swallowed front semi back hbody hs).prepend lead
        exact harmless _ semi after hsplit hs swallows

def unread (d : Dialect) (text : String) : Option (List Located) :=
  match tokens d text.toList with
  | .error _ => none
  | .ok ts =>
    match readScript d ts with
    | .ok ([.query _], rest) => some rest
    | _ => none

theorem unread_eq_some {d : Dialect} {text : String} {rest : List Located} :
    unread d text = some rest ↔
      ∃ ts q, tokens d text.toList = .ok ts ∧ readScript d ts = .ok ([.query q], rest) := by
  constructor
  · intro h
    unfold unread at h
    split at h
    · cases h
    · rename_i ts hts
      split at h
      · rename_i q left hread
        cases h
        exact ⟨ts, q, hts, hread⟩
      · cases h
  · rintro ⟨ts, q, hts, hread⟩
    simp [unread, hts, hread]

/-- A second statement behind an `END` is left unread, and the candidate is accepted. -/
theorem statement_behind_end_accepted :
    Accepts .sqlite "SELECT 1 END; DELETE FROM Orders" ∧
    ∃ ts q rest, tokens .sqlite "SELECT 1 END; DELETE FROM Orders".toList = .ok ts ∧
      readScript .sqlite ts = .ok ([.query q], rest) ∧ ¬ Ended rest := by
  refine ⟨by decide +kernel, ?_⟩
  have left : (unread .sqlite "SELECT 1 END; DELETE FROM Orders").any
      (·.any (·.token ≠ .terminator)) = true := by
    decide +kernel
  obtain ⟨rest, hrest, hplain⟩ := (Option.any_eq_true _ _).mp left
  obtain ⟨ts, q, hts, hread⟩ := unread_eq_some.mp hrest
  refine ⟨ts, q, rest, hts, hread, ?_⟩
  intro he
  obtain ⟨t, ht, hne⟩ := List.any_eq_true.mp hplain
  simp [he t ht] at hne

/-- Of a plain query nothing is left unread. -/
theorem plain_query_leaves_nothing :
    ∃ ts q rest, tokens .sqlite "SELECT 1;".toList = .ok ts ∧
      readScript .sqlite ts = .ok ([.query q], rest) ∧ Ended rest := by
  obtain ⟨ts, q, rest, hts, hread, -, ended, -⟩ :=
    accepted_accounts_for_all_iff .sqlite "SELECT 1;" (by decide +kernel)
  have left : unread .sqlite "SELECT 1;" = some [] := by decide +kernel
  rw [unread_eq_some.mpr ⟨ts, q, hts, hread⟩] at left
  have hrest : rest = [] := Option.some.inj left
  exact ⟨ts, q, rest, hts, hread, ended.mpr (by simp [hrest, viewAt, keyOf])⟩

end QueryWarden.Guard
