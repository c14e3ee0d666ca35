import QueryWarden.Proofs.Pipeline.Sharing
import QueryWarden.Proofs.Scenarios

/-! How a request came to where it stands: by one event, from where it stood before, and nothing was told
of it since. Where it is over, it stays. -/
namespace QueryWarden.Pipeline
open Clock

def Note.request? : Note → Option TaskId
  | .introspecting t _ | .generating t _ _ | .replied t _ | .executing t _ | .reached t _ | .ended t _
  | .dropped t | .broken t _ => some t
  | .checked _ _ | .invalidated => none

namespace Run

variable {rules : Rules} {r : Run} {t : TaskId} {e : Event} {p q : Phase} {notes : List Note}
  {es past later : List Event}

def told (rules : Rules) (r : Run) (es : List Event) : List Note := (r.after rules es).2.map (·.2)

theorem told_concat (rules : Rules) (r : Run) (es : List Event) (e : Event) :
    told rules r (es ++ [e]) = told rules r es ++ ((r.after rules es).1.step rules e).2 := by
  simp [told, after_concat, Function.comp_def]

theorem after_concat_fst (rules : Rules) (r : Run) (es : List Event) (e : Event) :
    (r.after rules (es ++ [e])).1 = ((r.after rules es).1.step rules e).1 := by
  rw [after_concat]

theorem after_split (rules : Rules) (r : Run) (past : List Event) (e : Event) (later : List Event) :
    (r.after rules (past ++ e :: later)).1 =
      (((r.after rules past).1.step rules e).1.after rules later).1 := by
  induction past generalizing r with
  | nil => rfl
  | cons first past ih => exact ih (r.step rules first).1

theorem told_split (rules : Rules) (r : Run) (past : List Event) (e : Event) (later : List Event) :
    told rules r (past ++ e :: later) = told rules r past ++ ((r.after rules past).1.step rules e).2 ++
      told rules ((r.after rules past).1.step rules e).1 later := by
  induction past generalizing r with
  | nil => simp [told, after, Function.comp_def]
  | cons first past ih =>
    have rest := ih (r.step rules first).1
    simp only [told, after, List.map_append, List.cons_append, List.append_assoc] at rest ⊢
    rw [rest]

theorem Move.request_of_note {c : Cache} (move : Move rules r t e c p notes) :
    ∀ note ∈ notes, note.request? = some t := by
  cases move with
  | @stand _ _ _ s => cases s <;> simp [introspection, Note.request?]
  | _ => simp [Note.request?]

/-- Nothing happens any more to a request that is over. -/
theorem Move.alive {c : Cache} (move : Move rules r t e c p notes) (stands : r.requests t = some q) :
    q.isOver = false := by
  have fewer := move.turnsLeft
  rw [stands] at fewer
  cases q with
  | ended | dropped | broken => cases fewer
  | _ => rfl

/-- An event moves a request, or it leaves it where it stands and tells nothing of it. -/
theorem moved_or_left (rules : Rules) (r : Run) (t : TaskId) (e : Event) :
    Moves rules r t e (r.step rules e) ∨ (r.step rules e).1.requests t = r.requests t ∧
      ∀ note ∈ (r.step rules e).2, note.request? ≠ some t := by
  have hs := step_spec rules r e
  change Moves rules r t e ((r.step rules e).1, (r.step rules e).2) ∨ _
  generalize (r.step rules e).1 = r', (r.step rules e).2 = notes at hs
  cases hs with
  | idle | pass => exact .inr ⟨rfl, nofun⟩
  | check | invalidate => exact .inr ⟨rfl, by simp [Note.request?]⟩
  | @moves u _ c p _ move =>
    by_cases hu : t = u
    · subst hu
      exact .inl ⟨c, p, notes, move, rfl⟩
    · refine .inr ⟨put_requests_ne _ _ hu, ?_⟩
      intro note hn
      rw [move.request_of_note note hn]
      simpa using Ne.symm hu

theorem over_step (stands : r.requests t = some p) (isOver : p.isOver = true) (rules : Rules)
    (e : Event) : (r.step rules e).1.requests t = some p := by
  obtain ⟨c, p', notes, move, -⟩ | ⟨left, -⟩ := moved_or_left rules r t e
  · rw [move.alive stands] at isOver
    cases isOver
  · exact left.trans stands

theorem over_stays (stands : r.requests t = some p) (isOver : p.isOver = true) (rules : Rules)
    (es : List Event) : (r.after rules es).1.requests t = some p := by
  induction es generalizing r with
  | nil => exact stands
  | cons e es ih => exact ih (over_step stands isOver rules e)

/-- Nothing is told any more of a request that is over. -/
theorem over_silent (stands : r.requests t = some p) (isOver : p.isOver = true) (rules : Rules)
    (es : List Event) : ∀ note ∈ told rules r es, note.request? ≠ some t := by
  induction es using List.reverseRecOn with
  | nil => nofun
  | append_singleton es e ih =>
    intro note hn
    rw [told_concat] at hn
    obtain hn | hn := List.mem_append.mp hn
    · exact ih note hn
    · obtain ⟨c, p', notes, move, -⟩ | ⟨-, silent⟩ := moved_or_left rules (r.after rules es).1 t e
      · rw [move.alive (over_stays stands isOver rules es)] at isOver
        cases isOver
      · exact silent note hn

/-- What an event has brought a request to in the end, it comes to. -/
theorem ends_with (split : es = past ++ e :: later) (isOver : p.isOver = true)
    (brought : ((r.after rules past).1.step rules e).1.requests t = some p) :
    (r.after rules es).1.requests t = some p := by
  rw [split, after_split]
  exact over_stays brought isOver rules later

/-- A request that was not there at the start has come to where it stands by one of the events. -/
theorem arrived (new : r.requests t = none) (stands : (r.after rules es).1.requests t = some p) :
    ∃ past e later c notes rest, es = past ++ e :: later ∧
      Move rules (r.after rules past).1 t e c p notes ∧
      told rules r es = told rules r past ++ notes ++ rest ∧
      ∀ note ∈ rest, note.request? ≠ some t := by
  induction es using List.reverseRecOn with
  | nil => cases new.symm.trans stands
  | append_singleton es e ih =>
    rw [after_concat_fst] at stands
    rw [told_concat]
    obtain ⟨c, p', notes, move, hstep⟩ | ⟨left, silent⟩ := moved_or_left rules (r.after rules es).1 t e
    · rw [hstep, put_requests_self] at stands
      cases stands
      exact ⟨es, e, [], c, notes, [], rfl, move, by rw [hstep, List.append_nil], nofun⟩
    · generalize ((r.after rules es).1.step rules e).2 = more at silent ⊢
      obtain ⟨past, e', later, c, notes, rest, rfl, move, told_eq, apart⟩ := ih (left.symm.trans stands)
      refine ⟨past, e', later ++ [e], c, notes, rest ++ more, by simp, move, ?_, ?_⟩
      · rw [told_eq, List.append_assoc _ rest]
      · intro note hn
        obtain hn | hn := List.mem_append.mp hn
        · exact apart note hn
        · exact silent note hn

/-- Nothing is told of a request that has not begun. -/
theorem silent_of_new (new : (r.after rules es).1.requests t = none) :
    ∀ note ∈ told rules r es, note.request? ≠ some t := by
  induction es using List.reverseRecOn with
  | nil => nofun
  | append_singleton es e ih =>
    rw [after_concat_fst] at new
    rw [told_concat]
    obtain ⟨c, p, notes, -, hstep⟩ | ⟨left, silent⟩ := moved_or_left rules (r.after rules es).1 t e
    · rw [hstep, put_requests_self] at new
      cases new
    · intro note hn
      obtain hn | hn := List.mem_append.mp hn
      · exact ih (left.symm.trans new) note hn
      · exact silent note hn

end Run
end QueryWarden.Pipeline
