import QueryWarden.Pipeline.Service
import QueryWarden.Proofs.Pipeline.Arrival
import QueryWarden.Proofs.Pipeline.Completion

/-! A pipeline in service answers one request after the other: each comes to an outcome, or it crashes
over a text that the guard cannot judge or over a clock that cannot say how long a snapshot is good; and
when it is over, nothing is left under way. -/
namespace QueryWarden.Pipeline
open Clock

namespace Run

variable {rules : Rules} {r : Run} {t : TaskId} {e : Event} {p : Phase} {notes : List Note}
  {es : List Event} {message : String}

theorem OnTheWay.life {question : String} {x : Cache × Cache.Progress}
    (way : OnTheWay r t question e x) : x.1.life = r.cache.life := by
  cases way with
  | asks =>
    unfold Cache.enter
    split
    · rfl
    · split <;> rfl
  | resumes =>
    unfold Cache.resume
    split <;> rfl
  | @introspected n since answer =>
    cases answer with
    | error f => rfl
    | ok snapshot =>
      rw [Cache.fetched]
      split <;> rfl
  | stores => rfl

theorem Move.life {c : Cache} (move : Move rules r t e c p notes) : c.life = r.cache.life := by
  cases move with
  | stand way | ask way | unresolved way | overflow way => exact way.life
  | leave => exact Cache.leave_life ..
  | _ => rfl

/-- How long a snapshot is good does not change, and time does not go back. -/
theorem after_steady (rules : Rules) (r : Run) (es : List Event) :
    (r.after rules es).1.cache.life = r.cache.life ∧ r.now ≤ (r.after rules es).1.now := by
  induction es generalizing r with
  | nil => exact ⟨rfl, Nat.le_refl _⟩
  | cons e es ih =>
    have hs := step_spec rules r e
    have first : (r.step rules e).1.cache.life = r.cache.life := by
      generalize (r.step rules e).1 = r', (r.step rules e).2 = notes at hs
      cases hs with
      | moves move => exact move.life
      | idle | check | invalidate | pass => rfl
    obtain ⟨life, now⟩ := ih (r.step rules e).1
    exact ⟨life.trans first, Nat.le_trans hs.now_le now⟩

/-- On the way to the schema, only the clock can fail. -/
theorem OnTheWay.overflow {question : String} {c : Cache}
    (way : OnTheWay r t question e (c, .broken message)) :
    message = Cache.clockOverflow ∧ Cache.expiry? r.now r.cache.life = none := by
  generalize hx : (c, Cache.Progress.broken message) = x at way
  cases way with
  | asks =>
    unfold Cache.enter at hx
    split at hx
    · cases hx
    · split at hx <;> cases hx
  | resumes =>
    unfold Cache.resume at hx
    split at hx <;> cases hx
  | @introspected n since answer =>
    cases answer with
    | error f => cases hx
    | ok snapshot =>
      rw [Cache.fetched] at hx
      split at hx
      · rename_i ends
        cases hx
        exact ⟨rfl, ends⟩
      · cases hx
  | stores => cases hx

/-- A request crashes over a candidate that the guard cannot judge, or over the clock. -/
theorem broken_because (new : r.requests t = none)
    (broken : (r.after rules es).1.requests t = some (.broken message)) :
    (∃ candidate, .replied t (.ok candidate) ∈ told rules r es ∧
      Generator.isViolation candidate = false ∧
      Guard.inspect rules.dialect candidate = .error message) ∨
    message = Cache.clockOverflow ∧ Cache.expiry? (r.after rules es).1.now r.cache.life = none := by
  obtain ⟨past, e, later, c, notes, rest, rfl, move, told_eq, -⟩ := arrived new broken
  cases move with
  | overflow way =>
    obtain ⟨rfl, ends⟩ := way.overflow
    refine .inr ⟨rfl, ?_⟩
    obtain ⟨life, -⟩ := after_steady rules r past
    obtain ⟨-, later_le⟩ := after_steady rules ((r.after rules past).1.step rules e).1 later
    rw [life] at ends
    rw [after_split]
    exact Cache.expiry?_none_later (Nat.le_trans (step_spec rules _ e).now_le later_le) ends
  | @baffle _ _ candidate _ _ _ clean fault =>
    refine .inl ⟨candidate, ?_, clean, fault⟩
    simp [told_eq]

theorem Move.baffled {c : Cache} {candidate : String}
    (move : Move rules r t e c p notes) (replied : .replied t (.ok candidate) ∈ notes)
    (clean : Generator.isViolation candidate = false)
    (fault : Guard.inspect rules.dialect candidate = .error message) : p = .broken message := by
  cases move with
  | @stand _ _ _ s => cases s <;> simp [introspection] at replied
  | @alert _ _ other _ _ violation =>
    obtain rfl : candidate = other := by simpa using replied
    cases clean.symm.trans violation
  | @baffle _ _ other _ _ _ _ fault' =>
    obtain rfl : candidate = other := by simpa using replied
    cases fault.symm.trans fault'
    rfl
  | @refuse _ _ other _ _ _ _ verdict =>
    obtain rfl : candidate = other := by simpa using replied
    cases fault.symm.trans verdict
  | @run _ _ other _ _ _ _ verdict =>
    obtain rfl : candidate = other := by simpa using replied
    cases fault.symm.trans verdict
  | _ => simp at replied

/-- A request crashes if the guard cannot judge its candidate, unless the candidate is an alarm. -/
theorem broken_of_baffled {candidate : String} (replied : .replied t (.ok candidate) ∈ told rules r es)
    (clean : Generator.isViolation candidate = false)
    (fault : Guard.inspect rules.dialect candidate = .error message) :
    (r.after rules es).1.requests t = some (.broken message) := by
  induction es using List.reverseRecOn with
  | nil => cases replied
  | append_singleton es e ih =>
    rw [told_concat] at replied
    rw [after_concat_fst]
    obtain replied | replied := List.mem_append.mp replied
    · exact over_step (ih replied) rfl rules e
    · obtain ⟨c, p, notes, move, hstep⟩ | ⟨-, silent⟩ := moved_or_left rules (r.after rules es).1 t e
      · rw [hstep] at replied ⊢
        rw [move.baffled replied clean fault, put_requests_self]
      · exact absurd rfl (silent _ replied)

end Run

namespace Service

def Idle (s : Service) : Prop := s.run.Rests s.requests

theorem idle_start (life : Duration) : (start life).Idle := Run.rests_start life 0 0

/-- Where the only request of a scenario stands at the end. -/
theorem ends_single (rules : Rules) (c : Collaborators) {s : Service} (idle : s.Idle)
    (request : Request) :
    (Scenario.play rules c s.run s.requests [request]).ends =
      [(Scenario.play rules c s.run s.requests [request]).run.requests s.requests] := by
  have attended := Scenario.attended_steps rules c idle [request] (24 * ([request].length + 1))
  have texts : (Scenario.play rules c s.run s.requests [request]).texts = [request] := attended.texts_eq
  have first : (Scenario.play rules c s.run s.requests [request]).first = s.requests := attended.first_eq
  simp [Scenario.ends, texts, first]

/-- What is answered is where the request stands when all is over. -/
theorem handle_answer (rules : Rules) (c : Collaborators) {s : Service} (idle : s.Idle) (text : String) :
    (s.handle rules c text).2 = outcomeOf ((s.handle rules c text).1.run.requests s.requests) := by
  change outcomeOf ((Scenario.play rules c s.run s.requests [⟨text, none⟩]).ends.head?.getD none) = _
  rw [ends_single rules c idle ⟨text, none⟩]
  rfl

/-- Handling a request is a run of the pipeline, whose notes are added to those before. -/
theorem handle_told (rules : Rules) (c : Collaborators) (s : Service) (text : String) :
    ∃ es, (s.handle rules c text).1.run = (s.run.after rules es).1 ∧
      (s.handle rules c text).1.notes.drop s.notes.length = Run.told rules s.run es := by
  obtain ⟨-, es, run_eq, notes_eq⟩ := Scenario.play_isRun rules c s.run s.requests [⟨text, none⟩]
  refine ⟨es, run_eq, ?_⟩
  rw [Run.told, ← notes_eq]
  exact List.drop_left

/-- Requests of before stay where they stood. -/
theorem handle_others (rules : Rules) (c : Collaborators) {s : Service} (idle : s.Idle) (text : String)
    {t : TaskId} (other : t ≠ s.requests) :
    (s.handle rules c text).1.run.requests t = s.run.requests t := by
  have attended := Scenario.attended_steps rules c idle [⟨text, none⟩] (24 * (1 + 1))
  refine attended.outside t fun request named => ?_
  obtain ⟨i, at_i, given⟩ := Scenario.named_iff.mp named
  rw [attended.first_eq] at at_i
  rw [attended.texts_eq] at given
  have lt : i < [Request.mk text none].length := (List.getElem?_eq_some_iff.mp given).1
  obtain rfl : i = 0 := Nat.lt_one_iff.mp lt
  exact other at_i

/-- A request that is handled when nothing is under way ends in an outcome, or in a crash that the guard
or the clock is to blame for; and then nothing is under way again. -/
theorem handle_ends (rules : Rules) (c : Collaborators) {s : Service} (idle : s.Idle) (text : String) :
    let handled := s.handle rules c text
    handled.1.Idle ∧ handled.1.run.cache.life = s.run.cache.life ∧
      ((∃ o, handled.2 = .ok o) ∨ ∃ message, handled.2 = .error message ∧
        ((∃ t candidate, .replied t (.ok candidate) ∈ handled.1.notes.drop s.notes.length ∧
            Generator.isViolation candidate = false ∧
            Guard.inspect rules.dialect candidate = .error message) ∨
          message = Cache.clockOverflow ∧
            Cache.expiry? handled.1.run.now s.run.cache.life = none)) := by
  intro handled
  have answer : handled.2 = outcomeOf (handled.1.run.requests s.requests) := handle_answer rules c idle text
  obtain ⟨es, run_eq, dropped⟩ := handle_told rules c s text
  obtain ⟨idle', ended⟩ := Scenario.play_ends rules c idle [⟨text, none⟩]
  obtain ⟨p, stands, isOver, alive⟩ := ended 0 ⟨text, none⟩ rfl
  have stands : handled.1.run.requests s.requests = some p := stands
  rw [stands] at answer
  refine ⟨idle', ?_, ?_⟩
  · have steady := (Run.after_steady rules s.run es).1
    rw [← run_eq] at steady
    exact steady
  · cases p with
    | ended o => exact .inl ⟨o, answer⟩
    | dropped => exact absurd rfl (alive rfl)
    | broken message =>
      have new : s.run.requests s.requests = none := idle.fresh _ (Nat.le_refl _)
      have broken : (s.run.after rules es).1.requests s.requests = some (.broken message) :=
        run_eq ▸ stands
      refine .inr ⟨message, answer, ?_⟩
      obtain ⟨candidate, replied, clean, fault⟩ | ⟨overflow, ends⟩ := Run.broken_because new broken
      · exact .inl ⟨_, candidate, dropped ▸ replied, clean, fault⟩
      · rw [← run_eq] at ends
        exact .inr ⟨overflow, ends⟩
    | resolving | generating | executing => cases isOver

end Service
end QueryWarden.Pipeline
