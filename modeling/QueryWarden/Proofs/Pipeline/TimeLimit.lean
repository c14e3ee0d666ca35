import QueryWarden.Proofs.Pipeline.InService

/-! How long requests take at most. Each of their turns may be waited for as long as a collaborator may take, and
no longer, so that the clock stands still after so many limits whatever the collaborators do, if no caller gives
up. -/
namespace QueryWarden.Pipeline
open Clock

def Limits.longest (l : Limits) : Duration := max l.execution l.generation

/-- Waiting begins when a request comes to it. -/
theorem Run.Move.limited {rules : Rules} {r : Run} {t : TaskId} {e : Event} {p : Phase} {notes : List Note}
    {limit : Moment} {d : Cache} (move : Move rules r t e d p notes) (h : p.deadline? rules = some limit) :
    limit = r.now + rules.limits.execution ∨ limit = r.now + rules.limits.generation := by
  cases move with
  | @stand question _ _ s way =>
    cases s with
    | waiting | storing => cases h
    | fetching n since =>
      have now : since = r.now := by
        generalize hx : (d, Cache.Progress.pending (.fetching n since)) = x at way
        cases way with
        | asks =>
          unfold Cache.enter at hx
          split at hx
          · cases hx
          · split at hx <;> cases hx
            rfl
        | resumes =>
          unfold Cache.resume at hx
          split at hx <;> cases hx
          rfl
        | introspected =>
          unfold Cache.fetched at hx
          split at hx
          · cases hx
          · split at hx <;> cases hx
        | stores => cases hx
      subst now
      exact .inl (Option.some.inj h).symm
  | ask => exact .inr (Option.some.inj h).symm
  | run => exact .inl (Option.some.inj h).symm
  | _ => cases h

namespace Scenario

variable {s s' : Scenario} {t : TaskId} {request : Request} {e : Event} {now : Moment} {span final : Nat}
  {opening : Scenario} {sched sched' : Schedule Scenario}

/-- When all turns that are left are over at the latest, if they begin at a moment and each takes no longer than a
span. -/
def doneBy (s : Scenario) (span m : Nat) : Nat := m + span * s.turnsLeft

theorem doneBy_mono {m n : Nat} (h : m ≤ n) : s.doneBy span m ≤ s.doneBy span n := Nat.add_le_add_right h _

theorem le_doneBy (m : Nat) : m ≤ s.doneBy span m := Nat.le_add_right ..

theorem doneBy_later (fewer : s'.turnsLeft ≤ s.turnsLeft) (m : Nat) : s'.doneBy span m ≤ s.doneBy span m :=
  Nat.add_le_add_left (Nat.mul_le_mul_left span fewer) m

/-- A turn that is over makes room for a span. -/
theorem doneBy_turn (fewer : s'.turnsLeft < s.turnsLeft) {taken : Nat} (within : taken ≤ span) (m : Nat) :
    s'.doneBy span (m + taken) ≤ s.doneBy span m := by
  have room : span * (s'.turnsLeft + 1) ≤ span * s.turnsLeft := Nat.mul_le_mul_left span fewer
  rw [Nat.mul_succ] at room
  unfold doneBy
  omega

theorem doneBy_pass {m now : Nat} (h : s.doneBy span m ≤ final) (ahead : s.doneBy span now ≤ final) :
    s.doneBy span (m + (now - m)) ≤ final := by
  unfold doneBy at *
  omega

/-- The turns that are left are over by the last moment, counted from now or from the limit of a request that
waits. -/
structure Fits (span final : Nat) (s : Scenario) : Prop where
  longest : s.rules.limits.longest ≤ span
  now_le : s.doneBy span s.run.now ≤ final
  limit_le : ∀ t p limit, s.run.requests t = some p → p.deadline? s.rules = some limit →
    s.doneBy span limit ≤ final

theorem Fits.happen (h : Fits span final s) (named : Named s t request)
    (moves : Run.Moves s.rules s.run t e (s.run.step s.rules e)) : Fits span final (s.happen e) := by
  obtain ⟨c, p, notes, move, run⟩ := happen_run moves
  have others : ∀ u, u ≠ t → (s.happen e).run.requests u = s.run.requests u := by
    intro u hu
    rw [run, Run.put_requests_ne _ _ hu]
  have moved : (s.happen e).run.requests t = some p := by rw [run, Run.put_requests_self]
  have now_eq : (s.happen e).run.now = s.run.now := by rw [run]; rfl
  have fewer : (s.happen e).turnsLeft < s.turnsLeft :=
    turnsLeft_lt named rfl rfl others (by rw [moved]; exact move.turnsLeft)
  have later : ∀ m, (s.happen e).doneBy span m ≤ s.doneBy span m := doneBy_later (Nat.le_of_lt fewer)
  refine ⟨h.longest, by rw [now_eq]; exact Nat.le_trans (later _) h.now_le, ?_⟩
  intro u q limit stands deadline
  by_cases hu : u = t
  · -- the request that moved has used up a turn, and that pays for the limit it sets now
    subst hu
    rw [moved] at stands
    cases stands
    have bounds : s.rules.limits.execution ≤ span ∧ s.rules.limits.generation ≤ span := Nat.max_le.mp h.longest
    obtain rfl | rfl := move.limited deadline
    · exact Nat.le_trans (doneBy_turn fewer bounds.1 _) h.now_le
    · exact Nat.le_trans (doneBy_turn fewer bounds.2 _) h.now_le
  · rw [others u hu] at stands
    exact Nat.le_trans (later _) (h.limit_le u q limit stands deadline)

theorem Fits.proceed (h : Fits span final s) (named : Named s t request) (ready : now ≤ s.run.now) (bound : Nat)
    (woken : List TaskId) : Fits span final (Scenario.proceed t request now bound s woken).1 := by
  induction bound generalizing s woken with
  | zero => exact h
  | succ bound ih =>
    rw [Scenario.proceed]
    split
    · exact h
    · rename_i e next
      have moves := (next_moves next ready).1
      have later : now ≤ (s.happen e).run.now := Nat.le_trans ready (Run.step_spec s.rules s.run e).now_le
      exact ih (h.happen named moves) named later _

theorem Fits.turn (h : Fits span final s) (named : Named s t request) (now_le : s.doneBy span now ≤ final) :
    Fits span final (s.turn now t).state := by
  generalize hpass : s.happen (.pass (now - s.run.now)) = later
  have passed : Fits span final later := by
    subst hpass
    exact ⟨h.longest, doneBy_pass h.now_le now_le, h.limit_le⟩
  have named' : Named later t request := hpass ▸ named
  have ready : now ≤ later.run.now := hpass ▸ Nat.sub_le_iff_le_add'.mp (Nat.le_refl _)
  simp only [Scenario.turn, hpass, named'.2]
  exact passed.proceed named' ready 12 []

/-- Whoever has set an alarm waits for an answer, if callers do not give up: there is an alarm for its limit. -/
theorem Attended.limit_of_alarm (h : Attended opening sched) (idle : sched.ready = [])
    (patient : ∀ request ∈ opening.texts, request.patience = none) {m : Moment}
    (alarm : (m, t) ∈ sched.alarms) :
    ∃ p limit, sched.state.run.requests t = some p ∧ p.deadline? sched.state.rules = some limit ∧
      (limit, t) ∈ sched.alarms := by
  obtain ⟨request, named, wanted⟩ := h.current m t alarm
  have forever : sched.state.cancelled? request = none := by
    rw [cancelled?, patient request (h.texts_eq ▸ List.mem_of_getElem? named.2)]
    rfl
  obtain ready | ⟨p, stands, isOver | ⟨question, rfl, -⟩ | ⟨limit, deadline, limited⟩⟩ := h.settled t request named
  · simp [idle] at ready
  · cases p with
    | ended | dropped | broken => simp [Scenario.alarms, awaited?, stands] at wanted
    | resolving | generating | executing => cases isOver
  · simp [Scenario.alarms, stands, forever] at wanted
  · exact ⟨p, limit, stands, deadline, limited⟩

structure InTime (span final : Nat) (opening : Scenario) (sched : Schedule Scenario) : Prop where
  attended : Attended opening sched
  fits : Fits span final sched.state
  now_le : sched.state.doneBy span sched.now ≤ final

theorem InTime.step (h : InTime span final opening sched) (rests : opening.run.Rests opening.first)
    (patient : ∀ request ∈ opening.texts, request.patience = none)
    (hs : sched.step Scenario.turn = some sched') : InTime span final opening sched' := by
  have attended := h.attended.step rests hs
  rw [Schedule.step] at hs
  split at hs
  · rename_i t rest ready
    cases hs
    obtain ⟨request, named, active⟩ := h.attended.active t (by simp [ready])
    have fewer := (turn_proceeds h.attended.orderly named sched.now).1.turnsLeft named active
    exact ⟨attended, h.fits.turn named h.now_le, Nat.le_trans (doneBy_later (Nat.le_of_lt fewer) _) h.now_le⟩
  · -- the clock moves to the first alarm, which comes no later than the limit of some request
    rename_i idle
    obtain ⟨m, next, rfl⟩ := Option.map_eq_some_iff.mp hs
    obtain ⟨t, alarm⟩ := Schedule.nextAlarm?_mem next
    obtain ⟨p, limit, stands, deadline, limited⟩ := h.attended.limit_of_alarm idle patient alarm
    have first : m ≤ limit := Schedule.nextAlarm?_le next _ limited
    exact ⟨attended, h.fits, Nat.le_trans (doneBy_mono first) (h.fits.limit_le t p limit stands deadline)⟩

/-- A scenario whose callers wait for ever takes no longer than the longest limit for each turn of a request. -/
theorem play_now_le (rules : Rules) (c : Collaborators) {r : Run} {first : TaskId} (rests : r.Rests first)
    {requests : List Request} (patient : ∀ request ∈ requests, request.patience = none) :
    (play rules c r first requests).run.now ≤ r.now + rules.limits.longest * (requests.length * 6) := by
  have few : (opened rules c r first requests).state.doneBy rules.limits.longest r.now ≤
      r.now + rules.limits.longest * (requests.length * 6) :=
    Nat.add_le_add_left (Nat.mul_le_mul_left _ (turnsLeft_opened rules c r first requests)) r.now
  have nobody : ∀ t p limit, r.requests t = some p → p.deadline? rules ≠ some limit := by
    intro t p limit stands deadline
    have isOver := rests.isOver t p stands
    cases p with
    | ended | dropped | broken => cases deadline
    | resolving | generating | executing => cases isOver
  have opening : InTime rules.limits.longest (r.now + rules.limits.longest * (requests.length * 6))
      (opened rules c r first requests).state (opened rules c r first requests) :=
    ⟨attended_opened rules c rests requests,
      ⟨Nat.le_refl _, few, fun t p limit stands deadline => absurd deadline (nobody t p limit stands)⟩, few⟩
  have last := Schedule.steps_induct (fun _ _ h hs => InTime.step h rests patient hs)
    (24 * (requests.length + 1)) opening
  exact Nat.le_trans (le_doneBy _) (doneBy_pass last.fits.now_le last.now_le)

end Scenario

/-- One request takes no longer than six limits. -/
theorem Service.handle_now_le (rules : Rules) (c : Collaborators) {s : Service} (idle : s.Idle) (text : String) :
    (s.handle rules c text).1.run.now ≤ s.run.now + 6 * rules.limits.longest := by
  have patient : ∀ request ∈ [Request.mk text none], request.patience = none := by
    intro request among
    rw [List.mem_singleton.mp among]
  have bound := Scenario.play_now_le rules c idle patient
  rw [List.length_singleton, Nat.one_mul, Nat.mul_comm] at bound
  exact bound

end QueryWarden.Pipeline
