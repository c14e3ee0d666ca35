import QueryWarden.Proofs.Pipeline.Attendance

/-! No deadlock. In every state that a pipeline can come to, whatever its collaborators do and whoever
gives up, the holder of the population lock can go on, at once or when its time is up. A scenario that is
played therefore ends all of its requests. -/
namespace QueryWarden.Pipeline
open Clock

namespace Scenario

variable {s s' : Scenario} {t u : TaskId} {request : Request} {now : Moment} {p : Phase}
  {opening : Scenario} {sched sched' : Schedule Scenario}

def opened (rules : Rules) (c : Collaborators) (r : Run) (first : TaskId) (requests : List Request) :
    Schedule Scenario :=
  ⟨⟨rules, c, r, [], r.now, first, requests⟩, r.now, (List.range requests.length).map (first + ·), []⟩

theorem named_iff : Named s t request ↔ ∃ i, t = s.first + i ∧ s.texts[i]? = some request := by
  constructor
  · rintro ⟨hle, given⟩
    exact ⟨t - s.first, (Nat.add_sub_cancel' hle).symm, given⟩
  · rintro ⟨i, rfl, given⟩
    exact ⟨Nat.le_add_right .., by rwa [Nat.add_sub_cancel_left]⟩

theorem attended_opened (rules : Rules) (c : Collaborators) {r : Run} {first : TaskId}
    (idle : r.Rests first) (requests : List Request) :
    Attended (opened rules c r first requests).state (opened rules c r first requests) := by
  refine ⟨rfl, rfl, rfl, idle.orderly, fun _ _ => rfl, ?_, ?_, ?_, nofun, ?_⟩
  · exact List.nodup_range.map (fun i j h => Nat.add_left_cancel h)
  · intro t request named
    obtain ⟨i, rfl, given⟩ := named_iff.mp named
    have lt : i < requests.length := (List.getElem?_eq_some_iff.mp given).1
    exact .inl (List.mem_map.mpr ⟨i, List.mem_range.mpr lt, rfl⟩)
  · intro t ready
    obtain ⟨i, hi, rfl⟩ := List.mem_map.mp ready
    have lt := List.mem_range.mp hi
    refine ⟨requests[i], named_iff.mpr ⟨i, rfl, List.getElem?_eq_getElem lt⟩, ?_⟩
    have new : r.requests (first + i) = none := idle.fresh _ (Nat.le_add_right ..)
    simp [opened, next?, new]
  · intro t request named _ dropped
    have new : r.requests t = none := idle.fresh t named.1
    cases new.symm.trans dropped

/-- How many turns the requests of a scenario have at most, taken together. -/
def turnsLeft (s : Scenario) : Nat :=
  (Finset.range s.texts.length).sum fun i => Phase.turnsLeft (s.run.requests (s.first + i))

def stepsLeft (s : Schedule Scenario) : Nat :=
  2 * s.state.turnsLeft + if s.ready = [] then 1 else 0

/-- A request that has come further has fewer turns left, if the others stay as they were. -/
theorem turnsLeft_lt (named : Named s t request) (texts_eq : s'.texts = s.texts) (first_eq : s'.first = s.first)
    (others : ∀ u, u ≠ t → s'.run.requests u = s.run.requests u)
    (fewer : Phase.turnsLeft (s'.run.requests t) < Phase.turnsLeft (s.run.requests t)) :
    s'.turnsLeft < s.turnsLeft := by
  obtain ⟨i, rfl, given⟩ := named_iff.mp named
  have lt : i < s.texts.length := (List.getElem?_eq_some_iff.mp given).1
  rw [Scenario.turnsLeft, Scenario.turnsLeft, texts_eq, first_eq]
  apply Finset.sum_lt_sum
  · intro j _
    by_cases hj : s.first + j = s.first + i
    · rw [hj]
      exact Nat.le_of_lt fewer
    · rw [others _ hj]
  · exact ⟨i, Finset.mem_range.mpr lt, fewer⟩

theorem Proceeded.turnsLeft {woken : List TaskId} (h : Proceeded t request now s s' woken)
    (named : Named s t request) (active : (s.next? now t request).isSome = true) :
    s'.turnsLeft < s.turnsLeft :=
  turnsLeft_lt named h.aside.texts_eq h.aside.first_eq h.aside.others (h.further active)

/-- Every step is one of those that were left. -/
theorem Attended.stepsLeft (h : Attended opening sched) (hs : sched.step Scenario.turn = some sched') :
    Scenario.stepsLeft sched' < Scenario.stepsLeft sched := by
  rw [Schedule.step] at hs
  split at hs
  · rename_i t rest ready
    cases hs
    obtain ⟨request, named, active⟩ := h.active t (by simp [ready])
    have fewer := (turn_proceeds h.orderly named sched.now).1.turnsLeft named active
    simp only [Scenario.stepsLeft, ready]
    split <;> omega
  · rename_i idle
    obtain ⟨m, next, rfl⟩ := Option.map_eq_some_iff.mp hs
    -- whoever set the first alarm is about to run
    obtain ⟨t, alarm⟩ := Schedule.nextAlarm?_mem next
    have rung : t ∈ (sched.ring m).ready := by
      simp only [Schedule.ring, Schedule.mem_wake, idle]
      exact .inr (List.mem_map.mpr ⟨(m, t), by simpa using alarm, rfl⟩)
    have same : (sched.ring m).state = sched.state := rfl
    simp [Scenario.stepsLeft, idle, List.ne_nil_of_mem rung, same]

/-- Where nothing can happen any more, every request is over. -/
theorem Attended.over (h : Attended opening sched) (idle : opening.run.Rests opening.first)
    (stuck : sched.step Scenario.turn = none) (named : Named sched.state t request) :
    ∃ p, sched.state.run.requests t = some p ∧ p.isOver = true := by
  have nobody : sched.ready = [] ∧ sched.alarms = [] := by
    rw [Schedule.step] at stuck
    split at stuck
    · cases stuck
    · rename_i ready
      refine ⟨ready, List.eq_nil_iff_forall_not_mem.mpr ?_⟩
      intro alarm ha
      obtain ⟨m, next⟩ := Schedule.nextAlarm?_isSome ha
      simp [next] at stuck
  by_contra unfinished
  push Not at unfinished
  obtain ⟨u, ready, -⟩ | alarms := h.goes_on idle named fun p stands =>
    Bool.eq_false_iff.mpr (unfinished p stands)
  · simp [nobody.1] at ready
  · exact alarms nobody.2

theorem attended_steps (rules : Rules) (c : Collaborators) {r : Run} {first : TaskId}
    (idle : r.Rests first) (requests : List Request) (n : Nat) :
    Attended (opened rules c r first requests).state
      ((opened rules c r first requests).steps turn n) :=
  Schedule.steps_induct (fun _ _ h hs => Attended.step h idle hs) n
    (attended_opened rules c idle requests)

theorem turnsLeft_opened (rules : Rules) (c : Collaborators) (r : Run) (first : TaskId)
    (requests : List Request) : (opened rules c r first requests).state.turnsLeft ≤ requests.length * 6 := by
  have bound := Finset.sum_le_card_nsmul (Finset.range requests.length)
    (fun i => Phase.turnsLeft (r.requests (first + i))) 6 (fun i _ => turnsLeft_le _)
  simpa [Scenario.turnsLeft, opened] using bound

/-- With the steps that it is played for, a scenario comes to where nothing can happen any more. -/
theorem steps_stuck (rules : Rules) (c : Collaborators) {r : Run} {first : TaskId} (idle : r.Rests first)
    (requests : List Request) :
    ((opened rules c r first requests).steps turn (24 * (requests.length + 1))).step turn = none := by
  have keeps : ∀ s s', Attended (opened rules c r first requests).state s → s.step turn = some s' →
      Attended (opened rules c r first requests).state s' := fun _ _ h hs => h.step idle hs
  have enough : stepsLeft (opened rules c r first requests) ≤ 24 * (requests.length + 1) := by
    have few := turnsLeft_opened rules c r first requests
    rw [stepsLeft]
    split <;> omega
  exact Schedule.steps_stuck keeps (fun _ _ h hs => h.stepsLeft hs) (attended_opened rules c idle requests)
    enough

/-- A scenario that is played to its end has ended all of its requests, and none that its caller waited
for is dropped. -/
theorem play_ends (rules : Rules) (c : Collaborators) {r : Run} {first : TaskId} (idle : r.Rests first)
    (requests : List Request) :
    let s := play rules c r first requests
    s.run.Rests (first + requests.length) ∧ ∀ i request, requests[i]? = some request →
      ∃ p, s.run.requests (first + i) = some p ∧ p.isOver = true ∧
        (request.patience = none → p ≠ .dropped) := by
  intro s
  have attended := attended_steps rules c idle requests (24 * (requests.length + 1))
  have stuck := steps_stuck rules c idle requests
  generalize hlast : (opened rules c r first requests).steps turn (24 * (requests.length + 1)) = last
    at attended stuck
  have requests_eq : s.run.requests = last.state.run.requests := hlast ▸ rfl
  have texts : last.state.texts = requests := attended.texts_eq
  have first_eq : last.state.first = first := attended.first_eq
  have ended : ∀ t request, Named last.state t request →
      ∃ p, s.run.requests t = some p ∧ p.isOver = true :=
    fun t request named => requests_eq ▸ attended.over idle stuck named
  have stranger : ∀ t, (∀ request, ¬ Named last.state t request) →
      s.run.requests t = r.requests t :=
    fun t alien => requests_eq ▸ attended.outside t alien
  refine ⟨⟨?_, ?_, ?_⟩, ?_⟩
  · intro t p stands
    by_cases known : ∃ request, Named last.state t request
    · obtain ⟨request, named⟩ := known
      obtain ⟨p', stands', isOver⟩ := ended t request named
      rw [stands] at stands'
      exact Option.some.inj stands' ▸ isOver
    · rw [stranger t fun request named => known ⟨request, named⟩] at stands
      exact idle.isOver t p stands
  · intro t beyond
    rw [stranger t]
    · exact idle.fresh t (Nat.le_trans (Nat.le_add_right ..) beyond)
    · intro request named
      obtain ⟨i, rfl, given⟩ := named_iff.mp named
      rw [texts] at given
      have lt : i < requests.length := (List.getElem?_eq_some_iff.mp given).1
      rw [first_eq] at beyond
      exact absurd lt (Nat.not_lt.mpr (Nat.le_of_add_le_add_left beyond))
  · subst hlast
    exact attended.orderly
  · intro i request given
    have named : Named last.state (first + i) request :=
      named_iff.mpr ⟨i, by rw [first_eq], by rw [texts, given]⟩
    obtain ⟨p, stands, isOver⟩ := ended _ request named
    refine ⟨p, stands, isOver, ?_⟩
    rintro forever rfl
    exact attended.patient _ request named forever (requests_eq ▸ stands)

/-- Nothing that can happen to a pipeline, and no schedule on which requests with collaborators of any
kind and callers of any patience are played, comes to a deadlock. Whoever holds the population lock is
unfinished and before the cache. It can go on at once, or it waits for the schema, has an alarm for the
end of its time, and can then go on without. So while a request is unfinished, some request can go on: one
that is about to run, or one for which an alarm is set. -/
theorem never_deadlocked (rules : Rules) :
    (∀ life now es, let r := ((Run.start life now).after rules es).1
      (∀ t, r.cache.holder = some t → ∃ question s, r.requests t = some (.resolving question s) ∧
        (Run.Runnable rules r t ∨ ∃ n since, s = .fetching n since ∧
          ∀ time, since + rules.limits.execution ≤ r.now + time →
            Run.Runnable rules (r.step rules (.pass time)).1 t)) ∧
      ∀ t p, r.requests t = some p → p.isOver = false →
        ∃ u time, Run.Runnable rules (r.step rules (.pass time)).1 u) ∧
    ∀ c r first requests, r.Rests first → ∀ n,
      let s := (opened rules c r first requests).steps turn n
      (∀ t, s.state.run.cache.holder = some t →
        ∃ question stand, s.state.run.requests t = some (.resolving question stand) ∧
          (t ∈ s.ready ∨ ∃ n since, stand = .fetching n since ∧
            (since + rules.limits.execution, t) ∈ s.alarms)) ∧
      ∀ t request, Named s.state t request →
        (∀ p, s.state.run.requests t = some p → p.isOver = false) →
        (∃ u ∈ s.ready, ∃ request, Named s.state u request ∧
          (s.state.next? s.now u request).isSome = true) ∨ s.alarms ≠ [] := by
  refine ⟨?_, ?_⟩
  · intro life now es r
    have ho : Cache.Orderly r.cache r.stand := Run.orderly_after rules (Cache.orderly_empty life) es
    exact ⟨fun t holds => Run.runnable_of_holder rules ho holds,
      fun t p stands alive => Run.runnable_of_unfinished rules ho stands alive⟩
  · intro c r first requests idle n s
    have attended := attended_steps rules c idle requests n
    exact ⟨fun t holds => attended.holder idle holds,
      fun t request named unfinished => attended.goes_on idle named unfinished⟩

def silent : Collaborators where
  introspect _ := ⟨none, .ok ⟨[], ⟨0, 0, 0⟩⟩⟩
  generate _ _ := ⟨none, .ok ""⟩
  execute _ := ⟨none, .ok ⟨[], []⟩⟩

def unheard : Schedule Scenario :=
  (opened ⟨.sqlite, usualLimits⟩ silent (.start 10 0) 0 [⟨"One?", none⟩, ⟨"Two?", some 3⟩]).steps turn 2

theorem unheard_holder_has_alarm :
    unheard.state.run.cache.holder = some 0 ∧ (unheard.ready = [] ∧ ∃ question stand,
      unheard.state.run.requests 0 = some (.resolving question stand) ∧
        ∃ n since, stand = .fetching n since ∧
          (since + usualLimits.execution, 0) ∈ unheard.alarms) ∧ unheard.alarms ≠ [] := by
  have holds : unheard.state.run.cache.holder = some 0 := by decide +kernel
  have idle : unheard.ready = [] := by decide +kernel
  have nobody : ∀ u, u ∉ unheard.ready := by simp [idle]
  have live := (never_deadlocked ⟨.sqlite, usualLimits⟩).2 silent _ 0
    [⟨"One?", none⟩, ⟨"Two?", some 3⟩] (Run.rests_start 10 0 0) 2
  obtain ⟨question, stand, stands, ready | alarm⟩ := live.1 0 holds
  · exact absurd ready (nobody _)
  refine ⟨holds, ⟨idle, question, stand, stands, alarm⟩, ?_⟩
  have unfinished : ∀ p, unheard.state.run.requests 0 = some p → p.isOver = false := by
    intro p stands'
    cases stands.symm.trans stands'
    rfl
  obtain ⟨u, ready, -⟩ | alarms := live.2 0 ⟨"One?", none⟩ ⟨Nat.le_refl 0, rfl⟩ unfinished
  · exact absurd ready (nobody _)
  · exact alarms

end Scenario
end QueryWarden.Pipeline
