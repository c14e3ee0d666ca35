import QueryWarden.Cache.Scenario
import QueryWarden.Pipeline.Scenario

/-! What the steps of a schedule keep, and which tasks they leave woken. A scenario that is played is a run:
whatever the schedule decides, the run and the notes that come of it are those of some events, so that what
holds of all runs holds of it. -/
namespace QueryWarden

namespace Clock.Schedule

variable {σ : Type} {run : σ → Moment → TaskId → Turn σ}

/-- What every step keeps holds at the end. -/
theorem steps_induct {P : Schedule σ → Prop} (keeps : ∀ s s', P s → s.step run = some s' → P s')
    (bound : Nat) {s : Schedule σ} (h : P s) : P (s.steps run bound) := by
  induction bound generalizing s with
  | zero => exact h
  | succ bound ih =>
    rw [steps]
    cases hs : s.step run with
    | none => exact h
    | some next => exact ih (keeps s next h hs)

/-- Steps that each take something from a measure come to their end. -/
theorem steps_stuck {P : Schedule σ → Prop} (keeps : ∀ s s', P s → s.step run = some s' → P s')
    {measure : Schedule σ → Nat}
    (falls : ∀ s s', P s → s.step run = some s' → measure s' < measure s) {bound : Nat}
    {s : Schedule σ} (h : P s) (enough : measure s ≤ bound) :
    (s.steps run bound).step run = none := by
  induction bound generalizing s with
  | zero =>
    cases hs : s.step run with
    | none => exact hs
    | some next =>
      have := falls s next h hs
      omega
  | succ bound ih =>
    rw [steps]
    cases hs : s.step run with
    | none => exact hs
    | some next =>
      have := falls s next h hs
      exact ih (keeps s next h hs) (by omega)

/-- What every turn keeps holds at the end. -/
theorem steps_keeps {P : σ → Prop} (keeps : ∀ s now t, P s → P (run s now t).state) (bound : Nat)
    {s : Schedule σ} (h : P s.state) : P (s.steps run bound).state := by
  refine steps_induct (P := fun s => P s.state) ?_ bound h
  intro s next h hs
  rw [step] at hs
  split at hs
  · cases hs
    exact keeps _ _ _ h
  · obtain ⟨m, -, rfl⟩ := Option.map_eq_some_iff.mp hs
    exact h

structure Related {τ : Type} (R : σ → τ → Prop) (s : Schedule σ) (s' : Schedule τ) : Prop where
  state : R s.state s'.state
  now : s.now = s'.now
  ready : s.ready = s'.ready
  alarms : s.alarms = s'.alarms

/-- Turns that keep states related, wake the same tasks and set the same alarms keep schedules related. -/
theorem steps_related {τ : Type} {run' : τ → Moment → TaskId → Turn τ} {R : σ → τ → Prop}
    (turns : ∀ s s' now t, R s s' → R (run s now t).state (run' s' now t).state ∧
      (run s now t).wakes = (run' s' now t).wakes ∧ (run s now t).alarms = (run' s' now t).alarms)
    (bound : Nat) {s : Schedule σ} {s' : Schedule τ} (h : Related R s s') :
    Related R (s.steps run bound) (s'.steps run' bound) := by
  induction bound generalizing s s' with
  | zero => exact h
  | succ bound ih =>
    obtain ⟨state, now, ready, alarms⟩ := s
    obtain ⟨state', now', ready', alarms'⟩ := s'
    obtain ⟨hstate, rfl, rfl, rfl⟩ := h
    cases ready with
    | cons task rest =>
      obtain ⟨hs, hw, ha⟩ := turns state state' now task hstate
      exact ih ⟨hs, rfl, by rw [hw], by rw [ha]⟩
    | nil =>
      cases hn : nextAlarm? alarms with
      | none =>
        simp only [steps, step, hn, Option.map_none]
        exact ⟨hstate, rfl, rfl, rfl⟩
      | some m =>
        simp only [steps, step, hn, Option.map_some]
        exact ih ⟨hstate, rfl, rfl, rfl⟩

theorem mem_wake {t : TaskId} {ready woken : List TaskId} :
    t ∈ wake ready woken ↔ t ∈ ready ∨ t ∈ woken := by
  induction woken generalizing ready with
  | nil => simp [wake]
  | cons u woken ih =>
    rw [wake, ih, List.mem_cons]
    by_cases hu : u ∈ ready
    · rw [if_pos (by simpa using hu)]
      constructor
      · rintro (hr | hw)
        · exact .inl hr
        · exact .inr (.inr hw)
      · rintro (hr | rfl | hw)
        · exact .inl hr
        · exact .inl hu
        · exact .inr hw
    · rw [if_neg (by simpa using hu), List.mem_append, List.mem_singleton, or_assoc]

theorem nodup_wake {ready : List TaskId} (h : ready.Nodup) (woken : List TaskId) :
    (wake ready woken).Nodup := by
  induction woken generalizing ready with
  | nil => exact h
  | cons u woken ih =>
    rw [wake]
    apply ih
    split
    · exact h
    · rename_i new
      have apart : u ∉ ready := by simpa using new
      refine List.nodup_append.mpr ⟨h, List.pairwise_singleton _ u, ?_⟩
      rintro v hv w hw rfl
      exact apart (List.mem_singleton.mp hw ▸ hv)

theorem mem_rearm_of_ne {alarm : Moment × TaskId} {task : TaskId} {alarms : List (Moment × TaskId)}
    (h : alarm ∈ alarms) (hne : alarm.2 ≠ task) (wanted : List Moment) :
    alarm ∈ rearm task wanted alarms := by
  simp [rearm, h, hne]

theorem mem_rearm_of_wanted {m : Moment} {wanted : List Moment} (h : m ∈ wanted) (task : TaskId)
    (alarms : List (Moment × TaskId)) : (m, task) ∈ rearm task wanted alarms := by
  by_cases hk : (m, task) ∈ alarms <;> simp [rearm, h, hk]

theorem of_mem_rearm {m : Moment} {t task : TaskId} {wanted : List Moment}
    {alarms : List (Moment × TaskId)} (h : (m, t) ∈ rearm task wanted alarms) :
    t = task ∧ m ∈ wanted ∨ t ≠ task ∧ (m, t) ∈ alarms := by
  by_cases ht : t = task
  · subst ht
    refine .inl ⟨rfl, ?_⟩
    simp only [rearm, List.mem_append, List.mem_filter, List.mem_map] at h
    obtain ⟨-, hm⟩ | ⟨m', ⟨hm, -⟩, he⟩ := h
    · simpa using hm
    · cases he
      exact hm
  · refine .inr ⟨ht, ?_⟩
    simp only [rearm, List.mem_append, List.mem_filter, List.mem_map] at h
    obtain ⟨ha, -⟩ | ⟨m', -, he⟩ := h
    · exact ha
    · exact absurd (congrArg Prod.snd he).symm ht

theorem nextAlarm?_mem {m : Moment} {alarms : List (Moment × TaskId)} (h : nextAlarm? alarms = some m) :
    ∃ t, (m, t) ∈ alarms := by
  induction alarms generalizing m with
  | nil => cases h
  | cons first rest ih =>
    rw [nextAlarm?] at h
    cases hn : nextAlarm? rest with
    | none =>
      simp only [hn, Option.some.injEq] at h
      exact ⟨first.2, by simp [← h]⟩
    | some n =>
      simp only [hn, Option.some.injEq] at h
      obtain hle | hle := Nat.le_total first.1 n
      · exact ⟨first.2, by simp [← h, Nat.min_eq_left hle]⟩
      · obtain ⟨t, ht⟩ := ih hn
        exact ⟨t, by simp [← h, Nat.min_eq_right hle, ht]⟩

theorem nextAlarm?_isSome {alarm : Moment × TaskId} {alarms : List (Moment × TaskId)}
    (h : alarm ∈ alarms) : ∃ m, nextAlarm? alarms = some m := by
  cases alarms with
  | nil => cases h
  | cons first rest => cases hn : nextAlarm? rest <;> simp [nextAlarm?, hn]

theorem nextAlarm?_le {m : Moment} {alarms : List (Moment × TaskId)} (h : nextAlarm? alarms = some m) :
    ∀ alarm ∈ alarms, m ≤ alarm.1 := by
  induction alarms generalizing m with
  | nil => cases h
  | cons first rest ih =>
    intro alarm ha
    rw [nextAlarm?] at h
    cases hn : nextAlarm? rest with
    | none =>
      cases rest with
      | nil =>
        rw [List.mem_singleton.mp ha]
        simp only [hn, Option.some.injEq] at h
        exact Nat.le_of_eq h.symm
      | cons second rest => cases hs : nextAlarm? rest <;> simp [nextAlarm?, hs] at hn
    | some n =>
      simp only [hn, Option.some.injEq] at h
      obtain rfl | ha := List.mem_cons.mp ha
      · exact h ▸ Nat.min_le_left ..
      · exact Nat.le_trans (h ▸ Nat.min_le_right ..) (ih hn alarm ha)

end Clock.Schedule

open Clock

namespace Cache

theorem Run.after_concat (r : Run) (es : List Event) (e : Event) :
    r.after (es ++ [e]) = (((r.after es).1.step e).1,
      (r.after es).2 ++ ((r.after es).1.step e).2.map ((r.after es).1.now, ·)) := by
  induction es generalizing r with
  | nil => simp [after]
  | cons e es ih => simp [after, ih, List.append_assoc]

namespace Scenario

def IsRun (r : Run) (s : Scenario) : Prop :=
  ∃ es, s.run = (r.after es).1 ∧ s.notes.map (·.2) = (r.after es).2.map (·.2)

variable {r : Run} {s : Scenario}

theorem IsRun.happen (h : IsRun r s) (now : Moment) (e : Event) : IsRun r (s.happen now e) := by
  obtain ⟨es, hrun, hnotes⟩ := h
  refine ⟨es ++ [e], ?_, ?_⟩
  · rw [Run.after_concat, ← hrun]
    rfl
  · rw [Run.after_concat, ← hrun]
    simp [Scenario.happen, hnotes, Function.comp_def]

theorem IsRun.proceed (task : TaskId) (script : Script) (now : Moment) (bound : Nat)
    (woken : List TaskId) (h : IsRun r s) : IsRun r (proceed task script now bound s woken).1 := by
  induction bound generalizing s woken with
  | zero => exact h
  | succ bound ih =>
    rw [Scenario.proceed]
    split
    · exact h
    · exact ih _ (h.happen now _)

theorem IsRun.turn (h : IsRun r s) (now : Moment) (task : TaskId) :
    IsRun r (s.turn now task).state := by
  have hpass := h.happen now (.pass (now - s.run.now))
  simp only [Scenario.turn]
  split
  · exact hpass
  · exact hpass.proceed task _ now 8 []

/-- A scenario that is played is a run of the cache. -/
theorem play_isRun (r : Run) (first : TaskId) (scripts : List Script) :
    IsRun r (play r first scripts) :=
  (Schedule.steps_keeps (P := IsRun r) (fun _ now t h => h.turn now t) _ ⟨[], rfl, rfl⟩).happen _ _

end Scenario
end Cache

namespace Pipeline

theorem Run.after_concat (rules : Rules) (r : Run) (es : List Event) (e : Event) :
    r.after rules (es ++ [e]) = (((r.after rules es).1.step rules e).1,
      (r.after rules es).2 ++
        ((r.after rules es).1.step rules e).2.map ((r.after rules es).1.now, ·)) := by
  induction es generalizing r with
  | nil => simp [after]
  | cons e es ih => simp [after, ih, List.append_assoc]

namespace Scenario

def IsRun (rules : Rules) (r : Run) (s : Scenario) : Prop :=
  s.rules = rules ∧
    ∃ es, s.run = (r.after rules es).1 ∧ s.notes = (r.after rules es).2.map (·.2)

variable {rules : Rules} {r : Run} {s : Scenario}

theorem IsRun.happen (h : IsRun rules r s) (e : Event) : IsRun rules r (s.happen e) := by
  obtain ⟨rfl, es, hrun, hnotes⟩ := h
  refine ⟨rfl, es ++ [e], ?_, ?_⟩
  · rw [Run.after_concat, ← hrun]
    rfl
  · rw [Run.after_concat, ← hrun]
    simp [Scenario.happen, hnotes, Function.comp_def]

theorem IsRun.proceed (task : TaskId) (request : Request) (now : Moment) (bound : Nat)
    (woken : List TaskId) (h : IsRun rules r s) :
    IsRun rules r (proceed task request now bound s woken).1 := by
  induction bound generalizing s woken with
  | zero => exact h
  | succ bound ih =>
    rw [Scenario.proceed]
    split
    · exact h
    · exact ih _ (h.happen _)

theorem IsRun.turn (h : IsRun rules r s) (now : Moment) (task : TaskId) :
    IsRun rules r (s.turn now task).state := by
  have hpass := h.happen (.pass (now - s.run.now))
  simp only [Scenario.turn]
  split
  · exact hpass
  · exact hpass.proceed task _ now 12 []

/-- A scenario that is played is a run of the pipeline. -/
theorem play_isRun (rules : Rules) (c : Collaborators) (r : Run) (first : TaskId)
    (requests : List Request) : IsRun rules r (play rules c r first requests) :=
  (Schedule.steps_keeps (P := IsRun rules r) (fun _ now t h => h.turn now t) _
    ⟨rfl, [], rfl, rfl⟩).happen _

end Scenario
end Pipeline
end QueryWarden
