import QueryWarden.Proofs.Pipeline.Sharing
import QueryWarden.Proofs.Scenarios

/-! No deadlock: whoever holds the population lock can go on without anyone's answer, at once or when its
time is up, and so some request can as long as one is unfinished. -/
namespace QueryWarden

open Clock

namespace Cache

/-- Whoever holds the lock keeps it while others come and go. -/
theorem leave_holder_of_ne {c : Cache} {t u : TaskId} (h : c.holder = some u) (hu : u ≠ t) :
    (c.leave t).holder = some u := by
  simp [leave, h, hu]

end Cache

namespace Pipeline

namespace Run

variable {rules : Rules} {r : Run} {t u : TaskId} {e : Event} {p : Phase} {notes : List Note}

theorem OnTheWay.keeps_holder {question : String} {x : Cache × Cache.Progress}
    (way : OnTheWay r t question e x) (ho : Cache.Orderly r.cache r.stand)
    (holds : r.cache.holder = some u) (other : u ≠ t) : x.1.holder = some u := by
  have mine : r.cache.holder ≠ some t := by
    rw [holds]
    exact fun he => other (Option.some.inj he)
  cases way with
  | asks =>
    unfold Cache.enter
    split
    · exact holds
    · simp [holds]
  | resumes _ holds' => exact absurd holds' mine
  | introspected fetches => exact absurd (holds_of_inside ho fetches nofun) mine
  | stores stores => exact absurd (holds_of_inside ho stores nofun) mine

theorem Move.keeps_holder {d : Cache} (move : Move rules r t e d p notes)
    (ho : Cache.Orderly r.cache r.stand) (holds : r.cache.holder = some u) (other : u ≠ t) :
    d.holder = some u := by
  cases move with
  | stand way | ask way | unresolved way | overflow way => exact way.keeps_holder ho holds other
  | lateSchema fetches =>
    have holds' := holds_of_inside ho fetches nofun
    rw [holds] at holds'
    exact absurd (Option.some.inj holds') other
  | leave => exact Cache.leave_holder_of_ne holds other
  | _ => exact holds

/-- Only a caller who gives up drops a request. -/
theorem Move.dropped {d : Cache} (move : Move rules r t e d .dropped notes) : e = .cancel t := by
  cases move <;> rfl

/-- A request goes on by itself: it looks at the cache again, stores what it has, or stops waiting. -/
def Runnable (rules : Rules) (r : Run) (t : TaskId) : Prop :=
  ∃ e, (e = .resume t ∨ e = .store t ∨ e = .expire t) ∧ Moves rules r t e (r.step rules e)

/-- When the limit of an answer is over, its request goes on without. -/
theorem runnable_at_deadline {limit : Moment} (stands : r.requests t = some p)
    (deadline : p.deadline? rules = some limit) {time : Duration} (elapsed : limit ≤ r.now + time) :
    Runnable rules (r.step rules (.pass time)).1 t :=
  ⟨.expire t, .inr (.inr rfl), moves_expire (r := { r with now := r.now + time }) stands deadline elapsed⟩

/-- Whoever holds the lock can go on at once, or its introspection is limited. -/
theorem runnable_of_holder (rules : Rules) (ho : Cache.Orderly r.cache r.stand)
    (holds : r.cache.holder = some t) :
    ∃ question s, r.requests t = some (.resolving question s) ∧ (Runnable rules r t ∨
      ∃ n since, s = .fetching n since ∧ ∀ time, since + rules.limits.execution ≤ r.now + time →
        Runnable rules (r.step rules (.pass time)).1 t) := by
  obtain ⟨s, place⟩ := ho.holder t holds
  obtain ⟨question, stands⟩ := stand_eq_some.mp place
  refine ⟨question, s, stands, ?_⟩
  cases s with
  | waiting => exact .inl ⟨.resume t, .inl rfl, moves_resume rules stands holds⟩
  | storing entry => exact .inl ⟨.store t, .inr (.inl rfl), moves_store rules stands⟩
  | fetching n since =>
    exact .inr ⟨n, since, rfl, fun time elapsed => runnable_at_deadline stands rfl elapsed⟩

/-- Somebody holds the lock if somebody waits for it. -/
theorem held_of_waiting (ho : Cache.Orderly r.cache r.stand) {question : String}
    (waits : r.requests t = some (.resolving question .waiting)) : ∃ u, r.cache.holder = some u := by
  cases holder : r.cache.holder with
  | some u => exact ⟨u, rfl⟩
  | none =>
    obtain holds | inLine := ho.outside t (stand_eq_some.mpr ⟨question, waits⟩)
    · exact ⟨t, holder.symm.trans holds⟩
    · simp [ho.free holder] at inLine

/-- While a request is unfinished, some request can go on by itself, now or later. -/
theorem runnable_of_unfinished (rules : Rules) (ho : Cache.Orderly r.cache r.stand)
    (stands : r.requests t = some p) (alive : p.isOver = false) :
    ∃ u time, Runnable rules (r.step rules (.pass time)).1 u := by
  have held : ∀ u, r.cache.holder = some u →
      ∃ u time, Runnable rules (r.step rules (.pass time)).1 u := by
    intro u holds
    obtain ⟨question, s, -, now | ⟨n, since, -, later⟩⟩ := runnable_of_holder rules ho holds
    · exact ⟨u, 0, now⟩
    · exact ⟨u, _, later (since + rules.limits.execution) (Nat.le_add_left ..)⟩
  have awaited : ∀ limit, p.deadline? rules = some limit →
      ∃ u time, Runnable rules (r.step rules (.pass time)).1 u :=
    fun limit deadline => ⟨t, limit, runnable_at_deadline stands deadline (Nat.le_add_left ..)⟩
  cases p with
  | resolving question s =>
    cases s with
    | waiting =>
      obtain ⟨u, holds⟩ := held_of_waiting ho stands
      exact held u holds
    | fetching n since => exact awaited _ rfl
    | storing entry => exact held t (holds_of_inside ho stands nofun)
  | generating question schema since => exact awaited _ rfl
  | executing question candidate since => exact awaited _ rfl
  | ended | dropped | broken => cases alive

theorem orderly_after (rules : Rules) (h : Cache.Orderly r.cache r.stand) (es : List Event) :
    Cache.Orderly (r.after rules es).1.cache (r.after rules es).1.stand :=
  after_keeps (I := fun _ _ r => Cache.Orderly r.cache r.stand) (fun _ _ _ e h => orderly_step h rules e)
    es [] [] h

end Run
namespace Scenario

/-- What a request waits for, said in the terms of a scenario. -/
theorem awaited_spec {s : Scenario} {t : TaskId} {e : Event} {limit : Moment} {due : Option Moment}
    (h : s.awaited? t = some (due, e, limit)) :
    ∃ (α : Type) (q : Paced α) (since : Moment) (bound : Duration) (event : α → Event),
      Run.Awaits s.rules s.collaborators s.run t q since bound event ∧ due = q.due? since ∧
      e = event q.answer ∧ limit = since + bound ∧
      ∃ p, s.run.requests t = some p ∧ p.deadline? s.rules = some limit := by
  unfold awaited? at h
  split at h
  · rename_i question n since stands
    cases h
    exact ⟨_, _, _, _, _, .schema stands, rfl, rfl, rfl, _, stands, rfl⟩
  · rename_i question schema since stands
    cases h
    exact ⟨_, _, _, _, _, .reply stands, rfl, rfl, rfl, _, stands, rfl⟩
  · rename_i question candidate since stands
    cases h
    exact ⟨_, _, _, _, _, .result stands, rfl, rfl, rfl, _, stands, rfl⟩
  · cases h

end Scenario
end Pipeline
end QueryWarden
