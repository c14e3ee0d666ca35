import QueryWarden.Proofs.Cache.Lock
import QueryWarden.Proofs.Pipeline.Moves

/-! The requests of a pipeline keep the order before the population lock, as the calls of the cache do:
each move takes a place, keeps it, or gives it up. -/
namespace QueryWarden.Pipeline
open Clock

def Phase.stand? : Phase → Option Cache.Stand
  | .resolving _ s => some s
  | _ => none

namespace Run

variable {rules : Rules} {r r' : Run} {t u : TaskId} {e : Event} {c : Cache} {p : Phase}
  {notes : List Note}

def stand (r : Run) (t : TaskId) : Option Cache.Stand := (r.requests t).bind Phase.stand?

theorem stand_eq_some {s : Cache.Stand} :
    r.stand t = some s ↔ ∃ question, r.requests t = some (.resolving question s) := by
  cases h : r.requests t with
  | none => simp [stand, h]
  | some p => cases p <;> simp [stand, h, Phase.stand?]

theorem put_stand (r : Run) (t : TaskId) (p : Phase) :
    (r.put t p).stand = Cache.placed r.stand t p.stand? := by
  funext u
  by_cases he : u = t
  · subst he; simp [stand]
  · simp [stand, Cache.placed, he, put_requests_ne r p he]

/-- Whoever fetches or stores holds the lock. -/
theorem holds_of_inside (h : Cache.Orderly r.cache r.stand) {question : String} {s : Cache.Stand}
    (stands : r.requests t = some (.resolving question s)) (inside : s ≠ .waiting) :
    r.cache.holder = some t :=
  h.inside t s (stand_eq_some.mpr ⟨question, stands⟩) inside

/-- On the way to the schema a request keeps the order. -/
theorem OnTheWay.orderly {question : String} {x : Cache × Cache.Progress}
    (way : OnTheWay r t question e x) (h : Cache.Orderly r.cache r.stand) :
    Cache.Orderly x.1 (Cache.placed r.stand t x.2.stand?) := by
  cases way with
  | asks new => exact h.enter (by simp [stand, new]) r.now
  | resumes waits holds => exact h.resume holds r.now r.now
  | introspected fetches => exact h.fetched (holds_of_inside h fetches nofun) r.now _ _
  | stores stores => exact h.store (holds_of_inside h stores nofun) _

theorem Move.orderly (h : Move rules r t e c p notes) (ho : Cache.Orderly r.cache r.stand) :
    Cache.Orderly c (Cache.placed r.stand t p.stand?) := by
  have away : ∀ {before}, r.requests t = before → before.bind Phase.stand? = none →
      p.stand? = none → Cache.Orderly r.cache (Cache.placed r.stand t p.stand?) := by
    intro before stands hbefore hp
    rw [hp, Cache.placed_same (by rw [Run.stand, stands, hbefore])]
    exact ho
  cases h with
  | stand way | ask way | unresolved way | overflow way => exact way.orderly ho
  | blank new => exact away new rfl rfl
  | unanswered asked | alert asked | baffle asked | refuse asked | run asked | lateReply asked =>
    exact away asked rfl rfl
  | fail runs | succeed runs | lateResult runs => exact away runs rfl rfl
  | lateSchema fetches => exact ho.handOver (holds_of_inside ho fetches nofun) rfl rfl
  | leave => exact ho.leave t
  | drop stands waits =>
    obtain ⟨_, _, _, rfl⟩ | ⟨_, _, _, rfl⟩ := waits <;> exact away stands rfl rfl

/-- Every event keeps the order before the lock. -/
theorem orderly_step (h : Cache.Orderly r.cache r.stand) (rules : Rules) (e : Event) :
    Cache.Orderly (r.step rules e).1.cache (r.step rules e).1.stand := by
  have hs := step_spec rules r e
  generalize (r.step rules e).1 = r', (r.step rules e).2 = notes at hs
  cases hs with
  | idle | check | pass => exact h
  | invalidate => exact h.invalidate
  | moves move =>
    rw [put_stand]
    exact move.orderly h

end Run
end QueryWarden.Pipeline
