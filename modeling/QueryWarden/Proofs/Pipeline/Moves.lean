import QueryWarden.Pipeline.Run

/-! What one event can do to a run of a pipeline, said once: it moves one request, or it is a check, an
invalidation or the passing of time, or it changes nothing. -/
namespace QueryWarden.Pipeline
open Clock

def Event.request? : Event → Option TaskId
  | .ask t _ | .resume t | .introspected t _ | .store t | .generated t _ | .executed t _ | .expire t
  | .cancel t => some t
  | .check _ | .invalidate | .pass _ => none

/-- When a request that waits for an answer has waited as long as it may. -/
def Phase.deadline? (rules : Rules) : Phase → Option Moment
  | .resolving _ (.fetching _ since) => some (since + rules.limits.execution)
  | .generating _ _ since => some (since + rules.limits.generation)
  | .executing _ _ since => some (since + rules.limits.execution)
  | _ => none

def Phase.isOver : Phase → Bool
  | .ended _ | .dropped | .broken _ => true
  | _ => false

namespace Run

@[simp] theorem put_requests_self (r : Run) (t : TaskId) (p : Phase) :
    (r.put t p).requests t = some p := by simp [put]

theorem put_requests_ne (r : Run) {t u : TaskId} (p : Phase) (h : u ≠ t) :
    (r.put t p).requests u = r.requests u := by
  simp [put, h]

/-- A request asks the cache for the schema: the event by which it does, and what the cache gives. -/
inductive OnTheWay (r : Run) (t : TaskId) (question : String) :
    Event → Cache × Cache.Progress → Prop where
  | asks {q : Question} (new : r.requests t = none) (text : Question.ofText? question = some q) :
      OnTheWay r t question (.ask t question) (r.cache.enter r.now t)
  | resumes (waits : r.requests t = some (.resolving question .waiting))
      (holds : r.cache.holder = some t) :
      OnTheWay r t question (.resume t) (r.cache.resume r.now r.now)
  | introspected {n : Nat} {since : Moment} {answer : Except Failure Schema.Snapshot}
      (fetches : r.requests t = some (.resolving question (.fetching n since))) :
      OnTheWay r t question (.introspected t answer) (r.cache.fetched r.now n answer)
  | stores {entry : Cache.Entry} (stores : r.requests t = some (.resolving question (.storing entry))) :
      OnTheWay r t question (.store t) (r.cache.store entry)

def introspection (t : TaskId) : Cache.Stand → List Note
  | .fetching number _ => [.introspecting t number]
  | _ => []

/-- What an event does to the request that it is about: the cache after it, where the request then
stands, and the notes that it leaves. -/
inductive Move (rules : Rules) (r : Run) (t : TaskId) : Event → Cache → Phase → List Note → Prop where
  /-- The question is blank. -/
  | blank {text : String} (new : r.requests t = none) (blank : Question.ofText? text = none) :
      Move rules r t (.ask t text) r.cache (.ended (.inputError emptyQuestionMessage))
        [.ended t (.inputError emptyQuestionMessage)]
  /-- It stands somewhere on the way to the schema. -/
  | stand {question : String} {e : Event} {c : Cache} {s : Cache.Stand}
      (way : OnTheWay r t question e (c, .pending s)) :
      Move rules r t e c (.resolving question s) (introspection t s)
  /-- It has the schema and asks the generator. -/
  | ask {question : String} {e : Event} {c : Cache} {held : Cache.Held}
      (way : OnTheWay r t question e (c, .got held)) :
      Move rules r t e c
        (.generating question (Schema.promptText held.snapshot.tables) r.now)
        [.reached t .schemaResolved,
          .generating t question (Schema.promptText held.snapshot.tables)]
  /-- It does not get the schema. -/
  | unresolved {question : String} {e : Event} {c : Cache} {f : Failure}
      (way : OnTheWay r t question e (c, .failed f)) :
      Move rules r t e c (.ended .executionError) [.reached t .errored, .ended t .executionError]
  /-- The clock cannot say how long the schema is good for. -/
  | overflow {question : String} {e : Event} {c : Cache} {message : String}
      (way : OnTheWay r t question e (c, .broken message)) :
      Move rules r t e c (.broken message) [.broken t message]
  /-- The generator fails. -/
  | unanswered {question schema : String} {since : Moment} {f : Failure}
      (asked : r.requests t = some (.generating question schema since)) :
      Move rules r t (.generated t (.error f)) r.cache (.ended .executionError)
        [.replied t (.error f), .reached t .errored, .ended t .executionError]
  /-- The generator reports destructive intent. -/
  | alert {question schema candidate : String} {since : Moment}
      (asked : r.requests t = some (.generating question schema since))
      (violation : Generator.isViolation candidate = true) :
      Move rules r t (.generated t (.ok candidate)) r.cache
        (.ended (.securityAlert securityAlertMessage))
        [.replied t (.ok candidate), .reached t .generated, .reached t .rejected,
          .reached t .completed, .ended t (.securityAlert securityAlertMessage)]
  /-- The guard crashes over the candidate. -/
  | baffle {question schema candidate message : String} {since : Moment}
      (asked : r.requests t = some (.generating question schema since))
      (clean : Generator.isViolation candidate = false)
      (fault : Guard.inspect rules.dialect candidate = .error message) :
      Move rules r t (.generated t (.ok candidate)) r.cache (.broken message)
        [.replied t (.ok candidate), .reached t .generated, .broken t message]
  /-- The guard refuses the candidate. -/
  | refuse {question schema candidate : String} {since : Moment} {v : Guard.Verdict}
      (asked : r.requests t = some (.generating question schema since))
      (clean : Generator.isViolation candidate = false)
      (verdict : Guard.inspect rules.dialect candidate = .ok v) (refused : v.safe = false) :
      Move rules r t (.generated t (.ok candidate)) r.cache
        (.ended (.rejected question candidate (v.reason.getD "") v.kind))
        [.replied t (.ok candidate), .reached t .generated, .reached t .rejected,
          .reached t .completed, .ended t (.rejected question candidate (v.reason.getD "") v.kind)]
  /-- The candidate is safe and runs. -/
  | run {question schema candidate : String} {since : Moment} {v : Guard.Verdict}
      (asked : r.requests t = some (.generating question schema since))
      (clean : Generator.isViolation candidate = false)
      (verdict : Guard.inspect rules.dialect candidate = .ok v) (safe : v.safe = true) :
      Move rules r t (.generated t (.ok candidate)) r.cache (.executing question candidate r.now)
        [.replied t (.ok candidate), .reached t .generated, .reached t .validated,
          .executing t candidate]
  /-- Running the candidate fails. -/
  | fail {question candidate : String} {since : Moment} {f : Failure}
      (runs : r.requests t = some (.executing question candidate since)) :
      Move rules r t (.executed t (.error f)) r.cache (.ended .executionError)
        [.reached t .executionFailed, .reached t .completed, .ended t .executionError]
  /-- Running the candidate succeeds. -/
  | succeed {question candidate : String} {since : Moment} {result : ResultSet}
      (runs : r.requests t = some (.executing question candidate since)) :
      Move rules r t (.executed t (.ok result)) r.cache (.ended (.success question candidate result))
        [.reached t .executed, .reached t .completed, .ended t (.success question candidate result)]
  /-- The schema takes too long. -/
  | lateSchema {question : String} {n : Nat} {since : Moment}
      (fetches : r.requests t = some (.resolving question (.fetching n since)))
      (late : since + rules.limits.execution ≤ r.now) :
      Move rules r t (.expire t) r.cache.release (.ended .executionError)
        [.reached t .errored, .ended t .executionError]
  /-- The generator takes too long. -/
  | lateReply {question schema : String} {since : Moment}
      (asked : r.requests t = some (.generating question schema since))
      (late : since + rules.limits.generation ≤ r.now) :
      Move rules r t (.expire t) r.cache (.ended .executionError)
        [.reached t .errored, .ended t .executionError]
  /-- The candidate runs too long. -/
  | lateResult {question candidate : String} {since : Moment}
      (runs : r.requests t = some (.executing question candidate since))
      (late : since + rules.limits.execution ≤ r.now) :
      Move rules r t (.expire t) r.cache (.ended .executionError)
        [.reached t .executionFailed, .reached t .completed, .ended t .executionError]
  /-- It is dropped on the way to the schema. -/
  | leave {question : String} {s : Cache.Stand} (stands : r.requests t = some (.resolving question s)) :
      Move rules r t (.cancel t) (r.cache.leave t) .dropped [.dropped t]
  /-- It is dropped while it waits for the generator or the executor. -/
  | drop {p : Phase} (stands : r.requests t = some p)
      (waits : (∃ q s since, p = .generating q s since) ∨ ∃ q c since, p = .executing q c since) :
      Move rules r t (.cancel t) r.cache .dropped [.dropped t]

inductive Step (rules : Rules) (r : Run) : Event → Run → List Note → Prop where
  /-- The event does not fit. A request that has not begun can always begin. -/
  | idle {e : Event} (known : ∀ t text, e = .ask t text → r.requests t ≠ none) : Step rules r e r []
  | moves {t : TaskId} {e : Event} {c : Cache} {p : Phase} {notes : List Note}
      (move : Move rules r t e c p notes) :
      Step rules r e ({ r with cache := c }.put t p) notes
  | check (sql : String) : Step rules r (.check sql) r [.checked sql (Guard.inspect rules.dialect sql)]
  | invalidate : Step rules r .invalidate { r with cache := r.cache.invalidate } [.invalidated]
  | pass (time : Duration) : Step rules r (.pass time) { r with now := r.now + time } []

variable {rules : Rules} {r : Run} {t : TaskId}

theorem OnTheWay.request {question : String} {e : Event} {x : Cache × Cache.Progress}
    (way : OnTheWay r t question e x) : e.request? = some t := by
  cases way <;> rfl

theorem Move.request {e : Event} {c : Cache} {p : Phase} {notes : List Note}
    (move : Move rules r t e c p notes) : e.request? = some t := by
  cases move with
  | stand way | ask way | unresolved way | overflow way => exact way.request
  | _ => rfl

/-- The cache never drops a request by itself. -/
theorem OnTheWay.not_dropped {question : String} {e : Event} {c : Cache} :
    ¬ OnTheWay r t question e (c, .dropped) := by
  intro h
  generalize hx : (c, Cache.Progress.dropped) = x at h
  cases h with
  | asks =>
    unfold Cache.enter at hx
    split at hx
    · cases hx
    · split at hx <;> cases hx
  | resumes =>
    unfold Cache.resume at hx
    split at hx <;> cases hx
  | @introspected n since answer =>
    unfold Cache.fetched at hx
    split at hx
    · cases hx
    · split at hx <;> cases hx
  | stores => cases hx

def Moves (rules : Rules) (r : Run) (t : TaskId) (e : Event) (x : Run × List Note) : Prop :=
  ∃ c p notes, Move rules r t e c p notes ∧ x = ({ r with cache := c }.put t p, notes)

theorem Moves.step {e : Event} {x : Run × List Note} (h : Moves rules r t e x) :
    Step rules r e x.1 x.2 := by
  obtain ⟨c, p, notes, move, rfl⟩ := h
  exact .moves move

theorem resolve_moves {question : String} {e : Event} {x : Cache × Cache.Progress}
    (way : OnTheWay r t question e x) : Moves rules r t e (r.resolve t question x) := by
  obtain ⟨c, progress⟩ := x
  cases progress with
  | pending s => cases s <;> exact ⟨_, _, _, .stand way, rfl⟩
  | got held => exact ⟨_, _, _, .ask way, rfl⟩
  | failed f => exact ⟨_, _, _, .unresolved way, rfl⟩
  | broken message => exact ⟨_, _, _, .overflow way, rfl⟩
  | dropped => exact (OnTheWay.not_dropped way).elim

theorem judge_moves {question schema : String} {since : Moment}
    (asked : r.requests t = some (.generating question schema since)) (candidate : String) :
    Moves rules r t (.generated t (.ok candidate))
      ((r.judge rules t question candidate).1,
        .replied t (.ok candidate) :: (r.judge rules t question candidate).2) := by
  unfold judge
  split
  · rename_i violation
    exact ⟨_, _, _, .alert asked violation, rfl⟩
  · rename_i clean
    have clean := Bool.eq_false_iff.mpr clean
    split
    · rename_i message fault
      exact ⟨_, _, _, .baffle asked clean fault, rfl⟩
    · rename_i v verdict
      split
      · rename_i safe
        exact ⟨_, _, _, .run asked clean verdict safe, rfl⟩
      · rename_i refused
        exact ⟨_, _, _, .refuse asked clean verdict (Bool.eq_false_iff.mpr refused), rfl⟩

/-! An event that fits where its request stands moves it. -/

theorem moves_ask (rules : Rules) (new : r.requests t = none) (text : String) :
    Moves rules r t (.ask t text) (r.step rules (.ask t text)) := by
  simp only [step, new]
  split
  · rename_i blank
    exact ⟨_, _, _, .blank new blank, rfl⟩
  · rename_i q hq
    rw [Question.ofText?_text hq]
    exact resolve_moves (.asks new hq)

theorem moves_resume (rules : Rules) {question : String}
    (waits : r.requests t = some (.resolving question .waiting)) (holds : r.cache.holder = some t) :
    Moves rules r t (.resume t) (r.step rules (.resume t)) := by
  simp only [step, waits, holds, if_true]
  exact resolve_moves (.resumes waits holds)

theorem moves_introspected (rules : Rules) {question : String} {n : Nat} {since : Moment}
    (fetches : r.requests t = some (.resolving question (.fetching n since)))
    (answer : Except Failure Schema.Snapshot) :
    Moves rules r t (.introspected t answer) (r.step rules (.introspected t answer)) := by
  simp only [step, fetches]
  exact resolve_moves (.introspected fetches)

theorem moves_store (rules : Rules) {question : String} {entry : Cache.Entry}
    (stores : r.requests t = some (.resolving question (.storing entry))) :
    Moves rules r t (.store t) (r.step rules (.store t)) := by
  simp only [step, stores]
  exact resolve_moves (.stores stores)

theorem moves_generated (rules : Rules) {question schema : String} {since : Moment}
    (asked : r.requests t = some (.generating question schema since)) (answer : Except Failure String) :
    Moves rules r t (.generated t answer) (r.step rules (.generated t answer)) := by
  simp only [step, asked]
  cases answer with
  | error f => exact ⟨_, _, _, .unanswered asked, rfl⟩
  | ok candidate => exact judge_moves asked candidate

theorem moves_executed (rules : Rules) {question candidate : String} {since : Moment}
    (runs : r.requests t = some (.executing question candidate since))
    (answer : Except Failure ResultSet) :
    Moves rules r t (.executed t answer) (r.step rules (.executed t answer)) := by
  simp only [step, runs]
  cases answer with
  | error f => exact ⟨_, _, _, .fail runs, rfl⟩
  | ok result => exact ⟨_, _, _, .succeed runs, rfl⟩

theorem moves_expire {p : Phase} {limit : Moment} (stands : r.requests t = some p)
    (deadline : p.deadline? rules = some limit) (late : limit ≤ r.now) :
    Moves rules r t (.expire t) (r.step rules (.expire t)) := by
  unfold Phase.deadline? at deadline
  split at deadline <;> cases deadline <;> simp only [step, stands, late, if_true]
  · exact ⟨_, _, _, .lateSchema stands late, rfl⟩
  · exact ⟨_, _, _, .lateReply stands late, rfl⟩
  · exact ⟨_, _, _, .lateResult stands late, rfl⟩

theorem moves_cancel (rules : Rules) {p : Phase} (stands : r.requests t = some p)
    (alive : p.isOver = false) : Moves rules r t (.cancel t) (r.step rules (.cancel t)) := by
  cases p with
  | resolving question s =>
    simp only [step, stands]
    exact ⟨_, _, _, .leave stands, rfl⟩
  | generating question schema since =>
    simp only [step, stands]
    exact ⟨_, _, _, .drop stands (.inl ⟨_, _, _, rfl⟩), rfl⟩
  | executing question candidate since =>
    simp only [step, stands]
    exact ⟨_, _, _, .drop stands (.inr ⟨_, _, _, rfl⟩), rfl⟩
  | ended | dropped | broken => cases alive

/-! An event that does not fit changes nothing. -/

theorem step_ask (rules : Rules) (r : Run) (t : TaskId) (text : String) :
    Step rules r (.ask t text) (r.step rules (.ask t text)).1 (r.step rules (.ask t text)).2 := by
  simp only [step]
  split
  · rename_i p known
    exact .idle (by rintro u _ ⟨⟩; simp [known])
  · rename_i new
    split
    · rename_i blank
      exact .moves (.blank new blank)
    · rename_i q hq
      rw [Question.ofText?_text hq]
      exact (resolve_moves (.asks new hq)).step

theorem step_generated (rules : Rules) (r : Run) (t : TaskId) (answer : Except Failure String) :
    Step rules r (.generated t answer) (r.step rules (.generated t answer)).1
      (r.step rules (.generated t answer)).2 := by
  simp only [step]
  split
  · rename_i question schema since asked
    cases answer with
    | error f => exact .moves (.unanswered asked)
    | ok candidate => exact (judge_moves asked candidate).step
  · exact .idle nofun

theorem step_expire (rules : Rules) (r : Run) (t : TaskId) :
    Step rules r (.expire t) (r.step rules (.expire t)).1 (r.step rules (.expire t)).2 := by
  simp only [step]
  split
  · rename_i n since fetches
    split
    · rename_i late
      exact .moves (.lateSchema fetches late)
    · exact .idle nofun
  · rename_i since asked
    split
    · rename_i late
      exact .moves (.lateReply asked late)
    · exact .idle nofun
  · rename_i since runs
    split
    · rename_i late
      exact .moves (.lateResult runs late)
    · exact .idle nofun
  · exact .idle nofun

/-- Every event does one of the things that `Step` lists. -/
theorem step_spec (rules : Rules) (r : Run) (e : Event) :
    Step rules r e (r.step rules e).1 (r.step rules e).2 := by
  cases e with
  | ask t text => exact step_ask rules r t text
  | resume t =>
    simp only [step]
    split
    · rename_i question waits
      split
      · rename_i holds
        exact (resolve_moves (.resumes waits holds)).step
      · exact .idle nofun
    · exact .idle nofun
  | introspected t answer =>
    simp only [step]
    split
    · rename_i question n since fetches
      exact (resolve_moves (.introspected fetches)).step
    · exact .idle nofun
  | store t =>
    simp only [step]
    split
    · rename_i question entry stores
      exact (resolve_moves (.stores stores)).step
    · exact .idle nofun
  | generated t answer => exact step_generated rules r t answer
  | executed t answer =>
    simp only [step]
    split
    · rename_i question candidate since runs
      cases answer with
      | error f => exact .moves (.fail runs)
      | ok result => exact .moves (.succeed runs)
    · exact .idle nofun
  | expire t => exact step_expire rules r t
  | cancel t =>
    simp only [step]
    split
    · rename_i question s stands
      exact .moves (.leave stands)
    · rename_i question schema since asked
      exact .moves (.drop asked (.inl ⟨_, _, _, rfl⟩))
    · rename_i question candidate since runs
      exact .moves (.drop runs (.inr ⟨_, _, _, rfl⟩))
    · exact .idle nofun
  | check sql => exact .check sql
  | invalidate => exact .invalidate
  | pass time => exact .pass time

theorem Step.now_le {r' : Run} {e : Event} {notes : List Note} (h : Step rules r e r' notes) :
    r.now ≤ r'.now := by
  cases h with
  | pass time => exact Nat.le_add_right ..
  | _ => exact Nat.le_refl _

/-- What holds of the events and the notes so far and the run, and is kept by every event, holds at the
end of every run. -/
theorem after_keeps {rules : Rules} {I : List Event → List Note → Run → Prop}
    (keeps : ∀ es past r e, I es past r →
      I (es ++ [e]) (past ++ (r.step rules e).2) (r.step rules e).1)
    (more : List Event) (es : List Event) (past : List Note) {r : Run} (h : I es past r) :
    I (es ++ more) (past ++ (r.after rules more).2.map (·.2)) (r.after rules more).1 := by
  induction more generalizing es past r with
  | nil => simpa [after] using h
  | cons e more ih =>
    have hmore := ih (es ++ [e]) _ (keeps es past r e h)
    simpa [after, List.append_assoc, Function.comp_def] using hmore

end Run
end QueryWarden.Pipeline
