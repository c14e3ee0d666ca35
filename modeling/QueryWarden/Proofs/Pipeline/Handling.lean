import QueryWarden.Proofs.Cache.Steps
import QueryWarden.Proofs.Pipeline.Moves

/-! What a text comes to when the collaborators do not change with time: one answer, whichever way the
requests take turns on one pipeline. Where a request stands, it is on its way to that answer, and no move
of its own or of another request leads it away, unless the clock can no longer name the end of a
snapshot's life. -/
namespace QueryWarden

theorem Clock.Paced.inTime?_eq_some {α : Type} {p : Paced α} {limit : Duration} {answer : α} :
    p.inTime? limit = some answer ↔ ∃ d, p.delay = some d ∧ d ≤ limit ∧ p.answer = answer := by
  cases hd : p.delay with
  | none => simp [inTime?, hd]
  | some d => simp [inTime?, hd]

theorem Clock.Paced.hasCome_of_inTime {α : Type} {p : Paced α} {limit since now : Nat}
    {answer : α} (h : p.inTime? limit = some answer) (elapsed : since + limit ≤ now) :
    hasCome now (p.due? since) = true := by
  obtain ⟨d, hd, hle, -⟩ := inTime?_eq_some.mp h
  have hdue : since + d ≤ now := Nat.le_trans (Nat.add_le_add_left hle since) elapsed
  simpa [due?, hd, hasCome] using hdue

namespace Pipeline
open Clock

/-- The schema has the same tables, or the same fault, whenever someone asks for it, and it takes the
same time. -/
structure Steady (c : Collaborators) : Prop where
  pace : ∀ n m, (c.introspect n).delay = (c.introspect m).delay
  tables : ∀ n m, (c.introspect n).answer.map (·.tables) = (c.introspect m).answer.map (·.tables)

def Phase.result? : Phase → Option (Except String Outcome)
  | .ended outcome => some (.ok outcome)
  | .broken message => some (.error message)
  | _ => none

namespace Run

def result? (r : Run) (t : TaskId) : Option (Except String Outcome) :=
  (r.requests t).bind Phase.result?

/-- A request waits for an answer of a collaborator: since when, how long it may take, and the event that
brings it. -/
inductive Awaits (rules : Rules) (c : Collaborators) (r : Run) (t : TaskId) :
    {α : Type} → Paced α → Moment → Duration → (α → Event) → Prop where
  | schema {question : String} {n : Nat} {since : Moment}
      (fetches : r.requests t = some (.resolving question (.fetching n since))) :
      Awaits rules c r t (c.introspect n) since rules.limits.execution (.introspected t)
  | reply {question schema : String} {since : Moment}
      (asked : r.requests t = some (.generating question schema since)) :
      Awaits rules c r t (c.generate question schema) since rules.limits.generation (.generated t)
  | result {question candidate : String} {since : Moment}
      (runs : r.requests t = some (.executing question candidate since)) :
      Awaits rules c r t (c.execute candidate) since rules.limits.execution (.executed t)

/-- What can happen next while texts are handled on one pipeline: any text may begin, and any request may
go on that can. An answer in time counts whenever its request gets to it; a request whose answer takes
longer than it may goes on without. Others may check texts and invalidate the cache. -/
inductive Admits (rules : Rules) (c : Collaborators) (texts : List String) (r : Run) :
    Event → Prop where
  | ask {t : TaskId} {text : String} (given : texts[t]? = some text) (new : r.requests t = none) :
      Admits rules c texts r (.ask t text)
  | resume {t : TaskId} {question : String} (waits : r.requests t = some (.resolving question .waiting))
      (holds : r.cache.holder = some t) : Admits rules c texts r (.resume t)
  | store {t : TaskId} {question : String} {entry : Cache.Entry}
      (stores : r.requests t = some (.resolving question (.storing entry))) :
      Admits rules c texts r (.store t)
  | answer {t : TaskId} {α : Type} {p : Paced α} {since : Moment} {limit : Duration} {event : α → Event}
      {answer : α} (awaits : Awaits rules c r t p since limit event)
      (timely : p.inTime? limit = some answer) (there : hasCome r.now (p.due? since) = true) :
      Admits rules c texts r (event answer)
  | expire {t : TaskId} {α : Type} {p : Paced α} {since : Moment} {limit : Duration} {event : α → Event}
      (awaits : Awaits rules c r t p since limit event) (late : p.inTime? limit = none)
      (elapsed : since + limit ≤ r.now) : Admits rules c texts r (.expire t)
  | check (sql : String) : Admits rules c texts r (.check sql)
  | invalidate : Admits rules c texts r .invalidate
  | pass (time : Duration) : Admits rules c texts r (.pass time)

/-- Events by which a pipeline handles texts, from a run on; a request is named by the place of its
text. -/
def Handles (rules : Rules) (c : Collaborators) (texts : List String) (r : Run) : List Event → Prop
  | [] => True
  | e :: es => Admits rules c texts r e ∧ Handles rules c texts (r.step rules e).1 es

section Answers
variable (rules : Rules) (c : Collaborators)

def tables? : Option (List Schema.Table) :=
  ((c.introspect 0).inTime? rules.limits.execution).bind fun answer =>
    (answer.map (·.tables)).toOption

def ran (question candidate : String) : Except String Outcome :=
  match (c.execute candidate).inTime? rules.limits.execution with
  | some (.ok result) => .ok (.success question candidate result)
  | _ => .ok .executionError

def judged (question candidate : String) : Except String Outcome :=
  if Generator.isViolation candidate then .ok (.securityAlert securityAlertMessage)
  else match Guard.inspect rules.dialect candidate with
    | .error message => .error message
    | .ok v =>
      if v.safe then ran rules c question candidate
      else .ok (.rejected question candidate (v.reason.getD "") v.kind)

def replied (question schema : String) : Except String Outcome :=
  match (c.generate question schema).inTime? rules.limits.generation with
  | some (.ok candidate) => judged rules c question candidate
  | _ => .ok .executionError

def resolved (question : String) : Except String Outcome :=
  match tables? rules c with
  | some tables => replied rules c question (Schema.promptText tables)
  | none => .ok .executionError

def answered (text : String) : Except String Outcome :=
  match Question.ofText? text with
  | some _ => resolved rules c text
  | none => .ok (.inputError emptyQuestionMessage)

def prospect : Phase → Option (Except String Outcome)
  | .resolving question _ => some (resolved rules c question)
  | .generating question schema _ => some (replied rules c question schema)
  | .executing question candidate _ => some (ran rules c question candidate)
  | .ended outcome => some (.ok outcome)
  | .broken message => some (.error message)
  | .dropped => none

end Answers

variable {rules : Rules} {c : Collaborators} {texts : List String} {r r' : Run} {t : TaskId} {e : Event}
  {p : Phase} {notes : List Note}

theorem prospect_of_result {x : Except String Outcome} (h : p.result? = some x) :
    prospect rules c p = some x := by
  cases p <;> simp_all [Phase.result?, prospect]

/-- Whichever introspection it is, it gives the same tables. -/
theorem tables?_eq (rules : Rules) (steady : Steady c) (n : Nat) :
    ((c.introspect n).inTime? rules.limits.execution).bind
      (fun answer => (answer.map (·.tables)).toOption) = tables? rules c := by
  simp only [tables?, Paced.inTime?, steady.pace n 0]
  split
  · rw [Option.bind_some, Option.bind_some, steady.tables n 0]
  · rfl

theorem Admits.given {text : String} (h : Admits rules c texts r (.ask t text)) :
    texts[t]? = some text := by
  generalize he : Event.ask t text = e at h
  cases h with
  | ask given => cases he; exact given
  | answer awaits => cases awaits <;> cases he
  | _ => cases he

/-- An answer that a request gets came in time. -/
theorem Awaits.inTime {α : Type} {p : Paced α} {since : Moment} {limit : Duration} {event : α → Event}
    {answer : α} (awaits : Awaits rules c r t p since limit event)
    (h : Admits rules c texts r (event answer)) : p.inTime? limit = some answer := by
  generalize he : event answer = e at h
  cases h with
  | answer awaits' timely =>
    cases awaits with
    | schema stands | reply stands | result stands =>
      cases awaits' with
      | schema stands' | reply stands' | result stands' =>
        cases he <;> cases stands.symm.trans stands' <;> exact timely
  | _ => cases awaits <;> cases he

/-- A request that goes on without an answer gets none in time. -/
theorem Awaits.late {α : Type} {p : Paced α} {since : Moment} {limit : Duration} {event : α → Event}
    (awaits : Awaits rules c r t p since limit event) (h : Admits rules c texts r (.expire t)) :
    p.inTime? limit = none := by
  generalize he : Event.expire t = e at h
  cases h with
  | expire awaits' late =>
    cases he
    cases awaits with
    | schema stands | reply stands | result stands =>
      cases awaits' with
      | schema stands' | reply stands' | result stands' =>
        cases stands.symm.trans stands' <;> exact late
  | answer awaits' => cases awaits' <;> cases he
  | _ => cases he

theorem Admits.not_cancel : ¬ Admits rules c texts r (.cancel t) := by
  intro h
  generalize he : Event.cancel t = e at h
  cases h with
  | answer awaits => cases awaits <;> cases he
  | _ => cases he

def Heads (rules : Rules) (c : Collaborators) (texts : List String) (r : Run) (t : TaskId)
    (p : Phase) : Prop :=
  ∃ text, texts[t]? = some text ∧ (prospect rules c p = some (answered rules c text) ∨
    p = .broken Cache.clockOverflow ∧ Cache.expiry? r.now r.cache.life = none)

/-- Every request is on its way, and what is stored or about to be is what an introspection in time
gives. -/
structure OnCourse (rules : Rules) (c : Collaborators) (texts : List String) (r : Run) : Prop where
  stored : ∀ entry, r.cache.entry = some entry → tables? rules c = some entry.held.snapshot.tables
  storing : ∀ t question entry, r.requests t = some (.resolving question (.storing entry)) →
    tables? rules c = some entry.held.snapshot.tables
  heads : ∀ t p, r.requests t = some p → Heads rules c texts r t p

def Bears (rules : Rules) (c : Collaborators) (r : Run) : Cache.Progress → Prop
  | .pending (.storing entry) => tables? rules c = some entry.held.snapshot.tables
  | .pending _ => True
  | .got held => tables? rules c = some held.snapshot.tables
  | .failed _ => tables? rules c = none
  | .broken message => message = Cache.clockOverflow ∧ Cache.expiry? r.now r.cache.life = none
  | .dropped => False

theorem onCourse_start (life : Duration) (now : Moment) : OnCourse rules c texts (start life now) :=
  ⟨nofun, nofun, nofun⟩

theorem OnCourse.alive (h : OnCourse rules c texts r) (stands : r.requests t = some p)
    (alive : p.result? = none) :
    ∃ text, texts[t]? = some text ∧ prospect rules c p = some (answered rules c text) := by
  obtain ⟨text, given, ahead | ⟨rfl, -⟩⟩ := h.heads t p stands
  · exact ⟨text, given, ahead⟩
  · cases alive

theorem OnCourse.peek (h : OnCourse rules c texts r) {held : Cache.Held}
    (good : r.cache.peek r.now = some held) : tables? rules c = some held.snapshot.tables := by
  obtain ⟨entry, hentry, -, rfl⟩ := Cache.peek_eq_some.mp good
  exact h.stored entry hentry

/-- On the way to the schema, what comes of the question is what comes of the text. -/
theorem OnTheWay.asked {question : String} {x : Cache × Cache.Progress}
    (way : OnTheWay r t question e x) (h : OnCourse rules c texts r)
    (admits : Admits rules c texts r e) :
    ∃ text, texts[t]? = some text ∧ resolved rules c question = answered rules c text := by
  have on : ∀ {s}, r.requests t = some (.resolving question s) →
      ∃ text, texts[t]? = some text ∧ resolved rules c question = answered rules c text := by
    intro s stands
    obtain ⟨text, given, ahead⟩ := h.alive stands rfl
    exact ⟨text, given, Option.some.inj ahead⟩
  cases way with
  | asks new text => exact ⟨question, admits.given, by simp [answered, text]⟩
  | resumes stands | introspected stands | stores stands => exact on stands

/-- The cache keeps what an introspection in time gives, and gives nothing else. -/
theorem OnTheWay.bears (steady : Steady c) {question : String} {x : Cache × Cache.Progress}
    (way : OnTheWay r t question e x) (h : OnCourse rules c texts r)
    (admits : Admits rules c texts r e) :
    x.1.life = r.cache.life ∧
      (∀ entry, x.1.entry = some entry → tables? rules c = some entry.held.snapshot.tables) ∧
      Bears rules c r x.2 := by
  cases way with
  | asks =>
    unfold Cache.enter
    split
    · rename_i held good
      exact ⟨rfl, h.stored, h.peek good⟩
    · split <;> exact ⟨rfl, h.stored, trivial⟩
  | resumes =>
    unfold Cache.resume
    split
    · rename_i held good
      exact ⟨rfl, h.stored, h.peek good⟩
    · exact ⟨rfl, h.stored, trivial⟩
  | @introspected n since answer fetches =>
    have tables := tables?_eq rules steady n
    rw [(Awaits.schema fetches).inTime admits] at tables
    cases answer with
    | error f => exact ⟨rfl, h.stored, tables.symm⟩
    | ok snapshot =>
      cases ends : Cache.expiry? r.now r.cache.life with
      | none =>
        rw [Cache.fetched, ends]
        exact ⟨rfl, h.stored, rfl, ends⟩
      | some expiry =>
        rw [Cache.fetched, ends]
        exact ⟨rfl, h.stored, tables.symm⟩
  | stores stores =>
    have tables := h.storing t question _ stores
    refine ⟨rfl, ?_, tables⟩
    rintro entry' ⟨⟩
    exact tables

/-- A move leads a request on to what comes of its text. -/
theorem Move.heads (steady : Steady c) {d : Cache} (move : Move rules r t e d p notes)
    (h : OnCourse rules c texts r) (admits : Admits rules c texts r e) : Heads rules c texts r t p := by
  -- where the request stood before, it was on its way, so the move need only keep what it comes to
  have on : ∀ {before}, r.requests t = some before → before.result? = none →
      prospect rules c p = prospect rules c before → Heads rules c texts r t p := by
    intro before stands alive same
    obtain ⟨text, given, ahead⟩ := h.alive stands alive
    exact ⟨text, given, .inl (same.trans ahead)⟩
  cases move with
  | blank new blank => exact ⟨_, admits.given, .inl (by simp [prospect, answered, blank])⟩
  | stand way =>
    obtain ⟨text, given, same⟩ := way.asked h admits
    exact ⟨text, given, .inl (congrArg some same)⟩
  | ask way =>
    obtain ⟨text, given, same⟩ := way.asked h admits
    obtain ⟨-, -, tables⟩ := way.bears steady h admits
    have tables : tables? rules c = some _ := tables
    exact ⟨text, given, .inl (by simp only [prospect, ← same, resolved, tables])⟩
  | unresolved way =>
    obtain ⟨text, given, same⟩ := way.asked h admits
    obtain ⟨-, -, untold⟩ := way.bears steady h admits
    have untold : tables? rules c = none := untold
    exact ⟨text, given, .inl (by simp only [prospect, ← same, resolved, untold])⟩
  | overflow way =>
    obtain ⟨text, given, -⟩ := way.asked h admits
    obtain ⟨-, -, rfl, ends⟩ := way.bears steady h admits
    exact ⟨text, given, .inr ⟨rfl, ends⟩⟩
  | unanswered asked =>
    exact on asked rfl (by simp [prospect, replied, (Awaits.reply asked).inTime admits])
  | alert asked violation =>
    exact on asked rfl
      (by simp [prospect, replied, (Awaits.reply asked).inTime admits, judged, violation])
  | baffle asked clean fault =>
    exact on asked rfl
      (by simp [prospect, replied, (Awaits.reply asked).inTime admits, judged, clean, fault])
  | refuse asked clean verdict refused =>
    exact on asked rfl
      (by simp [prospect, replied, (Awaits.reply asked).inTime admits, judged, clean, verdict, refused])
  | run asked clean verdict safe =>
    exact on asked rfl
      (by simp [prospect, replied, (Awaits.reply asked).inTime admits, judged, clean, verdict, safe])
  | fail runs => exact on runs rfl (by simp [prospect, ran, (Awaits.result runs).inTime admits])
  | succeed runs => exact on runs rfl (by simp [prospect, ran, (Awaits.result runs).inTime admits])
  | @lateSchema _ n _ fetches =>
    have tables := tables?_eq rules steady n
    rw [(Awaits.schema fetches).late admits] at tables
    exact on fetches rfl (by simp [prospect, resolved, ← tables])
  | lateReply asked => exact on asked rfl (by simp [prospect, replied, (Awaits.reply asked).late admits])
  | lateResult runs => exact on runs rfl (by simp [prospect, ran, (Awaits.result runs).late admits])
  | leave | drop => exact (admits.not_cancel).elim

/-- A move keeps what an introspection in time gives. -/
theorem Move.bears (steady : Steady c) {d : Cache} (move : Move rules r t e d p notes)
    (h : OnCourse rules c texts r) (admits : Admits rules c texts r e) :
    d.life = r.cache.life ∧
      (∀ entry, d.entry = some entry → tables? rules c = some entry.held.snapshot.tables) ∧
      ∀ question entry, p = .resolving question (.storing entry) →
        tables? rules c = some entry.held.snapshot.tables := by
  cases move with
  | stand way =>
    obtain ⟨life, stored, stands⟩ := way.bears steady h admits
    refine ⟨life, stored, ?_⟩
    rintro question entry ⟨⟩
    exact stands
  | ask way | unresolved way | overflow way =>
    obtain ⟨life, stored, -⟩ := way.bears steady h admits
    exact ⟨life, stored, nofun⟩
  | leave | drop => exact (admits.not_cancel).elim
  | _ => exact ⟨rfl, h.stored, nofun⟩

theorem Heads.later (h : Heads rules c texts r t p) (now : r.now ≤ r'.now)
    (life : r'.cache.life = r.cache.life) : Heads rules c texts r' t p := by
  obtain ⟨text, given, ahead | ⟨rfl, ends⟩⟩ := h
  · exact ⟨text, given, .inl ahead⟩
  · exact ⟨text, given, .inr ⟨rfl, life ▸ Cache.expiry?_none_later now ends⟩⟩

/-- While texts are handled, every request stays on its way. -/
theorem OnCourse.step (steady : Steady c) (h : OnCourse rules c texts r)
    (admits : Admits rules c texts r e) : OnCourse rules c texts (r.step rules e).1 ∧
      (r.step rules e).1.cache.life = r.cache.life := by
  have hs := step_spec rules r e
  generalize (r.step rules e).1 = r', (r.step rules e).2 = notes at hs
  cases hs with
  | idle | check => exact ⟨h, rfl⟩
  | invalidate => exact ⟨⟨nofun, h.storing, fun t p stands => h.heads t p stands⟩, rfl⟩
  | pass time =>
    have later : ∀ t p, r.requests t = some p → Heads rules c texts { r with now := r.now + time } t p :=
      fun t p stands => (h.heads t p stands).later (Nat.le_add_right ..) rfl
    exact ⟨⟨h.stored, h.storing, later⟩, rfl⟩
  | @moves t _ d p _ move =>
    obtain ⟨life, stored, storing⟩ := move.bears steady h admits
    refine ⟨⟨stored, ?_, ?_⟩, life⟩
    · intro u question entry stands
      by_cases hu : u = t
      · subst hu
        rw [put_requests_self] at stands
        exact storing question entry (Option.some.inj stands)
      · rw [put_requests_ne _ _ hu] at stands
        exact h.storing u question entry stands
    · intro u q stands
      by_cases hu : u = t
      · subst hu
        rw [put_requests_self] at stands
        cases stands
        exact (move.heads steady h admits).later (Nat.le_refl _) life
      · rw [put_requests_ne _ _ hu] at stands
        exact (h.heads u q stands).later (Nat.le_refl _) life

/-- What is kept by every event with which texts are handled holds at the end. -/
theorem handles_keeps {I : Run → Prop}
    (keeps : ∀ r e, Admits rules c texts r e → I r → I (r.step rules e).1)
    {es : List Event} (handles : Handles rules c texts r es) (h : I r) : I (r.after rules es).1 := by
  induction es generalizing r with
  | nil => exact h
  | cons e es ih => exact ih handles.2 (keeps r e handles.1 h)

/-- A request that is over has come to what comes of its text, unless the clock has crashed it. -/
theorem result_of_handles (steady : Steady c) {life : Duration} {now : Moment} {es : List Event}
    (handles : Handles rules c texts (start life now) es) {i : Nat} {text : String}
    (given : texts[i]? = some text) {x : Except String Outcome}
    (finished : ((start life now).after rules es).1.result? i = some x) :
    x = answered rules c text ∨ x = .error Cache.clockOverflow ∧
      Cache.expiry? ((start life now).after rules es).1.now life = none := by
  obtain ⟨course, hlife⟩ := handles_keeps
    (I := fun r => OnCourse rules c texts r ∧ r.cache.life = life)
    (fun r e admits h => ⟨(h.1.step steady admits).1, (h.1.step steady admits).2.trans h.2⟩)
    handles ⟨onCourse_start life now, rfl⟩
  obtain ⟨p, stands, result⟩ := Option.bind_eq_some_iff.mp finished
  obtain ⟨text', given', ahead | ⟨rfl, ends⟩⟩ := course.heads i p stands
  · rw [given] at given'
    cases given'
    rw [prospect_of_result result] at ahead
    exact .inl (Option.some.inj ahead)
  · rw [hlife] at ends
    exact .inr ⟨(Option.some.inj result).symm, ends⟩

end Run
end Pipeline
end QueryWarden
