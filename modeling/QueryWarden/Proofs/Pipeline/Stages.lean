import QueryWarden.Proofs.Pipeline.InService
import QueryWarden.Proofs.Pipeline.Outcomes

/-! The stages that a request passes through. Wherever it stands, they lie on a way through the table of stages,
and where it has ended they are such a way, to its last stage. A request that crashes stops short of one. -/
namespace QueryWarden.Pipeline
open Clock

/-- The stage that a note says a request has reached. -/
def Note.stage? (t : TaskId) : Note → Option Stage
  | .reached u stage => if u = t then some stage else none
  | _ => none

/-- The stages that a request has passed through, from the first on. -/
def passed (t : TaskId) (notes : List Note) : List Stage := .start :: notes.filterMap (Note.stage? t)

theorem Note.stage?_eq_some {t : TaskId} {note : Note} {stage : Stage} :
    note.stage? t = some stage ↔ note = .reached t stage := by
  cases note <;> simp [Note.stage?]

theorem mem_passed {t : TaskId} {notes : List Note} {stage : Stage} :
    stage ∈ passed t notes ↔ stage = .start ∨ .reached t stage ∈ notes := by
  simp [passed, Note.stage?_eq_some]

/-- A way from the first stage to one where a request ends, each step of which the table allows. -/
structure IsWay (path : List Stage) : Prop where
  first : path.head? = some .start
  legal : path.IsChain fun here next => here.canAdvance next = true
  last : path.getLast?.any Stage.isTerminal = true

instance (path : List Stage) : Decidable (IsWay path) :=
  decidable_of_iff (path.head? = some .start ∧ (path.IsChain fun here next => here.canAdvance next = true) ∧
    path.getLast?.any Stage.isTerminal = true) ⟨fun ⟨h, h', h''⟩ => ⟨h, h', h''⟩, fun ⟨h, h', h''⟩ => ⟨h, h', h''⟩⟩

/-- Whether an outcome says that the candidate was not let through. -/
def Outcome.isRefusal : Outcome → Bool
  | .rejected .. | .securityAlert _ => true
  | .success .. | .inputError _ | .executionError => false

/-- Where a request may stand that has passed through some stages. -/
inductive Course : Option Phase → List Stage → Prop where
  | new : Course none [.start]
  | blank {message : String} : Course (some (.ended (.inputError message))) [.start]
  | resolving {question : String} {s : Cache.Stand} : Course (some (.resolving question s)) [.start]
  | unresolved : Course (some (.ended .executionError)) [.start, .errored]
  | overflow {message : String} : Course (some (.broken message)) [.start]
  | generating {question schema : String} {since : Moment} :
      Course (some (.generating question schema since)) [.start, .schemaResolved]
  | unanswered : Course (some (.ended .executionError)) [.start, .schemaResolved, .errored]
  | baffled {message : String} : Course (some (.broken message)) [.start, .schemaResolved, .generated]
  | refused {o : Outcome} (refusal : o.isRefusal = true) :
      Course (some (.ended o)) [.start, .schemaResolved, .generated, .rejected, .completed]
  | executing {question candidate : String} {since : Moment} :
      Course (some (.executing question candidate since)) [.start, .schemaResolved, .generated, .validated]
  | failed : Course (some (.ended .executionError))
      [.start, .schemaResolved, .generated, .validated, .executionFailed, .completed]
  | done {question candidate : String} {result : ResultSet} :
      Course (some (.ended (.success question candidate result)))
        [.start, .schemaResolved, .generated, .validated, .executed, .completed]
  | dropped {p : Phase} {path : List Stage} (alive : p.isOver = false) (course : Course (some p) path) :
      Course (some .dropped) path

namespace Course
variable {p : Option Phase} {path : List Stage} {o : Outcome}

/-- Every course can be gone on with to an end. -/
theorem ahead (h : Course p path) : ∃ way, IsWay way ∧ path <+: way := by
  induction h with
  | new | blank | resolving | unresolved | overflow => exact ⟨[.start, .errored], by decide, by decide⟩
  | generating | unanswered => exact ⟨[.start, .schemaResolved, .errored], by decide, by decide⟩
  | baffled | refused =>
    exact ⟨[.start, .schemaResolved, .generated, .rejected, .completed], by decide, by decide⟩
  | executing | failed =>
    exact ⟨[.start, .schemaResolved, .generated, .validated, .executionFailed, .completed], by decide, by decide⟩
  | done =>
    exact ⟨[.start, .schemaResolved, .generated, .validated, .executed, .completed], by decide, by decide⟩
  | dropped _ _ ih => exact ih

theorem rejected_iff (h : Course p path) :
    .rejected ∈ path ↔ ∃ o, p = some (.ended o) ∧ o.isRefusal = true := by
  induction h with
  | refused refusal => exact iff_of_true (by decide) ⟨_, rfl, refusal⟩
  | @dropped q path alive _ ih =>
    refine ih.trans (iff_of_false ?_ nofun)
    rintro ⟨o, ⟨⟩, -⟩
    cases alive
  | _ =>
    refine iff_of_false (by decide) ?_
    rintro ⟨o, same, refusal⟩
    cases same <;> cases refusal

/-- A request about a question that has ended has come to the end of a way. -/
theorem isWay_of_ended (h : Course (some (.ended o)) path) (question : ∀ message, o ≠ .inputError message) :
    IsWay path := by
  cases h with
  | blank => exact absurd rfl (question _)
  | unresolved | unanswered | refused | failed | done => decide

/-- A request that has crashed has not. -/
theorem not_isWay_of_broken {message : String} (h : Course (some (.broken message)) path) : ¬ IsWay path := by
  cases h with
  | overflow | baffled => decide

end Course

namespace Run

variable {rules : Rules} {r : Run} {t : TaskId} {e : Event} {p : Phase} {notes : List Note} {path : List Stage}
  {es : List Event}

theorem OnTheWay.course {question : String} {x : Cache × Cache.Progress} (way : OnTheWay r t question e x)
    (course : Course (r.requests t) path) : path = [.start] := by
  cases way with
  | asks stands | resumes stands | introspected stands | stores stands =>
    rw [stands] at course
    cases course
    rfl

/-- What moves a request takes it along its course. -/
theorem Move.course {c : Cache} (move : Move rules r t e c p notes) (course : Course (r.requests t) path) :
    Course (some p) (path ++ notes.filterMap (Note.stage? t)) := by
  cases move with
  | @stand _ _ _ s way =>
    obtain rfl := way.course course
    cases s <;> exact .resolving
  | ask way =>
    obtain rfl := way.course course
    simpa [Note.stage?, List.filterMap_cons] using Course.generating
  | unresolved way =>
    obtain rfl := way.course course
    simpa [Note.stage?, List.filterMap_cons] using Course.unresolved
  | overflow way =>
    obtain rfl := way.course course
    exact .overflow
  | blank stands =>
    rw [stands] at course
    cases course
    exact .blank
  | unanswered stands | lateReply stands =>
    rw [stands] at course
    cases course
    simpa [Note.stage?, List.filterMap_cons] using Course.unanswered
  | alert stands | refuse stands =>
    rw [stands] at course
    cases course
    simpa [Note.stage?, List.filterMap_cons] using Course.refused (by rfl)
  | baffle stands =>
    rw [stands] at course
    cases course
    simpa [Note.stage?, List.filterMap_cons] using Course.baffled
  | run stands =>
    rw [stands] at course
    cases course
    simpa [Note.stage?, List.filterMap_cons] using Course.executing
  | fail stands | lateResult stands =>
    rw [stands] at course
    cases course
    simpa [Note.stage?, List.filterMap_cons] using Course.failed
  | succeed stands =>
    rw [stands] at course
    cases course
    simpa [Note.stage?, List.filterMap_cons] using Course.done
  | lateSchema stands =>
    rw [stands] at course
    cases course
    simpa [Note.stage?, List.filterMap_cons] using Course.unresolved
  | leave stands =>
    rw [stands] at course
    simpa [Note.stage?, List.filterMap_cons] using Course.dropped rfl course
  | drop stands waits =>
    rw [stands] at course
    obtain ⟨_, _, _, rfl⟩ | ⟨_, _, _, rfl⟩ := waits <;>
      simpa [Note.stage?, List.filterMap_cons] using Course.dropped rfl course

/-- A request is always on a course. -/
theorem course_after (rules : Rules) (new : r.requests t = none) (es : List Event) :
    Course ((r.after rules es).1.requests t) (passed t (told rules r es)) := by
  induction es using List.reverseRecOn with
  | nil =>
    rw [show (r.after rules []).1.requests t = none from new]
    exact .new
  | append_singleton es e ih =>
    rw [after_concat_fst, told_concat, passed, List.filterMap_append, ← List.cons_append]
    obtain ⟨c, p, notes, move, hstep⟩ | ⟨left, silent⟩ := moved_or_left rules (r.after rules es).1 t e
    · rw [hstep, put_requests_self]
      exact move.course ih
    · have nothing : ((r.after rules es).1.step rules e).2.filterMap (Note.stage? t) = [] := by
        refine List.filterMap_eq_nil_iff.mpr fun note among => ?_
        refine Option.eq_none_iff_forall_ne_some.mpr fun stage reached => ?_
        obtain rfl := Note.stage?_eq_some.mp reached
        exact silent _ among rfl
      rw [left, nothing, List.append_nil]
      exact ih

/-- Between the verdict and the call of the executor nothing comes. -/
theorem Move.executing_iff {c : Cache} (move : Move rules r t e c p notes) :
    .reached t .validated ∈ notes ↔ ∃ candidate, .executing t candidate ∈ notes := by
  cases move with
  | @stand _ _ _ s => cases s <;> simp [introspection]
  | _ => simp

theorem executing_iff (rules : Rules) (r : Run) (t : TaskId) (es : List Event) :
    .reached t .validated ∈ told rules r es ↔ ∃ candidate, .executing t candidate ∈ told rules r es := by
  induction es using List.reverseRecOn with
  | nil => simp [told, after]
  | append_singleton es e ih =>
    have last : .reached t .validated ∈ ((r.after rules es).1.step rules e).2 ↔
        ∃ candidate, .executing t candidate ∈ ((r.after rules es).1.step rules e).2 := by
      obtain ⟨c, p, notes, move, hstep⟩ | ⟨-, silent⟩ := moved_or_left rules (r.after rules es).1 t e
      · rw [hstep]
        exact move.executing_iff
      · refine iff_of_false (fun among => silent _ among rfl) ?_
        rintro ⟨candidate, among⟩
        exact silent _ among rfl
    simp only [told_concat, List.mem_append, ih, last, exists_or]

/-- A request that has not begun has not been asked. -/
theorem not_asked_of_new (new : (r.after rules es).1.requests t = none) (text : String) : .ask t text ∉ es := by
  induction es using List.reverseRecOn with
  | nil => nofun
  | append_singleton es e ih =>
    rw [after_concat_fst] at new
    obtain ⟨c, p, notes, -, hstep⟩ | ⟨left, -⟩ := moved_or_left rules (r.after rules es).1 t e
    · rw [hstep, put_requests_self] at new
      cases new
    · have before := left.symm.trans new
      intro among
      obtain among | among := List.mem_append.mp among
      · exact ih before among
      · obtain rfl := List.mem_singleton.mp among
        obtain ⟨c, p, notes, -, hstep⟩ := moves_ask rules before text
        rw [hstep, put_requests_self] at new
        cases new

/-- A request that ends in an input error was asked with a blank text. -/
theorem blank_of_inputError (new : r.requests t = none) {message : String}
    (ended : (r.after rules es).1.requests t = some (.ended (.inputError message))) :
    ∃ text, Asked es t text ∧ Text.trim text = "" := by
  obtain ⟨past, e, later, c, notes, rest, rfl, move, -, -⟩ := arrived new ended
  cases move with
  | @blank text new blank =>
    exact ⟨text, ⟨past, later, rfl, not_asked_of_new new⟩, Question.ofText?_eq_none.mp blank⟩

/-- A request that nobody has given up has not been dropped. -/
theorem not_dropped (new : r.requests t = none) (kept : .cancel t ∉ es) :
    (r.after rules es).1.requests t ≠ some .dropped := by
  intro dropped
  obtain ⟨past, e, later, c, notes, rest, rfl, move, -, -⟩ := arrived new dropped
  have given_up : e = .cancel t := move.dropped
  exact kept (by simp [given_up])

end Run

/-- What the stages say that a request has passed through, whatever has become of it. -/
structure Staged (last : Run) (notes : List Note) (t : TaskId) : Prop where
  first : (passed t notes).head? = some .start
  legal : (passed t notes).IsChain fun here next => here.canAdvance next = true
  validated : .validated ∈ passed t notes ↔ ∃ candidate, .executing t candidate ∈ notes
  rejected : .rejected ∈ passed t notes ↔ ∃ o, last.requests t = some (.ended o) ∧ o.isRefusal = true
  ahead : ∃ way, IsWay way ∧ passed t notes <+: way

/-- Nothing has crashed a request: the guard could judge its candidate, unless that was an alarm, and the clock
could say how long a snapshot is good. -/
structure Untroubled (rules : Rules) (last : Run) (notes : List Note) (t : TaskId) : Prop where
  guard : ∀ candidate, .replied t (.ok candidate) ∈ notes → Generator.isViolation candidate = false →
    ∃ v, Guard.inspect rules.dialect candidate = .ok v
  clock : ¬ (last.requests t = some (.broken Cache.clockOverflow) ∧
    Cache.expiry? last.now last.cache.life = none)

namespace Run

variable {rules : Rules} {r : Run} {t : TaskId} {es : List Event}

theorem staged (new : r.requests t = none) (es : List Event) :
    Staged (r.after rules es).1 (told rules r es) t := by
  have course := course_after rules new es
  obtain ⟨way, is_way, before⟩ := course.ahead
  refine ⟨rfl, is_way.legal.prefix before, ?_, course.rejected_iff, way, is_way, before⟩
  rw [← executing_iff, mem_passed]
  exact or_iff_right nofun

/-- A request about a question that is over and was not dropped has passed through a whole way exactly if
nothing has crashed it. -/
theorem isWay_iff (new : r.requests t = none) {p : Phase} (stands : (r.after rules es).1.requests t = some p)
    (isOver : p.isOver = true) (kept : p ≠ .dropped) (question : ∀ message, p ≠ .ended (.inputError message)) :
    IsWay (passed t (told rules r es)) ↔ Untroubled rules (r.after rules es).1 (told rules r es) t := by
  have course := course_after rules new es
  rw [stands] at course
  have life := (after_steady rules r es).1
  cases p with
  | resolving | generating | executing => cases isOver
  | dropped => exact absurd rfl kept
  | ended o =>
    refine iff_of_true (course.isWay_of_ended fun message same => question message (congrArg _ same)) ⟨?_, ?_⟩
    · intro candidate replied clean
      cases judged : Guard.inspect rules.dialect candidate with
      | ok v => exact ⟨v, rfl⟩
      | error message => cases stands.symm.trans (broken_of_baffled replied clean judged)
    · rintro ⟨broken, -⟩
      cases stands.symm.trans broken
  | broken message =>
    refine iff_of_false course.not_isWay_of_broken fun ⟨guard, clock⟩ => ?_
    obtain ⟨candidate, replied, clean, fault⟩ | ⟨rfl, ends⟩ := broken_because new stands
    · obtain ⟨v, fine⟩ := guard candidate replied clean
      cases fault.symm.trans fine
    · exact clock ⟨stands, life ▸ ends⟩

end Run
namespace Scenario

variable {opening s : Scenario} {t u : TaskId} {request : Request} {now : Moment} {e : Event} {text : String}

/-- What has happened so far is a run in which requests begin with the texts that they have in the scenario. -/
structure IsPlay (opening s : Scenario) : Prop where
  rules_eq : s.rules = opening.rules
  first_eq : s.first = opening.first
  texts_eq : s.texts = opening.texts
  run : ∃ es, s.run = (opening.run.after opening.rules es).1 ∧
    s.notes = opening.notes ++ Run.told opening.rules opening.run es ∧
    ∀ t text, .ask t text ∈ es → ∃ request, opening.texts[t - opening.first]? = some request ∧ request.text = text

theorem next_asks (next : s.next? now t request = some (.ask u text)) : u = t ∧ text = request.text := by
  unfold next? at next
  dsimp only at next
  split at next
  · cases next
    exact ⟨rfl, rfl⟩
  · split at next
    · cases next
    · split at next <;> cases next
  · cases next
  · split at next
    · cases next
    · rename_i due answered limit awaited
      obtain ⟨α, q, since, bound, event, awaits, rfl, rfl, -⟩ := awaited_spec awaited
      split at next
      · cases awaits <;> cases next
      · split at next
        · cases next
        · split at next <;> cases next

theorem IsPlay.happen (h : IsPlay opening s)
    (asks : ∀ t text, e = .ask t text →
      ∃ request, opening.texts[t - opening.first]? = some request ∧ request.text = text) :
    IsPlay opening (s.happen e) := by
  obtain ⟨es, run_eq, notes_eq, texts⟩ := h.run
  refine ⟨h.rules_eq, h.first_eq, h.texts_eq, es ++ [e], ?_, ?_, ?_⟩
  · rw [Run.after_concat_fst, ← run_eq, ← h.rules_eq]
    rfl
  · rw [Run.told_concat, ← run_eq, ← h.rules_eq, ← List.append_assoc, h.rules_eq, ← notes_eq, ← h.rules_eq]
    rfl
  · intro t text among
    obtain among | among := List.mem_append.mp among
    · exact texts t text among
    · exact asks t text (List.mem_singleton.mp among).symm

theorem IsPlay.proceed (given : opening.texts[t - opening.first]? = some request) (now : Moment) (bound : Nat)
    (woken : List TaskId) (h : IsPlay opening s) : IsPlay opening (proceed t request now bound s woken).1 := by
  induction bound generalizing s woken with
  | zero => exact h
  | succ bound ih =>
    rw [Scenario.proceed]
    split
    · exact h
    · rename_i e next
      refine ih _ (h.happen ?_)
      rintro u text rfl
      obtain ⟨rfl, rfl⟩ := next_asks next
      exact ⟨request, given, rfl⟩

theorem IsPlay.turn (h : IsPlay opening s) (now : Moment) (t : TaskId) : IsPlay opening (s.turn now t).state := by
  have later := h.happen (e := .pass (now - s.run.now)) nofun
  simp only [Scenario.turn]
  split
  · exact later
  · rename_i request given
    rw [later.texts_eq, later.first_eq] at given
    exact later.proceed given now 12 []

theorem isPlay_play (rules : Rules) (c : Collaborators) (r : Run) (first : TaskId) (requests : List Request) :
    IsPlay ⟨rules, c, r, [], r.now, first, requests⟩ (play rules c r first requests) := by
  let opening : Scenario := ⟨rules, c, r, [], r.now, first, requests⟩
  have opened : IsPlay opening opening := ⟨rfl, rfl, rfl, [], rfl, rfl, nofun⟩
  have played (n : Nat) : IsPlay opening ((Scenario.opened rules c r first requests).steps turn n).state :=
    Schedule.steps_keeps (P := IsPlay opening) (fun _ now t h => h.turn now t) n opened
  unfold play
  refine (played (24 * (requests.length + 1))).happen ?_
  nofun

end Scenario

/-- Whatever happens to a pipeline, and wherever a request about a question is given up, the stages that it has
passed through lie on a way through the table. They hold the approval exactly if the candidate was run, and the
refusal exactly if the request ended in one. Once it is over, and was not given up, they are a whole way to a
last stage exactly if nothing has crashed it. In a scenario that is played, every request whose caller waits comes
to that. -/
theorem stages_lie_on_a_way (rules : Rules) :
    (∀ r t es text, r.requests t = none → Asked es t text → Text.trim text ≠ "" →
      let last := (r.after rules es).1
      let notes := Run.told rules r es
      Staged last notes t ∧ ∀ p, last.requests t = some p → p.isOver = true → .cancel t ∉ es →
        (IsWay (passed t notes) ↔ Untroubled rules last notes t)) ∧
    ∀ c r first requests i request, r.Rests first → requests[i]? = some request → Text.trim request.text ≠ "" →
      let s := Scenario.play rules c r first requests
      Staged s.run s.notes (first + i) ∧ (request.patience = none →
        (IsWay (passed (first + i) s.notes) ↔ Untroubled rules s.run s.notes (first + i))) := by
  have begun : ∀ {r : Run} {t es text}, r.requests t = none → Asked es t text → Text.trim text ≠ "" →
      ∀ message, (r.after rules es).1.requests t ≠ some (.ended (.inputError message)) := by
    intro r t es text new asked question message ended
    obtain ⟨other, asked', blank⟩ := Run.blank_of_inputError new ended
    exact question (asked.unique asked' ▸ blank)
  refine ⟨?_, ?_⟩
  · intro r t es text new asked question last notes
    refine ⟨Run.staged new es, fun p stands isOver kept => ?_⟩
    refine Run.isWay_iff new stands isOver ?_ ?_
    · rintro rfl
      exact Run.not_dropped new kept stands
    · rintro message rfl
      exact begun new asked question message stands
  · intro c r first requests i request rests given question s
    have new : r.requests (first + i) = none := rests.fresh _ (Nat.le_add_right ..)
    obtain ⟨-, -, -, es, run_eq, notes_eq, texts⟩ := Scenario.isPlay_play rules c r first requests
    have run_eq : s.run = (r.after rules es).1 := run_eq
    have notes_eq : s.notes = Run.told rules r es := notes_eq
    obtain ⟨p, stands, isOver, waited⟩ := (Scenario.play_ends rules c rests requests).2 i request given
    have stands : s.run.requests (first + i) = some p := stands
    rw [run_eq] at stands
    rw [run_eq, notes_eq]
    refine ⟨Run.staged new es, fun patient => Run.isWay_iff new stands isOver (waited patient) ?_⟩
    rintro message rfl
    obtain ⟨text, ⟨before, after, split, -⟩, blank⟩ := Run.blank_of_inputError new stands
    obtain ⟨asked, named, rfl⟩ := texts (first + i) text (by simp [split])
    have named : requests[first + i - first]? = some asked := named
    rw [Nat.add_sub_cancel_left, given] at named
    cases named
    exact question blank

def answering (candidate : String) : Collaborators where
  introspect _ := ⟨some 5, .ok ⟨[], ⟨0, 0, 0⟩⟩⟩
  generate _ _ := ⟨some 7, .ok candidate⟩
  execute _ := ⟨some 2, .ok ⟨[], []⟩⟩

/-- One request is answered, and the caller of another gives up while the generator is at work. -/
theorem answered_beside_dropped :
    let rules : Rules := ⟨.sqlite, usualLimits⟩
    let s := Scenario.play rules (answering "SELECT 1") (Run.start 100 0) 0 [⟨"One?", none⟩, ⟨"Two?", some 8⟩]
    let last := ((Run.start 10 0).after rules Run.answeredRun).1
    let notes := Run.told rules (Run.start 10 0) Run.answeredRun
    (Untroubled rules s.run s.notes 0 ∧
      passed 0 s.notes = [.start, .schemaResolved, .generated, .validated, .executed, .completed]) ∧
    (Staged s.run s.notes 1 ∧ passed 1 s.notes = [.start, .schemaResolved]) ∧
    (∃ p, last.requests 1 = some p ∧ p.isOver = true) ∧ Untroubled rules last notes 1 := by
  intro rules s last notes
  obtain ⟨run, play⟩ := stages_lie_on_a_way rules
  have rests : (Run.start 100 0).Rests 0 := Run.rests_start 100 0 0
  have first : passed 0 s.notes = [.start, .schemaResolved, .generated, .validated, .executed, .completed] := by
    decide +kernel
  have second : passed 1 s.notes = [.start, .schemaResolved] := by decide +kernel
  have whole : IsWay (passed 1 notes) := by decide +kernel
  have finished : (last.requests 1).any Phase.isOver = true := by decide +kernel
  obtain ⟨p, stands, isOver⟩ := (Option.any_eq_true _ _).mp finished
  obtain ⟨-, answered⟩ := play _ _ 0 [⟨"One?", none⟩, ⟨"Two?", some 8⟩] 0 _ rests rfl (by decide)
  obtain ⟨given_up, -⟩ := play (answering "SELECT 1") _ 0 [⟨"One?", none⟩, ⟨"Two?", some 8⟩] 1 _ rests rfl (by decide)
  obtain ⟨-, untroubled⟩ := run (.start 10 0) 1 Run.answeredRun "One?" rfl ⟨[], _, rfl, nofun⟩ (by decide)
  refine ⟨⟨(answered rfl).mp ?_, first⟩, ⟨given_up, second⟩, ⟨p, stands, isOver⟩, ?_⟩
  · rw [Nat.add_zero]
    exact first ▸ (by decide)
  · exact (untroubled p stands isOver (by simp [Run.answeredRun, Run.plainRun])).mp whole

/-- A candidate over which the guard crashes leaves its request at a stage that is not the last. -/
theorem crash_stops_short :
    let s := Scenario.play ⟨.mysql, usualLimits⟩ (answering "SELECT a DIV") (Run.start 100 0) 0 [⟨"One?", none⟩]
    passed 0 s.notes = [.start, .schemaResolved, .generated] ∧ ¬ IsWay (passed 0 s.notes) := by
  intro s
  have path : passed 0 s.notes = [.start, .schemaResolved, .generated] := by decide +kernel
  exact ⟨path, by rw [path]; decide⟩

end QueryWarden.Pipeline
