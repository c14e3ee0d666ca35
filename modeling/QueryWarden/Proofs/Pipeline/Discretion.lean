import Mathlib.Data.List.Forall2
import QueryWarden.Pipeline.Service
import QueryWarden.Proofs.Scenarios

/-! What went wrong stays with the pipeline: two runs in which the same calls fail, for whatever reasons,
give their callers the same answers and make the same calls. Where a request stands never holds a failure,
so that the two runs are one run; only the notes of the generator's replies tell them apart. -/
namespace QueryWarden
open Clock

namespace Pipeline

/-- Both answers are the same success, or both are failures. -/
def SameSuccess {α : Type} (a b : Except Failure α) : Prop := a.toOption = b.toOption

theorem sameSuccess_error {α : Type} {f : Failure} {b : Except Failure α}
    (h : SameSuccess (.error f) b) : ∃ g, b = .error g := by
  cases b with
  | error g => exact ⟨g, rfl⟩
  | ok y => cases h

theorem sameSuccess_ok {α : Type} {x : α} {b : Except Failure α} (h : SameSuccess (.ok x) b) :
    b = .ok x := by
  cases b with
  | error g => cases h
  | ok y => cases h; rfl

/-- Both answers take the same time, and they are the same success or both failures. -/
def SamePaced {α : Type} (p q : Paced (Except Failure α)) : Prop :=
  p.delay = q.delay ∧ SameSuccess p.answer q.answer

/-- Two sets of collaborators that fail in the same calls, answer the others alike, and take the same
time for it. -/
structure Collaborators.Alike (c d : Collaborators) : Prop where
  introspect : ∀ n, SamePaced (c.introspect n) (d.introspect n)
  generate : ∀ question schema, SamePaced (c.generate question schema) (d.generate question schema)
  execute : ∀ candidate, SamePaced (c.execute candidate) (d.execute candidate)

/-- Two events that differ at most in what went wrong. -/
inductive Event.Alike : Event → Event → Prop where
  | same (e : Event) : Alike e e
  | introspected (t : TaskId) {a b : Except Failure Schema.Snapshot} (h : SameSuccess a b) :
      Alike (.introspected t a) (.introspected t b)
  | generated (t : TaskId) {a b : Except Failure String} (h : SameSuccess a b) :
      Alike (.generated t a) (.generated t b)
  | executed (t : TaskId) {a b : Except Failure ResultSet} (h : SameSuccess a b) :
      Alike (.executed t a) (.executed t b)

/-- All that is seen of a run but the generator's replies as they came in. -/
def Note.isShown : Note → Bool
  | .replied _ _ => false
  | _ => true

def Note.isCollaboration : Note → Bool
  | .introspecting _ _ | .generating _ _ _ | .executing _ _ => true
  | _ => false

def shown (notes : List Note) : List Note := notes.filter Note.isShown

@[simp] theorem shown_append (notes more : List Note) :
    shown (notes ++ more) = shown notes ++ shown more := List.filter_append ..

def collaborations (notes : List Note) : List Note := notes.filter Note.isCollaboration

theorem collaborations_shown (notes : List Note) :
    collaborations (shown notes) = collaborations notes := by
  rw [collaborations, shown, List.filter_filter]
  apply List.filter_congr
  intro n _
  cases n <;> rfl

namespace Run

variable {e e' : Event}

/-- An event leaves the run and the notes that another does which differs in what went wrong. -/
theorem step_alike (rules : Rules) (r : Run) (h : e.Alike e') :
    (r.step rules e).1 = (r.step rules e').1 ∧
      shown (r.step rules e).2 = shown (r.step rules e').2 := by
  cases h with
  | same => exact ⟨rfl, rfl⟩
  | @introspected t a b h =>
    cases a with
    | ok snapshot => rw [sameSuccess_ok h]; exact ⟨rfl, rfl⟩
    | error f =>
      obtain ⟨g, rfl⟩ := sameSuccess_error h
      simp only [step]
      split <;> exact ⟨rfl, rfl⟩
  | @generated t a b h =>
    cases a with
    | ok candidate => rw [sameSuccess_ok h]; exact ⟨rfl, rfl⟩
    | error f =>
      obtain ⟨g, rfl⟩ := sameSuccess_error h
      simp only [step]
      split <;> exact ⟨rfl, rfl⟩
  | @executed t a b h =>
    cases a with
    | ok result => rw [sameSuccess_ok h]; exact ⟨rfl, rfl⟩
    | error f =>
      obtain ⟨g, rfl⟩ := sameSuccess_error h
      exact ⟨rfl, rfl⟩

theorem after_alike (rules : Rules) (r : Run) {es es' : List Event}
    (h : List.Forall₂ Event.Alike es es') :
    (r.after rules es).1 = (r.after rules es').1 ∧
      (r.after rules es).2.filter (·.2.isShown) = (r.after rules es').2.filter (·.2.isShown) := by
  induction h generalizing r with
  | nil => exact ⟨rfl, rfl⟩
  | cons first _ ih =>
    obtain ⟨run, notes⟩ := step_alike rules r first
    obtain ⟨last, later⟩ := ih (r.step rules _).1
    have stamped : ∀ ns : List Note, (ns.map (r.now, ·)).filter (·.2.isShown) =
        (shown ns).map (r.now, ·) := fun ns => List.filter_map ..
    simp only [after, List.filter_append, stamped, notes]
    rw [run] at last later
    rw [← run, run]
    exact ⟨last, by rw [later]⟩

end Run

namespace Scenario

variable {s s' : Scenario}

/-- Two scenarios under way that have gone the same way so far, with collaborators that are alike. -/
structure Alike (s s' : Scenario) : Prop where
  rules : s.rules = s'.rules
  collaborators : s.collaborators.Alike s'.collaborators
  run : s.run = s'.run
  notes : shown s.notes = shown s'.notes
  origin : s.origin = s'.origin
  first : s.first = s'.first
  texts : s.texts = s'.texts

inductive SameWait : Option Moment × Event × Moment → Option Moment × Event × Moment → Prop where
  | mk (due : Option Moment) {e e' : Event} (events : e.Alike e') (limit : Moment) :
      SameWait (due, e, limit) (due, e', limit)

theorem Alike.happen (h : Alike s s') {e e' : Event} (events : e.Alike e') :
    Alike (s.happen e) (s'.happen e') := by
  obtain ⟨run, notes⟩ := Run.step_alike s.rules s.run events
  refine ⟨h.rules, h.collaborators, ?_, ?_, h.origin, h.first, h.texts⟩
  · simpa only [Scenario.happen, ← h.rules, ← h.run] using run
  · simp only [Scenario.happen, shown_append, ← h.rules, ← h.run, h.notes, notes]

theorem Alike.awaited (h : Alike s s') (t : TaskId) :
    Option.Rel SameWait (s.awaited? t) (s'.awaited? t) := by
  have wait : ∀ {α : Type} {p q : Paced (Except Failure α)} (since limit : Moment) {e e' : Event},
      SamePaced p q → e.Alike e' → SameWait (p.due? since, e, limit) (q.due? since, e', limit) := by
    intro α p q since limit e e' same events
    rw [Paced.due?, Paced.due?, same.1]
    exact .mk _ events _
  unfold awaited?
  rw [← h.run, ← h.rules]
  cases s.run.requests t with
  | none => exact .none
  | some p =>
    cases p with
    | resolving question stand =>
      cases stand with
      | fetching n since =>
        have same := h.collaborators.introspect n
        exact .some (wait since _ same (.introspected t same.2))
      | waiting | storing => exact .none
    | generating question schema since =>
      have same := h.collaborators.generate question schema
      exact .some (wait since _ same (.generated t same.2))
    | executing question candidate since =>
      have same := h.collaborators.execute candidate
      exact .some (wait since _ same (.executed t same.2))
    | ended | dropped | broken => exact .none

theorem Alike.alarms (h : Alike s s') (t : TaskId) (request : Request) :
    s.alarms t request = s'.alarms t request := by
  have cancelled : s.cancelled? request = s'.cancelled? request := by
    rw [cancelled?, cancelled?, h.origin]
  have awaited := h.awaited t
  unfold Scenario.alarms
  rw [← h.run, ← cancelled]
  generalize s.awaited? t = a, s'.awaited? t = b at awaited
  cases awaited with
  | none => rfl
  | some same =>
    cases same
    rfl

theorem Alike.next (h : Alike s s') (now : Moment) (t : TaskId) (request : Request) :
    Option.Rel Event.Alike (s.next? now t request) (s'.next? now t request) := by
  have cancelled : s.cancelled? request = s'.cancelled? request := by
    rw [cancelled?, cancelled?, h.origin]
  have same : ∀ e : Option Event, Option.Rel Event.Alike e e := by
    intro e
    cases e with
    | none => exact .none
    | some e => exact .some (.same e)
  have awaited := h.awaited t
  unfold next?
  rw [← h.run, ← cancelled]
  generalize s.awaited? t = a, s'.awaited? t = b at awaited
  dsimp only
  split
  · exact same _
  · exact same _
  · exact same _
  · cases awaited with
    | none => exact .none
    | some wait =>
      obtain ⟨due, events, limit⟩ := wait
      dsimp only
      split
      · exact .some events
      · exact same _

theorem Alike.proceed (h : Alike s s') (t : TaskId) (request : Request) (now : Moment) (bound : Nat)
    (woken : List TaskId) :
    Alike (proceed t request now bound s woken).1 (proceed t request now bound s' woken).1 ∧
      (proceed t request now bound s woken).2 = (proceed t request now bound s' woken).2 := by
  induction bound generalizing s s' woken with
  | zero => exact ⟨h, rfl⟩
  | succ bound ih =>
    have next := h.next now t request
    rw [Scenario.proceed, Scenario.proceed]
    generalize s.next? now t request = a, s'.next? now t request = b at next
    cases next with
    | none => exact ⟨h, rfl⟩
    | @some e e' events =>
      have after := h.happen events
      simp only [← after.run, ← h.run]
      exact ih after _

theorem Alike.turn (h : Alike s s') (now : Moment) (t : TaskId) :
    Alike (s.turn now t).state (s'.turn now t).state ∧
      (s.turn now t).wakes = (s'.turn now t).wakes ∧
      (s.turn now t).alarms = (s'.turn now t).alarms := by
  have later := h.happen (.same (.pass (now - s.run.now)))
  simp only [Scenario.turn]
  rw [← h.run, ← later.texts, ← later.first]
  generalize s.happen (.pass (now - s.run.now)) = u, s'.happen (.pass (now - s.run.now)) = u' at later
  split
  · exact ⟨later, rfl, rfl⟩
  · rename_i request _
    obtain ⟨state, wakes⟩ := later.proceed t request now 12 []
    exact ⟨state, wakes, state.alarms t request⟩

theorem play_alike (rules : Rules) {c d : Collaborators} (h : c.Alike d) (r : Run) (first : TaskId)
    (requests : List Request) : Alike (play rules c r first requests) (play rules d r first requests) := by
  have opening : Schedule.Related Alike
      ⟨⟨rules, c, r, [], r.now, first, requests⟩, r.now,
        (List.range requests.length).map (first + ·), []⟩
      ⟨⟨rules, d, r, [], r.now, first, requests⟩, r.now,
        (List.range requests.length).map (first + ·), []⟩ :=
    ⟨⟨rfl, h, rfl, rfl, rfl, rfl, rfl⟩, rfl, rfl, rfl⟩
  obtain ⟨state, now, -, -⟩ := Schedule.steps_related (fun _ _ now t h => Alike.turn h now t)
    (24 * (requests.length + 1)) opening
  simp only [play, now, state.run]
  exact state.happen (.same _)

end Scenario
end Pipeline

namespace Mcp

variable {σ : Type} {b b' : Backend σ} {R : σ → σ → Prop} {s s' : σ}

structure Backend.SameAnswers (R : σ → σ → Prop) (b b' : Backend σ) : Prop where
  ask : ∀ s s' text, R s s' → R (b.ask s text).1 (b'.ask s' text).1 ∧
    (b.ask s text).2 = (b'.ask s' text).2
  check : ∀ s s' sql, R s s' → b.check s sql = b'.check s' sql

theorem Backend.SameAnswers.meet (h : Backend.SameAnswers R b b') (states : R s s') (r : Request) :
    R (meet b s r).1 (meet b' s' r).1 ∧ (meet b s r).2 = (meet b' s' r).2 := by
  unfold Mcp.meet callTool
  split
  · exact ⟨states, rfl⟩
  split
  · exact ⟨states, rfl⟩
  split
  · exact ⟨states, rfl⟩
  split
  · split
    · exact ⟨states, rfl⟩
    · rename_i text _
      obtain ⟨later, same⟩ := h.ask s s' text states
      exact ⟨later, congrArg (Except.map _) same⟩
    · rename_i sql _
      exact ⟨states, by rw [h.check s s' sql states]⟩
  · exact ⟨states, rfl⟩

theorem Backend.SameAnswers.answerLine (h : Backend.SameAnswers R b b') (states : R s s') (line : String) :
    R (answerLine b s line).1 (answerLine b' s' line).1 ∧
      (answerLine b s line).2 = (answerLine b' s' line).2 := by
  unfold Mcp.answerLine
  split
  · exact ⟨states, rfl⟩
  · dsimp only
    split
    · exact ⟨states, rfl⟩
    · rename_i r _
      obtain ⟨later, same⟩ := h.meet states r
      exact ⟨later, by rw [same]⟩

/-- Backends with the same answers write the same lines, and their sessions end alike. -/
theorem Backend.SameAnswers.serveLines (h : Backend.SameAnswers R b b') (states : R s s')
    (lines : List (List UInt8)) :
    R (serveLines b s lines).state (serveLines b' s' lines).state ∧
      (serveLines b s lines).lines = (serveLines b' s' lines).lines ∧
      (serveLines b s lines).ending = (serveLines b' s' lines).ending := by
  induction lines generalizing s s' with
  | nil => exact ⟨states, rfl, rfl⟩
  | cons line rest ih =>
    rw [Mcp.serveLines, Mcp.serveLines]
    cases Text.Utf8.decode line with
    | error fault => exact ⟨states, rfl, rfl⟩
    | ok chars =>
      obtain ⟨later, same⟩ := h.answerLine states (String.ofList (withoutLineEnd chars))
      dsimp only
      generalize Mcp.answerLine b s _ = x, Mcp.answerLine b' s' _ = y at later same
      obtain ⟨next, written⟩ := x
      obtain ⟨next', written'⟩ := y
      cases same
      cases written with
      | error message => exact ⟨later, rfl, rfl⟩
      | ok text =>
        obtain ⟨last, lines, ending⟩ := ih later
        exact ⟨last, congrArg (text.toList ++ ·) lines, ending⟩

end Mcp

namespace Pipeline

/-- An outcome as a caller gets it: with the text and the class of its response, and its exit code. -/
structure Shown where
  outcome : Outcome
  body : String
  responseClass : ResponseClass
  exitCode : Nat

def Outcome.shown (o : Outcome) : Shown :=
  ⟨o, o.response.body.toJson.compact, o.response.responseClass, o.response.responseClass.exitCode⟩

namespace Service

/-- What is done with a pipeline in service: requests are handled, one or several at once, the cache is
invalidated, time passes, or a session is held over an input. -/
inductive Act where
  | handle (requests : List Request)
  | invalidate
  | advance (time : Duration)
  | converse (input : List UInt8)

/-- What is seen of it: what requests came to, or the lines of a session and how it ended. -/
inductive Sight where
  | nothing
  | answers (ends : List (Except String Shown))
  | lines (written : List String) (ending : Mcp.Ending)

def act (rules : Rules) (c : Collaborators) (s : Service) : Act → Service × Sight
  | .handle requests =>
    let (s, ends) := s.handleAll rules c requests
    (s, .answers (ends.map fun p => (outcomeOf p).map Outcome.shown))
  | .invalidate => ({ s with run := (s.run.step rules .invalidate).1 }, .nothing)
  | .advance time => ({ s with run := (s.run.step rules (.pass time)).1 }, .nothing)
  | .converse input =>
    let t := Mcp.serve (backend rules c) s input
    (t.state, .lines t.lines t.ending)

def acts (rules : Rules) (s : Service) : List (Collaborators × Act) → Service × List Sight
  | [] => (s, [])
  | (c, a) :: rest =>
    let (next, sight) := s.act rules c a
    let (last, later) := next.acts rules rest
    (last, sight :: later)

/-- Two services to which the same has happened. -/
structure Alike (s s' : Service) : Prop where
  run : s.run = s'.run
  requests : s.requests = s'.requests
  notes : shown s.notes = shown s'.notes

variable {s s' : Service} {c d : Collaborators}

theorem Alike.handleAll (h : Alike s s') (rules : Rules) (alike : c.Alike d) (requests : List Request) :
    Alike (s.handleAll rules c requests).1 (s'.handleAll rules d requests).1 ∧
      (s.handleAll rules c requests).2 = (s'.handleAll rules d requests).2 := by
  have played := Scenario.play_alike rules alike s.run s.requests requests
  have ends : ∀ p q : Scenario, Scenario.Alike p q → p.ends = q.ends := by
    intro p q same
    rw [Scenario.ends, Scenario.ends, same.texts, same.run, same.first]
  simp only [Service.handleAll, ← h.run, ← h.requests]
  refine ⟨⟨played.run, rfl, ?_⟩, ends _ _ played⟩
  simp only [shown_append, h.notes, played.notes]

theorem sameAnswers_backend (rules : Rules) (alike : c.Alike d) :
    Mcp.Backend.SameAnswers Alike (backend rules c) (backend rules d) where
  ask s s' text h := by
    obtain ⟨later, ends⟩ := h.handleAll rules alike [⟨text, none⟩]
    refine ⟨later, ?_⟩
    simp only [backend, handle, ends]
  check _ _ _ _ := rfl

theorem Alike.act (h : Alike s s') (rules : Rules) (alike : c.Alike d) (a : Act) :
    Alike (s.act rules c a).1 (s'.act rules d a).1 ∧ (s.act rules c a).2 = (s'.act rules d a).2 := by
  cases a with
  | handle requests =>
    obtain ⟨later, ends⟩ := h.handleAll rules alike requests
    exact ⟨later, by simp only [Service.act, ends]⟩
  | invalidate | advance =>
    refine ⟨⟨?_, h.requests, h.notes⟩, rfl⟩
    simp only [Service.act, h.run]
  | converse input =>
    obtain ⟨later, lines, ending⟩ :=
      (sameAnswers_backend rules alike).serveLines h (Mcp.rawLines input)
    refine ⟨later, ?_⟩
    simp only [Service.act, Mcp.serve, lines, ending]

theorem Alike.acts (h : Alike s s') (rules : Rules) {history history' : List (Collaborators × Act)}
    (same : List.Forall₂ (fun x y => x.1.Alike y.1 ∧ x.2 = y.2) history history') :
    Alike (s.acts rules history).1 (s'.acts rules history').1 ∧
      (s.acts rules history).2 = (s'.acts rules history').2 := by
  induction same generalizing s s' with
  | nil => exact ⟨h, rfl⟩
  | @cons x y _ _ first _ ih =>
    obtain ⟨c, a⟩ := x
    obtain ⟨d, b⟩ := y
    obtain ⟨alike, rfl⟩ := first
    obtain ⟨next, sight⟩ := h.act rules alike a
    obtain ⟨last, later⟩ := ih next
    simp only [Service.acts, sight, later]
    exact ⟨last, trivial⟩

/-- Whatever goes wrong, nobody can tell what it was. A run in which other failures come back from the same
calls, with any turns and any crowd of requests, has every request stand where it stands in the first, and
leaves the same notes at the same moments but for the generator's replies. A pipeline in service whose
collaborators fail in other ways, but in the same calls and in the same time, gives the same outcomes, with
the same bodies, classes and exit codes, writes the same lines, and calls its collaborators alike. -/
theorem failures_never_show (rules : Rules) :
    (∀ (r : Run) (es es' : List Event), List.Forall₂ Event.Alike es es' →
      (r.after rules es).1 = (r.after rules es').1 ∧
      (r.after rules es).2.filter (·.2.isShown) = (r.after rules es').2.filter (·.2.isShown)) ∧
    ∀ (s : Service) (history history' : List (Collaborators × Act)),
      List.Forall₂ (fun x y => x.1.Alike y.1 ∧ x.2 = y.2) history history' →
      (s.acts rules history).2 = (s.acts rules history').2 ∧
      collaborations (s.acts rules history).1.notes = collaborations (s.acts rules history').1.notes := by
  refine ⟨fun r es es' => Run.after_alike rules r, ?_⟩
  intro s history history' same
  obtain ⟨last, sights⟩ := (Alike.acts ⟨rfl, rfl, rfl⟩ rules same : Alike _ _ ∧ _)
  refine ⟨sights, ?_⟩
  rw [← collaborations_shown, last.notes, collaborations_shown]

def failing (f : Failure) : Collaborators where
  introspect _ := ⟨some 5, .error f⟩
  generate _ _ := ⟨none, .error f⟩
  execute _ := ⟨some 2, .error f⟩

theorem failing_alike (f g : Failure) : (failing f).Alike (failing g) :=
  ⟨fun _ => ⟨rfl, rfl⟩, fun _ _ => ⟨rfl, rfl⟩, fun _ => ⟨rfl, rfl⟩⟩

theorem two_faults_look_alike :
    let events (f : Failure) : List Event := [.ask 0 "One?", .introspected 0 (.error f)]
    let ended (f : Failure) := ((Run.start 10 0).after ⟨.sqlite, usualLimits⟩ (events f)).1
    let history (f : Failure) := [(failing f, Act.handle [⟨"One?", none⟩, ⟨"Two?", some 3⟩]),
      (failing f, Act.converse [123, 10])]
    (ended (.connection "file db-7 is locked")).requests 0 = some (.ended .executionError) ∧
    ended (.connection "file db-7 is locked") = ended (.timeout "too slow") ∧
    ((start 10).acts ⟨.sqlite, usualLimits⟩ (history (.connection "file db-7 is locked"))).2 =
      ((start 10).acts ⟨.sqlite, usualLimits⟩ (history (.timeout "too slow"))).2 := by
  intro events ended history
  obtain ⟨runs, services⟩ := failures_never_show ⟨.sqlite, usualLimits⟩
  refine ⟨rfl, (runs _ _ _ ?_).1, (services (start 10) _ _ ?_).1⟩
  · exact .cons (.same _) (.cons (.introspected 0 rfl) .nil)
  · exact .cons ⟨failing_alike _ _, rfl⟩ (.cons ⟨failing_alike _ _, rfl⟩ .nil)

end Service
end Pipeline
end QueryWarden
