import QueryWarden.Proofs.Guard.Acceptance
import QueryWarden.Proofs.Pipeline.Moves

/-! Nothing runs that was not cleared: what a request has executed is what its own generator call
returned, and the guard found it safe. It asks the generator once and executes once. -/
namespace QueryWarden.Pipeline
open Clock

def Note.isGeneration (t : TaskId) : Note → Bool
  | .generating u _ _ => u == t
  | _ => false

def Note.isExecution (t : TaskId) : Note → Bool
  | .executing u _ => u == t
  | _ => false

/-- The request asks the generator, has its answer, or has something executed. -/
def Note.isCall (t : TaskId) : Note → Bool
  | .generating u _ _ | .replied u _ | .executing u _ => u == t
  | _ => false

/-- What a request had to do with the generator and the executor, in order. -/
def callsOf (t : TaskId) (notes : List Note) : List Note := notes.filter (Note.isCall t)

@[simp] theorem callsOf_append (t : TaskId) (notes more : List Note) :
    callsOf t (notes ++ more) = callsOf t notes ++ callsOf t more := List.filter_append ..

def Asked (es : List Event) (t : TaskId) (text : String) : Prop :=
  ∃ before after, es = before ++ .ask t text :: after ∧ ∀ other, .ask t other ∉ before

theorem Asked.append {es : List Event} {t : TaskId} {text : String} (h : Asked es t text)
    (more : List Event) : Asked (es ++ more) t text := by
  obtain ⟨before, after, rfl, hfirst⟩ := h
  exact ⟨before, after ++ more, by simp, hfirst⟩

/-- A text may be executed: it does not report destructive intent, and the guard finds it safe. -/
def Cleared (rules : Rules) (candidate : String) : Prop :=
  ¬ Generator.sentinel.toList <:+: candidate.toList ∧ Guard.Accepts rules.dialect candidate

/-- The calls that a request can have made. -/
inductive Calls (rules : Rules) (t : TaskId) (question : String) : List Note → Prop where
  | none : Calls rules t question []
  | asked (schema : String) : Calls rules t question [.generating t question schema]
  | answered (schema : String) (answer : Except Failure String) :
      Calls rules t question [.generating t question schema, .replied t answer]
  | executed (schema candidate : String) (cleared : Cleared rules candidate) :
      Calls rules t question
        [.generating t question schema, .replied t (.ok candidate), .executing t candidate]

/-- The calls that a request has made where it stands now. -/
inductive Traced (rules : Rules) (t : TaskId) (question : String) : Phase → List Note → Prop where
  | resolving (s : Cache.Stand) : Traced rules t question (.resolving question s) []
  | generating (schema : String) (since : Moment) :
      Traced rules t question (.generating question schema since) [.generating t question schema]
  | executing (schema : String) {candidate : String} (since : Moment)
      (cleared : Cleared rules candidate) :
      Traced rules t question (.executing question candidate since)
        [.generating t question schema, .replied t (.ok candidate), .executing t candidate]
  | ended (outcome : Outcome) {calls : List Note} (made : Calls rules t question calls) :
      Traced rules t question (.ended outcome) calls
  | dropped {calls : List Note} (made : Calls rules t question calls) :
      Traced rules t question .dropped calls
  | broken (message : String) {calls : List Note} (made : Calls rules t question calls) :
      Traced rules t question (.broken message) calls

theorem Traced.calls {rules : Rules} {t : TaskId} {question : String} {p : Phase} {made : List Note}
    (h : Traced rules t question p made) : Calls rules t question made := by
  cases h with
  | resolving => exact .none
  | generating schema => exact .asked schema
  | executing schema since cleared => exact .executed schema _ cleared
  | ended _ made | dropped made | broken _ made => exact made

namespace Run

variable {rules : Rules} {r r' : Run} {t : TaskId} {e : Event} {c : Cache} {p : Phase}
  {notes calls : List Note} {question : String}

/-- A move leaves notes of the calls of its own request only. -/
theorem Move.others {u : TaskId} (h : Move rules r t e c p notes) (hu : u ≠ t) :
    callsOf u notes = [] := by
  cases h with
  | @stand _ _ _ s => cases s <;> simp [introspection, callsOf, Note.isCall]
  | _ => simp [callsOf, Note.isCall, Ne.symm hu]

def GoesOn (rules : Rules) (r : Run) (t : TaskId) (e : Event) (p : Phase) (calls : List Note) : Prop :=
  (r.requests t = none ∧ ∃ text, e = .ask t text ∧ Traced rules t text p calls) ∨
    ∃ before, r.requests t = some before ∧ (∀ u text, e ≠ .ask u text) ∧
      ∀ question made, Traced rules t question before made → Traced rules t question p (made ++ calls)

theorem OnTheWay.goesOn {x : Cache × Cache.Progress} (way : OnTheWay r t question e x)
    (h : Traced rules t question p calls) : GoesOn rules r t e p calls := by
  have on : ∀ {s : Cache.Stand}, r.requests t = some (.resolving question s) →
      (∀ u text, e ≠ .ask u text) → GoesOn rules r t e p calls := by
    intro s stands he
    refine .inr ⟨_, stands, he, ?_⟩
    intro question' made before
    cases before
    simpa using h
  cases way with
  | asks new => exact .inl ⟨new, question, rfl, h⟩
  | resumes waits => exact on waits nofun
  | introspected fetches => exact on fetches nofun
  | stores stores => exact on stores nofun

theorem Move.goesOn (h : Move rules r t e c p notes) : GoesOn rules r t e p (callsOf t notes) := by
  have asked : ∀ {question schema : String} {since : Moment},
      r.requests t = some (.generating question schema since) → (∀ u text, e ≠ .ask u text) →
      Traced rules t question p (.generating t question schema :: callsOf t notes) →
      GoesOn rules r t e p (callsOf t notes) := by
    intro question schema since stands he after
    refine .inr ⟨_, stands, he, ?_⟩
    intro question' made before
    cases before
    exact after
  have runs : ∀ {question candidate : String} {since : Moment},
      r.requests t = some (.executing question candidate since) → (∀ u text, e ≠ .ask u text) →
      callsOf t notes = [] →
      (∀ {question made}, Calls rules t question made → Traced rules t question p made) →
      GoesOn rules r t e p (callsOf t notes) := by
    intro question candidate since stands he none after
    refine .inr ⟨_, stands, he, ?_⟩
    intro question' made before
    rw [none, List.append_nil]
    exact after before.calls
  cases h with
  | blank new => exact .inl ⟨new, _, rfl, .ended _ .none⟩
  | @stand question _ _ s way =>
    apply way.goesOn
    cases s <;> exact .resolving _
  | ask way =>
    apply way.goesOn
    simpa [callsOf, Note.isCall] using Traced.generating _ _
  | unresolved way => exact way.goesOn (.ended _ .none)
  | overflow way => exact way.goesOn (.broken _ .none)
  | unanswered stands =>
    apply asked stands nofun
    simpa [callsOf, Note.isCall] using Traced.ended _ (.answered _ _)
  | alert stands =>
    apply asked stands nofun
    simpa [callsOf, Note.isCall] using Traced.ended _ (.answered _ _)
  | baffle stands =>
    apply asked stands nofun
    simpa [callsOf, Note.isCall] using Traced.broken _ (.answered _ _)
  | refuse stands =>
    apply asked stands nofun
    simpa [callsOf, Note.isCall] using Traced.ended _ (.answered _ _)
  | run stands clean verdict safe =>
    apply asked stands nofun
    have cleared : Cleared rules _ :=
      ⟨fun h => Bool.eq_false_iff.mp clean (Generator.isViolation_iff.mpr h), _, verdict, safe⟩
    simpa [callsOf, Note.isCall] using Traced.executing _ _ cleared
  | fail stands => exact runs stands nofun rfl (.ended _)
  | succeed stands => exact runs stands nofun rfl (.ended _)
  | lateResult stands => exact runs stands nofun rfl (.ended _)
  | lateReply stands => exact asked stands nofun (.ended _ (.asked _))
  | lateSchema stands =>
    refine .inr ⟨_, stands, nofun, ?_⟩
    intro question made before
    cases before
    exact .ended _ .none
  | leave stands =>
    refine .inr ⟨_, stands, nofun, ?_⟩
    intro question made before
    cases before
    exact .dropped .none
  | drop stands waits =>
    refine .inr ⟨_, stands, nofun, ?_⟩
    intro question made before
    rw [show callsOf t [.dropped t] = [] from rfl, List.append_nil]
    exact .dropped before.calls

def AllTraced (rules : Rules) (es : List Event) (notes : List Note) (r : Run) : Prop :=
  ∀ t, (r.requests t = none ∧ (∀ text, .ask t text ∉ es) ∧ callsOf t notes = []) ∨
    ∃ p question, r.requests t = some p ∧ Asked es t question ∧
      Traced rules t question p (callsOf t notes)

/-- An event that leaves a request alone leaves its trace as it is. -/
theorem AllTraced.untouched {es : List Event} {past more : List Note} (h : AllTraced rules es past r)
    (same : r'.requests t = r.requests t) (silent : callsOf t more = [])
    (known : ∀ text, e = .ask t text → r.requests t ≠ none) :
    (r'.requests t = none ∧ (∀ text, .ask t text ∉ es ++ [e]) ∧ callsOf t (past ++ more) = []) ∨
      ∃ p question, r'.requests t = some p ∧ Asked (es ++ [e]) t question ∧
        Traced rules t question p (callsOf t (past ++ more)) := by
  rw [callsOf_append, silent, List.append_nil, same]
  obtain ⟨new, unasked, none⟩ | ⟨p, question, stands, asked, traced⟩ := h t
  · refine .inl ⟨new, ?_, none⟩
    intro text hm
    obtain hm | hm := List.mem_append.mp hm
    · exact unasked text hm
    · exact known text (List.mem_singleton.mp hm).symm new
  · exact .inr ⟨p, question, stands, asked.append [e], traced⟩

theorem allTraced_step {es : List Event} {past : List Note} (h : AllTraced rules es past r)
    (e : Event) : AllTraced rules (es ++ [e]) (past ++ (r.step rules e).2) (r.step rules e).1 := by
  intro u
  generalize hr' : (r.step rules e).1 = r', hn : (r.step rules e).2 = notes
  have hs := step_spec rules r e
  rw [hr', hn] at hs
  clear hr' hn
  cases hs with
  | idle known => exact h.untouched rfl rfl (known u)
  | check | invalidate | pass => exact h.untouched rfl rfl nofun
  | @moves t _ c p _ move =>
    by_cases hu : u = t
    · subst hu
      rw [callsOf_append, show (put _ u p).requests u = some p by simp [put]]
      obtain ⟨new, text, rfl, traced⟩ | ⟨before, stands, he, on⟩ := move.goesOn
      · obtain ⟨-, unasked, none⟩ | ⟨p', _, stands, -⟩ := h u
        · rw [none, List.nil_append]
          exact .inr ⟨p, text, rfl, ⟨es, [], rfl, unasked⟩, traced⟩
        · rw [new] at stands
          cases stands
      · obtain ⟨new, -⟩ | ⟨p', question, stands', asked, traced⟩ := h u
        · rw [new] at stands
          cases stands
        · rw [stands] at stands'
          cases stands'
          exact .inr ⟨p, question, rfl, asked.append [e], on question _ traced⟩
    · refine h.untouched (by simp [put, hu]) (move.others hu) ?_
      rintro text rfl
      obtain ⟨-, text', he, -⟩ | ⟨_, _, he, -⟩ := move.goesOn
      · cases he
        exact absurd rfl hu
      · exact absurd rfl (he u text)

theorem allTraced_after (rules : Rules) (life : Duration) (now : Moment) (es : List Event) :
    AllTraced rules es (((start life now).after rules es).2.map (·.2))
      ((start life now).after rules es).1 :=
  after_keeps (I := AllTraced rules) (fun _ _ _ e h => allTraced_step h e) es [] []
    (fun _ => .inl ⟨rfl, by simp, rfl⟩)

theorem calls_of_run (rules : Rules) (life : Duration) (now : Moment) (es : List Event) (t : TaskId) :
    callsOf t (((start life now).after rules es).2.map (·.2)) = [] ∨
      ∃ question, Asked es t question ∧
        Calls rules t question (callsOf t (((start life now).after rules es).2.map (·.2))) := by
  obtain ⟨-, -, none⟩ | ⟨p, question, -, asked, traced⟩ := allTraced_after rules life now es t
  · exact .inl none
  · exact .inr ⟨question, asked, traced.calls⟩

theorem filter_callsOf {isKind : Note → Bool} (h : ∀ n, isKind n = true → Note.isCall t n = true)
    (notes : List Note) : (callsOf t notes).filter isKind = notes.filter isKind := by
  rw [callsOf, List.filter_filter]
  apply List.filter_congr
  intro n _
  cases hk : isKind n with
  | false => rfl
  | true => simp [h n hk]

theorem isCall_of_isGeneration (n : Note) (h : Note.isGeneration t n = true) :
    Note.isCall t n = true := by
  cases n <;> simp_all [Note.isGeneration, Note.isCall]

theorem isCall_of_isExecution (n : Note) (h : Note.isExecution t n = true) :
    Note.isCall t n = true := by
  cases n <;> simp_all [Note.isExecution, Note.isCall]

/-- In every run, whatever the executor is given belongs to one request, which began with a text, asked
the generator about that text, was answered with that very candidate, and had it cleared; every request
asks the generator at most once and has at most one candidate executed; and a check does neither. -/
theorem executed_only_if_cleared (rules : Rules) (life : Duration) (now : Moment) (es : List Event) :
    let notes := ((start life now).after rules es).2.map (·.2)
    (∀ t candidate, .executing t candidate ∈ notes →
      ¬ Generator.sentinel.toList <:+: candidate.toList ∧ Guard.Accepts rules.dialect candidate ∧
      ∃ question schema, Asked es t question ∧ callsOf t notes =
        [.generating t question schema, .replied t (.ok candidate), .executing t candidate]) ∧
    (∀ t, (notes.filter (Note.isGeneration t)).length ≤ 1 ∧
      (notes.filter (Note.isExecution t)).length ≤ 1) ∧
    ∀ sql, ((start life now).after rules es).1.step rules (.check sql) =
      (((start life now).after rules es).1, [.checked sql (Guard.inspect rules.dialect sql)]) := by
  intro notes
  refine ⟨?_, ?_, fun sql => rfl⟩
  · intro t candidate hm
    have hcall : .executing t candidate ∈ callsOf t notes :=
      List.mem_filter.mpr ⟨hm, by simp [Note.isCall]⟩
    obtain none | ⟨question, asked, made⟩ := calls_of_run rules life now es t
    · rw [show callsOf t notes = [] from none] at hcall
      cases hcall
    · change Calls rules t question (callsOf t notes) at made
      generalize callsOf t notes = calls at hcall made
      cases made with
      | executed schema other cleared =>
        have he : candidate = other := by simpa using hcall
        subst he
        exact ⟨cleared.1, cleared.2, question, schema, asked, rfl⟩
      | _ => simp at hcall
  · intro t
    rw [← filter_callsOf isCall_of_isGeneration, ← filter_callsOf isCall_of_isExecution]
    obtain none | ⟨question, -, made⟩ := calls_of_run rules life now es t
    · simp [show callsOf t notes = [] from none]
    · change Calls rules t question (callsOf t notes) at made
      generalize callsOf t notes = calls at made
      cases made <;> simp [List.filter, Note.isGeneration, Note.isExecution]

def plainRun : List Event :=
  [.ask 1 "One?", .introspected 1 (.ok ⟨[], ⟨0, 0, 0⟩⟩), .store 1, .generated 1 (.ok "SELECT 1")]

theorem plain_candidate_executed :
    ∃ question schema, Asked plainRun 1 question ∧
      callsOf 1 (((start 10 0).after ⟨.sqlite, usualLimits⟩ plainRun).2.map (·.2)) =
        [.generating 1 question schema, .replied 1 (.ok "SELECT 1"), .executing 1 "SELECT 1"] := by
  have runs : ((((start 10 0).after ⟨.sqlite, usualLimits⟩ plainRun).2.map (·.2)).any fun
      | .executing t candidate => t == 1 && candidate == "SELECT 1"
      | _ => false) = true := by
    decide +kernel
  obtain ⟨note, hm, hnote⟩ := List.any_eq_true.mp runs
  have executing : note = .executing 1 "SELECT 1" := by
    cases note <;> simp_all
  rw [executing] at hm
  exact ((executed_only_if_cleared _ _ _ _).1 1 "SELECT 1" hm).2.2

end Run
end QueryWarden.Pipeline
