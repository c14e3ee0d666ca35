import QueryWarden.Proofs.Pipeline.Arrival
import QueryWarden.Proofs.Pipeline.Clearance
import QueryWarden.Proofs.Text.Blank

/-! What the outcome of a request says, and what it can be told from: which of the collaborators were
called, what reached the request of their answers, and what the guard found. Each outcome stands for one
way through the pipeline, in both directions. -/
namespace QueryWarden

namespace Pipeline
open Clock

theorem Question.ofText?_eq_none {text : String} : ofText? text = none ↔ Text.trim text = "" := by
  rw [Text.trim_eq_empty, ofText?]
  split <;> simp_all

theorem Asked.unique {es : List Event} {t : TaskId} {text other : String} (h : Asked es t text)
    (h' : Asked es t other) : text = other := by
  obtain ⟨before, after, rfl, first⟩ := h
  obtain ⟨before', after', split, first'⟩ := h'
  obtain ⟨between, rfl, hb⟩ | ⟨between, rfl, hb⟩ := List.append_eq_append_iff.mp split
  · cases between with
    | nil => cases hb; rfl
    | cons e between =>
      cases hb
      exact absurd (by simp) (first' text)
  · cases between with
    | nil => cases hb; rfl
    | cons e between =>
      cases hb
      exact absurd (by simp) (first other)

namespace Run

variable {rules : Rules} {r : Run} {t : TaskId} {e : Event} {p : Phase} {notes : List Note}
  {es past later : List Event} {text : String}

section Reached
variable (rules : Rules) (r : Run) (es : List Event) (t : TaskId)

def Met (p : Phase) (e : Event) : Prop :=
  ∃ past later, es = past ++ e :: later ∧ (r.after rules past).1.requests t = some p

/-- A request gave up waiting where it stood, for its time was up. -/
def TimedOut (p : Phase) : Prop :=
  ∃ past later limit, es = past ++ .expire t :: later ∧ (r.after rules past).1.requests t = some p ∧
    p.deadline? rules = some limit ∧ limit ≤ (r.after rules past).1.now

/-- The generator's answer about a text reached the request in time. -/
def Replied (text : String) (answer : Except Failure String) : Prop :=
  ∃ schema since, Met rules r es t (.generating text schema since) (.generated t answer)

/-- What came of running a candidate reached the request in time. -/
def Returned (text candidate : String) (answer : Except Failure ResultSet) : Prop :=
  ∃ since, Met rules r es t (.executing text candidate since) (.executed t answer)

/-- The schema could not be had, or not in time. -/
def Unresolved (text : String) : Prop :=
  ∃ n since, (∃ f, Met rules r es t (.resolving text (.fetching n since)) (.introspected t (.error f))) ∨
    TimedOut rules r es t (.resolving text (.fetching n since))

def Unanswered (text : String) : Prop :=
  (∃ f, Replied rules r es t text (.error f)) ∨
    ∃ schema since, TimedOut rules r es t (.generating text schema since)

def Unreturned (text candidate : String) : Prop :=
  (∃ f, Returned rules r es t text candidate (.error f)) ∨
    ∃ since, TimedOut rules r es t (.executing text candidate since)

/-- What led a request about a text to its outcome. -/
inductive Account (text : String) : Outcome → Prop where
  | blank (h : Question.ofText? text = none) : Account text (.inputError emptyQuestionMessage)
  | unresolved (h : Unresolved rules r es t text) : Account text .executionError
  | unanswered (h : Unanswered rules r es t text) : Account text .executionError
  | alert {candidate : String} (replied : Replied rules r es t text (.ok candidate))
      (violation : Generator.isViolation candidate = true) :
      Account text (.securityAlert securityAlertMessage)
  | refused {candidate : String} {v : Guard.Verdict} (replied : Replied rules r es t text (.ok candidate))
      (clean : Generator.isViolation candidate = false)
      (verdict : Guard.inspect rules.dialect candidate = .ok v) (refused : v.safe = false) :
      Account text (.rejected text candidate (v.reason.getD "") v.kind)
  | failed {candidate : String} (replied : Replied rules r es t text (.ok candidate))
      (cleared : Cleared rules candidate) (h : Unreturned rules r es t text candidate) :
      Account text .executionError
  | done {candidate : String} {result : ResultSet} (replied : Replied rules r es t text (.ok candidate))
      (cleared : Cleared rules candidate) (h : Returned rules r es t text candidate (.ok result)) :
      Account text (.success text candidate result)

end Reached

theorem Met.append (h : Met rules r es t p e) (more : List Event) : Met rules r (es ++ more) t p e := by
  obtain ⟨past, later, rfl, stands⟩ := h
  exact ⟨past, later ++ more, by simp, stands⟩

variable {life : Duration} {now : Moment}

/-- What a request has called, at any moment, is traced by where it stands. -/
theorem traced_at (asked : Asked es t text) {more : List Event} (split : es = past ++ more)
    (stands : ((start life now).after rules past).1.requests t = some p) :
    Traced rules t text p (callsOf t (told rules (start life now) past)) := by
  obtain ⟨new, -⟩ | ⟨p', question, stands', asked', traced⟩ := allTraced_after rules life now past t
  · cases new.symm.trans stands
  · cases stands.symm.trans stands'
    rw [asked.unique (split ▸ asked'.append more)]
    exact traced

theorem resolving_traced (asked : Asked es t text) {more : List Event} (split : es = past ++ more)
    {question : String} {s : Cache.Stand}
    (stands : ((start life now).after rules past).1.requests t = some (.resolving question s)) :
    question = text ∧ callsOf t (told rules (start life now) past) = [] := by
  have traced := traced_at asked split stands
  generalize callsOf t (told rules (start life now) past) = calls at traced ⊢
  cases traced
  exact ⟨rfl, rfl⟩

theorem generating_traced (asked : Asked es t text) {more : List Event} (split : es = past ++ more)
    {question schema : String} {since : Moment}
    (stands : ((start life now).after rules past).1.requests t = some (.generating question schema since)) :
    question = text ∧
      callsOf t (told rules (start life now) past) = [.generating t text schema] := by
  have traced := traced_at asked split stands
  generalize callsOf t (told rules (start life now) past) = calls at traced ⊢
  cases traced
  exact ⟨rfl, rfl⟩

theorem executing_traced (asked : Asked es t text) {more : List Event} (split : es = past ++ more)
    {question candidate : String} {since : Moment}
    (stands : ((start life now).after rules past).1.requests t =
      some (.executing question candidate since)) :
    question = text ∧ ∃ schema, callsOf t (told rules (start life now) past) =
      [.generating t text schema, .replied t (.ok candidate), .executing t candidate] := by
  have traced := traced_at asked split stands
  generalize callsOf t (told rules (start life now) past) = calls at traced ⊢
  cases traced with
  | executing schema => exact ⟨rfl, schema, rfl⟩

/-- A request runs its candidate because the generator gave it and the guard cleared it. -/
theorem replied_of_executing (asked : Asked es t text) {more : List Event} (split : es = past ++ more)
    {candidate question : String} {since : Moment}
    (stands : ((start life now).after rules past).1.requests t =
      some (.executing question candidate since)) :
    Replied rules (start life now) es t text (.ok candidate) ∧ Cleared rules candidate := by
  obtain ⟨past', e, later, c, notes, rest, rfl, move, -, -⟩ := arrived rfl stands
  cases move with
  | @run _ schema _ since' v generating clean verdict safe =>
    obtain ⟨rfl, -⟩ := generating_traced asked (by rw [split, List.append_assoc]) generating
    refine ⟨⟨schema, since', past', later ++ more, by simp [split], generating⟩, ?_, v, verdict, safe⟩
    exact fun h => Bool.eq_false_iff.mp clean (Generator.isViolation_iff.mpr h)

/-! What ends a request, and with which calls. -/

theorem callsOf_eq_nil (h : ∀ note ∈ notes, note.request? ≠ some t) : callsOf t notes = [] := by
  rw [callsOf, List.filter_eq_nil_iff]
  intro note hn call
  apply h note hn
  cases note <;> simp_all [Note.isCall, Note.request?]

def EndsAs (rules : Rules) (r : Run) (es : List Event) (t : TaskId) (o : Outcome)
    (calls : List Note) : Prop :=
  (r.after rules es).1.requests t = some (.ended o) ∧ callsOf t (told rules r es) = calls

theorem endsAs {o : Outcome} (made more : List Note) (split : es = past ++ e :: later)
    (before : callsOf t (told rules r past) = made)
    (brought : ((r.after rules past).1.step rules e).1.requests t = some (.ended o))
    (last : callsOf t ((r.after rules past).1.step rules e).2 = more) :
    EndsAs rules r es t o (made ++ more) := by
  refine ⟨ends_with split rfl brought, ?_⟩
  rw [split, told_split, callsOf_append, callsOf_append, before, last,
    callsOf_eq_nil (over_silent brought rfl rules later), List.append_nil]

theorem EndsAs.eq {o o' : Outcome} {calls : List Note} (h : EndsAs rules r es t o' calls)
    (ended : (r.after rules es).1.requests t = some (.ended o)) :
    o = o' ∧ callsOf t (told rules r es) = calls := by
  obtain ⟨ended', made⟩ := h
  cases ended.symm.trans ended'
  exact ⟨rfl, made⟩

theorem unresolved_ends (asked : Asked es t text) (h : Unresolved rules (start life now) es t text) :
    EndsAs rules (start life now) es t .executionError [] := by
  obtain ⟨n, since, ⟨f, past, later, split, stands⟩ |
    ⟨past, later, limit, split, stands, ⟨⟩, late⟩⟩ := h
  · apply endsAs [] [] split (resolving_traced asked split stands).2 <;>
      simp [step, stands, resolve, Cache.fetched, finish, callsOf, Note.isCall]
  · apply endsAs [] [] split (resolving_traced asked split stands).2 <;>
      simp [step, stands, late, finish, callsOf, Note.isCall]

theorem unanswered_ends (asked : Asked es t text) (h : Unanswered rules (start life now) es t text) :
    ∃ schema, EndsAs rules (start life now) es t .executionError [.generating t text schema] ∨
      ∃ f, EndsAs rules (start life now) es t .executionError
        [.generating t text schema, .replied t (.error f)] := by
  obtain ⟨f, schema, since, past, later, split, stands⟩ |
    ⟨schema, since, past, later, limit, split, stands, ⟨⟩, late⟩ := h
  · refine ⟨schema, .inr ⟨f, ?_⟩⟩
    apply endsAs [.generating t text schema] [.replied t (.error f)] split
        (generating_traced asked split stands).2 <;>
      simp [step, stands, finish, callsOf, Note.isCall]
  · refine ⟨schema, .inl ?_⟩
    apply endsAs [.generating t text schema] [] split (generating_traced asked split stands).2 <;>
      simp [step, stands, late, finish, callsOf, Note.isCall]

theorem alert_ends (asked : Asked es t text) {candidate : String}
    (replied : Replied rules (start life now) es t text (.ok candidate))
    (violation : Generator.isViolation candidate = true) :
    ∃ schema, EndsAs rules (start life now) es t (.securityAlert securityAlertMessage)
      [.generating t text schema, .replied t (.ok candidate)] := by
  obtain ⟨schema, since, past, later, split, stands⟩ := replied
  refine ⟨schema, ?_⟩
  apply endsAs [.generating t text schema] [.replied t (.ok candidate)] split
      (generating_traced asked split stands).2 <;>
    simp [step, stands, judge, violation, finish, callsOf, Note.isCall]

theorem refused_ends (asked : Asked es t text) {candidate : String} {v : Guard.Verdict}
    (replied : Replied rules (start life now) es t text (.ok candidate))
    (clean : Generator.isViolation candidate = false)
    (verdict : Guard.inspect rules.dialect candidate = .ok v) (refused : v.safe = false) :
    ∃ schema, EndsAs rules (start life now) es t
      (.rejected text candidate (v.reason.getD "") v.kind)
      [.generating t text schema, .replied t (.ok candidate)] := by
  obtain ⟨schema, since, past, later, split, stands⟩ := replied
  refine ⟨schema, ?_⟩
  apply endsAs [.generating t text schema] [.replied t (.ok candidate)] split
      (generating_traced asked split stands).2 <;>
    simp [step, stands, judge, clean, verdict, refused, finish, callsOf, Note.isCall]

theorem unreturned_ends (asked : Asked es t text) {candidate : String}
    (h : Unreturned rules (start life now) es t text candidate) :
    ∃ schema, EndsAs rules (start life now) es t .executionError
      [.generating t text schema, .replied t (.ok candidate), .executing t candidate] := by
  obtain ⟨f, since, past, later, split, stands⟩ |
    ⟨since, past, later, limit, split, stands, ⟨⟩, late⟩ := h
  · obtain ⟨-, schema, made⟩ := executing_traced asked split stands
    refine ⟨schema, ?_⟩
    apply endsAs _ [] split made <;> simp [step, stands, finish, callsOf, Note.isCall]
  · obtain ⟨-, schema, made⟩ := executing_traced asked split stands
    refine ⟨schema, ?_⟩
    apply endsAs _ [] split made <;> simp [step, stands, late, finish, callsOf, Note.isCall]

theorem done_ends (asked : Asked es t text) {candidate : String} {result : ResultSet}
    (h : Returned rules (start life now) es t text candidate (.ok result)) :
    ∃ schema, EndsAs rules (start life now) es t (.success text candidate result)
      [.generating t text schema, .replied t (.ok candidate), .executing t candidate] := by
  obtain ⟨since, past, later, split, stands⟩ := h
  obtain ⟨-, schema, made⟩ := executing_traced asked split stands
  refine ⟨schema, ?_⟩
  apply endsAs _ [] split made <;> simp [step, stands, finish, callsOf, Note.isCall]

/-! Every ended request has ended in one of these ways. -/

/-- The event with which a request begins is the one that it was asked with. -/
theorem text_of_new (asked : Asked es t text) {other : String} (split : es = past ++ .ask t other :: later)
    (new : ((start life now).after rules past).1.requests t = none) : other = text := by
  obtain ⟨-, unasked, -⟩ | ⟨p, -, stands, -⟩ := allTraced_after rules life now past t
  · exact Asked.unique ⟨past, later, split, unasked⟩ asked
  · cases new.symm.trans stands

theorem OnTheWay.failed {question : String} {c : Cache} {f : Failure}
    (way : OnTheWay r t question e (c, .failed f)) :
    ∃ n since, r.requests t = some (.resolving question (.fetching n since)) ∧
      e = .introspected t (.error f) := by
  generalize hx : (c, Cache.Progress.failed f) = x at way
  cases way with
  | asks =>
    unfold Cache.enter at hx
    split at hx
    · cases hx
    · split at hx <;> cases hx
  | resumes =>
    unfold Cache.resume at hx
    split at hx <;> cases hx
  | @introspected n since answer fetches =>
    cases answer with
    | error g =>
      cases hx
      exact ⟨n, since, fetches, rfl⟩
    | ok snapshot =>
      rw [Cache.fetched] at hx
      split at hx <;> cases hx
  | stores => cases hx

/-- An ended request has come to its outcome in the way that goes with it. -/
theorem account_of_ended (asked : Asked es t text) {o : Outcome}
    (ended : ((start life now).after rules es).1.requests t = some (.ended o)) :
    Account rules (start life now) es t text o := by
  obtain ⟨past, e, later, c, notes, rest, split, move, -, -⟩ := arrived rfl ended
  have replied : ∀ {question schema : String} {since : Moment} {answer : Except Failure String},
      ((start life now).after rules past).1.requests t = some (.generating question schema since) →
      e = .generated t answer →
      question = text ∧ Replied rules (start life now) es t text answer := by
    rintro question schema since answer stands rfl
    obtain ⟨rfl, -⟩ := generating_traced asked split stands
    exact ⟨rfl, schema, since, past, later, split, stands⟩
  cases move with
  | blank new blank => exact .blank (text_of_new asked split new ▸ blank)
  | unresolved way =>
    obtain ⟨n, since, fetches, rfl⟩ := way.failed
    obtain ⟨rfl, -⟩ := resolving_traced asked split fetches
    exact .unresolved ⟨n, since, .inl ⟨_, past, later, split, fetches⟩⟩
  | unanswered stands =>
    obtain ⟨rfl, answer⟩ := replied stands rfl
    exact .unanswered (.inl ⟨_, answer⟩)
  | alert stands violation =>
    obtain ⟨rfl, answer⟩ := replied stands rfl
    exact .alert answer violation
  | refuse stands clean verdict refused =>
    obtain ⟨rfl, answer⟩ := replied stands rfl
    exact .refused answer clean verdict refused
  | fail runs =>
    obtain ⟨rfl, -⟩ := executing_traced asked split runs
    obtain ⟨answer, cleared⟩ := replied_of_executing asked split runs
    exact .failed answer cleared (.inl ⟨_, _, past, later, split, runs⟩)
  | succeed runs =>
    obtain ⟨rfl, -⟩ := executing_traced asked split runs
    obtain ⟨answer, cleared⟩ := replied_of_executing asked split runs
    exact .done answer cleared ⟨_, past, later, split, runs⟩
  | lateSchema fetches late =>
    obtain ⟨rfl, -⟩ := resolving_traced asked split fetches
    exact .unresolved ⟨_, _, .inr ⟨past, later, _, split, fetches, rfl, late⟩⟩
  | lateReply stands late =>
    obtain ⟨rfl, -⟩ := generating_traced asked split stands
    exact .unanswered (.inr ⟨_, _, past, later, _, split, stands, rfl, late⟩)
  | lateResult runs late =>
    obtain ⟨rfl, -⟩ := executing_traced asked split runs
    obtain ⟨answer, cleared⟩ := replied_of_executing asked split runs
    exact .failed answer cleared (.inr ⟨_, past, later, _, split, runs, rfl, late⟩)

/-! A blank question never gets anywhere. -/

/-- What a request begins with. A blank question is over at once, and the cache is as it was. -/
theorem Move.begins {c : Cache} (move : Move rules r t e c p notes) (new : r.requests t = none) :
    ∃ text, e = .ask t text ∧ (Question.ofText? text = none →
      c = r.cache ∧ p = .ended (.inputError emptyQuestionMessage) ∧
        notes = [.ended t (.inputError emptyQuestionMessage)]) := by
  have not_new : ∀ {q}, r.requests t ≠ some q := by
    intro q stands
    cases new.symm.trans stands
  have begins : ∀ {question x}, OnTheWay r t question e x →
      ∃ text, e = .ask t text ∧ Question.ofText? text ≠ none := by
    intro question x way
    cases way with
    | asks _ text => exact ⟨question, rfl, by simp [text]⟩
    | resumes stands | introspected stands | stores stands => exact absurd stands not_new
  cases move with
  | blank => exact ⟨_, rfl, fun _ => ⟨rfl, rfl, rfl⟩⟩
  | stand way | ask way | unresolved way | overflow way =>
    obtain ⟨text, rfl, some⟩ := begins way
    exact ⟨text, rfl, fun none => absurd none some⟩
  | _ => exact absurd ‹_› not_new

theorem blank_stays (rules : Rules) (life : Duration) (now : Moment) (asked : Asked es t text) (blank : Question.ofText? text = none)
    (split : es = past ++ later) :
    ((start life now).after rules past).1.requests t = none ∨
      ((start life now).after rules past).1.requests t =
        some (.ended (.inputError emptyQuestionMessage)) := by
  induction past using List.reverseRecOn generalizing later with
  | nil => exact .inl rfl
  | append_singleton past e ih =>
    rw [List.append_assoc] at split
    rw [after_concat_fst]
    obtain ⟨c, p, notes, move, hstep⟩ | ⟨left, -⟩ :=
      moved_or_left rules ((start life now).after rules past).1 t e
    · obtain new | isOver := ih split
      · obtain ⟨other, rfl, begins⟩ := move.begins new
        have he : other = text := text_of_new asked split new
        obtain ⟨-, rfl, -⟩ := begins (he ▸ blank)
        rw [hstep, put_requests_self]
        exact .inr rfl
      · cases move.alive isOver
    · rw [left]
      exact ih split

/-- No event of a blank question touches the cache. -/
theorem blank_leaves_cache (asked : Asked es t text) (blank : Question.ofText? text = none)
    (split : es = past ++ e :: later) (about : e.request? = some t) :
    (((start life now).after rules past).1.step rules e).1.cache =
      ((start life now).after rules past).1.cache := by
  have before := blank_stays rules life now asked blank split
  have hs := step_spec rules ((start life now).after rules past).1 e
  generalize (((start life now).after rules past).1.step rules e).1 = r',
    (((start life now).after rules past).1.step rules e).2 = notes at hs
  cases hs with
  | idle => rfl
  | moves move =>
    cases move.request.symm.trans about
    obtain new | isOver := before
    · obtain ⟨other, rfl, begins⟩ := move.begins new
      exact (begins (text_of_new asked split new ▸ blank)).1
    · cases move.alive isOver
  | check | invalidate | pass => cases about

theorem blank_told (asked : Asked es t text) (blank : Question.ofText? text = none)
    (ended : ((start life now).after rules es).1.requests t = some p) :
    ∀ note ∈ told rules (start life now) es, note.request? = some t →
      note = .ended t (.inputError emptyQuestionMessage) := by
  obtain ⟨past, e, later, c, notes, rest, split, move, told_eq, silent⟩ := arrived rfl ended
  intro note hn about
  obtain new | isOver := blank_stays rules life now asked blank split
  · obtain ⟨other, rfl, begins⟩ := move.begins new
    obtain ⟨-, -, rfl⟩ := begins (text_of_new asked split new ▸ blank)
    simp only [told_eq, List.mem_append, List.mem_singleton] at hn
    obtain (hn | hn) | hn := hn
    · exact absurd about (silent_of_new new note hn)
    · exact hn
    · exact absurd about (silent note hn)
  · cases move.alive isOver

/-! What each outcome says. -/

section Said
variable (asked : Asked es t text) {o : Outcome}
  (ended : ((start life now).after rules es).1.requests t = some (.ended o))
include asked ended

theorem inputError_iff : (∃ m, o = .inputError m) ↔ Text.trim text = "" := by
  rw [← Question.ofText?_eq_none]
  constructor
  · rintro ⟨m, rfl⟩
    cases account_of_ended asked ended with
    | blank blank => exact blank
  · intro blank
    obtain new | isOver := blank_stays rules life now asked blank (List.append_nil es).symm
    · cases new.symm.trans ended
    · cases ended.symm.trans isOver
      exact ⟨_, rfl⟩

theorem securityAlert_iff : (∃ m, o = .securityAlert m) ↔
    ∃ candidate, Replied rules (start life now) es t text (.ok candidate) ∧
      Generator.sentinel.toList <:+: candidate.toList := by
  constructor
  · rintro ⟨m, rfl⟩
    cases account_of_ended asked ended with
    | alert replied violation => exact ⟨_, replied, Generator.isViolation_iff.mp violation⟩
  · rintro ⟨candidate, replied, sentinel⟩
    obtain ⟨schema, ends⟩ := alert_ends asked replied (Generator.isViolation_iff.mpr sentinel)
    exact ⟨_, (ends.eq ended).1⟩

theorem rejected_iff {question candidate reason : String} {kind : Option String} :
    o = .rejected question candidate reason kind ↔
      question = text ∧ Replied rules (start life now) es t text (.ok candidate) ∧
        ¬ Generator.sentinel.toList <:+: candidate.toList ∧
        ∃ v, Guard.inspect rules.dialect candidate = .ok v ∧ v.safe = false ∧
          reason = v.reason.getD "" ∧ kind = v.kind := by
  constructor
  · rintro rfl
    cases account_of_ended asked ended with
    | refused replied clean verdict refused =>
      refine ⟨rfl, replied, ?_, _, verdict, refused, rfl, rfl⟩
      exact fun h => Bool.eq_false_iff.mp clean (Generator.isViolation_iff.mpr h)
  · rintro ⟨rfl, replied, clean, v, verdict, refused, rfl, rfl⟩
    have clean := Bool.eq_false_iff.mpr fun h => clean (Generator.isViolation_iff.mp h)
    obtain ⟨schema, ends⟩ := refused_ends asked replied clean verdict refused
    exact (ends.eq ended).1

theorem success_iff {question candidate : String} {result : ResultSet} :
    o = .success question candidate result ↔
      question = text ∧ Replied rules (start life now) es t text (.ok candidate) ∧
        Cleared rules candidate ∧ Returned rules (start life now) es t text candidate (.ok result) := by
  constructor
  · rintro rfl
    cases account_of_ended asked ended with
    | done replied cleared returned => exact ⟨rfl, replied, cleared, returned⟩
  · rintro ⟨rfl, -, -, returned⟩
    obtain ⟨schema, ends⟩ := done_ends asked returned
    exact (ends.eq ended).1

theorem executionError_iff : o = .executionError ↔
    Unresolved rules (start life now) es t text ∨ Unanswered rules (start life now) es t text ∨
      ∃ candidate, Replied rules (start life now) es t text (.ok candidate) ∧
        Cleared rules candidate ∧ Unreturned rules (start life now) es t text candidate := by
  constructor
  · rintro rfl
    cases account_of_ended asked ended with
    | unresolved h => exact .inl h
    | unanswered h => exact .inr (.inl h)
    | failed replied cleared h => exact .inr (.inr ⟨_, replied, cleared, h⟩)
  · rintro (h | h | ⟨candidate, -, -, h⟩)
    · exact ((unresolved_ends asked h).eq ended).1
    · obtain ⟨schema, ends | ⟨f, ends⟩⟩ := unanswered_ends asked h
      · exact (ends.eq ended).1
      · exact (ends.eq ended).1
    · obtain ⟨schema, ends⟩ := unreturned_ends asked h
      exact (ends.eq ended).1

end Said

/-- The outcome of a request about a text says what happened to it and nothing else. -/
structure Truthful (rules : Rules) (r : Run) (es : List Event) (t : TaskId) (text : String) (o : Outcome) :
    Prop where
  inputError : (∃ m, o = .inputError m) ↔ Text.trim text = ""
  /-- Of a blank text nothing is seen but its end, and the cache is as it was. -/
  blank : Text.trim text = "" → o = .inputError emptyQuestionMessage ∧
    (∀ note ∈ told rules r es, note.request? = some t → note = .ended t o) ∧
    ∀ past e later, es = past ++ e :: later → e.request? = some t →
      ((r.after rules past).1.step rules e).1.cache = (r.after rules past).1.cache
  securityAlert : (∃ m, o = .securityAlert m) ↔ ∃ candidate, Replied rules r es t text (.ok candidate) ∧
    Generator.sentinel.toList <:+: candidate.toList
  alerted : ∀ m, o = .securityAlert m → ∃ schema candidate,
    callsOf t (told rules r es) = [.generating t text schema, .replied t (.ok candidate)]
  rejected : ∀ question candidate reason kind,
    (o = .rejected question candidate reason kind ↔
      question = text ∧ Replied rules r es t text (.ok candidate) ∧
        ¬ Generator.sentinel.toList <:+: candidate.toList ∧
        ∃ v, Guard.inspect rules.dialect candidate = .ok v ∧ v.safe = false ∧
          reason = v.reason.getD "" ∧ kind = v.kind) ∧
    (o = .rejected question candidate reason kind → ∃ schema,
      callsOf t (told rules r es) = [.generating t text schema, .replied t (.ok candidate)])
  success : ∀ question candidate result,
    (o = .success question candidate result ↔
      question = text ∧ Replied rules r es t text (.ok candidate) ∧ Cleared rules candidate ∧
        Returned rules r es t text candidate (.ok result)) ∧
    (o = .success question candidate result → ∃ schema, callsOf t (told rules r es) =
      [.generating t text schema, .replied t (.ok candidate), .executing t candidate])
  executionError : o = .executionError ↔ Unresolved rules r es t text ∨ Unanswered rules r es t text ∨
    ∃ candidate, Replied rules r es t text (.ok candidate) ∧ Cleared rules candidate ∧
      Unreturned rules r es t text candidate
  unresolved : Unresolved rules r es t text → callsOf t (told rules r es) = []
  unanswered : Unanswered rules r es t text → ∃ schema,
    callsOf t (told rules r es) = [.generating t text schema] ∨
      ∃ f, callsOf t (told rules r es) = [.generating t text schema, .replied t (.error f)]
  unreturned : ∀ candidate, Unreturned rules r es t text candidate → ∃ schema,
    callsOf t (told rules r es) =
      [.generating t text schema, .replied t (.ok candidate), .executing t candidate]

/-- In every run, the outcome of a request says what happened to it and nothing else. It is an input error
exactly if the text is blank, and then nobody was called and the cache is as it was. It is a security
alert, or a rejection with the guard's words, exactly if the generator gave in time what calls for it, and
then nothing was executed. It is a success exactly if what the generator gave was cleared and executed in
time, and then it holds what was asked, given and brought back. And it is an execution error exactly if
the schema, the generator or the one execution failed or took too long, and then nobody was called after
that. -/
theorem outcome_says (rules : Rules) (life : Duration) (now : Moment) {es : List Event} {t : TaskId}
    {text : String} {o : Outcome} (asked : Asked es t text)
    (ended : ((start life now).after rules es).1.requests t = some (.ended o)) :
    Truthful rules (start life now) es t text o := by
  constructor
  case inputError => exact inputError_iff asked ended
  case securityAlert => exact securityAlert_iff asked ended
  case executionError => exact executionError_iff asked ended
  case unresolved => exact fun h => (unresolved_ends asked h).2
  case blank =>
    intro empty
    have blank := Question.ofText?_eq_none.mpr empty
    have input : o = .inputError emptyQuestionMessage := by
      obtain ⟨m, rfl⟩ := (inputError_iff asked ended).mpr empty
      cases account_of_ended asked ended
      rfl
    exact ⟨input, input ▸ blank_told asked blank ended,
      fun past e later split about => blank_leaves_cache asked blank split about⟩
  case alerted =>
    rintro m rfl
    cases account_of_ended asked ended with
    | alert replied violation =>
      obtain ⟨schema, ends⟩ := alert_ends asked replied violation
      exact ⟨schema, _, ends.2⟩
  case rejected =>
    intro question candidate reason kind
    refine ⟨rejected_iff asked ended, ?_⟩
    rintro rfl
    cases account_of_ended asked ended with
    | refused replied clean verdict refused =>
      obtain ⟨schema, ends⟩ := refused_ends asked replied clean verdict refused
      exact ⟨schema, ends.2⟩
  case success =>
    intro question candidate result
    refine ⟨success_iff asked ended, ?_⟩
    rintro rfl
    cases account_of_ended asked ended with
    | done replied cleared returned =>
      obtain ⟨schema, ends⟩ := done_ends asked returned
      exact ⟨schema, ends.2⟩
  case unanswered =>
    intro h
    obtain ⟨schema, ends | ⟨f, ends⟩⟩ := unanswered_ends asked h
    · exact ⟨schema, .inl ends.2⟩
    · exact ⟨schema, .inr ⟨f, ends.2⟩⟩
  case unreturned =>
    intro candidate h
    obtain ⟨schema, ends⟩ := unreturned_ends asked h
    exact ⟨schema, ends.2⟩

def answeredRun : List Event := plainRun ++ [.executed 1 (.ok ⟨[], []⟩)]

def isAnswered (question candidate : String) : Option Phase → Bool
  | some (.ended (.success asked found _)) => asked == question && found == candidate
  | _ => false

theorem of_isAnswered {question candidate : String} {p : Option Phase}
    (h : isAnswered question candidate p = true) :
    ∃ result, p = some (.ended (.success question candidate result)) := by
  unfold isAnswered at h
  split at h
  · rename_i asked found result
    obtain ⟨rfl, rfl⟩ : asked = question ∧ found = candidate := by simpa using h
    exact ⟨result, rfl⟩
  · cases h

theorem plain_question_answered :
    let r := start 10 0
    ∃ result, (r.after ⟨.sqlite, usualLimits⟩ answeredRun).1.requests 1 =
        some (.ended (.success "One?" "SELECT 1" result)) ∧
      Returned ⟨.sqlite, usualLimits⟩ r answeredRun 1 "One?" "SELECT 1" (.ok result) ∧
      Text.trim "One?" ≠ "" := by
  intro r
  have asked : Asked answeredRun 1 "One?" := ⟨[], _, rfl, nofun⟩
  have answered : isAnswered "One?" "SELECT 1"
      ((r.after ⟨.sqlite, usualLimits⟩ answeredRun).1.requests 1) = true := by
    decide +kernel
  obtain ⟨result, ended⟩ := of_isAnswered answered
  have truthful := outcome_says _ 10 0 asked ended
  refine ⟨result, ended, ((truthful.success _ _ _).1.mp rfl).2.2.2, ?_⟩
  intro empty
  obtain ⟨m, input⟩ := truthful.inputError.mpr empty
  cases input

end Run
end Pipeline
end QueryWarden
