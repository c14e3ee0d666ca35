import Mathlib.Algebra.Order.BigOperators.Group.Finset
import QueryWarden.Proofs.Pipeline.Handling
import QueryWarden.Proofs.Pipeline.Lock

/-! Sharing a pipeline changes no outcome: requests that are handled together, in any order and with any
turns, come to what each of them comes to alone; and they come to it, for some request can always go on
until all are over, and each has only so many turns. -/
namespace QueryWarden.Pipeline
open Clock

def Event.isTurn (e : Event) : Bool := e.request?.isSome

/-- How many turns a request has at most from where it stands. -/
def Phase.turnsLeft : Option Phase → Nat
  | none => 6
  | some (.resolving _ .waiting) => 5
  | some (.resolving _ (.fetching ..)) => 4
  | some (.resolving _ (.storing _)) => 3
  | some (.generating ..) => 2
  | some (.executing ..) => 1
  | some (.ended _) | some .dropped | some (.broken _) => 0

namespace Run

/-- How many turns the first requests have at most, taken together. -/
def turnsLeft (r : Run) (n : Nat) : Nat :=
  (Finset.range n).sum fun t => Phase.turnsLeft (r.requests t)

variable {rules : Rules} {c : Collaborators} {texts : List String} {r r' : Run} {t : TaskId} {e : Event}
  {p : Phase} {notes : List Note}

/-- A request that has come to another place before the cache, or past it, has fewer turns left. -/
theorem OnTheWay.turnsLeft {question : String} {x : Cache × Cache.Progress}
    (way : OnTheWay r t question e x) :
    2 < Phase.turnsLeft (r.requests t) ∧ ∀ s, x.2 = .pending s →
      Phase.turnsLeft (some (.resolving question s)) < Phase.turnsLeft (r.requests t) := by
  cases way with
  | asks new =>
    rw [new]
    exact ⟨by decide, fun s _ => by cases s <;> simp [Phase.turnsLeft]⟩
  | resumes waits =>
    rw [waits]
    refine ⟨by simp [Phase.turnsLeft], ?_⟩
    intro s hs
    unfold Cache.resume at hs
    split at hs
    · cases hs
    · cases hs; simp [Phase.turnsLeft]
  | @introspected n since answer fetches =>
    rw [fetches]
    refine ⟨by simp [Phase.turnsLeft], ?_⟩
    intro s hs
    unfold Cache.fetched at hs
    split at hs
    · cases hs
    · split at hs <;> cases hs
      simp [Phase.turnsLeft]
  | stores stores =>
    rw [stores]
    exact ⟨by simp [Phase.turnsLeft], nofun⟩

theorem Move.turnsLeft {d : Cache} (move : Move rules r t e d p notes) :
    Phase.turnsLeft (some p) < Phase.turnsLeft (r.requests t) := by
  cases move with
  | stand way => exact way.turnsLeft.2 _ rfl
  | ask way => exact way.turnsLeft.1
  | unresolved way | overflow way => exact Nat.zero_lt_of_lt way.turnsLeft.1
  | blank stands | unanswered stands | alert stands | baffle stands | refuse stands | run stands
  | fail stands | succeed stands | lateSchema stands | lateReply stands | lateResult stands =>
    rw [stands]
    simp [Phase.turnsLeft]
  | @leave _ s stands =>
    rw [stands]
    cases s <;> simp [Phase.turnsLeft]
  | drop stands waits =>
    rw [stands]
    obtain ⟨_, _, _, rfl⟩ | ⟨_, _, _, rfl⟩ := waits <;> simp [Phase.turnsLeft]

/-- An event by which a request goes on moves it. -/
theorem Admits.moves (admits : Admits rules c texts r e) (turn : e.isTurn = true) :
    ∃ t, Moves rules r t e (r.step rules e) := by
  cases admits with
  | check | invalidate | pass => cases turn
  | @ask t text given new => exact ⟨t, moves_ask rules new text⟩
  | @resume t question waits holds => exact ⟨t, moves_resume rules waits holds⟩
  | @store t question entry stores => exact ⟨t, moves_store rules stores⟩
  | @answer t α p since limit event answer awaits =>
    refine ⟨t, ?_⟩
    cases awaits with
    | schema fetches => exact moves_introspected rules fetches answer
    | reply asked => exact moves_generated rules asked answer
    | result runs => exact moves_executed rules runs answer
  | @expire t α p since limit event awaits late elapsed =>
    refine ⟨t, ?_⟩
    cases awaits with
    | schema stands | reply stands | result stands => exact moves_expire stands rfl elapsed

theorem OnCourse.lt_length (h : OnCourse rules c texts r) (stands : r.requests t = some p) :
    t < texts.length := by
  obtain ⟨text, given, -⟩ := h.heads t p stands
  exact (List.getElem?_eq_some_iff.mp given).1

/-- Each turn takes one from the turns that are left, and other events leave them. -/
theorem OnCourse.turnsLeft (steady : Steady c) (h : OnCourse rules c texts r)
    (admits : Admits rules c texts r e) :
    (if e.isTurn then 1 else 0) + (r.step rules e).1.turnsLeft texts.length ≤
      r.turnsLeft texts.length := by
  by_cases turn : e.isTurn = true
  · obtain ⟨t, d, p, notes, move, hstep⟩ := admits.moves turn
    have course := (h.step steady admits).1
    rw [hstep] at course ⊢
    have fewer : Run.turnsLeft ({ r with cache := d }.put t p) texts.length <
        r.turnsLeft texts.length := by
      apply Finset.sum_lt_sum
      · intro u _
        by_cases hu : u = t
        · subst hu
          rw [put_requests_self]
          exact Nat.le_of_lt move.turnsLeft
        · rw [put_requests_ne _ _ hu]
      · refine ⟨t, Finset.mem_range.mpr (course.lt_length (put_requests_self ..)), ?_⟩
        rw [put_requests_self]
        exact move.turnsLeft
    rw [if_pos turn]
    exact Nat.one_add_le_iff.mpr fewer
  · have same : (r.step rules e).1.requests = r.requests := by
      cases e <;> first | rfl | exact absurd rfl turn
    rw [if_neg turn, Nat.zero_add, Run.turnsLeft, Run.turnsLeft, same]

/-- All turns of a history come off the turns that were left. -/
theorem OnCourse.turns_le (steady : Steady c) {es : List Event} (h : OnCourse rules c texts r)
    (handles : Handles rules c texts r es) :
    es.countP Event.isTurn + (r.after rules es).1.turnsLeft texts.length ≤
      r.turnsLeft texts.length := by
  induction es generalizing r with
  | nil => simp [after]
  | cons e es ih =>
    have first := h.turnsLeft steady handles.1
    have others := ih (h.step steady handles.1).1 handles.2
    rw [List.countP_cons]
    simp only [after] at others ⊢
    omega

theorem Awaits.pass {α : Type} {p : Paced α} {since : Moment} {limit : Duration} {event : α → Event}
    (awaits : Awaits rules c r t p since limit event) (time : Duration) :
    Awaits rules c (r.step rules (.pass time)).1 t p since limit event := by
  cases awaits with
  | schema fetches => exact .schema fetches
  | reply asked => exact .reply asked
  | result runs => exact .result runs

def CanGoOn (rules : Rules) (c : Collaborators) (texts : List String) (r : Run) : Prop :=
  ∃ time e, e.isTurn = true ∧ Admits rules c texts (r.step rules (.pass time)).1 e

theorem canGoOn_now (h : Admits rules c texts r e) (turn : e.isTurn = true) :
    CanGoOn rules c texts r := ⟨0, e, turn, h⟩

/-- Whoever waits for an answer gets it, or goes on without it. -/
theorem Awaits.canGoOn {α : Type} {p : Paced α} {since : Moment} {limit : Duration} {event : α → Event}
    (awaits : Awaits rules c r t p since limit event) : CanGoOn rules c texts r := by
  have elapsed : since + limit ≤ r.now + (since + limit) := Nat.le_add_left ..
  have later := awaits.pass (since + limit)
  cases timely : p.inTime? limit with
  | none => exact ⟨since + limit, .expire t, rfl, .expire later timely elapsed⟩
  | some answer =>
    refine ⟨since + limit, event answer, ?_, .answer later timely ?_⟩
    · cases awaits <;> rfl
    · exact Paced.hasCome_of_inTime timely elapsed

/-- Whoever holds the population lock can go on. -/
theorem canGoOn_of_holder {question : String} {s : Cache.Stand}
    (stands : r.requests t = some (.resolving question s)) (holds : r.cache.holder = some t) :
    CanGoOn rules c texts r := by
  cases s with
  | waiting => exact canGoOn_now (.resume stands holds) rfl
  | fetching n since => exact (Awaits.schema stands).canGoOn
  | storing entry => exact canGoOn_now (.store stands) rfl

/-- Before the cache, some request can go on: the one that holds the population lock. -/
theorem canGoOn_of_stand (ho : Cache.Orderly r.cache r.stand) {question : String} {s : Cache.Stand}
    (stands : r.requests t = some (.resolving question s)) : CanGoOn rules c texts r := by
  have place := stand_eq_some.mpr ⟨question, stands⟩
  cases holder : r.cache.holder with
  | none =>
    -- then nobody stands in line either, so that nobody can be before the cache
    have nobody : r.cache.line = [] := ho.free holder
    by_cases hs : s = .waiting
    · subst hs
      obtain holds | inLine := ho.outside t place
      · simp [holder] at holds
      · simp [nobody] at inLine
    · have := ho.inside t s place hs
      simp [holder] at this
  | some u =>
    obtain ⟨s', place'⟩ := ho.holder u holder
    obtain ⟨question', stands'⟩ := stand_eq_some.mp place'
    exact canGoOn_of_holder stands' holder

/-- As long as some request is not over, some request can go on. -/
theorem OnCourse.canGoOn (h : OnCourse rules c texts r) (ho : Cache.Orderly r.cache r.stand)
    (given : t < texts.length) (unfinished : r.result? t = none) : CanGoOn rules c texts r := by
  cases stands : r.requests t with
  | none => exact canGoOn_now (.ask (List.getElem?_eq_getElem given) stands) rfl
  | some p =>
    have alive : p.result? = none := by simpa [result?, stands] using unfinished
    cases p with
    | resolving question s => exact canGoOn_of_stand ho stands
    | generating question schema since => exact (Awaits.reply stands).canGoOn
    | executing question candidate since => exact (Awaits.result stands).canGoOn
    | ended outcome | broken message => cases alive
    | dropped =>
      obtain ⟨text, -, ahead⟩ := h.alive stands alive
      cases ahead

/-- The requests can go on until all are over. -/
theorem OnCourse.completes (steady : Steady c) (h : OnCourse rules c texts r)
    (ho : Cache.Orderly r.cache r.stand) : ∃ more, Handles rules c texts r more ∧
      ∀ i < texts.length, ((r.after rules more).1.result? i).isSome = true := by
  -- by induction on the turns that are left: whoever can go on takes one
  generalize hleft : r.turnsLeft texts.length = left
  induction left using Nat.strong_induction_on generalizing r with
  | _ left ih =>
    by_cases finished : ∀ i < texts.length, (r.result? i).isSome = true
    · exact ⟨[], trivial, finished⟩
    · obtain ⟨i, given, unfinished⟩ : ∃ i, i < texts.length ∧ r.result? i = none := by
        simpa using finished
      obtain ⟨time, e, turn, admits⟩ := h.canGoOn ho given unfinished
      have waits : Admits rules c texts r (.pass time) := .pass time
      have later := (h.step steady waits).1
      have fewer := h.turnsLeft steady waits
      have fewer' := later.turnsLeft steady admits
      rw [if_pos turn] at fewer'
      obtain ⟨more, handles, all⟩ := ih _ (by omega) (later.step steady admits).1
        (orderly_step (orderly_step ho rules _) rules e) rfl
      exact ⟨.pass time :: e :: more, ⟨waits, admits, handles⟩, all⟩

/-- Texts that are handled together on one pipeline come each to what it comes to alone on a fresh one,
in whatever order the requests begin and take turns, with collaborators that do not change with time:
unless the clock of one of the two can no longer name the end of a snapshot's life, the results are the
same. No request has more than six turns, and wherever they stand, the requests can go on until all are
over; of a text alone this says that it comes to something. -/
theorem handled_together_as_alone (rules : Rules) {c : Collaborators} (steady : Steady c)
    (texts : List String) (life : Duration) (now : Moment) {es : List Event}
    (handles : Handles rules c texts (start life now) es) :
    let r := ((start life now).after rules es).1
    (∀ i text x, texts[i]? = some text → r.result? i = some x →
      ∀ now' alone y, Handles rules c [text] (start life now') alone →
        ((start life now').after rules alone).1.result? 0 = some y →
        x = y ∨ x = .error Cache.clockOverflow ∧ Cache.expiry? r.now life = none ∨
          y = .error Cache.clockOverflow ∧
            Cache.expiry? ((start life now').after rules alone).1.now life = none) ∧
    es.countP Event.isTurn ≤ 6 * texts.length ∧
    ∃ more, Handles rules c texts r more ∧
      ∀ i < texts.length, ((r.after rules more).1.result? i).isSome = true := by
  intro r
  refine ⟨?_, ?_, ?_⟩
  · intro i text x given finished now' alone y handles' finished'
    obtain rfl | crash := result_of_handles steady handles given finished
    · obtain rfl | crash' := result_of_handles steady handles' (i := 0) rfl finished'
      · exact .inl rfl
      · exact .inr (.inr crash')
    · exact .inr (.inl crash)
  · have turns := (onCourse_start life now).turns_le steady handles
    have all : (start life now).turnsLeft texts.length = 6 * texts.length := by
      simp [turnsLeft, start, Phase.turnsLeft, Nat.mul_comm]
    omega
  · obtain ⟨course, ho⟩ := handles_keeps
      (I := fun r => OnCourse rules c texts r ∧ Cache.Orderly r.cache r.stand)
      (fun r e admits h => ⟨(h.1.step steady admits).1, orderly_step h.2 rules e⟩)
      handles ⟨onCourse_start life now, Cache.orderly_empty life⟩
    exact course.completes steady ho

def wary : Collaborators where
  introspect _ := ⟨some 5, .ok ⟨[], ⟨0, 0, 0⟩⟩⟩
  generate _ _ := ⟨some 2, .ok Generator.sentinel⟩
  execute _ := ⟨none, .ok ⟨[], []⟩⟩

def sharedRun : List Event :=
  [.ask 1 "Two?", .ask 0 "One?", .pass 5, .introspected 1 (.ok ⟨[], ⟨0, 0, 0⟩⟩), .store 1, .resume 0,
    .pass 2, .generated 0 (.ok Generator.sentinel), .generated 1 (.ok Generator.sentinel)]

def loneRun : List Event :=
  [.ask 0 "One?", .pass 8, .introspected 0 (.ok ⟨[], ⟨0, 0, 0⟩⟩), .store 0, .pass 2,
    .generated 0 (.ok Generator.sentinel)]

theorem shared_introspection_as_alone :
    let together := ((start 10 0).after ⟨.sqlite, usualLimits⟩ sharedRun).1
    let alone := ((start 10 3).after ⟨.sqlite, usualLimits⟩ loneRun).1
    ∃ x, together.result? 0 = some x ∧ alone.result? 0 = some x := by
  intro together alone
  have steady : Steady wary := ⟨fun _ _ => rfl, fun _ _ => rfl⟩
  have handles : Handles ⟨.sqlite, usualLimits⟩ wary ["One?", "Two?"] (start 10 0) sharedRun :=
    ⟨.ask rfl rfl, .ask rfl rfl, .pass 5, .answer (.schema rfl) rfl rfl, .store rfl, .resume rfl rfl,
      .pass 2, .answer (.reply rfl) rfl rfl, .answer (.reply rfl) rfl rfl, trivial⟩
  have handles' : Handles ⟨.sqlite, usualLimits⟩ wary ["One?"] (start 10 3) loneRun :=
    ⟨.ask rfl rfl, .pass 8, .answer (.schema rfl) rfl rfl, .store rfl, .pass 2,
      .answer (.reply rfl) rfl rfl, trivial⟩
  obtain ⟨x, finished⟩ : ∃ x, together.result? 0 = some x := ⟨_, rfl⟩
  obtain ⟨y, finished'⟩ : ∃ y, alone.result? 0 = some y := ⟨_, rfl⟩
  have named : Cache.expiry? together.now 10 ≠ none := by decide
  have named' : Cache.expiry? alone.now 10 ≠ none := by decide
  obtain rfl | ⟨-, ends⟩ | ⟨-, ends⟩ :=
    (handled_together_as_alone _ steady ["One?", "Two?"] 10 0 handles).1 0 "One?" x rfl finished 3 _ y
      handles' finished'
  · exact ⟨x, finished, finished'⟩
  · exact absurd ends named
  · exact absurd ends named'

end Run
end QueryWarden.Pipeline
