import QueryWarden.Proofs.Pipeline.Liveness

/-! On a schedule no request is forgotten: while it is unfinished, it is about to run, an alarm is set for
it, or it stands in line for a lock whose holder is attended to. Each turn takes its request further, so
that a scenario that is played brings all of its requests to their ends. -/
namespace QueryWarden.Pipeline
open Clock

/-- A run in which every request has come to its end, and no name from one on has been used. -/
structure Run.Rests (r : Run) (first : TaskId) : Prop where
  isOver : ∀ t p, r.requests t = some p → p.isOver = true
  fresh : ∀ t, first ≤ t → r.requests t = none
  orderly : Cache.Orderly r.cache r.stand

theorem Run.rests_start (life : Duration) (now : Moment) (first : TaskId) :
    (Run.start life now).Rests first :=
  ⟨nofun, fun _ _ => rfl, Cache.orderly_empty life⟩

namespace Scenario

variable {s s' : Scenario} {t u : TaskId} {request : Request} {e : Event} {now : Moment} {p : Phase}

def Named (s : Scenario) (t : TaskId) (request : Request) : Prop :=
  s.first ≤ t ∧ s.texts[t - s.first]? = some request

/-- What an event that happens next does, it does to its request; and nobody gives up who waits for
ever. -/
theorem next_moves (next : s.next? now t request = some e) (ready : now ≤ s.run.now) :
    Run.Moves s.rules s.run t e (s.run.step s.rules e) ∧
      (request.patience = none → e ≠ .cancel t) := by
  have gone : ∀ {p}, s.run.requests t = some p → p.isOver = false →
      (if hasCome now (s.cancelled? request) then some (Event.cancel t) else none) = some e →
      Run.Moves s.rules s.run t e (s.run.step s.rules e) ∧
        (request.patience = none → e ≠ .cancel t) := by
    intro p stands alive gone
    split at gone
    · rename_i come
      cases gone
      refine ⟨Run.moves_cancel s.rules stands alive, ?_⟩
      intro forever
      rw [cancelled?, forever] at come
      cases come
    · cases gone
  unfold next? at next
  dsimp only at next
  split at next
  · rename_i new
    cases next
    exact ⟨Run.moves_ask s.rules new _, nofun⟩
  · rename_i question waits
    split at next
    · rename_i holds
      cases next
      exact ⟨Run.moves_resume s.rules waits holds, nofun⟩
    · exact gone waits rfl next
  · rename_i question entry stores
    cases next
    exact ⟨Run.moves_store s.rules stores, nofun⟩
  · split at next
    · cases next
    · rename_i due answered limit awaited
      obtain ⟨α, q, since, bound, event, awaits, rfl, rfl, -, p, stands, deadline⟩ :=
        awaited_spec awaited
      have alive : p.isOver = false := by
        cases p <;> first | rfl | cases deadline
      split at next
      · cases next
        cases awaits with
        | schema fetches => exact ⟨Run.moves_introspected s.rules fetches _, nofun⟩
        | reply asked => exact ⟨Run.moves_generated s.rules asked _, nofun⟩
        | result runs => exact ⟨Run.moves_executed s.rules runs _, nofun⟩
      · split at next
        · rename_i elapsed
          cases next
          exact ⟨Run.moves_expire stands deadline (Nat.le_trans elapsed ready), nofun⟩
        · exact gone stands alive next

/-- A request to which nothing happens next is over, waits for the lock, or has an alarm for its limit. -/
theorem next_none (still : s.next? now t request = none) :
    ∃ p, s.run.requests t = some p ∧ (p.isOver = true ∨
      (∃ question, p = .resolving question .waiting ∧ s.run.cache.holder ≠ some t) ∨
      ∃ limit, p.deadline? s.rules = some limit ∧ limit ∈ s.alarms t request) := by
  unfold next? at still
  dsimp only at still
  split at still
  · cases still
  · rename_i question waits
    split at still
    · cases still
    · rename_i free
      exact ⟨_, waits, .inr (.inl ⟨question, rfl, free⟩)⟩
  · cases still
  · rename_i q p _ _ stands
    refine ⟨p, stands, ?_⟩
    cases p with
    | ended | dropped | broken => exact .inl rfl
    | generating question schema since =>
      exact .inr (.inr ⟨_, rfl, by simp [alarms, awaited?, stands]⟩)
    | executing question candidate since =>
      exact .inr (.inr ⟨_, rfl, by simp [alarms, awaited?, stands]⟩)
    | resolving question stand =>
      cases stand with
      | fetching n since => exact .inr (.inr ⟨_, rfl, by simp [alarms, awaited?, stands]⟩)
      | waiting | storing => simp_all

structure Aside (t : TaskId) (s s' : Scenario) : Prop where
  rules_eq : s'.rules = s.rules
  collaborators_eq : s'.collaborators = s.collaborators
  origin_eq : s'.origin = s.origin
  first_eq : s'.first = s.first
  texts_eq : s'.texts = s.texts
  now_le : s.run.now ≤ s'.run.now
  others : ∀ u, u ≠ t → s'.run.requests u = s.run.requests u
  keeps : ∀ u, u ≠ t → s.run.cache.holder = some u → s'.run.cache.holder = some u

theorem Aside.refl (t : TaskId) (s : Scenario) : Aside t s s :=
  ⟨rfl, rfl, rfl, rfl, rfl, Nat.le_refl _, fun _ _ => rfl, fun _ _ h => h⟩

theorem Aside.trans {s'' : Scenario} (h : Aside t s s') (h' : Aside t s' s'') : Aside t s s'' where
  rules_eq := h'.rules_eq.trans h.rules_eq
  collaborators_eq := h'.collaborators_eq.trans h.collaborators_eq
  origin_eq := h'.origin_eq.trans h.origin_eq
  first_eq := h'.first_eq.trans h.first_eq
  texts_eq := h'.texts_eq.trans h.texts_eq
  now_le := Nat.le_trans h.now_le h'.now_le
  others u hu := (h'.others u hu).trans (h.others u hu)
  keeps u hu holds := h'.keeps u hu (h.keeps u hu holds)

theorem Aside.named (h : Aside t s s') : Named s' u request ↔ Named s u request := by
  rw [Named, Named, h.first_eq, h.texts_eq]

/-- Time goes by for all. -/
theorem aside_pass (t : TaskId) (s : Scenario) (time : Duration) : Aside t s (s.happen (.pass time)) :=
  ⟨rfl, rfl, rfl, rfl, rfl, Nat.le_add_right .., fun _ _ => rfl, fun _ _ h => h⟩

theorem happen_run (moves : Run.Moves s.rules s.run t e (s.run.step s.rules e)) :
    ∃ c p notes, Run.Move s.rules s.run t e c p notes ∧
      (s.happen e).run = { s.run with cache := c }.put t p := by
  obtain ⟨c, p, notes, move, after⟩ := moves
  exact ⟨c, p, notes, move, congrArg Prod.fst after⟩

theorem aside_happen (ho : Cache.Orderly s.run.cache s.run.stand)
    (moves : Run.Moves s.rules s.run t e (s.run.step s.rules e)) : Aside t s (s.happen e) := by
  obtain ⟨c, p, notes, move, run⟩ := happen_run moves
  refine ⟨rfl, rfl, rfl, rfl, rfl, ?_, ?_, ?_⟩
  · rw [run]
    exact Nat.le_refl _
  · intro u hu
    rw [run, Run.put_requests_ne _ _ hu]
  · intro u hu holds
    rw [run]
    exact move.keeps_holder ho holds hu

theorem Aside.awaited (h : Aside t s s') (hu : u ≠ t) : s'.awaited? u = s.awaited? u := by
  rw [awaited?, awaited?, h.others u hu, h.collaborators_eq, h.rules_eq]

theorem Aside.cancelled (h : Aside t s s') (request : Request) :
    s'.cancelled? request = s.cancelled? request := by
  rw [cancelled?, cancelled?, h.origin_eq]

/-- A request that is not on the move sees the same things next. -/
theorem Aside.next (h : Aside t s s') (hu : u ≠ t) (active : (s.next? now u request).isSome = true) :
    (s'.next? now u request).isSome = true := by
  unfold next? at active ⊢
  rw [h.others u hu, h.awaited hu, h.cancelled]
  dsimp only at active ⊢
  split
  · rfl
  · rename_i question waits
    by_cases holds : s'.run.cache.holder = some u
    · rw [if_pos holds]
      rfl
    · have free : s.run.cache.holder ≠ some u := fun he => holds (h.keeps u hu he)
      simp only [waits, if_neg free] at active
      rwa [if_neg holds]
  · rfl
  · simp_all

theorem Aside.alarms (h : Aside t s s') (hu : u ≠ t) : s'.alarms u request = s.alarms u request := by
  rw [Scenario.alarms, Scenario.alarms, h.others u hu, h.awaited hu, h.cancelled]

def HandedTo (s : Scenario) (t u : TaskId) : Prop :=
  u ≠ t ∧ s.run.cache.holder = some u ∧
    ∃ question, s.run.requests u = some (.resolving question .waiting)

theorem Aside.handedTo (h : Aside t s s') (handed : HandedTo s t u) : HandedTo s' t u := by
  obtain ⟨other, holds, question, waits⟩ := handed
  exact ⟨other, h.keeps u other holds, question, (h.others u other).trans waits⟩

/-- Whoever gets the lock that another request gives up, was in line for it. -/
theorem Aside.handed (h : Aside t s s') (ho : Cache.Orderly s.run.cache s.run.stand)
    (ho' : Cache.Orderly s'.run.cache s'.run.stand) (other : u ≠ t)
    (holds : s'.run.cache.holder = some u) (changed : s'.run.cache.holder ≠ s.run.cache.holder) :
    HandedTo s' t u := by
  obtain ⟨place, hplace⟩ := ho'.holder u holds
  obtain ⟨question, stands⟩ := Run.stand_eq_some.mp hplace
  by_cases waiting : place = .waiting
  · exact ⟨other, holds, question, waiting ▸ stands⟩
  · rw [h.others u other] at stands
    exact absurd (holds.trans (Run.holds_of_inside ho stands waiting).symm) changed

structure Proceeded (t : TaskId) (request : Request) (now : Moment) (s s' : Scenario)
    (woken : List TaskId) : Prop where
  aside : Aside t s s'
  orderly : Cache.Orderly s'.run.cache s'.run.stand
  still : s'.next? now t request = none
  woken_handed : ∀ u ∈ woken, HandedTo s' t u
  handed : ∀ u, u ≠ t → s'.run.cache.holder = some u → s.run.cache.holder = some u ∨ u ∈ woken
  turns_le : Phase.turnsLeft (s'.run.requests t) ≤ Phase.turnsLeft (s.run.requests t)
  further : (s.next? now t request).isSome = true →
    Phase.turnsLeft (s'.run.requests t) < Phase.turnsLeft (s.run.requests t)
  patient : request.patience = none → s.run.requests t ≠ some .dropped →
    s'.run.requests t ≠ some .dropped

/-- The turns that a request has left are bound enough for it to go on until it has to wait. -/
theorem proceeded (request : Request) (ho : Cache.Orderly s.run.cache s.run.stand)
    (ready : now ≤ s.run.now) {bound : Nat} (enough : Phase.turnsLeft (s.run.requests t) < bound)
    {woken : List TaskId} (hwoken : ∀ u ∈ woken, HandedTo s t u) :
    Proceeded t request now s (proceed t request now bound s woken).1
        (proceed t request now bound s woken).2 ∧
      ∀ u ∈ woken, u ∈ (proceed t request now bound s woken).2 := by
  induction bound generalizing s woken with
  | zero => cases enough
  | succ bound ih =>
    rw [Scenario.proceed]
    cases next : s.next? now t request with
    | none =>
      refine ⟨⟨.refl t s, ho, next, hwoken, fun u hu h => .inl h, Nat.le_refl _, ?_, fun _ h => h⟩,
        fun u hu => hu⟩
      simp [next]
    | some e =>
      obtain ⟨moves, steadfast⟩ := next_moves next ready
      have aside := aside_happen ho moves
      have ho' : Cache.Orderly (s.happen e).run.cache (s.happen e).run.stand :=
        Run.orderly_step ho s.rules e
      have fewer : Phase.turnsLeft ((s.happen e).run.requests t) <
          Phase.turnsLeft (s.run.requests t) := by
        obtain ⟨c, p, notes, move, run⟩ := happen_run moves
        rw [run, Run.put_requests_self]
        exact move.turnsLeft
      dsimp only
      generalize hhanded : (if (s.happen e).run.cache.holder = s.run.cache.holder then none
        else (s.happen e).run.cache.holder) = handed
      have hwoken' : ∀ u ∈ woken ++ (handed.filter (· != t)).toList, HandedTo (s.happen e) t u := by
        intro u hu
        obtain hu | hu := List.mem_append.mp hu
        · exact aside.handedTo (hwoken u hu)
        · obtain ⟨hsome, other⟩ := Option.filter_eq_some_iff.mp (Option.mem_toList.mp hu)
          rw [← hhanded] at hsome
          split at hsome
          · cases hsome
          · rename_i changed
            exact aside.handed ho ho' (by simpa using other) hsome changed
      obtain ⟨rest, kept⟩ := ih ho' (Nat.le_trans ready aside.now_le) (by omega) hwoken'
      refine ⟨⟨aside.trans rest.aside, rest.orderly, rest.still, rest.woken_handed, ?_, ?_, ?_, ?_⟩, ?_⟩
      · intro u hu holds
        obtain holds' | hu' := rest.handed u hu holds
        · by_cases same : (s.happen e).run.cache.holder = s.run.cache.holder
          · exact .inl (same ▸ holds')
          · refine .inr (kept u (List.mem_append_right _ ?_))
            rw [if_neg same, holds'] at hhanded
            simp [← hhanded, hu]
        · exact .inr hu'
      · exact Nat.le_trans rest.turns_le (Nat.le_of_lt fewer)
      · exact fun _ => Nat.lt_of_le_of_lt rest.turns_le fewer
      · intro forever alive
        refine rest.patient forever ?_
        obtain ⟨c, p, notes, move, run⟩ := happen_run moves
        rw [run, Run.put_requests_self]
        rintro ⟨⟩
        exact steadfast forever move.dropped
      · exact fun u hu => kept u (List.mem_append_left _ hu)

theorem turnsLeft_le (p : Option Phase) : Phase.turnsLeft p ≤ 6 := by
  unfold Phase.turnsLeft
  split <;> decide

/-- A turn takes its request as far as it can go for now, and sets the alarms that it then wants. -/
theorem turn_proceeds (ho : Cache.Orderly s.run.cache s.run.stand) (named : Named s t request)
    (now : Moment) :
    Proceeded t request now s (s.turn now t).state (s.turn now t).wakes ∧
      (s.turn now t).alarms = (s.turn now t).state.alarms t request := by
  generalize hpass : s.happen (.pass (now - s.run.now)) = later
  have aside : ∀ u, Aside u s later := fun u => hpass ▸ aside_pass u s _
  have requests : later.run.requests = s.run.requests := hpass ▸ rfl
  have cache : later.run.cache = s.run.cache := hpass ▸ rfl
  have ready : now ≤ later.run.now := hpass ▸ Nat.sub_le_iff_le_add'.mp (Nat.le_refl _)
  have ho' : Cache.Orderly later.run.cache later.run.stand := hpass ▸ ho
  have named' : later.texts[t - later.first]? = some request := ((aside t).named.mpr named).2
  have enough : Phase.turnsLeft (later.run.requests t) < 12 :=
    Nat.lt_of_le_of_lt (turnsLeft_le _) (by decide)
  have nobody : ∀ u ∈ [], HandedTo later t u := nofun
  obtain ⟨gone, -⟩ := proceeded request ho' ready enough nobody
  simp only [turn, hpass, named']
  refine ⟨⟨(aside t).trans gone.aside, gone.orderly, gone.still, gone.woken_handed, ?_, ?_, ?_, ?_⟩, trivial⟩
  · rw [← cache]
    exact gone.handed
  · rw [← requests]
    exact gone.turns_le
  · intro active
    rw [← requests]
    refine gone.further ?_
    exact (aside (t + 1)).next (Nat.ne_of_lt (Nat.lt_succ_self t)) active
  · rw [← requests]
    exact gone.patient

/-- A request that is not about to run is over, stands in line while someone else holds the lock, or has
an alarm for its limit. -/
def Settled (s : Schedule Scenario) (t : TaskId) : Prop :=
  ∃ p, s.state.run.requests t = some p ∧ (p.isOver = true ∨
    (∃ question, p = .resolving question .waiting ∧ s.state.run.cache.holder ≠ some t) ∨
    ∃ limit, p.deadline? s.state.rules = some limit ∧ (limit, t) ∈ s.alarms)

/-- A request that has gone on until it has to wait is settled with the alarms that it wants. -/
theorem Proceeded.settled {sched : Schedule Scenario} {woken : List TaskId}
    (gone : Proceeded t request now s sched.state woken)
    (wanted : ∀ m ∈ sched.state.alarms t request, (m, t) ∈ sched.alarms) : Settled sched t := by
  obtain ⟨p, stands, isOver | waits | ⟨limit, deadline, among⟩⟩ := next_none gone.still
  · exact ⟨p, stands, .inl isOver⟩
  · exact ⟨p, stands, .inr (.inl waits)⟩
  · exact ⟨p, stands, .inr (.inr ⟨limit, deadline, wanted limit among⟩)⟩

/-- The others stay settled while it goes on, save who has been handed the lock. -/
theorem Proceeded.settled_others {sched sched' : Schedule Scenario} {woken : List TaskId}
    (gone : Proceeded t request now sched.state sched'.state woken) (hu : u ≠ t)
    (kept : ∀ m, (m, u) ∈ sched.alarms → (m, u) ∈ sched'.alarms) (settled : Settled sched u) :
    u ∈ woken ∨ Settled sched' u := by
  obtain ⟨p, stands, cases'⟩ := settled
  have stands' := (gone.aside.others u hu).trans stands
  obtain isOver | ⟨question, rfl, free⟩ | ⟨limit, deadline, alarm⟩ := cases'
  · exact .inr ⟨p, stands', .inl isOver⟩
  · by_cases holds : sched'.state.run.cache.holder = some u
    · obtain before | woken := gone.handed u hu holds
      · exact absurd before free
      · exact .inl woken
    · exact .inr ⟨_, stands', .inr (.inl ⟨question, rfl, holds⟩)⟩
  · refine .inr ⟨p, stands', .inr (.inr ⟨limit, ?_, kept limit alarm⟩)⟩
    rwa [gone.aside.rules_eq]

structure Attended (opening : Scenario) (s : Schedule Scenario) : Prop where
  rules_eq : s.state.rules = opening.rules
  first_eq : s.state.first = opening.first
  texts_eq : s.state.texts = opening.texts
  orderly : Cache.Orderly s.state.run.cache s.state.run.stand
  outside : ∀ t, (∀ request, ¬ Named s.state t request) →
    s.state.run.requests t = opening.run.requests t
  ready_nodup : s.ready.Nodup
  settled : ∀ t request, Named s.state t request → t ∈ s.ready ∨ Settled s t
  active : ∀ t ∈ s.ready, ∃ request, Named s.state t request ∧
    (s.state.next? s.now t request).isSome = true
  current : ∀ m t, (m, t) ∈ s.alarms →
    ∃ request, Named s.state t request ∧ m ∈ s.state.alarms t request
  patient : ∀ t request, Named s.state t request → request.patience = none →
    s.state.run.requests t ≠ some .dropped

/-- Whoever wants to go on at a moment that has come can go on. -/
theorem next_of_alarm {m : Moment} (wanted : m ∈ s.alarms t request) (come : m ≤ now) :
    (s.next? now t request).isSome = true := by
  have gone : m ∈ (s.cancelled? request).toList → hasCome now (s.cancelled? request) = true := by
    intro hm
    rw [Option.mem_toList.mp hm]
    simpa [hasCome] using come
  unfold Scenario.alarms at wanted
  unfold next?
  dsimp only
  split
  · rfl
  · rename_i question waits
    simp only [waits] at wanted
    rw [gone wanted]
    split <;> rfl
  · rfl
  · rename_i q p hwaiting _ stands
    rw [stands] at wanted
    cases awaited : s.awaited? t with
    | none =>
      rw [awaited] at wanted
      dsimp only at wanted
      split at wanted
      · rename_i he
        cases he
        exact absurd rfl (hwaiting _)
      · cases wanted
    | some wait =>
      obtain ⟨due, answered, limit⟩ := wait
      rw [awaited] at wanted
      dsimp only at wanted ⊢
      split at wanted
      · rename_i he
        cases he
        exact absurd rfl (hwaiting _)
      · by_cases there : hasCome now due = true
        · rw [if_pos there]
          rfl
        by_cases elapsed : limit ≤ now
        · rw [if_neg there, if_pos elapsed]
          rfl
        rw [if_neg there, if_neg elapsed]
        obtain hm | hm := List.mem_append.mp wanted
        · obtain hm | hm := List.mem_append.mp hm
          · rw [Option.mem_toList.mp hm] at there
            exact absurd (by simpa [hasCome] using come) there
          · rw [List.mem_singleton.mp hm] at come
            exact absurd come elapsed
        · rw [gone hm]
          rfl

namespace Attended

variable {opening : Scenario} {sched sched' : Schedule Scenario}

theorem unfinished_named (h : Attended opening sched) (idle : opening.run.Rests opening.first)
    (stands : sched.state.run.requests t = some p) (alive : p.isOver = false) :
    ∃ request, Named sched.state t request := by
  by_contra stranger
  have same := h.outside t fun request named => stranger ⟨request, named⟩
  rw [stands] at same
  rw [idle.isOver t p same.symm] at alive
  cases alive

/-- The request whose turn it is goes on; the others stay as they are. -/
theorem turn (h : Attended opening sched) (idle : opening.run.Rests opening.first) {rest : List TaskId}
    (ready : sched.ready = t :: rest) :
    Attended opening ⟨(sched.state.turn sched.now t).state, sched.now,
      Schedule.wake rest (sched.state.turn sched.now t).wakes,
      Schedule.rearm t (sched.state.turn sched.now t).alarms sched.alarms⟩ := by
  obtain ⟨request, named, -⟩ := h.active t (by simp [ready])
  obtain ⟨gone, alarms⟩ := turn_proceeds h.orderly named sched.now
  generalize sched.state.turn sched.now t = turn at gone alarms
  have aside := gone.aside
  obtain ⟨waits_once, ready_nodup⟩ := List.nodup_cons.mp (ready ▸ h.ready_nodup)
  have handed_active : ∀ u ∈ turn.wakes, ∃ request, Named turn.state u request ∧
      (turn.state.next? sched.now u request).isSome = true := by
    intro u hu
    obtain ⟨other, holds, question, waits⟩ := gone.woken_handed u hu
    obtain ⟨r, nr⟩ := h.unfinished_named idle ((aside.others u other).symm.trans waits) rfl
    exact ⟨r, aside.named.mpr nr, by simp [next?, waits, holds]⟩
  refine ⟨aside.rules_eq.trans h.rules_eq, aside.first_eq.trans h.first_eq,
    aside.texts_eq.trans h.texts_eq, gone.orderly, ?_, Schedule.nodup_wake ready_nodup _, ?_, ?_, ?_, ?_⟩
  · intro u stranger
    have hu : u ≠ t := by
      rintro rfl
      exact stranger request (aside.named.mpr named)
    exact (aside.others u hu).trans (h.outside u fun r nr => stranger r (aside.named.mpr nr))
  · intro u request' named'
    by_cases hu : u = t
    · subst hu
      exact .inr (gone.settled fun m wanted => Schedule.mem_rearm_of_wanted (alarms ▸ wanted) u sched.alarms)
    · obtain about | settled := h.settled u request' (aside.named.mp named')
      · rw [ready] at about
        exact .inl (Schedule.mem_wake.mpr (.inl (List.mem_of_ne_of_mem hu about)))
      · refine (gone.settled_others hu ?_ settled).imp (fun woken => Schedule.mem_wake.mpr (.inr woken)) id
        exact fun m alarm => Schedule.mem_rearm_of_ne alarm hu _
  · intro u hu
    obtain hu | hu := Schedule.mem_wake.mp hu
    · have other : u ≠ t := fun he => waits_once (he ▸ hu)
      obtain ⟨r, nr, active⟩ := h.active u (by simp [ready, hu])
      exact ⟨r, aside.named.mpr nr, aside.next other active⟩
    · exact handed_active u hu
  · intro m u hm
    obtain ⟨rfl, wanted⟩ | ⟨hu, alarm⟩ := Schedule.of_mem_rearm hm
    · exact ⟨request, aside.named.mpr named, alarms ▸ wanted⟩
    · obtain ⟨r, nr, wanted⟩ := h.current m u alarm
      exact ⟨r, aside.named.mpr nr, aside.alarms hu ▸ wanted⟩
  · intro u request' named' forever
    by_cases hu : u = t
    · subst hu
      have same : request' = request := by
        have := (aside.named.mp named').2.symm.trans named.2
        exact Option.some.inj this
      subst same
      exact gone.patient forever (h.patient u request' named forever)
    · change turn.state.run.requests u ≠ _
      rw [aside.others u hu]
      exact h.patient u request' (aside.named.mp named') forever

/-- When nobody is about to run, the clock moves to the first alarm, and whoever set it can go on. -/
theorem ring (h : Attended opening sched) (idle : sched.ready = []) (m : Moment) :
    Attended opening (sched.ring m) := by
  have due : ∀ t, t ∈ (sched.ring m).ready ↔ ∃ m', (m', t) ∈ sched.alarms ∧ m' ≤ m := by
    intro t
    simp [Schedule.ring, Schedule.mem_wake, idle]
  refine ⟨h.rules_eq, h.first_eq, h.texts_eq, h.orderly, h.outside,
    Schedule.nodup_wake h.ready_nodup _, ?_, ?_, ?_, h.patient⟩
  · intro t request named
    obtain about | ⟨p, stands, isOver | waits | ⟨limit, deadline, alarm⟩⟩ := h.settled t request named
    · simp [idle] at about
    · exact .inr ⟨p, stands, .inl isOver⟩
    · exact .inr ⟨p, stands, .inr (.inl waits)⟩
    · by_cases come : limit ≤ m
      · exact .inl ((due t).mpr ⟨limit, alarm, come⟩)
      · refine .inr ⟨p, stands, .inr (.inr ⟨limit, deadline, ?_⟩)⟩
        exact List.mem_filter.mpr ⟨alarm, by simpa using come⟩
  · intro t ready
    obtain ⟨m', alarm, come⟩ := (due t).mp ready
    obtain ⟨request, named, wanted⟩ := h.current m' t alarm
    exact ⟨request, named, next_of_alarm wanted come⟩
  · intro m' t alarm
    exact h.current m' t (List.mem_of_mem_filter alarm)

theorem step (h : Attended opening sched) (idle : opening.run.Rests opening.first)
    (hs : sched.step Scenario.turn = some sched') : Attended opening sched' := by
  rw [Schedule.step] at hs
  split at hs
  · rename_i t rest ready
    cases hs
    exact h.turn idle ready
  · rename_i ready
    obtain ⟨m, -, rfl⟩ := Option.map_eq_some_iff.mp hs
    exact h.ring ready m

/-- Whoever holds the lock is about to run, or its introspection has an alarm. -/
theorem holder (h : Attended opening sched) (idle : opening.run.Rests opening.first)
    (holds : sched.state.run.cache.holder = some t) :
    ∃ question stand, sched.state.run.requests t = some (.resolving question stand) ∧
      (t ∈ sched.ready ∨ ∃ n since, stand = .fetching n since ∧
        (since + opening.rules.limits.execution, t) ∈ sched.alarms) := by
  obtain ⟨stand, place⟩ := h.orderly.holder t holds
  obtain ⟨question, stands⟩ := Run.stand_eq_some.mp place
  refine ⟨question, stand, stands, ?_⟩
  obtain ⟨request, named⟩ := h.unfinished_named idle stands rfl
  obtain ready | ⟨p, stands', cases'⟩ := h.settled t request named
  · exact .inl ready
  rw [stands] at stands'
  cases stands'
  obtain isOver | ⟨question', -, free⟩ | ⟨limit, deadline, alarm⟩ := cases'
  · cases isOver
  · exact absurd holds free
  · cases stand with
    | fetching n since =>
      cases deadline
      exact .inr ⟨n, since, rfl, h.rules_eq ▸ alarm⟩
    | waiting | storing => cases deadline

/-- While a request is unfinished, somebody can run, or an alarm is set. -/
theorem goes_on (h : Attended opening sched) (idle : opening.run.Rests opening.first)
    (named : Named sched.state t request)
    (unfinished : ∀ p, sched.state.run.requests t = some p → p.isOver = false) :
    (∃ u ∈ sched.ready, ∃ request, Named sched.state u request ∧
      (sched.state.next? sched.now u request).isSome = true) ∨ sched.alarms ≠ [] := by
  have runs : ∀ u ∈ sched.ready, (∃ u ∈ sched.ready, ∃ request, Named sched.state u request ∧
      (sched.state.next? sched.now u request).isSome = true) ∨ sched.alarms ≠ [] :=
    fun u ready => .inl ⟨u, ready, h.active u ready⟩
  obtain ready | ⟨p, stands, isOver | ⟨question, rfl, -⟩ | ⟨limit, -, alarm⟩⟩ := h.settled t request named
  · exact runs t ready
  · simp [unfinished p stands] at isOver
  · -- it stands in line, so that somebody holds the lock
    obtain ⟨u, holds⟩ := Run.held_of_waiting h.orderly stands
    obtain ⟨-, -, -, ready | ⟨n, since, -, alarm⟩⟩ := h.holder idle holds
    · exact runs u ready
    · exact .inr (List.ne_nil_of_mem alarm)
  · exact .inr (List.ne_nil_of_mem alarm)

end Attended

end Scenario
end QueryWarden.Pipeline
