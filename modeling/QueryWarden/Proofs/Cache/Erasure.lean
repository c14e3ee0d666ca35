import QueryWarden.Proofs.Cache.History

/-! A call that gets nothing leaves no trace: the same run, but for the numbers of fetches, comes about
without it, if whoever stood in line begins only when its turn comes. The proof follows a run event by
event with another one, its shadow, from which the call is missing. -/
namespace QueryWarden.Cache
open Clock

/-- A snapshot without the number of its fetch, which is no more than a name. -/
def Held.unnumbered (h : Held) : Held := { h with fetch := 0 }

def Entry.unnumbered (e : Entry) : Entry := { e with held := e.held.unnumbered }

def Stand.unnumbered : Stand → Stand
  | .waiting => .waiting
  | .fetching _ since => .fetching 0 since
  | .storing e => .storing e.unnumbered

def Progress.unnumbered : Progress → Progress
  | .pending s => .pending s.unnumbered
  | .got held => .got held.unnumbered
  | p => p

def Note.unnumbered : Note → Note
  | .moved t p => .moved t p.unnumbered
  | .looked name found => .looked name (found.map Held.unnumbered)
  | n => n

/-- A call has come to an end without a snapshot. -/
def Progress.isVain : Progress → Bool
  | .failed _ | .broken _ | .dropped => true
  | _ => false

def Event.task? : Event → Option TaskId
  | .ask (.call t) | .call t | .resume t | .fetched t _ | .store t | .cancel t => some t
  | .ask (.watcher _) | .peek _ | .invalidate | .pass _ => none

/-- A note is not about a call, and not about someone who is about to look, stands in line or is
dropped. -/
def Note.isApart (t : TaskId) : Note → Bool
  | .asked _ => false
  | .moved u p => u != t && p != .pending .waiting && p != .dropped
  | _ => true

/-- What is seen apart from a call: which fetches begin, what comes of them, who gets what, what looks
find, and when. -/
def seenApart (t : TaskId) (notes : List (Moment × Note)) : List (Moment × Note) :=
  (notes.map fun x => (x.1, x.2.unnumbered)).filter fun x => x.2.isApart t

@[simp] theorem seenApart_nil (t : TaskId) : seenApart t [] = [] := rfl

@[simp] theorem seenApart_append (t : TaskId) (notes more : List (Moment × Note)) :
    seenApart t (notes ++ more) = seenApart t notes ++ seenApart t more := by
  simp [seenApart]

/-- What has become of a call in a run and in its shadow: the same, or in the shadow it has not begun while
it stands in line, or was dropped. -/
def Shadowed (p p' : Option Progress) : Prop :=
  p' = none ∧ (p = some (.pending .waiting) ∨ p = some .dropped) ∨
    p ≠ some (.pending .waiting) ∧ p'.map Progress.unnumbered = p.map Progress.unnumbered

namespace Shadowed

variable {p' : Option Progress}

theorem of_none (h : Shadowed none p') : p' = none := by
  simpa [Shadowed] using h

theorem of_waiting (h : Shadowed (some (.pending .waiting)) p') : p' = none := by
  simpa [Shadowed] using h

theorem of_fetching {n : Nat} {since : Moment}
    (h : Shadowed (some (.pending (.fetching n since))) p') :
    ∃ n', p' = some (.pending (.fetching n' since)) := by
  obtain ⟨-, h | h⟩ | ⟨-, h⟩ := h
  · cases h
  · cases h
  · obtain ⟨q, rfl, hq⟩ := Option.map_eq_some_iff.mp h
    rcases q with ⟨_ | ⟨n', since'⟩ | _⟩ | _ | _ | _ | _ <;> cases hq
    exact ⟨n', rfl⟩

theorem of_storing {e : Entry} (h : Shadowed (some (.pending (.storing e))) p') :
    ∃ e', p' = some (.pending (.storing e')) ∧ e'.unnumbered = e.unnumbered := by
  obtain ⟨-, h | h⟩ | ⟨-, h⟩ := h
  · cases h
  · cases h
  · obtain ⟨q, rfl, hq⟩ := Option.map_eq_some_iff.mp h
    rcases q with ⟨_ | _ | e'⟩ | _ | _ | _ | _ <;>
      simp [Progress.unnumbered, Stand.unnumbered] at hq
    exact ⟨e', rfl, hq⟩

/-- Who is under way in the shadow is under the lock in the run. -/
theorem under_lock {p : Option Progress} {s : Stand} (h : Shadowed p (some (.pending s))) :
    ∃ s', s' ≠ .waiting ∧ p = some (.pending s') := by
  obtain ⟨h, -⟩ | ⟨hp, h⟩ := h
  · cases h
  · obtain ⟨q, rfl, hq⟩ := Option.map_eq_some_iff.mp h.symm
    cases q with
    | pending s' =>
      refine ⟨s', ?_, rfl⟩
      rintro rfl
      exact hp rfl
    | _ => cases hq

end Shadowed

namespace Run

variable {t u : TaskId} {r r' r'' : Run} {x x' : Cache × Progress} {ev : Event} {notes : List Note}
  {late : Looker → Bool}

/-- One run is the shadow of another without a call; those who are late have not read the clock there. -/
structure Shadow (t : TaskId) (late : Looker → Bool) (r r' : Run) : Prop where
  now : r'.now = r.now
  life : r'.cache.life = r.cache.life
  entry : r'.cache.entry.map Entry.unnumbered = r.cache.entry.map Entry.unnumbered
  gone : r'.calls t = none
  calls : ∀ u, u ≠ t → Shadowed (r.calls u) (r'.calls u)
  asked : ∀ w, r'.asked w = if w = .call t ∨ late w then none else r.asked w

theorem shadow_start (t : TaskId) (late : Looker → Bool) (life : Duration) (now : Moment) :
    Shadow t late (start life now) (start life now) :=
  ⟨rfl, rfl, rfl, rfl, fun _ _ => .inr ⟨by simp [start], rfl⟩, by simp [start]⟩

def lateBut (late : Looker → Bool) (who : Looker) (b : Bool) : Looker → Bool :=
  fun w => if w = who then b else late w

namespace Shadow

theorem peek (h : Shadow t late r r') (m : Moment) :
    (r'.cache.peek m).map Held.unnumbered = (r.cache.peek m).map Held.unnumbered := by
  have hentry := h.entry
  cases he : r.cache.entry with
  | none =>
    have he' : r'.cache.entry = none := by simpa [he] using hentry
    simp [Cache.peek, he, he']
  | some e =>
    rw [he] at hentry
    obtain ⟨e', he', hlike⟩ := Option.map_eq_some_iff.mp hentry
    obtain ⟨hheld, -, hexpiry⟩ := Entry.mk.inj hlike
    by_cases hf : m < e.expiry <;> simp [Cache.peek, he, he', Entry.isFresh, hexpiry, hf, hheld]

theorem peek_none (h : Shadow t late r r') {m : Moment} (miss : r.cache.peek m = none) :
    r'.cache.peek m = none := by
  simpa [miss] using h.peek m

theorem peek_some (h : Shadow t late r r') {m : Moment} {held : Held}
    (good : r.cache.peek m = some held) :
    ∃ held', r'.cache.peek m = some held' ∧ held'.unnumbered = held.unnumbered := by
  have hpeek := h.peek m
  rw [good] at hpeek
  exact Option.map_eq_some_iff.mp hpeek

/-- Who is not late has read the clock at the same moment. -/
theorem asked_some {who : Looker} {m : Moment} (h : Shadow t (lateBut late who false) r r')
    (other : who ≠ .call t) (asked : r.asked who = some m) : r'.asked who = some m := by
  simp [h.asked, lateBut, other, asked]

/-- Where nobody but the missing call or one that waits has the lock, it is free in the shadow. -/
theorem free (h : Shadow t late r r') (ho : Orderly r.cache r.stand) (ho' : Orderly r'.cache r'.stand)
    (idle : ∀ v, r.cache.holder = some v → v = t ∨ r.calls v = some (.pending .waiting)) :
    r'.cache.holder = none := by
  cases hh : r'.cache.holder with
  | none => rfl
  | some v =>
    obtain ⟨s, hs⟩ := ho'.holder v hh
    have stands := stand_eq_some.mp hs
    have hv : v ≠ t := by
      rintro rfl
      simp [h.gone] at stands
    have shadowed := h.calls v hv
    rw [stands] at shadowed
    obtain ⟨s', hs', stands'⟩ := shadowed.under_lock
    obtain rfl | waits := idle v (ho.inside v s' (stand_eq_some.mpr stands') hs')
    · exact absurd rfl hv
    · rw [stands'] at waits
      cases waits
      exact absurd rfl hs'

/-- Once someone has looked, it does not matter whether they were late. -/
theorem asked_forget {who : Looker} {b : Bool} (h : Shadow t (lateBut late who b) r r') (w : Looker) :
    (r'.forget who).asked w = if w = .call t ∨ late w then none else (r.forget who).asked w := by
  by_cases he : w = who
  · subst he
    simp
  · simp [forget_asked_ne _ he, h.asked, lateBut, he]

/-- A call moves in the run and its shadow alike. -/
theorem settle {b : Bool} (h : Shadow t (lateBut late (.call u) b) r r') (hu : u ≠ t)
    (life : x'.1.life = x.1.life)
    (entry : x'.1.entry.map Entry.unnumbered = x.1.entry.map Entry.unnumbered)
    (moved : Shadowed (some x.2) (some x'.2)) :
    Shadow t late (r.settle u x).1 (r'.settle u x').1 := by
  refine ⟨h.now, life, entry, ?_, ?_, h.asked_forget⟩
  · rw [settle_calls_ne r' x' (Ne.symm hu), h.gone]
  · intro v hv
    by_cases he : v = u
    · subst he
      rwa [settle_calls_self, settle_calls_self]
    · rw [settle_calls_ne r x he, settle_calls_ne r' x' he]
      exact h.calls v hv

/-- A call moves in the run, and nothing happens in its shadow. -/
theorem settle_alone (h : Shadow t (lateBut late (.call u) true) r r')
    (life : x.1.life = r.cache.life) (entry : x.1.entry = r.cache.entry)
    (moved : u ≠ t → Shadowed (some x.2) (r'.calls u)) : Shadow t late (r.settle u x).1 r' := by
  refine ⟨h.now, h.life.trans life.symm, ?_, h.gone, ?_, ?_⟩
  · rw [settle_cache, entry, h.entry]
  · intro v hv
    by_cases he : v = u
    · subst he
      rw [settle_calls_self]
      exact moved hv
    · rw [settle_calls_ne r x he]
      exact h.calls v hv
  · intro w
    have rests : r'.asked (.call u) = none := by simp [h.asked, lateBut]
    rw [settle_asked, ← h.asked_forget]
    by_cases he : w = .call u
    · rw [he, rests, forget_asked_self]
    · rw [forget_asked_ne _ he]

end Shadow

/-- What a run has come to, and what has been seen of it, the shadow can come to without the call. -/
def Mirrored (t : TaskId) (late : Looker → Bool) (r : Run) (seen : List (Moment × Note)) (r' : Run) :
    Prop :=
  ∃ es, (∀ e ∈ es, e.task? ≠ some t) ∧ Shadow t late r (r'.after es).1 ∧
    seenApart t (r'.after es).2 = seenApart t seen

theorem mirrored_still {seen : List (Moment × Note)} (h : Shadow t late r r')
    (unseen : seenApart t seen = []) : Mirrored t late r seen r' :=
  ⟨[], by simp, h, by simpa [after] using unseen.symm⟩

theorem mirrored_step (ev : Event) {seen : List (Moment × Note)} (other : ev.task? ≠ some t)
    (h : Shadow t late r (r'.step ev).1)
    (same : seenApart t ((r'.step ev).2.map (r'.now, ·)) = seenApart t seen) :
    Mirrored t late r seen r' :=
  ⟨[ev], by simpa using other, by simpa [after] using h, by simpa [after] using same⟩

theorem seenApart_moved {p p' : Progress} {m m' : Moment} (hm : m' = m)
    (moved : Shadowed (some p) (some p')) :
    seenApart t [(m', .moved u p')] = seenApart t [(m, .moved u p)] := by
  obtain ⟨hnone, -⟩ | ⟨-, hlike⟩ := moved
  · cases hnone
  · have hlike : p'.unnumbered = p.unnumbered := by simpa using hlike
    simp [seenApart, Note.unnumbered, hlike, hm]

theorem mirrored_settle {b : Bool} (h : Shadow t (lateBut late (.call u) b) r r') (hu : u ≠ t)
    (about : ev.task? = some u) (step : r'.step ev = r'.settle u x') (life : x'.1.life = x.1.life)
    (entry : x'.1.entry.map Entry.unnumbered = x.1.entry.map Entry.unnumbered)
    (moved : Shadowed (some x.2) (some x'.2)) :
    Mirrored t late (r.settle u x).1 [(r.now, .moved u x.2)] r' := by
  refine mirrored_step ev (by simp [about, hu]) ?_ ?_
  · rw [step]
    exact h.settle hu life entry moved
  · rw [step]
    exact seenApart_moved h.now moved

/-- Of the call that is missing, nothing is seen. -/
theorem mirrored_own {b : Bool} (h : Shadow t (lateBut late (.call t) b) r r')
    (life : x.1.life = r.cache.life) (entry : x.1.entry = r.cache.entry) :
    Mirrored t late (r.settle t x).1 [(r.now, .moved t x.2)] r' := by
  have h' : Shadow t (lateBut late (.call t) true) r r' := by
    refine ⟨h.now, h.life, h.entry, h.gone, h.calls, ?_⟩
    intro w
    by_cases he : w = .call t <;> simp [h.asked, lateBut, he]
  exact mirrored_still (h'.settle_alone life entry (absurd rfl))
    (by simp [seenApart, Note.unnumbered, Note.isApart])

/-- Someone reads the clock, and so do they in the shadow if they are not late. -/
theorem Shadow.asks (h : Shadow t late r r') {who : Looker} (rests : r.asked who = none)
    (turn : r.looksNext who = true) : Mirrored t late (r.ask who) [(r.now, .asked who)] r' := by
  by_cases hlate : who = .call t ∨ late who = true
  · refine mirrored_still ⟨h.now, h.life, h.entry, h.gone, h.calls, ?_⟩ rfl
    intro w
    by_cases he : w = who
    · subst he
      simp [h.asked, hlate]
    · rw [ask_asked_ne r he, h.asked]
  · have rests' : r'.asked who = none := by simp [h.asked, rests]
    have turn' : r'.looksNext who = true := by
      cases who with
      | watcher => rfl
      | call u =>
        have hu : u ≠ t := fun he => hlate (.inl (congrArg _ he))
        have new : r'.calls u = none := by
          have shadowed := h.calls u hu
          simp only [looksNext] at turn
          split at turn
          · rename_i new
            exact (new ▸ shadowed).of_none
          · rename_i waits
            exact (waits ▸ shadowed).of_waiting
          · cases turn
        simp [looksNext, new]
    have step' : r'.step (.ask who) = (r'.ask who, [.asked who]) := by
      simp [Run.step, rests', turn']
    have other : (Event.ask who).task? ≠ some t := by
      cases who with
      | watcher => simp [Event.task?]
      | call u => simpa [Event.task?] using fun he => hlate (.inl (congrArg _ he))
    refine mirrored_step (.ask who) other ?_ ?_
    · rw [step']
      refine ⟨h.now, h.life, h.entry, h.gone, h.calls, ?_⟩
      intro w
      by_cases he : w = who
      · subst he
        simp [h.now, hlate]
      · rw [ask_asked_ne r he, ask_asked_ne r' he, h.asked]
    · rw [step']
      rfl

/-- A watcher looks, and finds the same in the shadow. -/
theorem Shadow.looks {name : Nat} {m : Moment} (h : Shadow t (lateBut late (.watcher name) false) r r')
    (asked : r.asked (.watcher name) = some m) :
    Mirrored t late (r.forget (.watcher name)) [(r.now, .looked name (r.cache.peek m))] r' := by
  have step' : r'.step (.peek name) =
      (r'.forget (.watcher name), [.looked name (r'.cache.peek m)]) := by
    simp [Run.step, h.asked_some (by simp) asked]
  refine mirrored_step (.peek name) (by simp [Event.task?]) ?_ ?_
  · rw [step']
    exact ⟨h.now, h.life, h.entry, h.gone, h.calls, h.asked_forget⟩
  · rw [step']
    simp [seenApart, Note.unnumbered, h.peek m, h.now]

/-- A call gets a good snapshot, and its shadow, which has not looked before, looks and gets it too. -/
theorem Shadow.gets {m : Moment} (h : Shadow t (lateBut late (.call u) false) r r') (hu : u ≠ t)
    {held : Held} (asked : r.asked (.call u) = some m) (good : r.cache.peek m = some held)
    (new : r'.calls u = none) (life : x.1.life = r.cache.life) (entry : x.1.entry = r.cache.entry)
    (got : x.2 = .got held) : Mirrored t late (r.settle u x).1 [(r.now, .moved u x.2)] r' := by
  obtain ⟨held', good', hlike⟩ := h.peek_some good
  have step' : r'.step (.call u) = r'.settle u (r'.cache, .got held') := by
    simp [Run.step, new, h.asked_some (by simpa using hu) asked, arrive, good']
  exact mirrored_settle h hu rfl step' (h.life.trans life.symm)
    (h.entry.trans (congrArg _ entry.symm)) (.inr ⟨by simp [got], by simp [got, Progress.unnumbered, hlike]⟩)

/-- A call begins to fetch, and its shadow, which has not looked before, looks, takes the lock, looks
again and fetches too. -/
theorem Shadow.begins {m : Moment} (h : Shadow t (lateBut late (.call u) false) r r') (hu : u ≠ t)
    (asked : r.asked (.call u) = some m) (past : m ≤ r.now) (miss : r.cache.peek m = none)
    (new : r'.calls u = none) (free : r'.cache.holder = none) :
    Mirrored t late (r.settle u (r.cache.beginFetch r.now)).1
      [(r.now, .moved u (.pending (.fetching r.cache.fetches r.now)))] r' := by
  have miss' := h.peek_none miss
  have still : r'.cache.peek r.now = none :=
    peek_eq_none.mpr fun e entry => Nat.le_trans (peek_eq_none.mp miss' e entry) past
  let locked : Cache := { r'.cache with holder := some u }
  have first : r'.after [.call u] = ((r'.settle u (locked, .pending .waiting)).1,
      [(r.now, .moved u (.pending .waiting))]) := by
    simp [after, Run.step, new, h.asked_some (by simpa using hu) asked, arrive, miss', queue, free, locked,
      h.now]
  have again : (r'.settle u (locked, .pending .waiting)).1.after [.ask (.call u), .resume u] =
      ((r'.settle u (locked.beginFetch r.now)).1, [(r.now, .asked (.call u)),
        (r.now, .moved u (.pending (.fetching r'.cache.fetches r.now)))]) := by
    have still' : locked.peek r.now = none := still
    rw [after_turn (by simp) (by simp [locked]) (by simp)]
    simp [settle_settle, h.now, resume, still', beginFetch, locked]
  refine ⟨[.call u] ++ [.ask (.call u), .resume u], by simp [Event.task?, hu], ?_, ?_⟩
  · rw [after_append, first, again]
    have moved : Shadowed (some (r.cache.beginFetch r.now).2) (some (locked.beginFetch r.now).2) :=
      .inr ⟨by simp [beginFetch], rfl⟩
    exact h.settle hu h.life h.entry moved
  · rw [after_append, first, again]
    simp [seenApart, Note.unnumbered, Progress.unnumbered, Stand.unnumbered, Note.isApart, hu]

theorem fetched_life_entry (c : Cache) (now : Moment) (n : Nat) (answer : Except Failure Schema.Snapshot) :
    (c.fetched now n answer).1.life = c.life ∧ (c.fetched now n answer).1.entry = c.entry := by
  unfold Cache.fetched
  split
  · exact ⟨rfl, rfl⟩
  · split <;> exact ⟨rfl, rfl⟩

/-- The fetch of a call has the same end in its shadow. -/
theorem Shadow.fetched {b : Bool} (h : Shadow t (lateBut late (.call u) b) r r') {n : Nat}
    {since : Moment} (fetches : r.calls u = some (.pending (.fetching n since)))
    (answer : Except Failure Schema.Snapshot) :
    Mirrored t late (r.settle u (r.cache.fetched r.now n answer)).1
      [(r.now, .moved u (r.cache.fetched r.now n answer).2)] r' := by
  obtain ⟨life, entry⟩ := fetched_life_entry r.cache r.now n answer
  by_cases hu : u = t
  · subst hu
    exact mirrored_own h life entry
  · obtain ⟨n', fetches'⟩ := (fetches ▸ h.calls u hu).of_fetching
    obtain ⟨life', entry'⟩ := fetched_life_entry r'.cache r.now n' answer
    have step' : r'.step (.fetched u answer) = r'.settle u (r'.cache.fetched r.now n' answer) := by
      simp [Run.step, fetches', h.now]
    have moved : Shadowed (some (r.cache.fetched r.now n answer).2)
        (some (r'.cache.fetched r.now n' answer).2) := by
      cases answer with
      | error f => exact .inr ⟨by simp [Cache.fetched], rfl⟩
      | ok snapshot =>
        cases ends : expiry? r.now r.cache.life <;>
          simp [Shadowed, Cache.fetched, h.life, ends, Progress.unnumbered, Stand.unnumbered,
            Entry.unnumbered, Held.unnumbered]
    refine mirrored_settle h hu rfl step' (life'.trans (h.life.trans life.symm)) ?_ moved
    rw [entry', entry, h.entry]

/-- A call is dropped that has not begun in the shadow, and there it never does. -/
theorem Shadow.unbegun (h : Shadow t (lateBut late (.call u) true) r r') (new : r'.calls u = none) :
    Mirrored t late (r.settle u (r.cache.leave u, .dropped)).1 [(r.now, .moved u .dropped)] r' := by
  refine mirrored_still (h.settle_alone (leave_life ..) (leave_entry ..) ?_) ?_
  · exact fun _ => .inl ⟨new, .inr rfl⟩
  · simp [seenApart, Note.unnumbered, Progress.unnumbered, Note.isApart]

/-- A call is dropped, and its shadow is dropped if it has begun. -/
theorem Shadow.dropped (h : Shadow t (lateBut late (.call u) true) r r') {s : Stand}
    (stands : r.calls u = some (.pending s)) :
    Mirrored t late (r.settle u (r.cache.leave u, .dropped)).1 [(r.now, .moved u .dropped)] r' := by
  by_cases hu : u = t
  · subst hu
    exact mirrored_own h (leave_life ..) (leave_entry ..)
  · have leaves : ∀ {s' : Stand}, r'.calls u = some (.pending s') →
        Mirrored t late (r.settle u (r.cache.leave u, .dropped)).1 [(r.now, .moved u .dropped)] r' := by
      intro s' stands'
      have step' : r'.step (.cancel u) = r'.settle u (r'.cache.leave u, .dropped) := by
        simp [Run.step, stands']
      exact mirrored_settle h hu rfl step' (by simp [h.life]) (by simp [h.entry]) (.inr ⟨by simp, rfl⟩)
    have shadowed := stands ▸ h.calls u hu
    cases s with
    | waiting => exact h.unbegun shadowed.of_waiting
    | fetching n since => exact leaves shadowed.of_fetching.choose_spec
    | storing entry => exact leaves shadowed.of_storing.choose_spec.1

/-- What an event does to a run, events without the call do to its shadow, unless the call gets something.
Who is to have read the clock behind the event says who has to have read it before: whoever does not find
a snapshot comes too early, and is late in the shadow. -/
theorem Step.mirrored (ho : r.Sound) (hs : Step r ev r'' notes)
    (vain : ∀ held, r''.calls t ≠ some (.got held)) (late : Looker → Bool) :
    ∃ late', ∀ r', Shadow t late' r r' → r'.Sound → Mirrored t late r'' (notes.map (r.now, ·)) r' := by
  -- whoever gets something is another call
  have other : ∀ {v x held}, r'' = (r.settle v x).1 → x.2 = .got held → v ≠ t := by
    rintro v x held rfl got rfl
    exact vain held (by rw [settle_calls_self, got])
  -- where someone other than a looker moves, it does not matter who is late
  have same : ∀ who, lateBut late who (late who) = late := by
    intro who
    funext w
    by_cases he : w = who <;> simp [lateBut, he]
  cases hs with
  | idle => exact ⟨late, fun r' h _ => mirrored_still h rfl⟩
  | ask rests turn => exact ⟨late, fun r' h _ => h.asks rests turn⟩
  | @look name m asked => exact ⟨lateBut late (.watcher name) false, fun r' h _ => h.looks asked⟩
  | invalidate =>
    refine ⟨late, fun r' h _ => mirrored_step .invalidate (by simp [Event.task?]) ?_ ?_⟩
    · exact ⟨h.now, h.life, rfl, h.gone, h.calls, h.asked⟩
    · simp [Run.step, h.now]
  | pass time =>
    refine ⟨late, fun r' h _ => mirrored_step (.pass time) (by simp [Event.task?]) ?_ rfl⟩
    exact ⟨by simp [Run.step, h.now], h.life, h.entry, h.gone, h.calls, h.asked⟩
  | @hit u m held new asked good =>
    have hu := other rfl rfl
    exact ⟨lateBut late (.call u) false, fun r' h _ =>
      h.gets hu asked good (new ▸ h.calls u hu).of_none rfl rfl rfl⟩
  | @share u m held waits holds asked good =>
    have hu := other rfl rfl
    exact ⟨lateBut late (.call u) false, fun r' h _ =>
      h.gets hu asked good (waits ▸ h.calls u hu).of_waiting rfl rfl rfl⟩
  | @next u m waits holds asked miss =>
    refine ⟨lateBut late (.call u) false, fun r' h ho' => ?_⟩
    by_cases hu : u = t
    · subst hu
      exact mirrored_own h rfl rfl
    · have free' := h.free ho.order ho'.order (by simp [holds, waits])
      exact h.begins hu asked (ho.timely _ _ asked) miss (waits ▸ h.calls u hu).of_waiting free'
  | @queue u m new asked miss =>
    refine ⟨lateBut late (.call u) true, fun r' h _ =>
      mirrored_still (h.settle_alone (by simp) (by simp) ?_) ?_⟩
    · exact fun hu => .inl ⟨(new ▸ h.calls u hu).of_none, .inl rfl⟩
    · simp [seenApart, Note.unnumbered, Progress.unnumbered, Stand.unnumbered, Note.isApart]
  | @fail u n since f fetches =>
    exact ⟨late, fun r' h _ => (same (.call u) ▸ h).fetched fetches (.error _)⟩
  | @crash u n since snapshot fetches overflow =>
    refine ⟨late, fun r' h _ => ?_⟩
    rw [← same (.call u)] at h
    simpa [Cache.fetched, overflow] using h.fetched fetches (.ok snapshot)
  | @succeed u n since expiry snapshot fetches ends =>
    refine ⟨late, fun r' h _ => ?_⟩
    rw [← same (.call u)] at h
    simpa [Cache.fetched, ends] using h.fetched fetches (.ok snapshot)
  | @store u entry stores =>
    have hu := other rfl rfl
    refine ⟨late, fun r' h _ => ?_⟩
    rw [← same (.call u)] at h
    obtain ⟨entry', stores', hlike⟩ := (stores ▸ h.calls u hu).of_storing
    have step' : r'.step (.store u) = r'.settle u (r'.cache.store entry') := by
      simp [Run.step, stores']
    have hheld : entry'.held.unnumbered = entry.held.unnumbered := (Entry.mk.inj hlike).1
    exact mirrored_settle h hu rfl step' h.life (congrArg some hlike)
      (.inr ⟨by simp [Cache.store], congrArg (some ∘ Progress.got) hheld⟩)
  | @drop u s stands => exact ⟨lateBut late (.call u) true, fun r' h _ => h.dropped stands⟩
  | @quit u m new asked =>
    refine ⟨lateBut late (.call u) true, fun r' h _ => ?_⟩
    by_cases hu : u = t
    · subst hu
      exact mirrored_own h (leave_life ..) (leave_entry ..)
    · exact h.unbegun (new ▸ h.calls u hu).of_none

/-- Every run has a shadow without a call that has got nothing, whoever may be late. -/
theorem shadow_after (t : TaskId) (life : Duration) (now : Moment) (es : List Event)
    (vain : ∀ held, ((start life now).after es).1.calls t ≠ some (.got held)) (late : Looker → Bool) :
    Mirrored t late ((start life now).after es).1 ((start life now).after es).2 (start life now) := by
  have keeps : ∀ (past : List (Moment × Note)) (r : Run) (ev : Event),
      (r.Sound ∧ ((∀ held, r.calls t ≠ some (.got held)) →
        ∀ late, Mirrored t late r past (start life now))) →
      (r.step ev).1.Sound ∧ ((∀ held, (r.step ev).1.calls t ≠ some (.got held)) →
        ∀ late, Mirrored t late (r.step ev).1 (past ++ (r.step ev).2.map (r.now, ·))
          (start life now)) := by
    rintro past r ev ⟨sound, mirrored⟩
    refine ⟨sound.step ev, ?_⟩
    intro vain late
    have before : ∀ held, r.calls t ≠ some (.got held) :=
      fun held hgot => vain held ((step_spec r ev).ended hgot rfl)
    obtain ⟨late', onward⟩ := (step_spec r ev).mirrored sound vain late
    obtain ⟨es', apart, shadow, seen⟩ := mirrored before late'
    obtain ⟨more, apart', shadow', seen'⟩ := onward _ shadow ((sound_start life now).after es')
    refine ⟨es' ++ more, ?_, ?_, ?_⟩
    · intro e he
      obtain he | he := List.mem_append.mp he
      · exact apart e he
      · exact apart' e he
    · rwa [after_append]
    · rw [after_append, seenApart_append, seenApart_append, seen, seen']
  exact (after_keeps (I := fun past r => r.Sound ∧ ((∀ held, r.calls t ≠ some (.got held)) →
    ∀ late, Mirrored t late r past (start life now))) keeps es []
    ⟨sound_start life now, fun _ late => mirrored_still (shadow_start t late life now) rfl⟩).2 vain late

/-- A call that comes to an end without a snapshot leaves the entry. If it held the lock, the lock goes to
the first in line; else it only leaves the line. -/
theorem Step.vain {p : Progress} (hs : Step r ev r' [.moved t p]) (hp : p.isVain = true)
    (ho : Orderly r.cache r.stand) : r'.cache.entry = r.cache.entry ∧
      (r.cache.holder = some t ∧ r'.cache.holder = r.cache.line.head? ∧
          r'.cache.line = r.cache.line.tail ∨
        r.cache.holder ≠ some t ∧ r'.cache.holder = r.cache.holder ∧
          r'.cache.line = r.cache.line.filter (· != t)) := by
  cases hs with
  | fail fetches | crash fetches =>
    exact ⟨rfl, .inl ⟨ho.inside t _ (stand_eq_some.mpr fetches) (by simp), rfl, rfl⟩⟩
  | drop | quit =>
    refine ⟨by simp, ?_⟩
    rw [settle_cache, Cache.leave]
    split
    · rename_i holds
      exact .inl ⟨holds, rfl, rfl⟩
    · rename_i other
      exact .inr ⟨other, rfl, rfl⟩
  | _ => simp [Progress.isVain] at hp

/-- The lock is free and nobody stands before it, or a call has it that has not come to an end. -/
def LockIsLive (r : Run) : Prop :=
  r.cache.holder = none ∧ r.cache.line = [] ∨
    ∃ u s, r.cache.holder = some u ∧ r.calls u = some (.pending s)

theorem lockIsLive_of_orderly (h : Orderly r.cache r.stand) : r.LockIsLive := by
  cases hh : r.cache.holder with
  | none => exact .inl ⟨hh, h.free hh⟩
  | some u =>
    obtain ⟨s, hs⟩ := h.holder u hh
    exact .inr ⟨u, s, hh, stand_eq_some.mp hs⟩

/-- In every run, the entry changes in two ways: a call that holds the lock and whose fetch has succeeded
stores it whole, and an invalidation takes it away. A call that fails, breaks off or is dropped, wherever
it stands, leaves the entry, and its place under the lock goes to the first who waits in line. And
whatever has become of a call that has got nothing, a run from which it is missing comes to the same:
the same entry at the same time, and for every other call the same. -/
theorem only_success_leaves_a_trace (life : Duration) (now : Moment) (es : List Event) :
    let r := ((start life now).after es).1
    (∀ ev, (r.step ev).1.cache.entry ≠ r.cache.entry →
      (∃ t e, ev = .store t ∧ r.calls t = some (.pending (.storing e)) ∧ r.cache.holder = some t ∧
        .fetched t (.ok e.held.snapshot) ∈ es ∧ (r.step ev).1.cache.entry = some e) ∨
      ev = .invalidate ∧ (r.step ev).1.cache.entry = none) ∧
    (∀ t e, r.calls t = some (.pending (.storing e)) → (r.step (.store t)).1.cache.entry = some e) ∧
    (r.step .invalidate).1.cache.entry = none ∧
    (∀ ev t p, (r.step ev).2 = [.moved t p] → p.isVain = true →
      (r.step ev).1.cache.entry = r.cache.entry ∧ (r.step ev).1.LockIsLive ∧
      (r.cache.holder = some t → (r.step ev).1.cache.holder = r.cache.line.head? ∧
        ∀ u, (r.step ev).1.cache.holder = some u → (r.step ev).1.calls u = some (.pending .waiting))) ∧
    ∀ t, (∀ held, r.calls t ≠ some (.got held)) →
      ∃ es', (∀ e ∈ es', e.task? ≠ some t) ∧ Shadow t (fun _ => false) r ((start life now).after es').1 ∧
        seenApart t ((start life now).after es').2 = seenApart t ((start life now).after es).2 := by
  intro r
  have order : Orderly r.cache r.stand := ((sound_start life now).after es).order
  have ledger := ledger_after life now es
  refine ⟨?_, ?_, rfl, ?_, fun t vain => shadow_after t life now es vain _⟩
  · intro ev changed
    obtain ⟨t, e, hev, stores, -, hentry⟩ | ⟨hev, -, hentry⟩ | ⟨hentry, -⟩ := (step_spec r ev).entry
    · have holds := order.inside t _ (stand_eq_some.mpr stores) (by simp)
      exact .inl ⟨t, e, hev, stores, holds, answered_of_brought es (ledger.storing t e stores).2, hentry⟩
    · exact .inr ⟨hev, hentry⟩
    · exact absurd hentry changed
  · intro t e stores
    simp [step, stores, Cache.store, release]
  · intro ev t p hn hp
    have hs := step_spec r ev
    have order' := orderly_step order ev
    rw [hn] at hs
    obtain ⟨hentry, handed⟩ := hs.vain hp order
    refine ⟨hentry, lockIsLive_of_orderly order', ?_⟩
    intro holds
    obtain ⟨-, hholder, -⟩ | ⟨other, -⟩ := handed
    · refine ⟨hholder, ?_⟩
      intro u hu
      have waits := stand_eq_some.mp (order.line u (List.mem_of_mem_head? (hholder ▸ hu)))
      obtain ⟨s, stands⟩ := order'.holder u hu
      have stands := stand_eq_some.mp stands
      obtain before | hm := hs.moves stands
      · rw [stands, ← before, waits]
      · obtain ⟨rfl, rfl⟩ : u = t ∧ .pending s = p := by simpa using hm
        simp [Progress.isVain] at hp
    · exact absurd holds other

def twoCalls : List Event := beginning 1 ++ [.ask (.call 2), .call 2]

/-- The call that fetches is dropped, and the one behind it in line fetches instead. -/
def takenOver : List Event :=
  twoCalls ++ [.cancel 1, .ask (.call 2), .resume 2, .fetched 2 (.ok bareSnapshot)]

theorem dropped_call_is_replaced :
    ((start 10 0).after takenOver).1.cache.holder = some 2 ∧
      (((start 10 0).after takenOver).1.step (.store 2)).1.cache.entry =
        some ⟨⟨1, bareSnapshot⟩, 0, 10⟩ ∧
      (((start 10 0).after twoCalls).1.step (.cancel 1)).1.LockIsLive ∧
      ∃ es', (∀ e ∈ es', e.task? ≠ some 1) ∧
        Shadow 1 (fun _ => false) ((start 10 0).after takenOver).1 ((start 10 0).after es').1 ∧
        seenApart 1 ((start 10 0).after es').2 = seenApart 1 ((start 10 0).after takenOver).2 := by
  obtain ⟨changes, stored, -, -, erased⟩ := only_success_leaves_a_trace 10 0 takenOver
  obtain ⟨-, -, -, ends, -⟩ := only_success_leaves_a_trace 10 0 twoCalls
  have stores : ((start 10 0).after takenOver).1.calls 2 =
      some (.pending (.storing ⟨⟨1, bareSnapshot⟩, 0, 10⟩)) := by
    decide +kernel
  have empty : ((start 10 0).after takenOver).1.cache.entry = none := by decide +kernel
  have gone : ((start 10 0).after takenOver).1.calls 1 = some .dropped := by decide +kernel
  have entry := stored 2 _ stores
  refine ⟨?_, entry, (ends (.cancel 1) 1 .dropped (by decide +kernel) rfl).2.1, erased 1 (by simp [gone])⟩
  obtain ⟨t, e, hev, -, holds, -⟩ | ⟨hev, -⟩ := changes (.store 2) (by simp [entry, empty])
  · cases hev
    exact holds
  · cases hev

end Run
end QueryWarden.Cache
