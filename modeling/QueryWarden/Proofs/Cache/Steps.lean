import QueryWarden.Cache.Run
import QueryWarden.Proofs.Cache.Lock

/-! What one event can do to a run of the cache, said once, and the induction over whole runs. -/
namespace QueryWarden.Cache
open Clock

theorem peek_eq_some {c : Cache} {now : Moment} {held : Held} :
    c.peek now = some held ↔ ∃ e, c.entry = some e ∧ now < e.expiry ∧ e.held = held := by
  cases h : c.entry with
  | none => simp [peek, h]
  | some e => by_cases hf : now < e.expiry <;> simp [peek, h, Entry.isFresh, hf]

theorem peek_eq_none {c : Cache} {now : Moment} :
    c.peek now = none ↔ ∀ e, c.entry = some e → e.expiry ≤ now := by
  cases h : c.entry with
  | none => simp [peek, h]
  | some e =>
    by_cases hf : now < e.expiry
    · simp [peek, h, Entry.isFresh, hf]
    · simp [peek, h, Entry.isFresh, hf, Nat.le_of_not_lt hf]

/-- No end of a life can be named where neither the life asked for nor the longest one fits. -/
theorem expiry?_eq_none {m : Moment} {life : Duration} :
    expiry? m life = none ↔ lastMoment < m + life ∧ lastMoment < m + longestLife := by
  by_cases h : m + life ≤ lastMoment
  · simp [expiry?, later?, h, Nat.not_lt.mpr h]
  · simp [expiry?, later?, h, Nat.lt_of_not_le h]

/-- A clock that cannot say when a snapshot runs out cannot say so later. -/
theorem expiry?_none_later {m m' : Moment} {life : Duration} (hm : m ≤ m')
    (h : expiry? m life = none) : expiry? m' life = none := by
  obtain ⟨hl, hlongest⟩ := expiry?_eq_none.mp h
  exact expiry?_eq_none.mpr
    ⟨Nat.lt_of_lt_of_le hl (Nat.add_le_add_right hm life),
      Nat.lt_of_lt_of_le hlongest (Nat.add_le_add_right hm longestLife)⟩

@[simp] theorem queue_life (c : Cache) (t : TaskId) : (c.queue t).life = c.life := by
  unfold queue; split <;> rfl
@[simp] theorem queue_entry (c : Cache) (t : TaskId) : (c.queue t).entry = c.entry := by
  unfold queue; split <;> rfl
@[simp] theorem queue_fetches (c : Cache) (t : TaskId) : (c.queue t).fetches = c.fetches := by
  unfold queue; split <;> rfl

@[simp] theorem release_holder (c : Cache) : c.release.holder = c.line.head? := rfl
@[simp] theorem release_line (c : Cache) : c.release.line = c.line.tail := rfl

@[simp] theorem leave_life (c : Cache) (t : TaskId) : (c.leave t).life = c.life := by
  unfold leave; split <;> rfl
@[simp] theorem leave_entry (c : Cache) (t : TaskId) : (c.leave t).entry = c.entry := by
  unfold leave; split <;> rfl
@[simp] theorem leave_fetches (c : Cache) (t : TaskId) : (c.leave t).fetches = c.fetches := by
  unfold leave; split <;> rfl

namespace Run

@[simp] theorem settle_cache (r : Run) (t : TaskId) (x : Cache × Progress) :
    (r.settle t x).1.cache = x.1 := rfl
@[simp] theorem settle_now (r : Run) (t : TaskId) (x : Cache × Progress) :
    (r.settle t x).1.now = r.now := rfl
@[simp] theorem settle_calls_self (r : Run) (t : TaskId) (x : Cache × Progress) :
    (r.settle t x).1.calls t = some x.2 := by simp [settle]
@[simp] theorem settle_notes (r : Run) (t : TaskId) (x : Cache × Progress) :
    (r.settle t x).2 = [.moved t x.2] := rfl
@[simp] theorem settle_asked (r : Run) (t : TaskId) (x : Cache × Progress) :
    (r.settle t x).1.asked = (r.forget (.call t)).asked := rfl

theorem settle_calls_ne (r : Run) {t u : TaskId} (x : Cache × Progress) (h : u ≠ t) :
    (r.settle t x).1.calls u = r.calls u := by simp [settle, forget, h]

theorem settle_calls_other {r : Run} {t u : TaskId} {p q : Option Progress} (ht : r.calls t = p)
    (hu : r.calls u = q) (h : q ≠ p) (x : Cache × Progress) : (r.settle u x).1.calls t = p := by
  have hne : t ≠ u := by
    intro he
    rw [← he, ht] at hu
    exact h hu.symm
  rw [settle_calls_ne r x hne, ht]

@[simp] theorem ask_cache (r : Run) (who : Looker) : (r.ask who).cache = r.cache := rfl
@[simp] theorem ask_now (r : Run) (who : Looker) : (r.ask who).now = r.now := rfl
@[simp] theorem ask_calls (r : Run) (who : Looker) : (r.ask who).calls = r.calls := rfl
@[simp] theorem ask_asked_self (r : Run) (who : Looker) : (r.ask who).asked who = some r.now := by
  simp [ask]

theorem ask_asked_ne (r : Run) {who w : Looker} (h : w ≠ who) : (r.ask who).asked w = r.asked w := by
  simp [ask, h]

@[simp] theorem forget_asked_self (r : Run) (who : Looker) : (r.forget who).asked who = none := by
  simp [forget]

theorem forget_asked_ne (r : Run) {who w : Looker} (h : w ≠ who) :
    (r.forget who).asked w = r.asked w := by
  simp [forget, h]

/-- Once a call has come to something, it does not matter that it had read the clock. -/
theorem settle_ask (r : Run) (t : TaskId) (x : Cache × Progress) :
    (r.ask (.call t)).settle t x = r.settle t x := by
  have asked : ((r.ask (.call t)).forget (.call t)).asked = (r.forget (.call t)).asked := by
    funext w
    by_cases he : w = .call t <;> simp [ask, forget, he]
  simp only [settle, asked, ask_calls]
  rfl

theorem settle_settle (r : Run) (t : TaskId) (x y : Cache × Progress) :
    (r.settle t x).1.settle t y = r.settle t y := by
  have asked : ((r.settle t x).1.forget (.call t)).asked = (r.forget (.call t)).asked := by
    funext w
    by_cases he : w = .call t <;> simp [forget, he]
  have calls : (fun u => if u = t then some y.2 else (r.settle t x).1.calls u) =
      fun u => if u = t then some y.2 else r.calls u := by
    funext u
    by_cases he : u = t <;> simp [settle, he]
  simp only [settle] at asked calls ⊢
  simp only [asked, calls]
  rfl

/-- Who is still about to look after someone else was let go was so before. -/
theorem forget_asked_some {r : Run} {who w : Looker} {m : Moment}
    (h : (r.forget who).asked w = some m) : r.asked w = some m := by
  by_cases he : w = who
  · subst he; simp at h
  · rwa [forget_asked_ne r he] at h

/-- What an event can do: what has to hold before it, the run behind it, and the notes that it
leaves. -/
inductive Step (r : Run) : Event → Run → List Note → Prop where
  /-- The event does not fit. -/
  | idle (e : Event) : Step r e r []
  /-- Someone who is about to look reads the clock. -/
  | ask {who : Looker} (rests : r.asked who = none) (turn : r.looksNext who = true) :
      Step r (.ask who) (r.ask who) [.asked who]
  /-- A call looks for the first time and finds a good snapshot. -/
  | hit {t : TaskId} {m : Moment} {held : Held} (new : r.calls t = none)
      (asked : r.asked (.call t) = some m) (good : r.cache.peek m = some held) :
      Step r (.call t) (r.settle t (r.cache, .got held)).1 [.moved t (.got held)]
  /-- A call looks for the first time, finds none, and takes the lock or stands in line. -/
  | queue {t : TaskId} {m : Moment} (new : r.calls t = none) (asked : r.asked (.call t) = some m)
      (miss : r.cache.peek m = none) :
      Step r (.call t) (r.settle t (r.cache.queue t, .pending .waiting)).1
        [.moved t (.pending .waiting)]
  /-- A call that has the lock finds a good snapshot. -/
  | share {t : TaskId} {m : Moment} {held : Held} (waits : r.calls t = some (.pending .waiting))
      (holds : r.cache.holder = some t) (asked : r.asked (.call t) = some m)
      (good : r.cache.peek m = some held) :
      Step r (.resume t) (r.settle t (r.cache.release, .got held)).1 [.moved t (.got held)]
  /-- A call that has the lock finds none and fetches. -/
  | next {t : TaskId} {m : Moment} (waits : r.calls t = some (.pending .waiting))
      (holds : r.cache.holder = some t) (asked : r.asked (.call t) = some m)
      (miss : r.cache.peek m = none) :
      Step r (.resume t) (r.settle t (r.cache.beginFetch r.now)).1
        [.moved t (.pending (.fetching r.cache.fetches r.now))]
  /-- A fetch fails. -/
  | fail {t : TaskId} {n : Nat} {since : Moment} {f : Failure}
      (fetches : r.calls t = some (.pending (.fetching n since))) :
      Step r (.fetched t (.error f)) (r.settle t (r.cache.release, .failed f)).1
        [.moved t (.failed f)]
  /-- A fetch succeeds, but the clock cannot say when its snapshot runs out. -/
  | crash {t : TaskId} {n : Nat} {since : Moment} {snapshot : Schema.Snapshot}
      (fetches : r.calls t = some (.pending (.fetching n since)))
      (overflow : expiry? r.now r.cache.life = none) :
      Step r (.fetched t (.ok snapshot)) (r.settle t (r.cache.release, .broken clockOverflow)).1
        [.moved t (.broken clockOverflow)]
  /-- A fetch succeeds. -/
  | succeed {t : TaskId} {n : Nat} {since expiry : Moment} {snapshot : Schema.Snapshot}
      (fetches : r.calls t = some (.pending (.fetching n since)))
      (ends : expiry? r.now r.cache.life = some expiry) :
      Step r (.fetched t (.ok snapshot))
        (r.settle t (r.cache, .pending (.storing ⟨⟨n, snapshot⟩, r.now, expiry⟩))).1
        [.moved t (.pending (.storing ⟨⟨n, snapshot⟩, r.now, expiry⟩))]
  /-- What was fetched is stored. -/
  | store {t : TaskId} {entry : Entry} (stores : r.calls t = some (.pending (.storing entry))) :
      Step r (.store t) (r.settle t (r.cache.store entry)).1 [.moved t (.got entry.held)]
  /-- A call is dropped. -/
  | drop {t : TaskId} {stand : Stand} (stands : r.calls t = some (.pending stand)) :
      Step r (.cancel t) (r.settle t (r.cache.leave t, .dropped)).1 [.moved t .dropped]
  /-- A call is dropped before it has looked. -/
  | quit {t : TaskId} {m : Moment} (new : r.calls t = none) (asked : r.asked (.call t) = some m) :
      Step r (.cancel t) (r.settle t (r.cache.leave t, .dropped)).1 [.moved t .dropped]
  | look {name : Nat} {m : Moment} (asked : r.asked (.watcher name) = some m) :
      Step r (.peek name) (r.forget (.watcher name)) [.looked name (r.cache.peek m)]
  | invalidate : Step r .invalidate { r with cache := r.cache.invalidate } [.invalidated]
  | pass (time : Duration) : Step r (.pass time) { r with now := r.now + time } []

theorem step_call (r : Run) (t : TaskId) :
    Step r (.call t) (r.step (.call t)).1 (r.step (.call t)).2 := by
  simp only [step]
  split
  · rename_i m new asked
    cases hp : r.cache.peek m with
    | some held => simpa [arrive, hp, settle] using Step.hit new asked hp
    | none => simpa [arrive, hp, settle] using Step.queue new asked hp
  · exact .idle _

theorem step_resume (r : Run) (t : TaskId) :
    Step r (.resume t) (r.step (.resume t)).1 (r.step (.resume t)).2 := by
  simp only [step]
  split
  · rename_i m waits asked
    split
    · rename_i holds
      cases hp : r.cache.peek m with
      | some held => simpa [resume, hp, settle] using Step.share waits holds asked hp
      | none => simpa [resume, hp, settle, beginFetch] using Step.next waits holds asked hp
    · exact .idle _
  · exact .idle _

theorem step_fetched (r : Run) (t : TaskId) (answer : Except Failure Schema.Snapshot) :
    Step r (.fetched t answer) (r.step (.fetched t answer)).1 (r.step (.fetched t answer)).2 := by
  simp only [step]
  split
  · rename_i n since hf
    cases answer with
    | error f => exact .fail hf
    | ok snapshot =>
      cases he : expiry? r.now r.cache.life with
      | none => simpa [fetched, he, settle] using Step.crash hf he
      | some expiry => simpa [fetched, he, settle] using Step.succeed hf he
  · exact .idle _

/-- Every event does one of the things that `Step` lists. -/
theorem step_spec (r : Run) (e : Event) : Step r e (r.step e).1 (r.step e).2 := by
  cases e with
  | ask who =>
    simp only [step]
    split
    · rename_i fits
      exact .ask fits.1 fits.2
    · exact .idle _
  | call t => exact step_call r t
  | resume t => exact step_resume r t
  | fetched t answer => exact step_fetched r t answer
  | store t =>
    simp only [step]
    split
    · rename_i entry hs
      exact .store hs
    · exact .idle _
  | cancel t =>
    simp only [step]
    split
    · rename_i stand hs
      exact .drop hs
    · rename_i m new asked
      exact .quit new asked
    · exact .idle _
  | peek name =>
    simp only [step]
    split
    · rename_i m asked
      exact .look asked
    · exact .idle _
  | invalidate => exact .invalidate
  | pass time => exact .pass time

def stand (r : Run) (t : TaskId) : Option Stand := (r.calls t).bind Progress.stand?

theorem stand_eq_some {r : Run} {t : TaskId} {s : Stand} :
    r.stand t = some s ↔ r.calls t = some (.pending s) := by
  cases h : r.calls t with
  | none => simp [stand, h]
  | some p => cases p <;> simp [stand, h, Progress.stand?]

theorem settle_stand (r : Run) (t : TaskId) (x : Cache × Progress) :
    (r.settle t x).1.stand = placed r.stand t x.2.stand? := by
  funext u
  by_cases he : u = t
  · subst he; simp [stand]
  · simp [stand, placed, he, settle_calls_ne r x he]

theorem orderly_settle {r : Run} {t : TaskId} {x : Cache × Progress}
    (h : Orderly x.1 (placed r.stand t x.2.stand?)) :
    Orderly (r.settle t x).1.cache (r.settle t x).1.stand := by
  rw [settle_stand]
  exact h

/-- Every event keeps the order before the lock. -/
theorem orderly_step {r : Run} (h : Orderly r.cache r.stand) (e : Event) :
    Orderly (r.step e).1.cache (r.step e).1.stand := by
  cases e with
  | ask who =>
    simp only [step]
    split <;> exact h
  | call t =>
    simp only [step]
    split
    · rename_i m new asked
      exact orderly_settle (h.arrive (by simp [stand, new]) m)
    · exact h
  | resume t =>
    simp only [step]
    split
    · rename_i m waits asked
      split
      · rename_i holds
        exact orderly_settle (h.resume holds m r.now)
      · exact h
    · exact h
  | fetched t answer =>
    simp only [step]
    split
    · rename_i n since hf
      have hh := h.inside t _ (stand_eq_some.mpr hf) (by simp)
      exact orderly_settle (h.fetched hh r.now n answer)
    · exact h
  | store t =>
    simp only [step]
    split
    · rename_i entry hs
      have hh := h.inside t _ (stand_eq_some.mpr hs) (by simp)
      exact orderly_settle (h.store hh entry)
    · exact h
  | cancel t =>
    simp only [step]
    split
    · exact orderly_settle (h.leave t)
    · exact orderly_settle (h.leave t)
    · exact h
  | peek name =>
    simp only [step]
    split <;> exact h
  | invalidate => exact h.invalidate
  | pass time => exact h

/-- An item of notes with one more at the end is that one, or it stood there before. -/
theorem split_at_end {past a b : List (Moment × Note)} {x y : Moment × Note}
    (h : past ++ [x] = a ++ y :: b) :
    b = [] ∧ past = a ∧ x = y ∨ ∃ b', b = b' ++ [x] ∧ past = a ++ y :: b' := by
  cases List.eq_nil_or_concat b with
  | inl hb =>
    subst hb
    obtain ⟨hp, hx⟩ := List.append_inj' h rfl
    exact .inl ⟨rfl, hp, List.singleton_inj.mp hx⟩
  | inr hb =>
    obtain ⟨b', z, rfl⟩ := hb
    rw [List.concat_eq_append, ← List.cons_append, ← List.append_assoc] at h
    obtain ⟨hp, hx⟩ := List.append_inj' h rfl
    exact .inr ⟨b', by rw [List.singleton_inj.mp hx, List.concat_eq_append], hp⟩

theorem Step.life {r r' : Run} {e : Event} {notes : List Note} (h : Step r e r' notes) :
    r'.cache.life = r.cache.life := by
  cases h with
  | queue | drop | quit => simp
  | _ => rfl

/-- Where a call stands after an event, it stood before, or the event says so. -/
theorem Step.moves {r r' : Run} {e : Event} {notes : List Note} {t : TaskId} {p : Progress}
    (h : Step r e r' notes) (ht : r'.calls t = some p) : r.calls t = some p ∨ .moved t p ∈ notes := by
  have settled : ∀ u (x : Cache × Progress), (r.settle u x).1.calls t = some p →
      r.calls t = some p ∨ Note.moved t p ∈ [Note.moved u x.2] := by
    intro u x hx
    by_cases he : t = u
    · subst he
      rw [settle_calls_self] at hx
      exact .inr (by simp [Option.some.inj hx])
    · exact .inl (by rwa [settle_calls_ne r x he] at hx)
  cases h with
  | idle | ask | look | invalidate | pass => exact .inl ht
  | _ => exact settled _ _ ht

/-- What an event does to the entry: a call that holds the lock stores what it has fetched, an
invalidation takes it away, and all else leaves it. -/
theorem Step.entry {r r' : Run} {ev : Event} {notes : List Note} (h : Step r ev r' notes) :
    (∃ t e, ev = .store t ∧ r.calls t = some (.pending (.storing e)) ∧
      notes = [.moved t (.got e.held)] ∧ r'.cache.entry = some e) ∨
    (ev = .invalidate ∧ notes = [.invalidated] ∧ r'.cache.entry = none) ∨
    r'.cache.entry = r.cache.entry ∧ .invalidated ∉ notes ∧
      ∀ t held, .moved t (.got held) ∈ notes →
        (∃ m, r.asked (.call t) = some m ∧ r.cache.peek m = some held) ∧
        (r.calls t = none ∨ r.calls t = some (.pending .waiting)) := by
  cases h with
  | store stores => exact .inl ⟨_, _, rfl, stores, rfl, rfl⟩
  | invalidate => exact .inr (.inl ⟨rfl, rfl, rfl⟩)
  | hit new asked good =>
    refine .inr (.inr ⟨rfl, by simp, ?_⟩)
    intro t held hm
    obtain ⟨rfl, rfl⟩ : t = _ ∧ held = _ := by simpa using hm
    exact ⟨⟨_, asked, good⟩, .inl new⟩
  | share waits holds asked good =>
    refine .inr (.inr ⟨rfl, by simp, ?_⟩)
    intro t held hm
    obtain ⟨rfl, rfl⟩ : t = _ ∧ held = _ := by simpa using hm
    exact ⟨⟨_, asked, good⟩, .inr waits⟩
  | queue | drop | quit => exact .inr (.inr ⟨by simp, by simp, by simp⟩)
  | _ => exact .inr (.inr ⟨rfl, by simp, by simp⟩)

/-- Fetches are numbered in the order in which they begin. -/
theorem Step.starts {r r' : Run} {ev : Event} {notes : List Note} {t : TaskId} {n : Nat}
    {since : Moment} (h : Step r ev r' notes)
    (hm : .moved t (.pending (.fetching n since)) ∈ notes) :
    n = r.cache.fetches ∧ since = r.now ∧ r'.cache.fetches = n + 1 := by
  cases h with
  | next =>
    obtain ⟨rfl, rfl, rfl⟩ : t = _ ∧ n = _ ∧ since = _ := by simpa using hm
    exact ⟨rfl, rfl, rfl⟩
  | _ => simp at hm

theorem Step.fetches_le {r r' : Run} {ev : Event} {notes : List Note} (h : Step r ev r' notes) :
    r.cache.fetches ≤ r'.cache.fetches := by
  cases h with
  | next => exact Nat.le_succ _
  | queue | drop | quit => simp
  | _ => exact Nat.le_refl _

/-- What is found goes by the clock as it had been read before. -/
theorem Step.looks {r r' : Run} {ev : Event} {notes : List Note} {name : Nat} {found : Option Held}
    (h : Step r ev r' notes) (hm : .looked name found ∈ notes) :
    ∃ m, r.asked (.watcher name) = some m ∧ r.cache.peek m = found := by
  cases h with
  | look asked =>
    obtain ⟨rfl, rfl⟩ : name = _ ∧ found = _ := by simpa using hm
    exact ⟨_, asked, rfl⟩
  | _ => simp at hm

/-- Whoever is about to look after an event was so before, or has just read the clock. -/
theorem Step.asks {r r' : Run} {ev : Event} {notes : List Note} {who : Looker} {m : Moment}
    (h : Step r ev r' notes) (ha : r'.asked who = some m) :
    r.asked who = some m ∧ .asked who ∉ notes ∨ m = r.now ∧ notes = [.asked who] := by
  cases h with
  | @ask w =>
    by_cases he : who = w
    · subst he
      rw [ask_asked_self] at ha
      exact .inr ⟨(Option.some.inj ha).symm, rfl⟩
    · rw [ask_asked_ne r he] at ha
      exact .inl ⟨ha, by simpa using he⟩
  | idle | invalidate | pass => exact .inl ⟨ha, by simp⟩
  | _ => exact .inl ⟨forget_asked_some ha, by simp⟩

/-- A call has an entry to store when its own fetch has succeeded. -/
theorem Step.brings {r r' : Run} {ev : Event} {notes : List Note} {t : TaskId} {e : Entry}
    (h : Step r ev r' notes) (hm : .moved t (.pending (.storing e)) ∈ notes) :
    ev = .fetched t (.ok e.held.snapshot) ∧
      (∃ since, r.calls t = some (.pending (.fetching e.held.fetch since))) ∧
      e.stored = r.now ∧ expiry? r.now r.cache.life = some e.expiry ∧
      r'.calls t = some (.pending (.storing e)) := by
  cases h with
  | succeed fetches ends =>
    obtain ⟨rfl, rfl⟩ : t = _ ∧ e = _ := by simpa using hm
    exact ⟨rfl, ⟨_, fetches⟩, rfl, ends, settle_calls_self ..⟩
  | _ => simp at hm

theorem Step.notes_short {r r' : Run} {e : Event} {notes : List Note} (h : Step r e r' notes) :
    notes = [] ∨ ∃ x, notes = [x] := by
  cases h <;> simp

theorem Step.now_le {r r' : Run} {e : Event} {notes : List Note} (h : Step r e r' notes) :
    r.now ≤ r'.now := by
  cases h with
  | pass time => exact Nat.le_add_right ..
  | _ => exact Nat.le_refl _

theorem now_le_after (r : Run) (es : List Event) : r.now ≤ (r.after es).1.now := by
  induction es generalizing r with
  | nil => exact Nat.le_refl _
  | cons e es ih => exact Nat.le_trans (step_spec r e).now_le (ih _)

theorem Step.now_eq {r r' : Run} {e : Event} {notes : List Note} (h : Step r e r' notes)
    (he : ∀ time, e ≠ .pass time) : r'.now = r.now := by
  cases h with
  | pass time => exact absurd rfl (he time)
  | _ => rfl

theorem now_of_no_pass {r : Run} {es : List Event} (h : ∀ time, .pass time ∉ es) :
    (r.after es).1.now = r.now := by
  induction es generalizing r with
  | nil => rfl
  | cons e es ih =>
    have hnow := (step_spec r e).now_eq fun time he => h time (by simp [he])
    exact (ih fun time => List.not_mem_of_not_mem_cons (h time)).trans hnow

theorem after_append (r : Run) (es more : List Event) :
    r.after (es ++ more) =
      (((r.after es).1.after more).1, (r.after es).2 ++ ((r.after es).1.after more).2) := by
  induction es generalizing r with
  | nil => simp [after]
  | cons e es ih => simp [after, ih, List.append_assoc]

/-- Every note is left by one of the events, and what was noted before it by the events before. -/
theorem noted_at {r : Run} (es : List Event) {a b : List (Moment × Note)} {m : Moment} {n : Note}
    (h : (r.after es).2 = a ++ (m, n) :: b) :
    ∃ before ev rest, es = before ++ ev :: rest ∧ (r.after before).2 = a ∧
      m = (r.after before).1.now ∧ ((r.after before).1.step ev).2 = [n] := by
  induction es generalizing r a with
  | nil => simp [after] at h
  | cons ev es ih =>
    obtain hn | ⟨x, hn⟩ := (step_spec r ev).notes_short
    · simp only [after, hn, List.map_nil, List.nil_append] at h
      obtain ⟨before, ev', rest, rfl, rfl, hm, hnote⟩ := ih h
      exact ⟨ev :: before, ev', rest, rfl, by simp [after, hn], hm, hnote⟩
    · simp only [after, hn, List.map_singleton, List.singleton_append] at h
      cases a with
      | nil =>
        obtain ⟨rfl, rfl⟩ := Prod.mk.inj (List.cons.inj h).1
        exact ⟨[], ev, es, rfl, rfl, rfl, hn⟩
      | cons y a =>
        obtain ⟨rfl, hrest⟩ := List.cons.inj h
        obtain ⟨before, ev', rest, rfl, rfl, hm, hnote⟩ := ih hrest
        exact ⟨ev :: before, ev', rest, rfl, by simp [after, hn], hm, hnote⟩

theorem after_prefix {r : Run} (es : List Event) {a b : List (Moment × Note)}
    (h : (r.after es).2 = a ++ b) : ∃ before rest, es = before ++ rest ∧ (r.after before).2 = a := by
  cases b with
  | nil => exact ⟨es, [], (List.append_nil es).symm, by simpa using h⟩
  | cons x b =>
    obtain ⟨before, ev, rest, rfl, rfl, -⟩ := noted_at es h
    exact ⟨before, ev :: rest, rfl, rfl⟩

theorem noted_by {r : Run} (es : List Event) {m : Moment} {n : Note} (h : (m, n) ∈ (r.after es).2) :
    ∃ before ev rest, es = before ++ ev :: rest ∧ m = (r.after before).1.now ∧
      n ∈ ((r.after before).1.step ev).2 := by
  obtain ⟨a, b, hsplit⟩ := List.append_of_mem h
  obtain ⟨before, ev, rest, hes, -, hm, hn⟩ := noted_at es hsplit
  exact ⟨before, ev, rest, hes, hm, by simp [hn]⟩

/-- What holds of the notes so far and the run, and is kept by every event, holds at the end of every
run. -/
theorem after_keeps {I : List (Moment × Note) → Run → Prop}
    (keeps : ∀ past r e, I past r → I (past ++ (r.step e).2.map (r.now, ·)) (r.step e).1)
    (es : List Event) (past : List (Moment × Note)) {r : Run} (h : I past r) :
    I (past ++ (r.after es).2) (r.after es).1 := by
  induction es generalizing past r with
  | nil => simpa [after] using h
  | cons e es ih => simpa [after, List.append_assoc] using ih _ (keeps past r e h)

/-- A call that has come to an end stays as it is. -/
theorem Step.ended {r r' : Run} {ev : Event} {notes : List Note} {u : TaskId} {p : Progress}
    (hs : Step r ev r' notes) (hu : r.calls u = some p)
    (hp : p.stand? = none) : r'.calls u = some p := by
  have pending : ∀ s, some (.pending s) ≠ some p := by
    intro s he
    rw [← Option.some.inj he] at hp
    cases hp
  cases hs with
  | hit new | queue new | quit new => exact settle_calls_other hu new (by simp) _
  | share waits | next waits => exact settle_calls_other hu waits (pending _) _
  | fail fetches | crash fetches | succeed fetches => exact settle_calls_other hu fetches (pending _) _
  | store stores => exact settle_calls_other hu stores (pending _) _
  | drop stands => exact settle_calls_other hu stands (pending _) _
  | idle | ask | look | invalidate | pass => exact hu

theorem ended_after {r : Run} {u : TaskId} {p : Progress} (hu : r.calls u = some p) (hp : p.stand? = none)
    (es : List Event) : (r.after es).1.calls u = some p :=
  after_keeps (I := fun _ r => r.calls u = some p)
    (fun _ _ ev h => (step_spec _ ev).ended h hp) es [] hu

/-- The calls are in order before the lock, and nobody has read a clock that is ahead. -/
structure Sound (r : Run) : Prop where
  order : Orderly r.cache r.stand
  timely : ∀ who m, r.asked who = some m → m ≤ r.now

theorem sound_start (life : Duration) (now : Moment) : (start life now).Sound :=
  ⟨orderly_empty life, by simp [start]⟩

theorem Sound.step {r : Run} (h : r.Sound) (ev : Event) : (r.step ev).1.Sound := by
  refine ⟨orderly_step h.order ev, ?_⟩
  intro who m asked
  have hs := step_spec r ev
  obtain ⟨before, -⟩ | ⟨rfl, -⟩ := hs.asks asked
  · exact Nat.le_trans (h.timely who m before) hs.now_le
  · exact hs.now_le

theorem Sound.after {r : Run} (h : r.Sound) (es : List Event) : (r.after es).1.Sound :=
  after_keeps (I := fun _ r => r.Sound) (fun _ _ ev h => h.step ev) es [] h

/-- Where nobody comes in between, a call that begins goes by the clock as it is. -/
theorem after_look {r : Run} {t : TaskId} (new : r.calls t = none) (rests : r.asked (.call t) = none) :
    r.after [.ask (.call t), .call t] = ((r.settle t (r.cache.arrive r.now t)).1,
      [(r.now, .asked (.call t)), (r.now, .moved t (r.cache.arrive r.now t).2)]) := by
  have asks : r.step (.ask (.call t)) = (r.ask (.call t), [.asked (.call t)]) := by
    simp [step, rests, looksNext, new]
  have looks : (r.ask (.call t)).step (.call t) = r.settle t (r.cache.arrive r.now t) := by
    simp [step, new, settle_ask]
  simp only [after, asks, looks]
  rfl

/-- So does one that looks again. -/
theorem after_turn {r : Run} {t : TaskId} (waits : r.calls t = some (.pending .waiting))
    (holds : r.cache.holder = some t) (rests : r.asked (.call t) = none) :
    r.after [.ask (.call t), .resume t] = ((r.settle t (r.cache.resume r.now r.now)).1,
      [(r.now, .asked (.call t)), (r.now, .moved t (r.cache.resume r.now r.now).2)]) := by
  have asks : r.step (.ask (.call t)) = (r.ask (.call t), [.asked (.call t)]) := by
    simp [step, rests, looksNext, waits, holds]
  have looks : (r.ask (.call t)).step (.resume t) = r.settle t (r.cache.resume r.now r.now) := by
    simp [step, waits, holds, settle_ask]
  simp only [after, asks, looks]
  rfl

def beginning (t : TaskId) : List Event := [.ask (.call t), .call t] ++ [.ask (.call t), .resume t]

/-- Where nobody comes in between, these events bring a call in one go to where it stands before the lock
or under it. -/
theorem after_beginning {r : Run} {t : TaskId} (new : r.calls t = none)
    (rests : r.asked (.call t) = none) (apart : r.cache.holder ≠ some t) :
    let r' := (r.after (beginning t)).1
    (r'.cache, r'.calls t) = ((r.cache.enter r.now t).1, some (r.cache.enter r.now t).2) := by
  intro r'
  simp only [r', beginning, after_append, after_look new rests]
  cases good : r.cache.peek r.now with
  | some held => simp [arrive, enter, good, after, step, looksNext]
  | none =>
    cases holder : r.cache.holder with
    | none =>
      have still : ({ r.cache with holder := some t } : Cache).peek r.now = none := good
      rw [after_turn (by simp [arrive, good]) (by simp [arrive, good, queue, holder]) (by simp)]
      simp [arrive, resume, enter, good, queue, holder, still]
    | some u => simp_all [arrive, enter, queue, after, step, looksNext]

end Run
end QueryWarden.Cache
