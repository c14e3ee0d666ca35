import QueryWarden.Proofs.Cache.History

/-! Longer lives. An entry is good for the life that the cache was given if the clock can name its end,
and for the longest life if it cannot. A life above the longest one is given in full as long as its end
can be named, so that a still longer one, whose end cannot, ends sooner. -/
namespace QueryWarden.Cache
open Clock

/-- What ends under a life ends under a longer one too, and no sooner, exactly if the clock can name the
longer end, or not even the shorter one, or else can name the end of the longest life and the shorter
one is not above it. -/
theorem expiry?_le_iff {a b m expiry : Nat} (le : a ≤ b) (ends : expiry? m a = some expiry) :
    (∃ later, expiry? m b = some later ∧ expiry ≤ later) ↔
      m + b ≤ lastMoment ∨ lastMoment < m + a ∨ a ≤ longestLife ∧ m + longestLife ≤ lastMoment := by
  obtain ⟨rfl, named⟩ := expiry?_eq_some.mp ends
  have of_lives : (∃ later, expiry? m b = some later ∧ m + lifeFrom m a ≤ later) ↔
      m + lifeFrom m b ≤ lastMoment ∧ m + lifeFrom m a ≤ m + lifeFrom m b := by
    constructor
    · rintro ⟨later, hlater, hle⟩
      obtain ⟨rfl, named'⟩ := expiry?_eq_some.mp hlater
      exact ⟨named', hle⟩
    · rintro ⟨named', hle⟩
      exact ⟨_, expiry?_eq_some.mpr ⟨rfl, named'⟩, hle⟩
  rw [of_lives]
  obtain hb | hb := Nat.lt_or_ge lastMoment (m + b)
  · rw [lifeFrom_of_unnamed hb]
    obtain ha | ha := Nat.lt_or_ge lastMoment (m + a)
    · rw [lifeFrom_of_unnamed ha] at named ⊢
      exact iff_of_true ⟨named, Nat.le_refl _⟩ (.inr (.inl ha))
    · -- only here do the ends differ in kind: the shorter one can be named, the longer one cannot
      rw [lifeFrom_of_named ha]
      constructor
      · rintro ⟨named', hle⟩
        exact .inr (.inr ⟨Nat.le_of_add_le_add_left hle, named'⟩)
      · rintro (h | h | ⟨hle, named'⟩)
        · exact absurd h (Nat.not_le.mpr hb)
        · exact absurd ha (Nat.not_le.mpr h)
        · exact ⟨named', Nat.add_le_add_left hle m⟩
  · have hle : m + a ≤ m + b := Nat.add_le_add_left le m
    rw [lifeFrom_of_named hb, lifeFrom_of_named (Nat.le_trans hle hb)]
    exact iff_of_true ⟨hb, hle⟩ (.inl hb)

namespace Run

variable {r r' : Run} {ev : Event} {notes : List Note} {life : Duration}

/-- A cache that is given that life stores the entry when these events happen. -/
def Stores (life : Duration) (now : Moment) (es : List Event) (e : Entry) : Prop :=
  ∃ m t since, StoredAt ((start life now).after es).2 m t e since

/-- The same events leave the one entry in a cache with the one life and the other in a cache with the
other life: the same snapshot, stored at the same moment. -/
def Twins (a b : Duration) (e e' : Entry) : Prop :=
  ∃ now es, Stores a now es e ∧ Stores b now es e' ∧ e'.held = e.held ∧ e'.stored = e.stored

/-- Whatever is stored at a moment under the one life would be good under the other wherever it is. -/
def LastsAsLong (a b : Duration) (m : Moment) : Prop :=
  ∀ now es e, Stores a now es e → e.stored = m → ∀ x, e.isFresh x = true →
    ∃ e', Twins a b e e' ∧ e'.isFresh x = true

/-- Under that life a call can break off at a moment. -/
def BreaksAt (life : Duration) (m : Moment) : Prop :=
  ∃ now es t message, (m, .moved t (.broken message)) ∈ ((start life now).after es).2

theorem Stores.expiry {now : Moment} {es : List Event} {e : Entry} (h : Stores life now es e) :
    expiry? e.stored life = some e.expiry := by
  obtain ⟨m, t, since, stored⟩ := h
  exact ((ledger_after life now es).brought _ _ _ stored.brought_mem).2.1

/-- Nothing is stored, nobody is before the lock, and so many fetches have begun, one for each call. -/
structure Idle (life : Duration) (now : Moment) (n : Nat) (r : Run) : Prop where
  cache : r.cache = { empty life with fetches := n }
  now : r.now = now
  new : ∀ t, n ≤ t → r.calls t = none
  rests : ∀ t, n ≤ t → r.asked (.call t) = none

theorem step_fetched_of_fetching {t : TaskId} {n : Nat} {since : Moment}
    (fetches : r.calls t = some (.pending (.fetching n since)))
    (answer : Except Failure Schema.Snapshot) :
    r.step (.fetched t answer) = r.settle t (r.cache.fetched r.now n answer) := by
  simp [step, fetches]

def busy (life : Duration) (n : Nat) : Cache :=
  { empty life with holder := some n, fetches := n + 1 }

def begun (n : Nat) (now : Moment) : List (Moment × Note) :=
  [(now, .asked (.call n)), (now, .moved n (.pending .waiting)), (now, .asked (.call n)),
    (now, .moved n (.pending (.fetching n now)))]

theorem Idle.begins {now : Moment} {n : Nat} (h : Idle life now n r) :
    r.after (beginning n) =
      ((r.settle n (busy life n, .pending (.fetching n now))).1, begun n now) := by
  have looks := after_look (h.new n (Nat.le_refl n)) (h.rests n (Nat.le_refl n))
  have locked : r.cache.arrive r.now n =
      ({ empty life with holder := some n, fetches := n }, .pending .waiting) := by
    simp [arrive, h.cache, peek, queue, empty]
  rw [locked] at looks
  rw [beginning, after_append, looks, after_turn (by simp) (by simp) (by simp)]
  simp [settle_settle, resume, peek, empty, beginFetch, busy, begun, h.now]

theorem Idle.answered {now : Moment} {n : Nat} (h : Idle life now n r)
    (answer : Except Failure Schema.Snapshot) :
    r.after (beginning n ++ [.fetched n answer]) =
      ((r.settle n ((busy life n).fetched now n answer)).1,
        begun n now ++ [(now, .moved n ((busy life n).fetched now n answer).2)]) := by
  have fetches : (r.settle n (busy life n, .pending (.fetching n now))).1.calls n =
      some (.pending (.fetching n now)) :=
    settle_calls_self ..
  rw [after_append, h.begins]
  simp only [after, step_fetched_of_fetching fetches, settle_cache, settle_now, h.now, settle_settle]
  rfl

theorem Idle.vain {now : Moment} {n : Nat} (h : Idle life now n r) (f : Failure) :
    Idle life now (n + 1) (r.after (beginning n ++ [.fetched n (.error f)])).1 := by
  rw [h.answered]
  refine ⟨rfl, h.now, ?_, ?_⟩ <;> intro t ht
  · rw [settle_calls_ne _ _ (Nat.ne_of_gt ht), h.new t (Nat.le_of_succ_le ht)]
  · have other : Looker.call t ≠ .call n := by simpa using Nat.ne_of_gt ht
    rw [settle_asked, forget_asked_ne _ other, h.rests t (Nat.le_of_succ_le ht)]

def inVain : Nat → List Event
  | 0 => []
  | n + 1 => inVain n ++ (beginning n ++ [.fetched n (.error (.connection ""))])

theorem idle_inVain (life : Duration) (now : Moment) (n : Nat) :
    Idle life now n ((start life now).after (inVain n)).1 := by
  induction n with
  | zero => exact ⟨rfl, rfl, fun _ _ => rfl, fun _ _ => rfl⟩
  | succ n ih =>
    rw [inVain, after_append]
    exact ih.vain _

def bringing (held : Held) : List Event :=
  inVain held.fetch ++
    ((beginning held.fetch ++ [.fetched held.fetch (.ok held.snapshot)]) ++ [.store held.fetch])

/-- Whatever ends as its life says is stored in some run, by events that the life does not matter to. -/
theorem stores_bringing {e : Entry} (ends : expiry? e.stored life = some e.expiry) :
    Stores life e.stored (bringing e.held) e := by
  -- the life is read once, where the fetch succeeds
  have idle := idle_inVain life e.stored e.held.fetch
  have brings : (busy life e.held.fetch).fetched e.stored e.held.fetch (.ok e.held.snapshot) =
      (busy life e.held.fetch, .pending (.storing e)) := by
    simp [fetched, busy, empty, ends]
  have answered := idle.answered (.ok e.held.snapshot)
  rw [brings] at answered
  refine ⟨e.stored, e.held.fetch, [], ((start life e.stored).after (inVain e.held.fetch)).2 ++
    (begun e.held.fetch e.stored ++
      [(e.stored, .moved e.held.fetch (.pending (.storing e)))]), ?_, by simp⟩
  rw [bringing, after_append, after_append, answered]
  simp [after, step, store, idle.now]

theorem breaksAt_of_unnamed {m : Moment} (overflow : expiry? m life = none) : BreaksAt life m := by
  have idle : Idle life m 0 (start life m) := idle_inVain life m 0
  refine ⟨m, beginning 0 ++ [.fetched 0 (.ok bareSnapshot)], 0, clockOverflow, ?_⟩
  rw [idle.answered]
  simp [fetched, busy, empty, overflow]

theorem Step.breaks {t : TaskId} {message : String} (h : Step r ev r' notes)
    (hm : .moved t (.broken message) ∈ notes) : expiry? r.now r.cache.life = none := by
  cases h with
  | crash fetches overflow => exact overflow
  | _ => simp at hm

theorem BreaksAt.unnamed {m : Moment} (h : BreaksAt life m) : expiry? m life = none := by
  obtain ⟨now, es, t, message, hm⟩ := h
  obtain ⟨before, ev, rest, -, rfl, hn⟩ := noted_by es hm
  have lives := (ledger_after life now before).lives
  have unnamed := (step_spec _ ev).breaks hn
  rwa [lives] at unnamed

theorem breaksAt_iff {m : Moment} :
    BreaksAt life m ↔ lastMoment < m + life ∧ lastMoment < m + longestLife :=
  ⟨fun h => expiry?_eq_none.mp h.unnamed, fun h => breaksAt_of_unnamed (expiry?_eq_none.mpr h)⟩

/-- What runs show of two lives is what their ends say: a snapshot is good until the moment before its
end, and every end is that of something stored. -/
theorem lastsAsLong_iff_expiry {a b : Duration} {m : Moment} :
    LastsAsLong a b m ↔ ∀ expiry, 0 < expiry → expiry? m a = some expiry →
      ∃ later, expiry? m b = some later ∧ expiry ≤ later := by
  constructor
  · intro lasts expiry pos ends
    have fresh : expiry.pred < expiry := Nat.pred_lt (Nat.ne_of_gt pos)
    obtain ⟨e', ⟨now, es, -, stores, -, hstored⟩, fresh'⟩ :=
      lasts m _ _ (stores_bringing (e := ⟨⟨0, bareSnapshot⟩, m, expiry⟩) ends) rfl _
        (decide_eq_true fresh)
    have ends' := stores.expiry
    rw [hstored] at ends'
    exact ⟨e'.expiry, ends', Nat.le_of_pred_lt (of_decide_eq_true fresh')⟩
  · rintro later now es e stores rfl x fresh
    have pos : 0 < e.expiry := Nat.zero_lt_of_lt (of_decide_eq_true fresh)
    obtain ⟨expiry, ends, hle⟩ := later e.expiry pos stores.expiry
    refine ⟨⟨e.held, e.stored, expiry⟩, ⟨e.stored, bringing e.held, ?_, ?_, rfl, rfl⟩, ?_⟩
    · exact stores_bringing stores.expiry
    · exact stores_bringing (e := ⟨e.held, e.stored, expiry⟩) ends
    · exact decide_eq_true (Nat.lt_of_lt_of_le (of_decide_eq_true fresh) hle)

theorem lastsAsLong_iff {a b : Duration} (le : a ≤ b) (m : Moment) :
    LastsAsLong a b m ↔
      m + b ≤ lastMoment ∨ lastMoment < m + a ∨ a ≤ longestLife ∧ m + longestLife ≤ lastMoment := by
  rw [lastsAsLong_iff_expiry]
  constructor
  · intro later
    obtain hb | hb := Nat.lt_or_ge lastMoment (m + b)
    · obtain ha | ha := Nat.lt_or_ge lastMoment (m + a)
      · exact .inr (.inl ha)
      · have ends : expiry? m a = some (m + a) :=
          expiry?_eq_some.mpr ⟨by rw [lifeFrom_of_named ha], ha⟩
        obtain hz | pos := Nat.eq_zero_or_pos (m + a)
        · -- nothing is ever good that ends with the clock's beginning
          obtain ⟨rfl, rfl⟩ := Nat.add_eq_zero_iff.mp hz
          exact .inr (.inr (by decide))
        · exact (expiry?_le_iff le ends).mp (later _ pos ends)
    · exact .inl hb
  · intro named expiry _ ends
    exact (expiry?_le_iff le ends).mpr named

/-- A longer life keeps whatever is stored at a moment for as long as a shorter one does, exactly if the
clock can name the longer end, or not even the shorter one, or else can name the end of the longest life
and the shorter one is not above it; and a call breaks off exactly where the clock can name neither the
end of the life that was given nor that of the longest one. -/
theorem longer_life_lasts_iff {a b : Duration} (le : a ≤ b) (m : Moment) :
    (LastsAsLong a b m ↔
      m + b ≤ lastMoment ∨ lastMoment < m + a ∨ a ≤ longestLife ∧ m + longestLife ≤ lastMoment) ∧
    ∀ life, BreaksAt life m ↔ lastMoment < m + life ∧ lastMoment < m + longestLife :=
  ⟨lastsAsLong_iff le m, fun _ => breaksAt_iff⟩

def endlessLife : Duration := Nat.pow 2 64 * second - 1

/-- A life without end lasts as long as the usual one, though the clock cannot name its end. -/
theorem endless_life_outlasts_usual : usualLife ≤ endlessLife ∧ lastMoment < endlessLife ∧
    LastsAsLong usualLife endlessLife 0 ∧ ¬ BreaksAt endlessLife 0 := by
  have le : usualLife ≤ endlessLife := by decide
  obtain ⟨lasts, breaks⟩ := longer_life_lasts_iff le 0
  refine ⟨le, by decide, lasts.mpr (by decide), ?_⟩
  intro h
  exact absurd ((breaks endlessLife).mp h) (by decide)

/-- A snapshot is stored, and looked for when a hundred and fifty years have passed. -/
def keptLong : List Event :=
  beginning 1 ++ [.fetched 1 (.ok bareSnapshot), .store 1, .pass (150 * year), .ask (.watcher 0), .peek 0]

/-- A snapshot that was to be kept for two hundred years is there after a hundred and fifty, and gone if it
was to be kept without end. -/
theorem endless_life_ends_sooner : 200 * year ≤ endlessLife ∧
    ((start (200 * year) 0).after keptLong).2.getLast? =
      some (150 * year, .looked 0 (some ⟨0, bareSnapshot⟩)) ∧
    ((start endlessLife 0).after keptLong).2.getLast? = some (150 * year, .looked 0 none) ∧
    ¬ LastsAsLong (200 * year) endlessLife 0 := by
  have le : 200 * year ≤ endlessLife := by decide
  refine ⟨le, by decide +kernel, by decide +kernel, ?_⟩
  intro lasts
  exact absurd ((lastsAsLong_iff le 0).mp lasts) (by decide)

end Run
end QueryWarden.Cache
