import QueryWarden.Proofs.Cache.Steps

/-! What is served, and for how long. A snapshot that is got without a fetch is the one stored last, not
invalidated since, and its life had not run out when the clock was read; that was before the entry was
read, so the life may have run out in between. The notes of a run say all of this. -/
namespace QueryWarden.Cache
open Clock

/-- The life that an entry gets: the one asked for where the clock can name its end, else the longest. -/
def lifeFrom (stored : Moment) (life : Duration) : Duration :=
  if stored + life ≤ lastMoment then life else longestLife

theorem lifeFrom_of_named {m life : Nat} (h : m + life ≤ lastMoment) : lifeFrom m life = life :=
  if_pos h

theorem lifeFrom_of_unnamed {m life : Nat} (h : lastMoment < m + life) :
    lifeFrom m life = longestLife :=
  if_neg (Nat.not_le.mpr h)

theorem expiry?_eq_some {stored expiry life : Nat} :
    expiry? stored life = some expiry ↔
      expiry = stored + lifeFrom stored life ∧ expiry ≤ lastMoment := by
  by_cases hl : stored + life ≤ lastMoment
  · rw [expiry?, later?, if_pos hl, lifeFrom_of_named hl]
    constructor
    · rintro ⟨⟩
      exact ⟨rfl, hl⟩
    · rintro ⟨rfl, -⟩
      rfl
  · rw [expiry?, later?, if_neg hl, lifeFrom_of_unnamed (Nat.lt_of_not_le hl)]
    rw [later?_eq_some, and_comm]
    exact and_congr_right fun he => by rw [he]

/-- A call stored an entry at a moment: it had brought it before, and got it then. -/
def StoredAt (notes : List (Moment × Note)) (m : Moment) (t : TaskId) (e : Entry)
    (since : List (Moment × Note)) : Prop :=
  ∃ before, notes = before ++ (m, .moved t (.got e.held)) :: since ∧
    (e.stored, .moved t (.pending (.storing e))) ∈ before

/-- The entry that was stored last, and when; it was not invalidated since. -/
def Current (notes : List (Moment × Note)) (m : Moment) (e : Entry) : Prop :=
  ∃ t since, StoredAt notes m t e since ∧ (∀ m', (m', .invalidated) ∉ since) ∧
    ∀ m' t' e' since', StoredAt notes m' t' e' since' → since.length ≤ since'.length

def Entry.ends (e : Entry) (life : Duration) : Moment := e.stored + lifeFrom e.stored life

/-- When someone has last read the clock in order to look. -/
def LastAsked (notes : List (Moment × Note)) (who : Looker) (m : Moment) : Prop :=
  ∃ before since, notes = before ++ (m, .asked who) :: since ∧ ∀ m', (m', .asked who) ∉ since

/-- What the code serves to someone who reads the clock at the moment `asked` and the entry at the moment
`now`: the snapshot of the current entry, stored at the moment `m`, if its life had not run out when the
clock was read. -/
structure FoundAt (life : Duration) (notes : List (Moment × Note)) (asked now : Moment) (held : Held)
    (m : Moment) (e : Entry) : Prop where
  current : Current notes m e
  held : e.held = held
  stored : e.stored ≤ m ∧ m ≤ now
  began : asked ≤ now
  lasts : asked < e.ends life

/-- What may be served: the snapshot of the current entry, if at some moment of the look it was stored and
within its life, and if it is handed out within its life. -/
structure GoodAt (life : Duration) (notes : List (Moment × Note)) (asked now : Moment) (held : Held)
    (m : Moment) (e : Entry) : Prop where
  current : Current notes m e
  held : e.held = held
  checked : ∃ t, asked ≤ t ∧ t ≤ now ∧ m ≤ t ∧ t < e.ends life
  lasts : now < e.ends life

/-- A snapshot is what a call's own fetch has brought. -/
def BroughtBy (notes : List (Moment × Note)) (t : TaskId) (held : Held) : Prop :=
  ∃ e since, e.held = held ∧ (since, .moved t (.pending (.fetching held.fetch since))) ∈ notes ∧
    (e.stored, .moved t (.pending (.storing e))) ∈ notes

section notes

variable {past : List (Moment × Note)} {x : Moment × Note} {m : Moment} {t : TaskId} {e : Entry}
  {since : List (Moment × Note)}

theorem storedAt_concat (h : StoredAt (past ++ [x]) m t e since) :
    since = [] ∧ x = (m, .moved t (.got e.held)) ∧
        (e.stored, .moved t (.pending (.storing e))) ∈ past ∨
      ∃ since', since = since' ++ [x] ∧ StoredAt past m t e since' := by
  obtain ⟨before, hsplit, brought⟩ := h
  obtain ⟨rfl, rfl, hx⟩ | ⟨since', rfl, hpast⟩ := Run.split_at_end hsplit
  · exact .inl ⟨rfl, hx, brought⟩
  · exact .inr ⟨since', rfl, before, hpast, brought⟩

theorem StoredAt.concat (h : StoredAt past m t e since) (x : Moment × Note) :
    StoredAt (past ++ [x]) m t e (since ++ [x]) := by
  obtain ⟨before, rfl, brought⟩ := h
  exact ⟨before, by simp, brought⟩

theorem StoredAt.mem (h : StoredAt past m t e since) : (m, .moved t (.got e.held)) ∈ past := by
  obtain ⟨before, rfl, -⟩ := h
  simp

theorem StoredAt.brought_mem (h : StoredAt past m t e since) :
    (e.stored, .moved t (.pending (.storing e))) ∈ past := by
  obtain ⟨before, rfl, brought⟩ := h
  exact List.mem_append_left _ brought

theorem Current.storedAt (h : Current past m e) : ∃ t since, StoredAt past m t e since := by
  obtain ⟨t, since, stored, -⟩ := h
  exact ⟨t, since, stored⟩

theorem lastAsked_concat (past : List (Moment × Note)) (m : Moment) (who : Looker) :
    LastAsked (past ++ [(m, .asked who)]) who m :=
  ⟨past, [], rfl, by simp⟩

theorem LastAsked.append {who : Looker} (h : LastAsked past who m) {more : List (Moment × Note)}
    (other : ∀ m', (m', .asked who) ∉ more) : LastAsked (past ++ more) who m := by
  obtain ⟨before, since, rfl, last⟩ := h
  refine ⟨before, since ++ more, by simp, ?_⟩
  intro m' hm
  obtain hm | hm := List.mem_append.mp hm
  · exact last m' hm
  · exact other m' hm

theorem LastAsked.mem {who : Looker} (h : LastAsked past who m) : (m, .asked who) ∈ past := by
  obtain ⟨before, since, rfl, -⟩ := h
  simp

/-- A note that neither stores nor invalidates leaves the current entry. -/
theorem current_concat_iff
    (other : ∀ m t e, x = (m, .moved t (.got e.held)) →
      (e.stored, .moved t (.pending (.storing e))) ∉ past)
    (kept : ∀ m, x ≠ (m, .invalidated)) : Current (past ++ [x]) m e ↔ Current past m e := by
  constructor
  · rintro ⟨t, since, stored, valid, last⟩
    obtain ⟨-, hx, brought⟩ | ⟨since', rfl, stored'⟩ := storedAt_concat stored
    · exact absurd brought (other _ _ _ hx)
    · refine ⟨t, since', stored', fun m' hm => valid m' (List.mem_append_left _ hm), ?_⟩
      intro m' t' e' later hlater
      simpa using last _ _ _ _ (hlater.concat x)
  · rintro ⟨t, since, stored, valid, last⟩
    refine ⟨t, since ++ [x], stored.concat x, ?_, ?_⟩
    · intro m' hm
      obtain hm | hm := List.mem_append.mp hm
      · exact valid m' hm
      · exact kept m' (List.mem_singleton.mp hm).symm
    · intro m' t' e' later hlater
      obtain ⟨-, hx, brought⟩ | ⟨later', rfl, hlater'⟩ := storedAt_concat hlater
      · exact absurd brought (other _ _ _ hx)
      · simpa using last _ _ _ _ hlater'

/-- What has just been stored is the current entry, and no other is. -/
theorem current_stored_iff {m' : Moment} {e' : Entry}
    (brought : (e.stored, .moved t (.pending (.storing e))) ∈ past)
    (once : ∀ m' e', (m', .moved t (.pending (.storing e'))) ∈ past → e' = e) :
    Current (past ++ [(m, .moved t (.got e.held))]) m' e' ↔ m' = m ∧ e' = e := by
  have stored : StoredAt (past ++ [(m, .moved t (.got e.held))]) m t e [] := ⟨past, rfl, brought⟩
  constructor
  · rintro ⟨t', since, stored', -, last⟩
    have hnil : since = [] := List.length_eq_zero_iff.mp (Nat.le_zero.mp (last _ _ _ _ stored))
    subst hnil
    obtain ⟨-, hx, brought'⟩ | ⟨since', hsince, -⟩ := storedAt_concat stored'
    · obtain ⟨rfl, rfl, -⟩ : m = m' ∧ t = t' ∧ e.held = e'.held := by simpa using hx
      exact ⟨rfl, once _ _ brought'⟩
    · simp at hsince
  · rintro ⟨rfl, rfl⟩
    exact ⟨t, [], stored, by simp, by simp⟩

/-- After an invalidation no entry is current. -/
theorem not_current_invalidated {m' : Moment} : ¬ Current (past ++ [(m, .invalidated)]) m' e := by
  rintro ⟨t, since, stored, valid, -⟩
  obtain ⟨-, hx, -⟩ | ⟨since', rfl, -⟩ := storedAt_concat stored
  · cases hx
  · exact valid m (by simp)

end notes

namespace Run

variable {r r' : Run} {ev : Event} {notes : List Note} {life : Duration}
  {past : List (Moment × Note)}

/-- What the notes say of the run: who is about to look, what each call has brought, and which entry is
current. -/
structure Ledger (life : Duration) (past : List (Moment × Note)) (r : Run) : Prop where
  lives : r.cache.life = life
  past_le : ∀ x ∈ past, x.1 ≤ r.now
  sorted : past.Pairwise (·.1 ≤ ·.1)
  asked : ∀ who m, r.asked who = some m → LastAsked past who m
  begun : ∀ t n since, r.calls t = some (.pending (.fetching n since)) →
    (since, .moved t (.pending (.fetching n since))) ∈ past
  storing : ∀ t e, r.calls t = some (.pending (.storing e)) → BroughtBy past t e.held ∧
    (e.stored, .moved t (.pending (.storing e))) ∈ past
  /-- A call brings one entry, and stores it or comes to an end. -/
  brought : ∀ m t e, (m, .moved t (.pending (.storing e))) ∈ past →
    m = e.stored ∧ expiry? e.stored life = some e.expiry ∧
      (r.calls t = some (.pending (.storing e)) ∨ ∃ p, r.calls t = some p ∧ p.stand? = none)
  current : ∀ e, r.cache.entry = some e ↔ ∃ m, Current past m e

theorem ledger_start (life : Duration) (now : Moment) : Ledger life [] (start life now) := by
  refine ⟨rfl, by simp, .nil, by simp [start], by simp [start], by simp [start], by simp, ?_⟩
  intro e
  simp [start, empty, Current, StoredAt]

/-- The current entry was stored at a moment that has come, and runs out when it has had its life. -/
theorem Ledger.of_current {m : Moment} {e : Entry} (h : Ledger life past r) (current : Current past m e) :
    e.stored ≤ m ∧ m ≤ r.now ∧ e.expiry = e.ends life := by
  obtain ⟨t, since, stored⟩ := current.storedAt
  obtain ⟨-, expiry, -⟩ := h.brought _ _ _ stored.brought_mem
  refine ⟨?_, h.past_le _ stored.mem, (expiry?_eq_some.mp expiry).1⟩
  obtain ⟨before, rfl, brought⟩ := stored
  exact (List.pairwise_append.mp h.sorted).2.2 _ brought _ List.mem_cons_self

/-- Who reads the entry finds what is current and was within its life when the clock was read, and nothing
else. -/
theorem Ledger.peek_iff (h : Ledger life past r) {asked : Moment} (le : asked ≤ r.now) {held : Held} :
    r.cache.peek asked = some held ↔ ∃ m e, FoundAt life past asked r.now held m e := by
  rw [peek_eq_some]
  constructor
  · rintro ⟨e, entry, fresh, rfl⟩
    obtain ⟨m, current⟩ := (h.current e).mp entry
    obtain ⟨stored, le', ends⟩ := h.of_current current
    exact ⟨m, e, current, rfl, ⟨stored, le'⟩, le, ends ▸ fresh⟩
  · rintro ⟨m, e, found⟩
    obtain ⟨-, -, ends⟩ := h.of_current found.current
    exact ⟨e, (h.current e).mpr ⟨m, found.current⟩, ends ▸ found.lasts, found.held⟩

/-- Someone who is about to look and looks is served so. -/
theorem Ledger.finds {who : Looker} {asked : Moment} {held : Held} (h : Ledger life past r)
    (asks : r.asked who = some asked) (good : r.cache.peek asked = some held) :
    ∃ asked, LastAsked past who asked ∧ ∃ m e, FoundAt life past asked r.now held m e := by
  have last := h.asked who asked asks
  exact ⟨asked, last, (h.peek_iff (h.past_le _ last.mem)).mp good⟩

/-- Only one entry is current. -/
theorem Ledger.unique {m m' : Moment} {e e' : Entry} (h : Ledger life past r)
    (current : Current past m e) (current' : Current past m' e') : e = e' :=
  Option.some.inj (((h.current e).mpr ⟨m, current⟩).symm.trans ((h.current e').mpr ⟨m', current'⟩))

/-- What is found may be served exactly if its life has not run out when the entry is read. -/
theorem Ledger.good_iff {asked now m : Moment} {held : Held} {e : Entry} (h : Ledger life past r)
    (found : FoundAt life past asked now held m e) :
    (∃ m e, GoodAt life past asked now held m e) ↔ now < e.ends life := by
  constructor
  · rintro ⟨m', e', good⟩
    rw [h.unique found.current good.current]
    exact good.lasts
  · intro lasts
    exact ⟨m, e, found.current, found.held, ⟨now, found.began, Nat.le_refl _, found.stored.2, lasts⟩, lasts⟩

theorem Ledger.not_good {asked now : Moment} {held : Held} {e : Entry} (h : Ledger life past r)
    (entry : r.cache.entry = some e) (ended : e.ends life ≤ now) :
    ¬ ∃ m e, GoodAt life past asked now held m e := by
  rintro ⟨m, e', good⟩
  obtain ⟨m', current⟩ := (h.current e).mp entry
  have lasts := good.lasts
  rw [h.unique good.current current] at lasts
  exact absurd lasts (Nat.not_lt.mpr ended)

/-- Where a call stands that is about to store, an event leaves it there or ends it. -/
theorem Step.storing {t : TaskId} {e : Entry} (hs : Step r ev r' notes)
    (h : r.calls t = some (.pending (.storing e))) :
    r'.calls t = some (.pending (.storing e)) ∨ ∃ p, r'.calls t = some p ∧ p.stand? = none := by
  cases hs with
  | hit new | queue new | quit new => exact .inl (settle_calls_other h new (by simp) _)
  | share waits | next waits => exact .inl (settle_calls_other h waits (by simp) _)
  | fail fetches | crash fetches | succeed fetches =>
    exact .inl (settle_calls_other h fetches (by simp) _)
  | idle | ask | look | invalidate | pass => exact .inl h
  | @store u entry stores =>
    by_cases he : t = u
    · subst he
      exact .inr ⟨_, settle_calls_self .., rfl⟩
    · exact .inl (by rw [settle_calls_ne r _ he, h])
  | @drop u =>
    by_cases he : t = u
    · subst he
      exact .inr ⟨_, settle_calls_self .., rfl⟩
    · exact .inl (by rw [settle_calls_ne r _ he, h])

/-- A snapshot that a call gets is found, or the call's own. -/
theorem Ledger.gets {t : TaskId} {held : Held} (h : Ledger life past r) (hs : Step r ev r' notes)
    (hm : .moved t (.got held) ∈ notes) :
    (∃ asked, LastAsked past (.call t) asked ∧ ∃ m e, FoundAt life past asked r.now held m e) ∨
      BroughtBy past t held := by
  obtain ⟨u, e, -, stores, hn, -⟩ | ⟨-, hn, -⟩ | ⟨-, -, served⟩ := hs.entry
  · rw [hn] at hm
    obtain ⟨rfl, rfl⟩ : t = u ∧ held = e.held := by simpa using hm
    exact .inr (h.storing t e stores).1
  · simp [hn] at hm
  · obtain ⟨⟨asked, asks, good⟩, -⟩ := served t held hm
    exact .inl (h.finds asks good)

/-- A call that has not got the lock has brought nothing. -/
theorem Ledger.not_brought {t : TaskId} {m : Moment} {e : Entry} (h : Ledger life past r)
    (early : r.calls t = none ∨ r.calls t = some (.pending .waiting)) :
    (m, .moved t (.pending (.storing e))) ∉ past := by
  intro hm
  obtain ⟨-, -, stands | ⟨p, ended, hp⟩⟩ := h.brought m t e hm
  · cases early with
    | inl new => simp [new] at stands
    | inr waits => simp [waits] at stands
  · cases early with
    | inl new => simp [new] at ended
    | inr waits => simp [← Option.some.inj (waits.symm.trans ended), Progress.stand?] at hp

theorem ledger_step (h : Ledger life past r) (ev : Event) :
    Ledger life (past ++ (r.step ev).2.map (r.now, ·)) (r.step ev).1 := by
  have hs := step_spec r ev
  generalize (r.step ev).1 = r', (r.step ev).2 = notes at hs
  have new : ∀ {x : Moment × Note}, x ∈ past ++ notes.map (r.now, ·) →
      x ∈ past ∨ ∃ n ∈ notes, x = (r.now, n) := by
    intro x hx
    simpa [eq_comm] using hx
  have noted : ∀ {n : Note}, n ∈ notes → (r.now, n) ∈ past ++ notes.map (r.now, ·) := by
    intro n hn
    exact List.mem_append_right _ (List.mem_map_of_mem hn)
  constructor
  case lives => exact hs.life.trans h.lives
  case past_le =>
    intro x hx
    obtain hx | ⟨n, -, rfl⟩ := new hx
    · exact Nat.le_trans (h.past_le x hx) hs.now_le
    · exact hs.now_le
  case sorted =>
    refine List.pairwise_append.mpr ⟨h.sorted, ?_, ?_⟩
    · obtain rfl | ⟨n, rfl⟩ := hs.notes_short <;> simp
    · intro x hx y hy
      obtain ⟨n, -, rfl⟩ := List.mem_map.mp hy
      exact h.past_le x hx
  case asked =>
    intro who m asks
    obtain ⟨before, other⟩ | ⟨rfl, rfl⟩ := hs.asks asks
    · refine (h.asked who m before).append ?_
      intro m' hm
      obtain ⟨n, hn, hx⟩ := List.mem_map.mp hm
      obtain ⟨-, rfl⟩ := Prod.mk.inj hx
      exact other hn
    · exact lastAsked_concat past r.now who
  case begun =>
    intro t n since ht
    obtain before | hm := hs.moves ht
    · exact List.mem_append_left _ (h.begun t n since before)
    · obtain ⟨-, rfl, -⟩ := hs.starts hm
      exact noted hm
  case storing =>
    intro t e ht
    obtain before | hm := hs.moves ht
    · obtain ⟨⟨e', since, he, begun, brought⟩, mine⟩ := h.storing t e before
      exact ⟨⟨e', since, he, List.mem_append_left _ begun, List.mem_append_left _ brought⟩,
        List.mem_append_left _ mine⟩
    · obtain ⟨-, ⟨since, fetches⟩, hnow, -, -⟩ := hs.brings hm
      have mine : (e.stored, .moved t (.pending (.storing e))) ∈ past ++ notes.map (r.now, ·) := by
        rw [hnow]
        exact noted hm
      exact ⟨⟨e, since, rfl, List.mem_append_left _ (h.begun _ _ _ fetches), mine⟩, mine⟩
  case brought =>
    intro m t e hm
    obtain hm | ⟨n, hn, hx⟩ := new hm
    · obtain ⟨hstored, expiry, stands | ⟨p, ended, hp⟩⟩ := h.brought m t e hm
      · exact ⟨hstored, expiry, hs.storing stands⟩
      · exact ⟨hstored, expiry, .inr ⟨p, hs.ended ended hp, hp⟩⟩
    · obtain ⟨rfl, rfl⟩ := Prod.mk.inj hx
      obtain ⟨-, -, hnow, expiry, stands⟩ := hs.brings hn
      exact ⟨hnow.symm, by rwa [hnow, ← h.lives], .inl stands⟩
  case current =>
    intro e
    obtain ⟨t, e', -, stores, rfl, hentry⟩ | ⟨-, rfl, hentry⟩ | ⟨hentry, kept, served⟩ := hs.entry
    · obtain ⟨-, mine⟩ := h.storing t e' stores
      have once : ∀ m' e'', (m', .moved t (.pending (.storing e''))) ∈ past → e'' = e' := by
        intro m' e'' hm
        obtain ⟨-, -, stands | ⟨p, ended, hp⟩⟩ := h.brought _ _ _ hm
        · simpa [stores, eq_comm] using stands
        · rw [stores] at ended
          simp [← Option.some.inj ended, Progress.stand?] at hp
      simp [hentry, current_stored_iff mine once, eq_comm]
    · simp [hentry, not_current_invalidated]
    · rw [hentry, h.current]
      obtain rfl | ⟨n, rfl⟩ := hs.notes_short
      · simp
      · rw [List.map_singleton]
        refine exists_congr fun m => (current_concat_iff ?_ ?_).symm
        · intro m' t e' hx
          obtain ⟨-, rfl⟩ := Prod.mk.inj hx
          exact h.not_brought (served t e'.held (by simp)).2
        · rintro m' hx
          obtain ⟨-, rfl⟩ := Prod.mk.inj hx
          simp at kept

theorem ledger_after (life : Duration) (now : Moment) (es : List Event) :
    Ledger life ((start life now).after es).2 ((start life now).after es).1 :=
  after_keeps (I := Ledger life) (fun _ _ ev h => ledger_step h ev) es [] (ledger_start life now)

/-- What a call has brought is what its fetch was answered with. -/
theorem answered_of_brought {m : Moment} {t : TaskId} {e : Entry} (es : List Event)
    (h : (m, .moved t (.pending (.storing e))) ∈ (r.after es).2) :
    .fetched t (.ok e.held.snapshot) ∈ es := by
  obtain ⟨before, ev, rest, rfl, -, hn⟩ := noted_by es h
  simp [((step_spec _ ev).brings hn).1]

/-- How a cache serves in a run. -/
structure ServesAsAsked (life : Duration) (es : List Event) (notes : List (Moment × Note)) (r : Run) :
    Prop where
  /-- Someone who has read the clock finds the snapshot of the current entry if its life had not run out
  then, and nothing else. -/
  finds : ∀ who asked held, r.asked who = some asked →
    (r.cache.peek asked = some held ↔ ∃ m e, FoundAt life notes asked r.now held m e)
  /-- So it was whenever someone looked. -/
  looked : ∀ a b now name held, notes = a ++ (now, .looked name (some held)) :: b →
    ∃ asked, LastAsked a (.watcher name) asked ∧ ∃ m e, FoundAt life a asked now held m e
  /-- So it was whenever a call got a snapshot, if it was not the one its own fetch was answered with. -/
  got : ∀ a b now t held, notes = a ++ (now, .moved t (.got held)) :: b →
    (∃ asked, LastAsked a (.call t) asked ∧ ∃ m e, FoundAt life a asked now held m e) ∨
      BroughtBy a t held ∧ .fetched t (.ok held.snapshot) ∈ es
  /-- What was found could be served if the life had not run out when the entry was read, and only then. -/
  good : ∀ a b asked now held m e, notes = a ++ b → FoundAt life a asked now held m e →
    ((∃ m e, GoodAt life a asked now held m e) ↔ now < e.ends life)
  /-- Nothing but storing and invalidating touches the entry, so that neither a look nor a hit gives it
  another end. -/
  kept : ∀ ev, (∀ t e, ev = .store t → r.calls t ≠ some (.pending (.storing e))) → ev ≠ .invalidate →
    (r.step ev).1.cache.entry = r.cache.entry

/-- In every run, whoever looks is served what is current and was within its life when the clock was read;
it is served within its life exactly if the life has not run out before the entry was read too. -/
theorem run_serves_as_asked (life : Duration) (now : Moment) (es : List Event) :
    ServesAsAsked life es ((start life now).after es).2 ((start life now).after es).1 := by
  have ledger := ledger_after life now es
  constructor
  case finds =>
    intro who asked held asks
    exact ledger.peek_iff (ledger.past_le _ (ledger.asked who asked asks).mem)
  case looked =>
    intro a b m name held hp
    obtain ⟨before, ev, rest, rfl, rfl, rfl, hn⟩ := noted_at es hp
    obtain ⟨asked, asks, good⟩ := (step_spec _ ev).looks (hn ▸ List.mem_singleton_self _)
    exact (ledger_after life now before).finds asks good
  case got =>
    intro a b m t held hp
    have hmem : ∀ x ∈ a, x ∈ ((start life now).after es).2 := by
      intro x hx
      rw [hp]
      exact List.mem_append_left _ hx
    obtain ⟨before, ev, rest, -, rfl, rfl, hn⟩ := noted_at es hp
    obtain found | ⟨e, since, rfl, begun, brought⟩ :=
      (ledger_after life now before).gets (step_spec _ ev) (hn ▸ List.mem_singleton_self _)
    · exact .inl found
    · exact .inr ⟨⟨e, since, rfl, begun, brought⟩, answered_of_brought es (hmem _ brought)⟩
  case good =>
    intro a b asked m held s e hp found
    obtain ⟨before, -, -, rfl⟩ := after_prefix es hp
    exact (ledger_after life now before).good_iff found
  case kept =>
    intro ev stores kept
    obtain ⟨t, e, hev, hstores, -⟩ | ⟨hev, -⟩ | ⟨hentry, -⟩ := (step_spec _ ev).entry
    · exact absurd hstores (stores t e hev)
    · exact absurd hev kept
    · exact hentry

def bareSnapshot : Schema.Snapshot := ⟨[], ⟨0, 0, 0⟩⟩

/-- A watcher reads the clock, and before it reads the entry, a call stores what it has fetched and some
time goes by. -/
def overtaken (time : Duration) : List Event :=
  [.ask (.watcher 0), .pass 1] ++ beginning 1 ++
    [.fetched 1 (.ok bareSnapshot), .store 1, .pass time]

/-- A snapshot that is never good is served all the same, and so is one whose life of ten nanoseconds has
run out while someone was looking. -/
theorem served_after_its_end :
    (((start 0 0).after (overtaken 0)).1.step (.peek 0)).2 = [.looked 0 (some ⟨0, bareSnapshot⟩)] ∧
    (¬ ∃ m e, GoodAt 0 ((start 0 0).after (overtaken 0)).2 0 1 ⟨0, bareSnapshot⟩ m e) ∧
    (((start 10 0).after (overtaken 10)).1.step (.peek 0)).2 =
      [.looked 0 (some ⟨0, bareSnapshot⟩)] ∧
    ¬ ∃ m e, GoodAt 10 ((start 10 0).after (overtaken 10)).2 0 11 ⟨0, bareSnapshot⟩ m e := by
  have entry : ((start 0 0).after (overtaken 0)).1.cache.entry = some ⟨⟨0, bareSnapshot⟩, 1, 1⟩ := by
    decide +kernel
  have entry' : ((start 10 0).after (overtaken 10)).1.cache.entry =
      some ⟨⟨0, bareSnapshot⟩, 1, 11⟩ := by
    decide +kernel
  exact ⟨by decide +kernel, (ledger_after ..).not_good entry (by decide), by decide +kernel,
    (ledger_after ..).not_good entry' (by decide)⟩

end Run
end QueryWarden.Cache
