import QueryWarden.Proofs.Cache.History

/-! What an invalidation does to a fetch that is under way: nothing. It takes away what is stored, but the
fetch goes on and stores what it brings; so who begins after the invalidation may get a snapshot from
before it, and does so only in this case. -/
namespace QueryWarden.Cache
open Clock

def Begun (notes : List (Moment × Note)) (n : Nat) : Prop :=
  ∃ m t since, (m, .moved t (.pending (.fetching n since))) ∈ notes

namespace Run

variable {r r' r'' : Run} {ev : Event} {notes : List Note} {life : Duration}
  {past : List (Moment × Note)}

/-- A fetch is under way, and its snapshot, if it comes now or later, outlasts this moment; or one has
ended, and its snapshot is about to be stored and still good. -/
def UnderWay (r : Run) : Prop :=
  (∃ t n since later expiry, r.calls t = some (.pending (.fetching n since)) ∧ r.now ≤ later ∧
    expiry? later r.cache.life = some expiry ∧ r.now < expiry) ∨
  ∃ t e, r.calls t = some (.pending (.storing e)) ∧ r.now < e.expiry

/-- A note says that someone got a snapshot who began after the run stood there: a watcher that has read
the clock since, or a call that had not. -/
def Yields (r : Run) (since : List (Moment × Note)) (held : Held) : Note → Prop
  | .looked name found => found = some held ∧ ∃ m, (m, .asked (.watcher name)) ∈ since
  | .moved t progress => progress = .got held ∧ r.calls t = none ∧ r.asked (.call t) = none
  | _ => False

/-- After an invalidation, a look or a call that begins after it yields a snapshot whose fetch had begun
before it. -/
def YieldsStale (past : List (Moment × Note)) (r : Run) (more : List Event) : Prop :=
  ∃ held, Begun past held.fetch ∧ ∃ a m n b,
    ((r.step .invalidate).1.after more).2 = a ++ (m, n) :: b ∧ r.Yields a held n

/-- Every fetch that has begun has a number below the count. -/
theorem begun_lt_fetches (life : Duration) (now : Moment) (es : List Event) {n : Nat}
    (h : Begun ((start life now).after es).2 n) : n < ((start life now).after es).1.cache.fetches := by
  have keeps : ∀ (past : List (Moment × Note)) (r : Run) (ev : Event),
      (∀ n, Begun past n → n < r.cache.fetches) →
      ∀ n, Begun (past ++ (r.step ev).2.map (r.now, ·)) n → n < (r.step ev).1.cache.fetches := by
    rintro past r ev below n ⟨m, t, since, hm⟩
    have hs := step_spec r ev
    obtain hm | hm := List.mem_append.mp hm
    · exact Nat.lt_of_lt_of_le (below n ⟨m, t, since, hm⟩) hs.fetches_le
    · obtain ⟨x, hx, he⟩ := List.mem_map.mp hm
      rw [(Prod.mk.inj he).2] at hx
      rw [(hs.starts hx).2.2]
      exact Nat.lt_succ_self n
  exact after_keeps (I := fun past r => ∀ n, Begun past n → n < r.cache.fetches) keeps es []
    (by simp [Begun]) n h

/-- An entry comes of what a call was about where the run stood: it was about to be stored, or it has been
fetched since. -/
def ComesOf (r : Run) (t : TaskId) (e : Entry) : Prop :=
  r.calls t = some (.pending (.storing e)) ∨
    (∃ since, r.calls t = some (.pending (.fetching e.held.fetch since))) ∧ r.now ≤ e.stored ∧
      expiry? e.stored r.cache.life = some e.expiry

/-- What comes of what a call was about and was good at this moment or later was under way. -/
theorem ComesOf.underWay {t : TaskId} {e : Entry} {m : Moment} (h : r.ComesOf t e) (later : r.now ≤ m)
    (fresh : m < e.expiry) : r.UnderWay := by
  have outlasts := Nat.lt_of_le_of_lt later fresh
  obtain stores | ⟨⟨since, fetches⟩, stored, ends⟩ := h
  · exact .inr ⟨t, e, stores, outlasts⟩
  · exact .inl ⟨t, _, since, e.stored, e.expiry, fetches, stored, ends, outlasts⟩

/-- A run has gone on from an earlier one whose entry was taken away: whatever has the number of an
earlier fetch comes of what was under way, and who began later has read the clock later. -/
structure Since (r : Run) (noted : List (Moment × Note)) (r' : Run) : Prop where
  now : r.now ≤ r'.now
  life : r'.cache.life = r.cache.life
  count : r.cache.fetches ≤ r'.cache.fetches
  asked : ∀ who m, r'.asked who = some m →
    (r.asked who = none ∨ ∃ m', (m', .asked who) ∈ noted) → r.now ≤ m
  fetching : ∀ t n since, r'.calls t = some (.pending (.fetching n since)) → n < r.cache.fetches →
    r.calls t = some (.pending (.fetching n since))
  storing : ∀ t e, r'.calls t = some (.pending (.storing e)) → e.held.fetch < r.cache.fetches →
    r.ComesOf t e
  entry : ∀ e, r'.cache.entry = some e → e.held.fetch < r.cache.fetches → ∃ t, r.ComesOf t e

theorem since_invalidate (r : Run) : Since r [] (r.step .invalidate).1 := by
  refine ⟨Nat.le_refl _, rfl, Nat.le_refl _, ?_, fun _ _ _ ht _ => ht, fun _ _ ht _ => .inl ht, ?_⟩
  · rintro who m asked (rests | ⟨m', hm⟩)
    · rw [show r.asked who = some m from asked] at rests
      cases rests
    · cases hm
  · intro e he
    simp [step, invalidate] at he

theorem Since.step {noted : List (Moment × Note)} (h : Since r noted r') (ev : Event) :
    Since r (noted ++ (r'.step ev).2.map (r'.now, ·)) (r'.step ev).1 := by
  have hs := step_spec r' ev
  generalize (r'.step ev).1 = r'', (r'.step ev).2 = notes at hs
  constructor
  case now => exact Nat.le_trans h.now hs.now_le
  case life => exact hs.life.trans h.life
  case count => exact Nat.le_trans h.count hs.fetches_le
  case asked =>
    intro who m asked begun
    obtain ⟨before, other⟩ | ⟨rfl, -⟩ := hs.asks asked
    · refine h.asked who m before (begun.imp_right ?_)
      rintro ⟨m', hm⟩
      obtain hm | hm := List.mem_append.mp hm
      · exact ⟨m', hm⟩
      · obtain ⟨x, hx, he⟩ := List.mem_map.mp hm
        rw [(Prod.mk.inj he).2] at hx
        exact absurd hx other
    · exact h.now
  case fetching =>
    intro t n since ht earlier
    obtain before | hm := hs.moves ht
    · exact h.fetching t n since before earlier
    · rw [(hs.starts hm).1] at earlier
      exact absurd earlier (Nat.not_lt.mpr h.count)
  case storing =>
    intro t e ht earlier
    obtain before | hm := hs.moves ht
    · exact h.storing t e before earlier
    · obtain ⟨-, ⟨since, fetches⟩, hstored, ends, -⟩ := hs.brings hm
      refine .inr ⟨⟨since, h.fetching _ _ _ fetches earlier⟩, hstored ▸ h.now, ?_⟩
      rw [hstored, ← h.life, ends]
  case entry =>
    intro e he earlier
    obtain ⟨t, e', -, stores, -, hentry⟩ | ⟨-, -, hentry⟩ | ⟨hentry, -⟩ := hs.entry
    · obtain rfl := Option.some.inj (hentry.symm.trans he)
      exact ⟨t, h.storing t e' stores earlier⟩
    · simp [hentry] at he
    · exact h.entry e (hentry ▸ he) earlier

theorem since_after (r : Run) (more : List Event) :
    Since r ((r.step .invalidate).1.after more).2 ((r.step .invalidate).1.after more).1 :=
  after_keeps (I := Since r) (fun _ _ ev h => h.step ev) more [] (since_invalidate r)

/-- Whoever begins later and gets a snapshot of an earlier fetch gets what was under way. -/
theorem Since.yields {noted : List (Moment × Note)} (h : Since r noted r') (hs : Step r' ev r'' notes)
    {n : Note} (hn : n ∈ notes) {held : Held} (yields : r.Yields noted held n)
    (earlier : held.fetch < r.cache.fetches) : r.UnderWay := by
  have found : ∀ {m : Moment}, r.now ≤ m → r'.cache.peek m = some held → r.UnderWay := by
    intro m later hpeek
    obtain ⟨e, hentry, fresh, rfl⟩ := peek_eq_some.mp hpeek
    obtain ⟨t, comes⟩ := h.entry e hentry earlier
    exact comes.underWay later fresh
  cases n with
  | asked | invalidated => cases yields
  | looked name found' =>
    obtain ⟨rfl, begun⟩ := yields
    obtain ⟨m, asked, hpeek⟩ := hs.looks hn
    exact found (h.asked _ m asked (.inr begun)) hpeek
  | moved t p =>
    obtain ⟨rfl, new, rests⟩ := yields
    obtain ⟨u, e, -, stores, hnotes, -⟩ | ⟨-, hnotes, -⟩ | ⟨-, -, served⟩ := hs.entry
    · obtain ⟨rfl, rfl⟩ : t = u ∧ held = e.held := by simpa [hnotes] using hn
      obtain stands | ⟨⟨since, stands⟩, -⟩ := h.storing t e stores earlier <;> simp [new] at stands
    · simp [hnotes] at hn
    · obtain ⟨⟨m, asked, hpeek⟩, -⟩ := served t held hn
      exact found (h.asked _ m asked (.inl rests)) hpeek

/-- A watcher that reads the clock where a run stands, whatever it was about before. -/
theorem asks_anew (r : Run) :
    let x := r.after [.peek 0, .ask (.watcher 0)]
    x.1.cache = r.cache ∧ x.1.now = r.now ∧ x.1.calls = r.calls ∧
      x.1.asked (.watcher 0) = some r.now ∧ (r.now, .asked (.watcher 0)) ∈ x.2 := by
  cases asked : r.asked (.watcher 0) <;> simp [after, step, asked, looksNext, forget, ask]

/-- What is found by a watcher that read the clock at the invalidation is got by one that began after
it. -/
theorem yieldsStale_of_found (held : Held) (begun : Begun past held.fetch) (mid : List Event)
    (found : ∀ r' : Run, r'.cache = r.cache.invalidate → r'.now = r.now → r'.calls = r.calls →
      r'.asked (.watcher 0) = some r.now →
      (r'.after mid).1.asked (.watcher 0) = some r.now ∧
        (r'.after mid).1.cache.peek r.now = some held) :
    YieldsStale past r ([.peek 0, .ask (.watcher 0)] ++ mid ++ [.peek 0]) := by
  obtain ⟨cache, now, calls, asked, noted⟩ := asks_anew (r.step .invalidate).1
  generalize hx : (r.step .invalidate).1.after [.peek 0, .ask (.watcher 0)] = x at *
  obtain ⟨asked', good⟩ := found x.1 cache now calls asked
  refine ⟨held, begun, x.2 ++ (x.1.after mid).2, (x.1.after mid).1.now, .looked 0 (some held), [], ?_, rfl,
    _, List.mem_append_left _ noted⟩
  rw [after_append, after_append, hx]
  simp [after, step, asked', good]

/-- A snapshot whose fetch had begun before an invalidation is got after it, by a look or by a call that
begins then, exactly if the fetch was under way at the invalidation: what it brings is stored all the
same. -/
theorem yields_stale_iff_under_way (life : Duration) (now : Moment) (es : List Event) :
    let r := ((start life now).after es).1
    (∃ more, YieldsStale ((start life now).after es).2 r more) ↔ r.UnderWay := by
  intro r
  have ledger := ledger_after life now es
  constructor
  · rintro ⟨more, held, begun, a, m, n, b, hn, yields⟩
    obtain ⟨before, ev, rest, -, rfl, -, hnote⟩ := noted_at more hn
    exact (since_after r before).yields (step_spec _ ev) (hnote ▸ List.mem_singleton_self _) yields
      (begun_lt_fetches life now es begun)
  · rintro (⟨t, n, since, later, expiry, fetches, le, ends, fresh⟩ | ⟨t, e, stores, fresh⟩)
    · have begun : Begun ((start life now).after es).2 n := ⟨_, _, _, ledger.begun t n since fetches⟩
      refine ⟨_, yieldsStale_of_found ⟨n, bareSnapshot⟩ begun
        [.pass (later - r.now), .fetched t (.ok bareSnapshot), .store t] ?_⟩
      intro r' hcache hnow hcalls hasked
      have hlater : r.now + (later - r.now) = later := Nat.add_sub_cancel' le
      simp [after, step, hcache, hnow, hcalls, hasked, hlater, fetches, fetched, ends, settle, forget,
        store, release, invalidate, peek, Entry.isFresh, fresh]
    · obtain ⟨⟨-, since, -, begun, -⟩, -⟩ := ledger.storing t e stores
      refine ⟨_, yieldsStale_of_found e.held ⟨_, _, _, begun⟩ [.store t] ?_⟩
      intro r' hcache hnow hcalls hasked
      simp [after, step, hcache, hcalls, hasked, stores, settle, forget, store, release, peek,
        Entry.isFresh, fresh]

/-- A snapshot fetched before an invalidation and stored after it is served to who comes then. -/
theorem invalidated_snapshot_comes_back :
    Begun ((start 10 0).after (beginning 1)).2 0 ∧
      ((((start 10 0).after (beginning 1)).1.step .invalidate).1.after
        [.fetched 1 (.ok bareSnapshot), .store 1, .ask (.call 2), .call 2, .ask (.watcher 0),
          .peek 0]).2 =
      [(0, .moved 1 (.pending (.storing ⟨⟨0, bareSnapshot⟩, 0, 10⟩))),
        (0, .moved 1 (.got ⟨0, bareSnapshot⟩)), (0, .asked (.call 2)),
        (0, .moved 2 (.got ⟨0, bareSnapshot⟩)), (0, .asked (.watcher 0)),
        (0, .looked 0 (some ⟨0, bareSnapshot⟩))] :=
  ⟨⟨0, 1, 0, by decide +kernel⟩, by decide +kernel⟩

end Run
end QueryWarden.Cache
