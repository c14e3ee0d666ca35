import QueryWarden.Proofs.Cache.Serving

/-! One fetch serves everybody: no two fetches are under way at once, and another one begins only when the
one before has failed, was dropped, or has brought a snapshot that has run out or was invalidated. -/
namespace QueryWarden.Cache
open Clock

/-- Why the fetch of a call no longer keeps others from fetching at a moment, from the notes since it
began. -/
inductive Spent (life : Duration) (t : TaskId) (n : Nat) (between : List (Moment × Note))
    (now : Moment) : Prop where
  | failed {m : Moment} {f : Failure} (noted : (m, .moved t (.failed f)) ∈ between)
  /-- The call broke off, for the clock could name no end of the snapshot's life. -/
  | broken {m : Moment} (noted : (m, .moved t (.broken clockOverflow)) ∈ between)
      (unnamed : lastMoment < m + life ∧ lastMoment < m + longestLife)
  | dropped {m : Moment} (noted : (m, .moved t .dropped) ∈ between)
  | invalidated {m : Moment} (noted : (m, .invalidated) ∈ between)
  /-- It brought an entry, the entry was stored, and it has run out. -/
  | expired {m m' : Moment} {e : Entry} (brought : (m, .moved t (.pending (.storing e))) ∈ between)
      (stored : (m', .moved t (.got e.held)) ∈ between) (number : e.held.fetch = n)
      (life : expiry? m life = some e.expiry) (reached : e.expiry ≤ now)

theorem Spent.mono {life : Duration} {t : TaskId} {n : Nat} {b b' : List (Moment × Note)}
    {now now' : Moment} (h : Spent life t n b now) (hb : b ⊆ b') (hn : now ≤ now') :
    Spent life t n b' now' := by
  cases h with
  | failed noted => exact .failed (hb noted)
  | broken noted unnamed => exact .broken (hb noted) unnamed
  | dropped noted => exact .dropped (hb noted)
  | invalidated noted => exact .invalidated (hb noted)
  | expired brought stored number life reached =>
    exact .expired (hb brought) (hb stored) number life (Nat.le_trans reached hn)

namespace Run

variable {r r' : Run} {ev : Event} {notes : List Note} {t : TaskId}

/-- What is known of a fetch from the notes since it began: it is under way, what it brought serves, or
it is spent. -/
inductive Fate (life : Duration) (r : Run) (t : TaskId) (n : Nat) (since : List (Moment × Note)) :
    Prop where
  | running {m : Moment} (stands : r.calls t = some (.pending (.fetching n m)))
  | serving {e : Entry} {m : Moment} (serves : Serves r t e since)
      (brought : (m, .moved t (.pending (.storing e))) ∈ since) (number : e.held.fetch = n)
      (life : expiry? m life = some e.expiry)
  | spent (spent : Spent life t n since r.now)

theorem Fate.step {life : Duration} {n : Nat} {since : List (Moment × Note)}
    (h : Fate life r t n since) (hl : r.cache.life = life) (ho : r.Sound)
    (hs : Step r ev r' notes) : Fate life r' t n (since ++ notes.map (r.now, ·)) := by
  have hsub : since ⊆ since ++ notes.map (r.now, ·) := List.subset_append_left ..
  cases h with
  | @running m stands =>
    have other : ∀ {u : TaskId} {p : Option Progress} {x : Cache × Progress}, r.calls u = p →
        p ≠ some (.pending (.fetching n m)) →
        Fate life (r.settle u x).1 t n (since ++ notes.map (r.now, ·)) :=
      fun hu hp => .running (settle_calls_other stands hu hp _)
    -- whoever is under way holds the lock, so nobody else is
    have same : ∀ {u : TaskId} {k : Nat} {m' : Moment},
        r.calls u = some (.pending (.fetching k m')) → u = t ∧ k = n := by
      intro u k m' hu
      have hh := ho.order.inside u _ (stand_eq_some.mpr hu) (by simp)
      rw [ho.order.inside t _ (stand_eq_some.mpr stands) (by simp)] at hh
      cases hh
      rw [stands] at hu
      cases hu
      exact ⟨rfl, rfl⟩
    cases hs with
    | hit new | queue new | quit new => exact other new (by simp)
    | share waits | next waits => exact other waits (by simp)
    | store stores => exact other stores (by simp)
    | idle | ask | look | invalidate | pass => exact .running stands
    | @fail _ _ _ f fetches =>
      obtain ⟨rfl, rfl⟩ := same fetches
      exact .spent (.failed (m := r.now) (f := f) (by simp))
    | crash fetches overflow =>
      obtain ⟨rfl, rfl⟩ := same fetches
      rw [hl] at overflow
      exact .spent (.broken (m := r.now) (by simp) (expiry?_eq_none.mp overflow))
    | succeed fetches ends =>
      obtain ⟨rfl, rfl⟩ := same fetches
      rw [hl] at ends
      exact .serving (m := r.now) (.storing (settle_calls_self ..)) (by simp) rfl ends
    | @drop u stand stands' =>
      by_cases he : u = t
      · subst he
        exact .spent (.dropped (m := r.now) (by simp))
      · exact .running (by rw [settle_calls_ne r _ (Ne.symm he), stands])
  | @serving e m serves brought number ends =>
    obtain hk | ⟨-, hn⟩ | ⟨-, hn⟩ | ⟨⟨m', noted⟩, hover⟩ := serves.step ho hs
    · exact .serving hk (hsub brought) number ends
    · exact .spent (.invalidated (m := r.now) (by simp [hn]))
    · exact .spent (.dropped (m := r.now) (by simp [hn]))
    · exact .spent (.expired (hsub brought) (hsub noted) number ends (Nat.le_trans hover hs.now_le))
  | spent spent => exact .spent (spent.mono hsub hs.now_le)

/-- Before another fetch begins, every earlier one is spent. -/
theorem Fate.spent_of_begins {life : Duration} {n : Nat} {since : List (Moment × Note)} {u : TaskId}
    {k : Nat} {m : Moment} (h : Fate life r t n since) (ho : r.Sound)
    (hs : Step r ev r' [.moved u (.pending (.fetching k m))]) : Spent life t n since r.now := by
  obtain ⟨quiet, miss, -⟩ := hs.begins ho
  cases h with
  | running stands => exact (not_quiet quiet stands (by simp)).elim
  | spent spent => exact spent
  | @serving e m serves brought number ends =>
    cases serves with
    | storing stands => exact (not_quiet quiet stands (by simp)).elim
    | stored entry quiet' noted =>
      exact .expired brought noted number ends (miss e entry)

/-- Every fetch in the notes is accounted for, and was spent before a later one began. -/
structure Accounted (life : Duration) (past : List (Moment × Note)) (r : Run) : Prop where
  lives : r.cache.life = life
  sound : r.Sound
  each : ∀ a b m t n s, past = a ++ (m, .moved t (.pending (.fetching n s))) :: b → Fate life r t n b
  pair : ∀ a b c m m' t u n k s s',
    past = a ++ (m, .moved t (.pending (.fetching n s))) :: b ++
      (m', .moved u (.pending (.fetching k s'))) :: c →
    Spent life t n b m'

theorem accounted_start (life : Duration) (now : Moment) : Accounted life [] (start life now) :=
  ⟨rfl, sound_start life now, by simp, by simp⟩

theorem accounted_step {life : Duration} {past : List (Moment × Note)} (h : Accounted life past r)
    (ev : Event) : Accounted life (past ++ (r.step ev).2.map (r.now, ·)) (r.step ev).1 := by
  have hs := step_spec r ev
  refine ⟨hs.life.trans h.lives, h.sound.step ev, ?_, ?_⟩
  · intro a b m t n s hp
    obtain hn | ⟨x, hn⟩ := hs.notes_short
    · have hf := h.each a b m t n s (by simpa [hn] using hp)
      simpa [hn] using hf.step h.lives h.sound hs
    · rw [hn, List.map_singleton] at hp
      obtain ⟨rfl, rfl, hx⟩ | ⟨b', rfl, hp'⟩ := split_at_end hp
      · rw [hn, (Prod.mk.inj hx).2] at hs
        exact .running (hs.begins h.sound).2.2
      · have hf := (h.each a b' m t n s hp').step h.lives h.sound hs
        rwa [hn] at hf
  · intro a b c m m' t u n k s s' hp
    obtain hn | ⟨x, hn⟩ := hs.notes_short
    · exact h.pair a b c m m' t u n k s s' (by simpa [hn] using hp)
    · rw [hn, List.map_singleton] at hp
      obtain ⟨rfl, hp', hx⟩ | ⟨c', rfl, hp'⟩ := split_at_end hp
      · obtain ⟨rfl, hnote⟩ := Prod.mk.inj hx
        rw [hn, hnote] at hs
        exact (h.each a b m t n s hp').spent_of_begins h.sound hs
      · exact h.pair a b c' m m' t u n k s s' hp'

theorem accounted_after (life : Duration) (now : Moment) (es : List Event) :
    Accounted life ((start life now).after es).2 ((start life now).after es).1 :=
  after_keeps (I := Accounted life) (fun _ _ ev h => accounted_step h ev) es []
    (accounted_start life now)

/-- Not more than one fetch is under way at any moment of a run; before a later fetch begins, an earlier
one has failed, broken off, or been dropped, or what it brought has run out or was invalidated; and from
when a call has fetched until then, no fetch begins, whoever stood in line keeps waiting or gets the very
snapshot that was fetched, and gets it once every call before the lock has had its turn. -/
theorem fetches_are_single_flight (life : Duration) (now : Moment) (es : List Event) :
    let r := ((start life now).after es).1
    (∀ t u n k m m', r.calls t = some (.pending (.fetching n m)) →
      r.calls u = some (.pending (.fetching k m')) → t = u) ∧
    (∀ a b c m m' t u n k s s', ((start life now).after es).2 =
        a ++ (m, .moved t (.pending (.fetching n s))) :: b ++
          (m', .moved u (.pending (.fetching k s'))) :: c →
      Spent life t n b m') ∧
    ∀ t e more, r.calls t = some (.pending (.storing e)) → .invalidate ∉ more → .cancel t ∉ more →
      (r.after more).1.now < e.expiry →
      (∀ m u n s, (m, .moved u (.pending (.fetching n s))) ∉ (r.after more).2) ∧
      ∀ u ∈ r.cache.line,
        ((r.after more).1.calls u = some (.pending .waiting) ∨ Served e more (r.after more).1 u) ∧
        Served e more ((r.after more).1.after ((r.after more).1.turns t)).1 u := by
  intro r
  have accounted := accounted_after life now es
  refine ⟨?_, accounted.pair, ?_⟩
  · intro t u n k m m' ht hu
    have hh := accounted.sound.order.inside t _ (stand_eq_some.mpr ht) (by simp)
    rw [accounted.sound.order.inside u _ (stand_eq_some.mpr hu) (by simp)] at hh
    exact (Option.some.inj hh).symm
  · intro t e more stands kept stays fresh
    have serves : Serves r t e [] := .storing stands
    obtain ⟨later, none, wait⟩ := serves.after more accounted.sound kept stays fresh
    refine ⟨none, ?_⟩
    intro u hu
    have waits := stand_eq_some.mp (accounted.sound.order.line u hu)
    refine ⟨wait u waits, ?_⟩
    obtain hw | served := wait u waits
    · exact .inl (later.got (accounted.sound.after more) fresh hw)
    · exact served.after _

def bareEntry : Entry := ⟨⟨0, ⟨[], ⟨0, 0, 0⟩⟩⟩, 0, 10⟩

def threeCalls : List Event :=
  beginning 1 ++ [.ask (.call 2), .call 2, .ask (.call 3), .call 3,
    .fetched 1 (.ok bareEntry.held.snapshot)]

def twoFetches : List Event :=
  beginning 1 ++ [.fetched 1 (.ok bareEntry.held.snapshot), .store 1, .pass 10] ++ beginning 4

/-- Three calls share one fetch, and once its snapshot has run out another call fetches again. -/
theorem shared_then_fetched_again :
    Served bareEntry (.store 1 :: again 2)
      ((((start 10 0).after threeCalls).1.after (.store 1 :: again 2)).1.after (.store 1 :: again 3)).1
      3 ∧
    Spent 10 1 0 [(0, .moved 1 (.pending (.storing bareEntry))), (0, .moved 1 (.got bareEntry.held)),
      (10, .asked (.call 4)), (10, .moved 4 (.pending .waiting)), (10, .asked (.call 4))] 10 := by
  constructor
  · have shared := fetches_are_single_flight 10 0 threeCalls
    have storing : ((start 10 0).after threeCalls).1.calls 1 =
        some (.pending (.storing bareEntry)) := by
      decide +kernel
    have now : (((start 10 0).after threeCalls).1.after (.store 1 :: again 2)).1.now = 0 := by
      decide +kernel
    have served := shared.2.2 1 bareEntry (.store 1 :: again 2) storing (by simp [again])
      (by simp [again]) (by rw [now]; decide)
    have holder : (((start 10 0).after threeCalls).1.after (.store 1 :: again 2)).1.cache.holder =
        some 3 := by
      decide +kernel
    have line : (((start 10 0).after threeCalls).1.after (.store 1 :: again 2)).1.cache.line = [] := by
      decide +kernel
    simpa [turns, holder, line] using (served.2 3 (by decide +kernel)).2
  · have again := fetches_are_single_flight 10 0 twoFetches
    refine again.2.1 [(0, .asked (.call 1)), (0, .moved 1 (.pending .waiting)), (0, .asked (.call 1))] _
      [] 0 10 1 4 0 1 0 10 ?_
    decide +kernel

end Run
end QueryWarden.Cache
