import QueryWarden.Proofs.Cache.Steps

/-! What one fetch has brought serves everybody: from when it is about to be stored until it runs out, is
invalidated or is dropped, no other fetch begins, and whoever waits gets it. -/
namespace QueryWarden.Cache
open Clock

namespace Run

variable {r r' : Run} {ev : Event} {notes : List Note} {t : TaskId}

def Quiet (r : Run) : Prop := ∀ u s, r.calls u = some (.pending s) → s = .waiting

theorem not_quiet {u : TaskId} {s : Stand} (h : r.Quiet) (hu : r.calls u = some (.pending s))
    (hs : s ≠ .waiting) : False :=
  hs (h u s hu)

/-- Where one call comes to something else than a place under the lock, it stays quiet. -/
theorem Quiet.settle (h : r.Quiet) {x : Cache × Progress}
    (hx : ∀ s, x.2 = .pending s → s = .waiting) : (r.settle t x).1.Quiet := by
  intro u s hu
  by_cases he : u = t
  · subst he
    rw [settle_calls_self] at hu
    exact hx s (Option.some.inj hu)
  · rw [settle_calls_ne r x he] at hu
    exact h u s hu

/-- When the one under the lock comes to an end, it is quiet. -/
theorem quiet_settle (ho : Orderly r.cache r.stand) (ht : r.cache.holder = some t)
    {x : Cache × Progress} (hx : x.2.stand? = none) : (r.settle t x).1.Quiet := by
  intro u s hu
  by_cases he : u = t
  · subst he
    rw [settle_calls_self] at hu
    rw [Option.some.inj hu] at hx
    simp [Progress.stand?] at hx
  · rw [settle_calls_ne r x he] at hu
    by_cases hs : s = .waiting
    · exact hs
    · have hh := ho.inside u s (stand_eq_some.mpr hu) hs
      rw [ht] at hh
      exact absurd (Option.some.inj hh).symm he

/-- Whoever begins a fetch found no good snapshot and nobody under the lock. -/
theorem Step.begins {n : Nat} {since : Moment} (ho : r.Sound)
    (h : Step r ev r' [.moved t (.pending (.fetching n since))]) :
    r.Quiet ∧ (∀ e, r.cache.entry = some e → e.expiry ≤ r.now) ∧
      r'.calls t = some (.pending (.fetching n since)) := by
  cases h with
  | next waits holds asked miss =>
    refine ⟨?_, ?_, settle_calls_self ..⟩
    · intro u s hu
      by_cases hs : s = .waiting
      · exact hs
      · have hh := ho.order.inside u s (stand_eq_some.mpr hu) hs
        rw [holds] at hh
        cases hh
        simpa [waits] using hu.symm
    · intro e entry
      exact Nat.le_trans (peek_eq_none.mp miss e entry) (ho.timely _ _ asked)

inductive Serves (r : Run) (t : TaskId) (e : Entry) (since : List (Moment × Note)) : Prop where
  | storing (stands : r.calls t = some (.pending (.storing e)))
  | stored (entry : r.cache.entry = some e) (quiet : r.Quiet)
      {m : Moment} (noted : (m, .moved t (.got e.held)) ∈ since)

/-- What a call has fetched keeps serving until it runs out, is invalidated, or is dropped before it is
stored. -/
theorem Serves.step {e : Entry} {since : List (Moment × Note)} (h : Serves r t e since)
    (ho : r.Sound) (hs : Step r ev r' notes) :
    Serves r' t e (since ++ notes.map (r.now, ·)) ∨ ev = .invalidate ∧ notes = [.invalidated] ∨
      ev = .cancel t ∧ notes = [.moved t .dropped] ∨
      (∃ m, (m, .moved t (.got e.held)) ∈ since) ∧ e.expiry ≤ r.now := by
  cases h with
  | storing stands =>
    have holds := ho.order.inside t _ (stand_eq_some.mpr stands) (by simp)
    have other : ∀ {u : TaskId} {p : Option Progress} {x : Cache × Progress}, r.calls u = p →
        p ≠ some (.pending (.storing e)) → Serves (r.settle u x).1 t e (since ++ notes.map (r.now, ·)) :=
      fun hu hp => .storing (settle_calls_other stands hu hp _)
    cases hs with
    | hit new | queue new | quit new => exact .inl (other new (by simp))
    | share waits | next waits => exact .inl (other waits (by simp))
    | fail fetches | crash fetches | succeed fetches => exact .inl (other fetches (by simp))
    | idle | ask | look | invalidate | pass => exact .inl (.storing stands)
    | @store u entry stores =>
      have hh := ho.order.inside u _ (stand_eq_some.mpr stores) (by simp)
      rw [holds] at hh
      cases hh
      rw [stands] at stores
      cases stores
      have quiet := quiet_settle (x := r.cache.store e) ho.order holds rfl
      exact .inl (.stored rfl quiet (m := r.now) (by simp))
    | @drop u stand stands' =>
      by_cases he : u = t
      · subst he
        exact .inr (.inr (.inl ⟨rfl, rfl⟩))
      · exact .inl (.storing (by rw [settle_calls_ne r _ (Ne.symm he), stands]))
  | stored entry quiet noted =>
    have kept : ∀ {u : TaskId} {x : Cache × Progress}, x.1.entry = r.cache.entry →
        (∀ s, x.2 = .pending s → s = .waiting) →
        Serves (r.settle u x).1 t e (since ++ notes.map (r.now, ·)) := by
      intro u x hx hp
      exact .stored (hx.trans entry) (quiet.settle hp) (List.mem_append_left _ noted)
    cases hs with
    | hit | share => exact .inl (kept rfl (by simp))
    | queue | drop | quit => exact .inl (kept (by simp) (by simp))
    | next _ _ asked miss =>
      have ended := Nat.le_trans (peek_eq_none.mp miss e entry) (ho.timely _ _ asked)
      exact .inr (.inr (.inr ⟨⟨_, noted⟩, ended⟩))
    | fail fetches | crash fetches | succeed fetches => exact (not_quiet quiet fetches (by simp)).elim
    | store stores => exact (not_quiet quiet stores (by simp)).elim
    | invalidate => exact .inr (.inl ⟨rfl, rfl⟩)
    | idle | ask | look | pass => exact .inl (.stored entry quiet (List.mem_append_left _ noted))

/-- A call has got the entry's snapshot, or its caller gave it up. -/
def Served (e : Entry) (evs : List Event) (r : Run) (u : TaskId) : Prop :=
  r.calls u = some (.got e.held) ∨ r.calls u = some .dropped ∧ .cancel u ∈ evs

/-- While an entry serves and has not run out, whoever waits keeps waiting or gets it. -/
theorem Serves.serve {e : Entry} {since : List (Moment × Note)} {u : TaskId} (h : Serves r t e since)
    (ho : r.Sound) (fresh : r.now < e.expiry) (hs : Step r ev r' notes)
    (hu : r.calls u = some (.pending .waiting)) :
    r'.calls u = some (.pending .waiting) ∨ Served e [ev] r' u := by
  -- what is stored is what a look finds; before it is stored nobody else has been handed the lock
  have found : ∀ {v : TaskId} {m : Moment}, r.calls v = some (.pending .waiting) →
      r.cache.holder = some v → r.asked (.call v) = some m → r.cache.peek m = some e.held := by
    intro v m hv hh asked
    cases h with
    | storing stands =>
      rw [ho.order.inside t _ (stand_eq_some.mpr stands) (by simp)] at hh
      cases hh
      rw [stands] at hv
      cases hv
    | stored entry =>
      exact peek_eq_some.mpr ⟨e, entry, Nat.lt_of_le_of_lt (ho.timely _ _ asked) fresh, rfl⟩
  cases hs with
  | hit new | queue new | quit new => exact .inl (settle_calls_other hu new (by simp) _)
  | fail fetches | crash fetches | succeed fetches => exact .inl (settle_calls_other hu fetches (by simp) _)
  | store stores => exact .inl (settle_calls_other hu stores (by simp) _)
  | idle | ask | look | invalidate | pass => exact .inl hu
  | @share v m held waits holds asked good =>
    rw [found waits holds asked] at good
    cases good
    by_cases he : u = v
    · subst he
      exact .inr (.inl (settle_calls_self ..))
    · exact .inl (by rw [settle_calls_ne r _ he, hu])
  | next waits holds asked miss =>
    rw [found waits holds asked] at miss
    cases miss
  | @drop v =>
    by_cases he : u = v
    · subst he
      exact .inr (.inr ⟨settle_calls_self .., by simp⟩)
    · exact .inl (by rw [settle_calls_ne r _ he, hu])

theorem Served.mono {e : Entry} {es more : List Event} {u : TaskId} (h : Served e es r u)
    (hsub : es ⊆ more) : Served e more r u := by
  cases h with
  | inl hgot => exact .inl hgot
  | inr hdrop => exact .inr ⟨hdrop.1, hsub hdrop.2⟩

theorem Served.after {e : Entry} {evs : List Event} {u : TaskId} (h : Served e evs r u)
    (es : List Event) : Served e evs (r.after es).1 u := by
  cases h with
  | inl hgot => exact .inl (ended_after hgot rfl es)
  | inr hdrop => exact .inr ⟨ended_after hdrop.1 rfl es, hdrop.2⟩

/-- While an entry serves and has not run out, no fetch begins. -/
theorem Serves.no_fetch {e : Entry} {since : List (Moment × Note)} {u : TaskId} {n : Nat} {s : Moment}
    (h : Serves r t e since) (ho : r.Sound) (fresh : r.now < e.expiry) (hs : Step r ev r' notes) :
    .moved u (.pending (.fetching n s)) ∉ notes := by
  intro hm
  have hn : notes = [.moved u (.pending (.fetching n s))] := by
    obtain hn | ⟨x, hn⟩ := hs.notes_short
    · simp [hn] at hm
    · rw [hn] at hm ⊢
      rw [List.mem_singleton.mp hm]
  subst hn
  obtain ⟨quiet, miss, -⟩ := hs.begins ho
  cases h with
  | storing stands => exact not_quiet quiet stands (by simp)
  | stored entry => exact absurd (miss e entry) (Nat.not_le.mpr fresh)

/-- From when a call has fetched until what it fetched runs out, is invalidated or is dropped, no fetch
begins, and whoever waits keeps waiting or gets it. -/
theorem Serves.after {e : Entry} {since : List (Moment × Note)} (es : List Event)
    (h : Serves r t e since) (ho : r.Sound) (kept : .invalidate ∉ es)
    (stays : .cancel t ∉ es) (fresh : (r.after es).1.now < e.expiry) :
    Serves (r.after es).1 t e (since ++ (r.after es).2) ∧
      (∀ m u n s, (m, .moved u (.pending (.fetching n s))) ∉ (r.after es).2) ∧
      ∀ u, r.calls u = some (.pending .waiting) →
        (r.after es).1.calls u = some (.pending .waiting) ∨ Served e es (r.after es).1 u := by
  induction es generalizing r since with
  | nil =>
    refine ⟨by simpa [Run.after] using h, by simp [Run.after], ?_⟩
    intro u hu
    exact .inl hu
  | cons ev es ih =>
    have hs := step_spec r ev
    have now : r.now < e.expiry := Nat.lt_of_le_of_lt (now_le_after r (ev :: es)) fresh
    have next : Serves (r.step ev).1 t e (since ++ (r.step ev).2.map (r.now, ·)) := by
      obtain hk | ⟨rfl, -⟩ | ⟨rfl, -⟩ | ⟨-, hover⟩ := h.step ho hs
      · exact hk
      · simp at kept
      · simp at stays
      · exact absurd hover (Nat.not_le.mpr now)
    obtain ⟨hk, hnone, hwait⟩ := ih next (ho.step ev) (List.not_mem_of_not_mem_cons kept)
      (List.not_mem_of_not_mem_cons stays) fresh
    refine ⟨by simpa [Run.after, List.append_assoc] using hk, ?_, ?_⟩
    · intro m u n s hm
      obtain hm | hm := List.mem_append.mp hm
      · obtain ⟨x, hx, he⟩ := List.mem_map.mp hm
        rw [(Prod.mk.inj he).2] at hx
        exact h.no_fetch ho now hs hx
      · exact hnone m u n s hm
    · intro u hu
      obtain hw | hserved := h.serve ho now hs hu
      · obtain hw' | hserved := hwait u hw
        · exact .inl hw'
        · exact .inr (hserved.mono (List.subset_cons_self ..))
      · exact .inr ((hserved.mono (by simp)).after es)

/-- A call looks again when it has the lock. -/
def again (t : TaskId) : List Event := [.ask (.call t), .resume t]

/-- The holder goes on where it was handed the lock, and finds what is stored, whether or not it had
already read the clock. -/
theorem after_again_stored {e : Entry} (ho : r.Sound) (entry : r.cache.entry = some e)
    (fresh : r.now < e.expiry) (waits : r.calls t = some (.pending .waiting))
    (holds : r.cache.holder = some t) :
    (r.after (again t)).1 = (r.settle t (r.cache.release, .got e.held)).1 := by
  have good : ∀ m, m ≤ r.now → r.cache.peek m = some e.held := fun m hm =>
    peek_eq_some.mpr ⟨e, entry, Nat.lt_of_le_of_lt hm fresh, rfl⟩
  cases asked : r.asked (.call t) with
  | none => simp [again, after_turn waits holds asked, resume, good r.now (Nat.le_refl _)]
  | some m =>
    have idle : r.step (.ask (.call t)) = (r, []) := by simp [step, asked]
    have looks : r.step (.resume t) = r.settle t (r.cache.release, .got e.held) := by
      simp [step, waits, asked, holds, resume, good m (ho.timely _ _ asked)]
    simp [again, Run.after, idle, looks]

/-- Where something good is stored and nobody is under the lock, one turn of each call before it ends
them all. -/
theorem again_all {e : Entry} (l : List TaskId) (entry : r.cache.entry = some e) (quiet : r.Quiet)
    (ho : r.Sound) (fresh : r.now < e.expiry) (hl : r.cache.holder.toList ++ r.cache.line = l)
    (u : TaskId) (s : Stand) : (r.after (l.flatMap again)).1.calls u ≠ some (.pending s) := by
  induction l generalizing r with
  | nil =>
    obtain ⟨hh, hline⟩ := List.append_eq_nil_iff.mp hl
    intro hu
    rw [List.flatMap_nil, Run.after] at hu
    rw [quiet u s hu] at hu
    cases ho.order.outside u (stand_eq_some.mpr hu) with
    | inl hholder => simp [hholder] at hh
    | inr hm => simp [hline] at hm
  | cons v l ih =>
    have hv : r.cache.holder = some v ∧ r.cache.line = l := by
      cases hh : r.cache.holder with
      | none => simp [hh, ho.order.free hh] at hl
      | some w => simpa [hh] using hl
    obtain ⟨s', hs'⟩ := ho.order.holder v hv.1
    have waits := stand_eq_some.mp hs'
    rw [quiet v s' waits] at waits
    have looks := after_again_stored ho entry fresh waits hv.1
    have sound := ho.after (again v)
    rw [List.flatMap_cons, after_append]
    rw [looks] at sound ⊢
    refine ih entry (quiet.settle (by simp)) sound fresh ?_
    rw [settle_cache, release_holder, release_line, hv.2]
    cases l <;> rfl

/-- The turns that are left once a call has fetched: it stores, and whoever is before the lock looks
again. -/
def turns (r : Run) (t : TaskId) : List Event :=
  .store t :: (r.cache.holder.toList ++ r.cache.line).flatMap again

theorem Serves.turns {e : Entry} {since : List (Moment × Note)} (h : Serves r t e since)
    (ho : r.Sound) (fresh : r.now < e.expiry) (u : TaskId) (s : Stand) :
    (r.after (r.turns t)).1.calls u ≠ some (.pending s) := by
  have sound := ho.step (.store t)
  simp only [Run.turns, Run.after]
  cases h with
  | storing stands =>
    have hh := ho.order.inside t _ (stand_eq_some.mpr stands) (by simp)
    have hstep : r.step (.store t) = r.settle t (r.cache.store e) := by simp [Run.step, stands]
    have quiet := quiet_settle (x := r.cache.store e) ho.order hh rfl
    -- the one that has stored has no second turn
    have idle : ((r.settle t (r.cache.store e)).1.after (again t)).1 =
        (r.settle t (r.cache.store e)).1 := by
      simp [again, Run.after, Run.step, looksNext, Cache.store]
    rw [hh, Option.toList_some, List.singleton_append, List.flatMap_cons]
    rw [hstep] at sound ⊢
    rw [after_append, idle]
    refine again_all r.cache.line rfl quiet sound fresh ?_ u s
    simp only [settle_cache, store, release_holder, release_line]
    cases r.cache.line <;> rfl
  | stored entry quiet noted =>
    have hstep : r.step (.store t) = (r, []) := by
      simp only [Run.step]
      split
      · rename_i stores
        exact (not_quiet quiet stores (by simp)).elim
      · rfl
    simp only [hstep]
    exact again_all _ entry quiet ho fresh rfl u s

/-- After these turns, whoever waited has got what was fetched. -/
theorem Serves.got {e : Entry} {since : List (Moment × Note)} (h : Serves r t e since)
    (ho : r.Sound) (fresh : r.now < e.expiry) {u : TaskId}
    (hu : r.calls u = some (.pending .waiting)) :
    (r.after (r.turns t)).1.calls u = some (.got e.held) := by
  have hnow : (r.after (r.turns t)).1.now = r.now := now_of_no_pass (by simp [Run.turns, again])
  rw [← hnow] at fresh
  obtain ⟨-, -, wait⟩ := h.after (r.turns t) ho (by simp [Run.turns, again])
    (by simp [Run.turns, again]) fresh
  obtain hw | hgot | ⟨-, hcancel⟩ := wait u hu
  · rw [hnow] at fresh
    exact (h.turns ho fresh u _ hw).elim
  · exact hgot
  · simp [Run.turns, again] at hcancel

end Run
end QueryWarden.Cache
