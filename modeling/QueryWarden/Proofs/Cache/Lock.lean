import QueryWarden.Cache.Basic

/-! Who may do what under the population lock: whoever fetches or stores holds it, and whoever waits
either stands in line once or has just been handed it. Every operation of the cache keeps this order, so
it holds in runs of the cache alone as well as in runs of a pipeline. -/
namespace QueryWarden.Cache
open Clock

/-- Where a call stands after it has come to something; one that has ended stands nowhere. -/
def Progress.stand? : Progress → Option Stand
  | .pending s => some s
  | _ => none

def placed (stand : TaskId → Option Stand) (t : TaskId) (s : Option Stand) : TaskId → Option Stand :=
  fun u => if u = t then s else stand u

@[simp] theorem placed_self (stand : TaskId → Option Stand) (t : TaskId) (s : Option Stand) :
    placed stand t s t = s := by simp [placed]

theorem placed_ne (stand : TaskId → Option Stand) {t u : TaskId} (s : Option Stand) (h : u ≠ t) :
    placed stand t s u = stand u := by simp [placed, h]

theorem placed_same {stand : TaskId → Option Stand} {t : TaskId} {s : Option Stand}
    (h : stand t = s) : placed stand t s = stand := by
  funext u
  by_cases he : u = t
  · subst he; simp [h]
  · exact placed_ne stand s he

/-- The places of calls agree with the holder of the lock and the line before it. -/
structure Orderly (c : Cache) (stand : TaskId → Option Stand) : Prop where
  /-- Whoever holds the lock has not come to an end. -/
  holder : ∀ t, c.holder = some t → ∃ s, stand t = some s
  /-- Whoever fetches or stores holds the lock. -/
  inside : ∀ t s, stand t = some s → s ≠ .waiting → c.holder = some t
  /-- Whoever waits was handed the lock or stands in line. -/
  outside : ∀ t, stand t = some .waiting → c.holder = some t ∨ t ∈ c.line
  /-- Whoever stands in line waits. -/
  line : ∀ t ∈ c.line, stand t = some .waiting
  /-- Nobody stands in line while holding the lock. -/
  apart : ∀ t ∈ c.line, c.holder ≠ some t
  once : c.line.Nodup
  /-- Nobody stands before a free lock. -/
  free : c.holder = none → c.line = []

theorem orderly_empty (life : Duration) : Orderly (empty life) fun _ => none := by
  constructor <;> simp [empty]

namespace Orderly

variable {c d : Cache} {stand : TaskId → Option Stand} {t : TaskId}

theorem ne_of_mem_line (h : Orderly c stand) (ht : c.holder = some t) : ∀ u ∈ c.line, u ≠ t := by
  intro u hu he
  subst he
  exact h.apart u hu ht

/-- A free lock is taken. -/
theorem take (h : Orderly c stand) (hf : c.holder = none) (hd : d.holder = some t)
    (hl : d.line = c.line) {s : Stand} : Orderly d (placed stand t (some s)) := by
  have hline : d.line = [] := hl.trans (h.free hf)
  constructor
  · intro u hu
    rw [hd] at hu
    cases hu
    exact ⟨s, placed_self ..⟩
  · intro u s' hu hs
    by_cases he : u = t
    · rw [he, hd]
    · rw [placed_ne stand _ he] at hu
      have := h.inside u s' hu hs
      simp [hf] at this
  · intro u hu
    by_cases he : u = t
    · exact .inl (by rw [he, hd])
    · rw [placed_ne stand _ he] at hu
      have := h.outside u hu
      simp [hf, h.free hf] at this
  · simp [hline]
  · simp [hline]
  · simp [hline]
  · simp [hline]

/-- Whoever finds the lock held stands at the end of the line. -/
theorem queue (h : Orderly c stand) (ht : stand t = none) {u : TaskId} (hu : c.holder = some u)
    (hd : d.holder = c.holder) (hl : d.line = c.line ++ [t]) :
    Orderly d (placed stand t (some .waiting)) := by
  have hne : ∀ v s, stand v = some s → v ≠ t := by
    intro v s hv he
    subst he
    simp [ht] at hv
  constructor
  · intro v hv
    rw [hd] at hv
    obtain ⟨s, hs⟩ := h.holder v hv
    exact ⟨s, by rw [placed_ne stand _ (hne v s hs), hs]⟩
  · intro v s hv hs
    by_cases he : v = t
    · subst he
      simp at hv
      exact absurd hv.symm hs
    · rw [placed_ne stand _ he] at hv
      rw [hd]
      exact h.inside v s hv hs
  · intro v hv
    rw [hd, hl]
    by_cases he : v = t
    · exact .inr (by simp [he])
    · rw [placed_ne stand _ he] at hv
      cases h.outside v hv with
      | inl hh => exact .inl hh
      | inr hm => exact .inr (List.mem_append_left _ hm)
  · intro v hv
    rw [hl, List.mem_append, List.mem_singleton] at hv
    cases hv with
    | inl hm => rw [placed_ne stand _ (hne v _ (h.line v hm)), h.line v hm]
    | inr he => rw [he, placed_self]
  · intro v hv hh
    rw [hd] at hh
    rw [hl, List.mem_append, List.mem_singleton] at hv
    cases hv with
    | inl hm => exact h.apart v hm hh
    | inr he =>
      obtain ⟨s, hs⟩ := h.holder v hh
      exact hne v s hs he
  · rw [hl, List.nodup_append]
    refine ⟨h.once, by simp, ?_⟩
    intro v hv w hw he
    rw [List.mem_singleton] at hw
    exact hne v _ (h.line v hv) (he.trans hw)
  · simp [hd, hu]

/-- The holder goes on and keeps the lock. -/
theorem goOn (h : Orderly c stand) (ht : c.holder = some t) (hd : d.holder = c.holder)
    (hl : d.line = c.line) {s : Stand} : Orderly d (placed stand t (some s)) := by
  have hne := h.ne_of_mem_line ht
  constructor
  · intro u hu
    rw [hd, ht] at hu
    cases hu
    exact ⟨s, placed_self ..⟩
  · intro u s' hu hs
    rw [hd]
    by_cases he : u = t
    · rw [he, ht]
    · rw [placed_ne stand _ he] at hu
      exact h.inside u s' hu hs
  · intro u hu
    rw [hd, hl]
    by_cases he : u = t
    · exact .inl (by rw [he, ht])
    · rw [placed_ne stand _ he] at hu
      exact h.outside u hu
  · intro u hu
    rw [hl] at hu
    rw [placed_ne stand _ (hne u hu)]
    exact h.line u hu
  · rw [hd, hl]
    exact h.apart
  · rw [hl]
    exact h.once
  · simp [hd, ht]

/-- The holder comes to an end, and the first in line is handed the lock. -/
theorem handOver (h : Orderly c stand) (ht : c.holder = some t) (hd : d.holder = c.line.head?)
    (hl : d.line = c.line.tail) : Orderly d (placed stand t none) := by
  have hne := h.ne_of_mem_line ht
  have hother : ∀ u s, placed stand t none u = some s → u ≠ t ∧ stand u = some s := by
    intro u s hu
    by_cases he : u = t
    · subst he; simp at hu
    · exact ⟨he, by rwa [placed_ne stand _ he] at hu⟩
  constructor
  · intro u hu
    rw [hd] at hu
    have hm := List.mem_of_mem_head? hu
    exact ⟨.waiting, by rw [placed_ne stand _ (hne u hm), h.line u hm]⟩
  · intro u s hu hs
    obtain ⟨he, hu⟩ := hother u s hu
    have hut := h.inside u s hu hs
    rw [ht] at hut
    cases hut
    contradiction
  · intro u hu
    obtain ⟨he, hu⟩ := hother u _ hu
    rw [hd, hl]
    cases h.outside u hu with
    | inl hut =>
      rw [ht] at hut
      cases hut
      contradiction
    | inr hm =>
      cases hc : c.line with
      | nil => simp [hc] at hm
      | cons v vs =>
        rw [hc] at hm
        cases List.mem_cons.mp hm with
        | inl hv => exact .inl (by simp [hv])
        | inr hvs => exact .inr (by simpa using hvs)
  · intro u hu
    rw [hl] at hu
    have hm := List.mem_of_mem_tail hu
    rw [placed_ne stand _ (hne u hm)]
    exact h.line u hm
  · intro u hu hh
    rw [hd] at hh
    rw [hl] at hu
    have honce := h.once
    cases hc : c.line with
    | nil => simp [hc] at hu
    | cons v vs =>
      rw [hc] at hu hh honce
      have hv : v = u := by simpa using hh
      subst hv
      exact (List.nodup_cons.mp honce).1 (by simpa using hu)
  · rw [hl]
    exact h.once.tail
  · intro hn
    rw [hd] at hn
    rw [hl, List.head?_eq_none_iff.mp hn]
    rfl

/-- Whoever only stands in line leaves it. -/
theorem leaveLine (h : Orderly c stand) (ht : c.holder ≠ some t) (hd : d.holder = c.holder)
    (hl : d.line = c.line.filter (· != t)) : Orderly d (placed stand t none) := by
  have hmem : ∀ u, u ∈ d.line ↔ u ∈ c.line ∧ u ≠ t := by
    intro u
    simp [hl]
  constructor
  · intro u hu
    rw [hd] at hu
    obtain ⟨s, hs⟩ := h.holder u hu
    have he : u ≠ t := by
      intro he
      rw [he] at hu
      exact ht hu
    exact ⟨s, by rw [placed_ne stand _ he, hs]⟩
  · intro u s hu hs
    by_cases he : u = t
    · subst he; simp at hu
    · rw [placed_ne stand _ he] at hu
      rw [hd]
      exact h.inside u s hu hs
  · intro u hu
    by_cases he : u = t
    · subst he; simp at hu
    · rw [placed_ne stand _ he] at hu
      rw [hd, hmem]
      cases h.outside u hu with
      | inl hh => exact .inl hh
      | inr hm => exact .inr ⟨hm, he⟩
  · intro u hu
    obtain ⟨hm, he⟩ := (hmem u).mp hu
    rw [placed_ne stand _ he]
    exact h.line u hm
  · intro u hu
    rw [hd]
    exact h.apart u ((hmem u).mp hu).1
  · rw [hl]
    exact h.once.filter _
  · intro hn
    rw [hd] at hn
    simp [hl, h.free hn]

theorem enter (h : Orderly c stand) (ht : stand t = none) (now : Moment) :
    Orderly (c.enter now t).1 (placed stand t (c.enter now t).2.stand?) := by
  unfold Cache.enter
  split
  · simpa [Progress.stand?, placed_same ht] using h
  · split
    · rename_i hf
      apply h.take hf <;> rfl
    · rename_i u hu
      exact h.queue ht hu rfl rfl

theorem arrive (h : Orderly c stand) (ht : stand t = none) (asked : Moment) :
    Orderly (c.arrive asked t).1 (placed stand t (c.arrive asked t).2.stand?) := by
  unfold Cache.arrive
  split
  · simpa [Progress.stand?, placed_same ht] using h
  · unfold Cache.queue
    split
    · rename_i hf
      apply h.take hf <;> rfl
    · rename_i u hu
      exact h.queue ht hu rfl rfl

theorem resume (h : Orderly c stand) (ht : c.holder = some t) (asked now : Moment) :
    Orderly (c.resume asked now).1 (placed stand t (c.resume asked now).2.stand?) := by
  unfold Cache.resume
  split
  · exact h.handOver ht rfl rfl
  · apply h.goOn ht <;> rfl

theorem fetched (h : Orderly c stand) (ht : c.holder = some t) (now : Moment) (number : Nat)
    (answer : Except Failure Schema.Snapshot) :
    Orderly (c.fetched now number answer).1
      (placed stand t (c.fetched now number answer).2.stand?) := by
  cases answer with
  | error f => exact h.handOver ht rfl rfl
  | ok snapshot =>
    cases he : expiry? now c.life with
    | none =>
      simp only [Cache.fetched, he]
      exact h.handOver ht rfl rfl
    | some expiry =>
      simp only [Cache.fetched, he]
      apply h.goOn ht <;> rfl

theorem store (h : Orderly c stand) (ht : c.holder = some t) (entry : Entry) :
    Orderly (c.store entry).1 (placed stand t (c.store entry).2.stand?) :=
  h.handOver ht rfl rfl

theorem leave (h : Orderly c stand) (t : TaskId) : Orderly (c.leave t) (placed stand t none) := by
  unfold Cache.leave
  split
  · rename_i ht
    exact h.handOver ht rfl rfl
  · rename_i ht
    exact h.leaveLine ht rfl rfl

theorem invalidate (h : Orderly c stand) : Orderly c.invalidate stand :=
  ⟨h.holder, h.inside, h.outside, h.line, h.apart, h.once, h.free⟩

end Orderly
end QueryWarden.Cache
