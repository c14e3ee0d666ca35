/-! Computations that may fail: what a chain of them gives, and what it gives once the faults are
forgotten. -/
namespace QueryWarden

variable {ε α β : Type}

theorem bind_eq_ok {x : Except ε α} {f : α → Except ε β} {b : β} :
    x >>= f = .ok b ↔ ∃ a, x = .ok a ∧ f a = .ok b := by
  cases x with
  | error fault => exact ⟨nofun, fun ⟨_, h, _⟩ => nomatch h⟩
  | ok a =>
    constructor
    · exact fun h => ⟨a, rfl, h⟩
    · intro ⟨_, same, h⟩
      cases same
      exact h

theorem bind_eq_error {x : Except ε α} {f : α → Except ε β} {fault : ε} :
    x >>= f = .error fault ↔ x = .error fault ∨ ∃ a, x = .ok a ∧ f a = .error fault := by
  cases x with
  | error other => simp [bind, Except.bind]
  | ok a =>
    constructor
    · exact fun h => .inr ⟨a, rfl, h⟩
    · intro h
      obtain h | ⟨_, same, h⟩ := h
      · cases h
      · cases same
        exact h

theorem map_eq_ok {x : Except ε α} {f : α → β} {b : β} :
    x.map f = .ok b ↔ ∃ a, x = .ok a ∧ f a = b := by
  cases x with
  | error fault => exact ⟨nofun, fun ⟨_, h, _⟩ => nomatch h⟩
  | ok a => simp [Except.map]

theorem map_eq_error {x : Except ε α} {f : α → β} {fault : ε} : x.map f = .error fault ↔ x = .error fault := by
  cases x <;> simp [Except.map]

theorem mapError_eq_ok {ε' : Type} {x : Except ε α} {f : ε → ε'} {a : α} : x.mapError f = .ok a ↔ x = .ok a := by
  cases x with
  | error fault => exact ⟨nofun, nofun⟩
  | ok b =>
    constructor <;> intro same <;> cases same <;> rfl

theorem map_map {γ : Type} (x : Except ε α) (f : α → β) (g : β → γ) :
    (x.map f).map g = x.map fun a => g (f a) := by
  cases x <;> rfl

theorem toOption_eq_some {x : Except ε α} {a : α} : x.toOption = some a ↔ x = .ok a := by
  cases x <;> simp [Except.toOption]

theorem toOption_map (x : Except ε α) (f : α → β) : (x.map f).toOption = x.toOption.map f := by
  cases x <;> rfl

/-- What may fail and changes a state goes on with the state that it has come to. -/
theorem run_bind_apply {σ : Type} (x : ExceptT ε (StateM σ) α) (f : α → ExceptT ε (StateM σ) β) (s : σ) :
    (x >>= f).run s =
      match x.run s with
      | (.ok a, s') => (f a).run s'
      | (.error fault, s') => (.error fault, s') := by
  show (StateT.bind x.run (ExceptT.bindCont f)) s = _
  show (match x.run s with | (r, s') => (ExceptT.bindCont f r).run s') = _
  obtain ⟨r, s'⟩ := x.run s
  cases r <;> rfl

section
variable {σ : Type} {x : ExceptT ε (StateM σ) α} {f : α → ExceptT ε (StateM σ) β} {s s' : σ}

theorem run_bind_of_ok {a : α} (ran : x.run s = (.ok a, s')) : (x >>= f).run s = (f a).run s' := by
  rw [run_bind_apply, ran]

theorem run_bind_of_error {fault : ε} (ran : x.run s = (.error fault, s')) :
    (x >>= f).run s = (.error fault, s') := by
  rw [run_bind_apply, ran]

end

theorem run_run {σ : Type} (x : ExceptT ε (StateM σ) α) (s : σ) : x.run.run s = x.run s := rfl

theorem run_get_bind {σ : Type} (f : σ → ExceptT ε (StateM σ) α) (s : σ) : (get >>= f).run s = (f s).run s := rfl

/-- Doing something for each of a list, over a state of which something always holds. -/
theorem run_mapM_of_each {σ ε α β : Type} {I : σ → Prop} {f : α → ExceptT ε (StateM σ) β} {g : α → β} (as : List α)
    (each : ∀ a ∈ as, ∀ s, I s → ∃ s', I s' ∧ (f a).run s = (.ok (g a), s')) :
    ∀ s, I s → ∃ s', I s' ∧ (as.mapM f).run s = (.ok (as.map g), s') := by
  induction as with
  | nil => exact fun s here => ⟨s, here, rfl⟩
  | cons a as ih =>
    intro s here
    rw [List.forall_mem_cons] at each
    obtain ⟨s', next, first⟩ := each.1 s here
    obtain ⟨s'', last, later⟩ := ih each.2 s' next
    refine ⟨s'', last, ?_⟩
    rw [List.mapM_cons, run_bind_of_ok first, run_bind_of_ok later]
    rfl

end QueryWarden
