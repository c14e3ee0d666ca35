import Mathlib.Data.List.Forall2
import QueryWarden.Database.Connection
import QueryWarden.Proofs.Database.Names
import QueryWarden.Proofs.Fallible

/-! Results with and without a limit on their rows. A limit only cuts off: the row behind it is still fetched,
so that a fault there shows, but neither it nor any row after it is read. -/
namespace QueryWarden.Database

/-! ## One row -/

/-- The cell that stands for a value. The bytes of a text are those of the cell's characters. -/
inductive Value.Shows : Value → Cell → Prop where
  | null : Shows .null .null
  | integer (n : Int) : Shows (.integer n) (.integer n)
  | real (x : Float) : Shows (.real x) (.real x)
  | text (s : String) : Shows (.text (Text.Utf8.bytes s)) (.text s)
  | blob (bytes : List UInt8) : Shows (.blob bytes) (.binary bytes)

def valueAt (vs : List Value) (i : Nat) : Value := vs[i]?.getD .null

/-- The row that stands for values under columns: one cell for each column, in the order of the columns and under
the column's name. -/
structure Shown (columns : List String) (vs : List Value) (row : Row) : Prop where
  names : row.cells.map (·.1) = columns
  values : ∀ i cell, row.cells[i]? = some cell → (valueAt vs i).Shows cell.2

/-- Whether a row can be read: the bytes of each text under a column are those of characters. -/
def IsReadable (columns : List String) (vs : List Value) : Prop :=
  ∀ i < columns.length, ∀ bytes, valueAt vs i = .text bytes → ∃ s, bytes = Text.Utf8.bytes s

variable {columns : List String} {vs : List Value} {place : Nat}

theorem cell_eq_ok_iff {v : Value} {cell : Cell} : v.cell place = .ok cell ↔ v.Shows cell := by
  constructor
  · intro h
    cases v with
    | text bytes =>
      unfold Value.cell at h
      dsimp only at h
      split at h
      · next s read =>
        cases h
        rw [charactersAt_eq_ok_iff.mp read]
        exact .text s
      · cases h
    | null =>
      cases h
      exact .null
    | integer n =>
      cases h
      exact .integer n
    | real x =>
      cases h
      exact .real x
    | blob bytes =>
      cases h
      exact .blob bytes
  · rintro (_ | _ | _ | s | _)
    case text =>
      rw [Value.cell, charactersAt_eq_ok_iff.mpr rfl]
    all_goals rfl

theorem valueAt_zero (vs : List Value) : valueAt vs 0 = vs.head?.getD .null := by
  cases vs <;> rfl

theorem valueAt_succ (vs : List Value) (i : Nat) : valueAt vs (i + 1) = valueAt vs.tail i := by
  cases vs <;> rfl

theorem cellsFrom_eq_ok_iff {cells : List (String × Cell)} : cellsFrom place columns vs = .ok cells ↔
    cells.map (·.1) = columns ∧ ∀ i cell, cells[i]? = some cell → (valueAt vs i).Shows cell.2 := by
  induction columns generalizing place vs cells with
  | nil =>
    rw [cellsFrom]
    constructor
    · rintro ⟨⟩
      exact ⟨rfl, nofun⟩
    · rintro ⟨none, -⟩
      rw [List.map_eq_nil_iff.mp none]
  | cons c columns ih =>
    rw [cellsFrom, bind_eq_ok]
    constructor
    · rintro ⟨cell, first, rest⟩
      obtain ⟨others, read, same⟩ := bind_eq_ok.mp rest
      cases same
      obtain ⟨names, values⟩ := ih.mp read
      refine ⟨congrArg (c :: ·) names, ?_⟩
      rintro (_ | i) other there
      · cases there
        exact valueAt_zero vs ▸ cell_eq_ok_iff.mp first
      · exact valueAt_succ vs i ▸ values i other there
    · rintro ⟨names, values⟩
      obtain ⟨⟨name, cell⟩, others, rfl, rfl, later⟩ := List.map_eq_cons_iff.mp names
      have first := values 0 (name, cell) rfl
      rw [valueAt_zero] at first
      have read : cellsFrom (place + 1) columns vs.tail = .ok others :=
        ih.mpr ⟨later, fun i other there => valueAt_succ vs i ▸ values (i + 1) other there⟩
      exact ⟨cell, cell_eq_ok_iff.mpr first, bind_eq_ok.mpr ⟨others, read, rfl⟩⟩

theorem shown_iff {row : Row} : Shown columns vs row ↔ cellsFrom 0 columns vs = .ok row.cells :=
  ⟨fun h => cellsFrom_eq_ok_iff.mpr ⟨h.names, h.values⟩, fun h =>
    ⟨(cellsFrom_eq_ok_iff.mp h).1, (cellsFrom_eq_ok_iff.mp h).2⟩⟩

theorem exists_shows_iff {v : Value} :
    (∃ cell, v.Shows cell) ↔ ∀ bytes, v = .text bytes → ∃ s, bytes = Text.Utf8.bytes s := by
  constructor
  · rintro ⟨cell, shows⟩ bytes rfl
    cases shows with
    | text s => exact ⟨s, rfl⟩
  · intro readable
    cases v with
    | text bytes =>
      obtain ⟨s, rfl⟩ := readable bytes rfl
      exact ⟨_, .text s⟩
    | null => exact ⟨_, .null⟩
    | integer n => exact ⟨_, .integer n⟩
    | real x => exact ⟨_, .real x⟩
    | blob bytes => exact ⟨_, .blob bytes⟩

theorem isReadable_cons {c : String} : IsReadable (c :: columns) vs ↔
    (∃ cell, (vs.head?.getD .null).Shows cell) ∧ IsReadable columns vs.tail := by
  rw [exists_shows_iff, ← valueAt_zero]
  constructor
  · intro h
    refine ⟨h 0 (Nat.zero_lt_succ _), fun i inside bytes at_i => ?_⟩
    exact h (i + 1) (Nat.succ_lt_succ inside) bytes (valueAt_succ vs i ▸ at_i)
  · rintro ⟨first, others⟩ (_ | i) inside bytes at_i
    · exact first bytes at_i
    · exact others i (Nat.lt_of_succ_lt_succ inside) bytes (valueAt_succ vs i ▸ at_i)

theorem isReadable_iff_cells (place : Nat) :
    IsReadable columns vs ↔ ∃ cells, cellsFrom place columns vs = .ok cells := by
  induction columns generalizing place vs with
  | nil => exact ⟨fun _ => ⟨[], rfl⟩, fun _ => nofun⟩
  | cons c columns ih =>
    rw [isReadable_cons, ih (place + 1), cellsFrom]
    constructor
    · rintro ⟨⟨cell, shows⟩, others, read⟩
      exact ⟨_, bind_eq_ok.mpr ⟨cell, cell_eq_ok_iff.mpr shows, bind_eq_ok.mpr ⟨others, read, rfl⟩⟩⟩
    · rintro ⟨cells, read⟩
      obtain ⟨cell, first, rest⟩ := bind_eq_ok.mp read
      obtain ⟨others, read, -⟩ := bind_eq_ok.mp rest
      exact ⟨⟨cell, cell_eq_ok_iff.mp first⟩, others, read⟩

theorem isReadable_iff : IsReadable columns vs ↔ ∃ row, Shown columns vs row := by
  rw [isReadable_iff_cells 0]
  exact ⟨fun ⟨cells, read⟩ => ⟨⟨cells⟩, shown_iff.mpr read⟩, fun ⟨row, shown⟩ => ⟨row.cells, shown_iff.mp shown⟩⟩

/-! ## A stream of rows -/

/-- The fetch of a number, counted from nothing, ends in a fault. -/
def Rows.FaultsAt {α : Type} (rows : Rows α) (k : Nat) : Prop :=
  rows.toList.1.length = k ∧ rows.toList.2.isSome = true

def cutOff {α : Type} : (limit : Option Nat) → List α → List α
  | none, rows => rows
  | some n, rows => rows.take n

variable {rows : Rows (List Value)} {rs : List Row} {limit : Option Nat}

theorem Rows.not_faultsAt_done {α : Type} (k : Nat) : ¬ (Rows.done (α := α)).FaultsAt k := by
  rintro ⟨-, some⟩
  cases some

/-- The faults of a stream are those behind its first row, counted from there. -/
theorem Rows.faultsAt_row {α : Type} {a : α} {rest : Unit → Rows α} {p : Nat → Prop} :
    (∀ k, (Rows.row a rest).FaultsAt k → p k) ↔ ∀ k, (rest ()).FaultsAt k → p (k + 1) := by
  constructor
  · rintro h k ⟨length, some⟩
    exact h (k + 1) ⟨congrArg (· + 1) length, some⟩
  · rintro h k ⟨rfl, some⟩
    exact h _ ⟨rfl, some⟩

/-- One row more is fetched and read. -/
theorem fetched_row (wanted : limit ≠ some 0) (rest : Unit → Rows (List Value)) :
    fetched columns limit (.row vs rest) = (cellsFrom 0 columns vs).bind fun cells =>
      (fetched columns (limit.map (· - 1)) (rest ())).map (⟨cells⟩ :: ·) := by
  rw [fetched]
  · rfl
  · exact wanted

theorem fetched_row_eq_ok_iff (wanted : limit ≠ some 0) (rest : Unit → Rows (List Value)) :
    fetched columns limit (.row vs rest) = .ok rs ↔ ∃ row later, rs = row :: later ∧ Shown columns vs row ∧
      fetched columns (limit.map (· - 1)) (rest ()) = .ok later := by
  rw [fetched_row wanted]
  constructor
  · intro h
    obtain ⟨cells, read, more⟩ := bind_eq_ok.mp h
    obtain ⟨later, fetch, rfl⟩ := map_eq_ok.mp more
    exact ⟨⟨cells⟩, later, rfl, shown_iff.mpr read, fetch⟩
  · rintro ⟨row, later, rfl, shown, fetch⟩
    exact bind_eq_ok.mpr ⟨row.cells, shown_iff.mp shown, map_eq_ok.mpr ⟨later, fetch, rfl⟩⟩

/-- What is fetched under a limit are the first rows, and no fault comes up to the one behind them. -/
theorem fetched_eq_ok_iff : fetched columns limit rows = .ok rs ↔
    List.Forall₂ (Shown columns) (cutOff limit rows.toList.1) rs ∧ ∀ k, rows.FaultsAt k → ∃ n ∈ limit, n < k := by
  induction rows generalizing limit rs with
  | done =>
    have nothing : cutOff limit (Rows.done (α := List Value)).toList.1 = [] := by cases limit <;> simp [cutOff, Rows.toList]
    rw [nothing, fetched, List.forall₂_nil_left_iff]
    constructor
    · rintro ⟨⟩
      exact ⟨rfl, fun k faults => absurd faults (Rows.not_faultsAt_done k)⟩
    · rintro ⟨rfl, -⟩
      rfl
  | fault f =>
    rw [fetched]
    constructor
    · intro h
      cases h
    · rintro ⟨-, late⟩
      obtain ⟨n, -, before⟩ := late 0 ⟨rfl, rfl⟩
      cases before
  | row vs rest ih =>
    by_cases wanted : limit = some 0
    · subst wanted
      rw [fetched]
      constructor
      · rintro ⟨⟩
        exact ⟨.nil, Rows.faultsAt_row.mpr fun k _ => ⟨0, rfl, Nat.zero_lt_succ k⟩⟩
      · rintro ⟨none, -⟩
        rw [List.forall₂_nil_left_iff.mp none]
    · have cut : cutOff limit (Rows.row vs rest).toList.1 =
          vs :: cutOff (limit.map (· - 1)) (rest ()).toList.1 := by
        rcases limit with - | - | n
        · rfl
        · exact absurd rfl wanted
        · rfl
      have late : (∀ k, (Rows.row vs rest).FaultsAt k → ∃ n ∈ limit, n < k) ↔
          ∀ k, (rest ()).FaultsAt k → ∃ n ∈ limit.map (· - 1), n < k := by
        rcases limit with - | - | n
        · simp [Rows.faultsAt_row]
        · exact absurd rfl wanted
        · simp [Rows.faultsAt_row]
      rw [fetched_row_eq_ok_iff wanted, cut, late]
      constructor
      · rintro ⟨row, later, rfl, shown, fetch⟩
        obtain ⟨all, late⟩ := (ih ()).mp fetch
        exact ⟨.cons shown all, late⟩
      · rintro ⟨all, late⟩
        cases all with
        | cons shown all => exact ⟨_, _, rfl, shown, (ih ()).mpr ⟨all, late⟩⟩

/-- What fails under a limit fails without one, and says the same. -/
theorem fetched_error_unlimited {f : Failure} (h : fetched columns limit rows = .error f) :
    fetched columns none rows = .error f := by
  induction rows generalizing limit f with
  | done => cases h
  | fault fault => exact h
  | row vs rest ih =>
    by_cases wanted : limit = some 0
    · subst wanted
      cases h
    · have unlimited : (none : Option Nat) ≠ some 0 := nofun
      rw [fetched_row wanted] at h
      rw [fetched_row unlimited]
      obtain unread | ⟨cells, read, more⟩ := bind_eq_error.mp h
      · exact bind_eq_error.mpr (.inl unread)
      · have later : fetched columns none (rest ()) = .error f := ih () (map_eq_error.mp more)
        exact bind_eq_error.mpr (.inr ⟨cells, read, map_eq_error.mpr later⟩)

theorem exists_forall₂_iff {α β : Type} {R : α → β → Prop} {as : List α} :
    (∃ bs, List.Forall₂ R as bs) ↔ ∀ a ∈ as, ∃ b, R a b := by
  induction as with
  | nil => exact ⟨fun _ => nofun, fun _ => ⟨[], .nil⟩⟩
  | cons a as ih =>
    rw [List.forall_mem_cons, ← ih]
    constructor
    · rintro ⟨_, _ | ⟨hb, hbs⟩⟩
      exact ⟨⟨_, hb⟩, _, hbs⟩
    · rintro ⟨⟨b, hb⟩, bs, hbs⟩
      exact ⟨b :: bs, .cons hb hbs⟩

theorem mem_cutOff {α : Type} {as : List α} {a : α} :
    a ∈ cutOff limit as ↔ ∃ k, as[k]? = some a ∧ ∀ n ∈ limit, k < n := by
  rw [List.mem_iff_getElem?]
  cases limit with
  | none => simp [cutOff]
  | some n =>
    have taken : ∀ k, (as.take n)[k]? = some a ↔ as[k]? = some a ∧ k < n := by
      intro k
      rw [List.getElem?_take]
      split <;> simp [*]
    simp [cutOff, taken]

/-! ## One statement -/

/-- The rows that a statement gives as they are fetched. A fault of its first step is one of the first fetch. -/
def Prepared.stream (p : Prepared) (d : Contents) (now : Wire.Instant) : Rows (List Value) :=
  .ofExcept (p.run.run (Session.start d (Moment.countOf now))).1

variable {d : Contents} {p : Prepared} {there : String → Bool} {sql : String} {ending : Nat}

theorem execute_stream (prepared : d.prepareFirst there sql = .ok (some p, ending))
    (readOnly : p.isReadOnly = true) (complete : variableCount sql ending = 0) (now : Wire.Instant)
    (limit : Option Nat) :
    (d.execute now there limit sql).2 = resultSet p.columns limit (p.stream d now) := by
  unfold Contents.execute
  rw [prepared]
  unfold Contents.carryOut Prepared.stream
  simp only [readOnly, complete]
  generalize p.run.run (Session.start d (Moment.countOf now)) = ran
  obtain ⟨_ | rows, s⟩ := ran <;> rfl

theorem resultSet_eq_ok_iff {r : ResultSet} : resultSet columns limit rows = .ok r ↔
    r.columns = columns ∧ List.Forall₂ (Shown columns) (cutOff limit rows.toList.1) r.rows ∧
      ∀ k, rows.FaultsAt k → ∃ n ∈ limit, n < k := by
  rw [resultSet, map_eq_ok]
  constructor
  · rintro ⟨rs, fetch, rfl⟩
    exact ⟨rfl, fetched_eq_ok_iff.mp fetch⟩
  · rintro ⟨rfl, fetch⟩
    exact ⟨r.rows, fetched_eq_ok_iff.mpr fetch, rfl⟩

/-- A result fails exactly if a fetch up to the limit does, the one behind the last row that is wanted included, or
a row before the limit cannot be read. -/
theorem resultSet_error_iff : (∃ f, resultSet columns limit rows = .error f) ↔
    (∃ k, rows.FaultsAt k ∧ ∀ n ∈ limit, k ≤ n) ∨
      ∃ k vs, rows.toList.1[k]? = some vs ∧ (∀ n ∈ limit, k < n) ∧ ¬ IsReadable columns vs := by
  have fails : (∃ f, resultSet columns limit rows = .error f) ↔ ¬ ∃ r, resultSet columns limit rows = .ok r := by
    cases resultSet columns limit rows <;> simp
  have succeeds : (∃ r, resultSet columns limit rows = .ok r) ↔
      (∀ vs ∈ cutOff limit rows.toList.1, IsReadable columns vs) ∧ ∀ k, rows.FaultsAt k → ∃ n ∈ limit, n < k := by
    simp only [isReadable_iff, ← exists_forall₂_iff, resultSet_eq_ok_iff]
    constructor
    · rintro ⟨r, -, all, late⟩
      exact ⟨⟨_, all⟩, late⟩
    · rintro ⟨⟨rs, all⟩, late⟩
      exact ⟨⟨columns, rs⟩, rfl, all, late⟩
  rw [fails, succeeds, not_and_or]
  simp only [mem_cutOff, not_forall, not_exists, not_and, Nat.not_lt, exists_prop]
  constructor
  · rintro (⟨vs, ⟨k, there, inside⟩, unreadable⟩ | early)
    · exact .inr ⟨k, vs, there, inside, unreadable⟩
    · exact .inl early
  · rintro (early | ⟨k, vs, there, inside, unreadable⟩)
    · exact .inr early
    · exact .inl ⟨vs, ⟨k, there, inside⟩, unreadable⟩

/-- A limit on the rows of a statement that leaves the database as it is only cuts off. Under a limit the statement
fails exactly if fetching does up to the row behind the last one wanted, or if one of the rows wanted cannot be
read; otherwise it gives its columns and the first rows, each with one cell for each column under that column's
name. So what succeeds without a limit gives its beginning under one, and what fails under a limit fails without
one, for the same reason. -/
theorem limit_only_cuts_off (prepared : d.prepareFirst there sql = .ok (some p, ending))
    (readOnly : p.isReadOnly = true) (complete : variableCount sql ending = 0) (now : Wire.Instant) :
    let rows := p.stream d now
    let run := fun limit => (d.execute now there limit sql).2
    (∀ limit, (∃ f, run limit = .error f) ↔
      (∃ k, rows.FaultsAt k ∧ ∀ n ∈ limit, k ≤ n) ∨
        ∃ k vs, rows.toList.1[k]? = some vs ∧ (∀ n ∈ limit, k < n) ∧ ¬ IsReadable p.columns vs) ∧
    (∀ limit r, run limit = .ok r → r.columns = p.columns ∧
      List.Forall₂ (Shown p.columns) (cutOff limit rows.toList.1) r.rows ∧
      ∀ row ∈ r.rows, row.cells.map (·.1) = r.columns) ∧
    (∀ n r, run none = .ok r → run (some n) = .ok ⟨r.columns, r.rows.take n⟩) ∧
    ∀ n f, run (some n) = .error f → run none = .error f := by
  intro rows run
  have run_eq : ∀ limit, run limit = resultSet p.columns limit rows :=
    execute_stream prepared readOnly complete now
  simp only [run_eq]
  refine ⟨fun _ => resultSet_error_iff, ?_, ?_, ?_⟩
  · intro limit r ok
    obtain ⟨columns_eq, all, -⟩ := resultSet_eq_ok_iff.mp ok
    have named : List.Forall₂ (fun row vs => row.cells.map (·.1) = r.columns ∧ Shown p.columns vs row) r.rows
        (cutOff limit rows.toList.1) :=
      (all.imp fun _ _ shown => ⟨shown.names.trans columns_eq.symm, shown⟩).flip
    exact ⟨columns_eq, all, ((List.forall₂_and_left ..).mp named).1⟩
  · intro n r ok
    obtain ⟨columns_eq, all, late⟩ := resultSet_eq_ok_iff.mp ok
    refine resultSet_eq_ok_iff.mpr ⟨columns_eq, List.forall₂_take n all, fun k faults => ?_⟩
    obtain ⟨n, none, -⟩ := late k faults
    cases none
  · intro n f error
    exact map_eq_error.mpr (fetched_error_unlimited (map_eq_error.mp error))

/-- The second row of two overflows. This shows when only the first one is wanted, but not when none is. -/
theorem overflow_shows_behind_limit :
    let sql := "VALUES (1), (abs(-9223372036854775808))"
    let run := fun limit => (Contents.empty.execute ⟨0, 0, 0⟩ (fun _ => false) limit sql).2
    ∃ p ending, (Contents.empty.prepareFirst (fun _ => false) sql = .ok (some p, ending) ∧
        p.isReadOnly = true ∧ variableCount sql ending = 0) ∧
      (∃ f, run (some 1) = .error f) ∧ ¬ ∃ f, run (some 0) = .error f := by
  intro sql run
  have told : ((Contents.empty.prepareFirst (fun _ => false) sql).toOption.any fun r => r.1.any fun p =>
      p.isReadOnly && variableCount sql r.2 == 0 && ((p.stream .empty ⟨0, 0, 0⟩).toList.1.length == 1 &&
        (p.stream .empty ⟨0, 0, 0⟩).toList.2.isSome)) = true := by decide +kernel
  obtain ⟨⟨p?, ending⟩, prepared, told⟩ := (Option.any_eq_true _ _).mp told
  obtain ⟨p, rfl, told⟩ := (Option.any_eq_true _ _).mp told
  simp only [Bool.and_eq_true, beq_iff_eq] at told
  obtain ⟨⟨readOnly, complete⟩, faults⟩ := told
  have prepared := toOption_eq_some.mp prepared
  have fails := (limit_only_cuts_off prepared readOnly complete ⟨0, 0, 0⟩).1
  refine ⟨p, ending, ⟨prepared, readOnly, complete⟩, (fails _).mpr (.inl ⟨1, faults, ?_⟩), fun failed => ?_⟩
  · rintro n ⟨⟩
    exact Nat.le_refl 1
  · obtain ⟨k, ⟨length, -⟩, early⟩ | ⟨k, vs, -, early, -⟩ := (fails (some 0)).mp failed
    · rw [faults.1] at length
      exact absurd (early 0 rfl) (by omega)
    · exact absurd (early 0 rfl) (Nat.not_lt_zero k)

end QueryWarden.Database
