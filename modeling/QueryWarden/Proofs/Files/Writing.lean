import Mathlib.Tactic.ByContra
import Mathlib.Tactic.SplitIfs
import QueryWarden.Files.Tree
import QueryWarden.Proofs.Fallible

/-! A file that is written is there and has its new content. The way to it leads through directories
only, and a file takes the place of none. -/
namespace QueryWarden.Files.Tree

variable {t t' : Tree} {place other : Place} {content : List UInt8}

theorem at?_put_ne (t : Tree) (e : Entry) (apart : other ≠ place) :
    (t.put place e).at? other = t.at? other := by
  have kept : ((place, e) :: t.entries.filter (·.1 != place)).find? (·.1 == other) =
      t.entries.find? (·.1 == other) := by
    rw [List.find?_cons_of_neg (by simpa using Ne.symm apart), List.find?_filter]
    congr 1
    funext entry
    by_cases same : entry.1 = other <;> simp [same, apart]
  simp only [at?, put, kept]

theorem at?_put_file (free : t.at? place ≠ some .directory) (content : List UInt8) :
    (t.put place (.file content)).at? place = some (.file content) := by
  have apart : place.isPrefixOf t.current = false := by
    by_contra within
    exact free (by simp [at?, within])
  exact at?_put_self t place _ apart

theorem directory_put (free : t.at? place ≠ some .directory) (e : Entry)
    (stands : t.at? other = some .directory) : (t.put place e).at? other = some .directory := by
  have apart : other ≠ place := by
    rintro rfl
    exact free stands
  rw [at?_put_ne t e apart, stands]

/-- The way that parts lead stays the same, if something is put where no directory was. -/
theorem walk_put (free : t.at? place ≠ some .directory) (e : Entry) {start dest : Place}
    {parts : List String} (way : t.walk start parts = .ok dest) :
    (t.put place e).walk start parts = .ok dest := by
  induction parts generalizing start with
  | nil => exact way
  | cons part rest ih =>
    rw [walk] at way ⊢
    cases there : t.at? start with
    | none => simp [there] at way
    | some entry =>
      cases entry with
      | file content => simp [there] at way
      | directory =>
        -- what is passed on the way is a directory, so it is not the place
        rw [directory_put free e there]
        simp only [there] at way ⊢
        split_ifs at way ⊢
        exact ih way

theorem resolve_put (free : t.at? place ≠ some .directory) (e : Entry) {p : Path}
    (way : t.resolve p = .ok place) : (t.put place e).resolve p = .ok place := by
  unfold resolve at way ⊢
  split_ifs at way ⊢ with empty broken absolute
  · exact walk_put free e way
  · exact walk_put free e way

/-- What writing a file does: something that is no directory is put at the end of its path. -/
theorem write_eq_ok {path : String} (h : t.write path content = .ok t') :
    ∃ place, t.resolve (.ofText path) = .ok place ∧ t.at? place ≠ some .directory ∧
      (Path.ofText path).directory = false ∧ t' = t.put place (.file content) := by
  obtain ⟨place, way, h⟩ := bind_eq_ok.mp h
  refine ⟨place, way, ?_⟩
  cases there : t.at? place with
  | none =>
    simp only [there] at h
    split_ifs at h with shape above
    cases h
    exact ⟨nofun, Bool.eq_false_iff.mpr shape, rfl⟩
  | some entry =>
    cases entry with
    | directory => simp [there] at h
    | file old =>
      simp only [there] at h
      split_ifs at h with shape
      cases h
      exact ⟨nofun, Bool.eq_false_iff.mpr shape, rfl⟩

theorem find_of_write {path : String} (h : t.write path content = .ok t') :
    t'.find (.ofText path) = .ok (.file content) := by
  obtain ⟨place, way, free, shape, rfl⟩ := write_eq_ok h
  refine bind_eq_ok.mpr ⟨place, resolve_put free _ way, ?_⟩
  simp only [at?_put_file free, shape]
  rfl

theorem exists?_of_write {path : String} (h : t.write path content = .ok t') : t'.exists? path = true := by
  rw [exists?, find_of_write h]
  rfl

theorem read_of_write {path : String} (h : t.write path content = .ok t') :
    t'.read path = .ok content := by
  rw [read, find_of_write h]
  rfl

end QueryWarden.Files.Tree
