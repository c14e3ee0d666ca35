import Mathlib.Tactic.SplitIfs
import QueryWarden.Database.File
import QueryWarden.Proofs.Fallible

/-! What a database has that was read from a file: nothing of it is temporary, and no two tables have one name. So
closing a connection over which nothing has changed takes nothing away, and each table is found by its name. -/
namespace QueryWarden.Database

/-- Nothing of a database goes away with its connection, and each table has a name of its own. -/
structure IsLasting (d : Contents) : Prop where
  stays : ∀ e ∈ d.entries, e.temporary = false
  apart : d.tables.Pairwise fun a b => sameName a.name b.name = false

section
variable {d : Contents}

theorem isLasting_of_nil (nothing : d.entries = []) : IsLasting d := by
  obtain ⟨entries, u, a, v, m⟩ := d
  cases nothing
  exact ⟨fun _ among => absurd among List.not_mem_nil, List.Pairwise.nil⟩

theorem sameName_refl (name : String) : sameName name name = true := beq_self_eq_true _

theorem tables_append (d : Contents) (more : List Entry) :
    Contents.tables { d with entries := d.entries ++ more } =
      d.tables ++ Contents.tables { d with entries := more } := by
  simp [Contents.tables, Contents.objects]

/-- Where nothing is temporary, a table is looked up among all tables. -/
theorem IsLasting.table? (here : IsLasting d) (name : String) :
    d.table? name = d.tables.find? (sameName ·.name name) := by
  obtain ⟨entries, u, a, v, m⟩ := d
  have stays : ∀ e ∈ entries, e.temporary = false := here.stays
  clear here
  have split : ∀ temporary, Contents.table?.found ⟨entries, u, a, v, m⟩ name temporary =
      if temporary = true then none else (Contents.tables ⟨entries, u, a, v, m⟩).find? (sameName ·.name name) := by
    intro temporary
    unfold Contents.table?.found Contents.tables Contents.objects
    dsimp only
    induction entries with
    | nil => cases temporary <;> rfl
    | cons e entries ih =>
      rw [List.forall_mem_cons] at stays
      rw [List.findSome?_cons, ih stays.2, List.map_cons, List.filterMap_cons, stays.1]
      cases e.object with
      | table t => cases temporary <;> cases same : sameName t.name name <;> simp [same]
      | _ => rfl
  unfold Contents.table?
  rw [split, split]
  rfl

theorem IsLasting.find (here : IsLasting d) {t : Table} (among : t ∈ d.tables) : d.table? t.name = some t := by
  rw [here.table?]
  have apart := here.apart
  generalize d.tables = tables at among apart ⊢
  induction tables with
  | nil => cases among
  | cons first rest ih =>
    rw [List.pairwise_cons] at apart
    rcases List.mem_cons.mp among with rfl | later
    · exact List.find?_cons_of_pos (sameName_refl _)
    · exact (List.find?_cons_of_neg (by rw [apart.1 t later]; nofun)).trans (ih later apart.2)

/-- Whatever is no table may be added. -/
theorem isLasting_append {more : List Entry} (here : IsLasting d) (new : ∀ e ∈ more, e.temporary = false)
    (none : Contents.tables { d with entries := more } = []) : IsLasting { d with entries := d.entries ++ more } := by
  constructor
  · intro e among
    rcases List.mem_append.mp among with old | new'
    · exact here.stays e old
    · exact new e new'
  · rw [tables_append, none, List.append_nil]
    exact here.apart

theorem isLasting_add (here : IsLasting d) {o : Object} (page : Nat)
    (noTable : Contents.tables { d with entries := [⟨o, page, false⟩] } = []) :
    IsLasting { d with entries := d.entries ++ [⟨o, page, false⟩] } :=
  isLasting_append here (fun e among => by rw [List.mem_singleton.mp among]) noTable

theorem isLasting_indexes (here : IsLasting d) (indexes : List Index) (page : Nat) :
    IsLasting { d with entries := d.entries ++ indexes.map fun i => ⟨.index i, page, false⟩ } := by
  refine isLasting_append here (fun e among => ?_) ?_
  · obtain ⟨i, -, rfl⟩ := List.mem_map.mp among
    rfl
  · simp [Contents.tables, Contents.objects]

/-- A table may be added if its name is free. -/
theorem isLasting_table (here : IsLasting d) {t : Table} (page : Nat) (free : d.table? t.name = none) :
    IsLasting { d with entries := d.entries ++ [⟨.table t, page, false⟩] } := by
  constructor
  · intro e among
    rcases List.mem_append.mp among with old | new
    · exact here.stays e old
    · rw [List.mem_singleton.mp new]
  · rw [here.table?, List.find?_eq_none] at free
    rw [tables_append]
    refine List.pairwise_append.mpr ⟨here.apart, List.pairwise_singleton _ _, fun old among new one => ?_⟩
    rw [List.mem_singleton.mp one]
    exact Bool.eq_false_iff.mpr (free old among)

end

theorem isLasting_addObject {image : Storage.Image} {d d' : Contents} {r : Storage.CatalogueRow} (here : IsLasting d)
    (added : Storage.addObject image d r = .ok d') : IsLasting d' := by
  unfold Storage.addObject at added
  dsimp only at added
  split at added
  · by_cases taken : (d.table? r.name).isSome = true
    · rw [if_pos taken] at added
      cases added
    · rw [if_neg taken] at added
      replace taken : d.table? r.name = none := by simpa using taken
      split at added
      · cases added
      · next t indexes defined =>
        obtain ⟨kept, -, added⟩ := bind_eq_ok.mp added
        split at added
        · next rows restored =>
          cases added
          have grown := isLasting_table here (t := { t with name := r.name, rows := rows }) r.page taken
          exact isLasting_indexes grown _ r.page
        · cases added
  · cases added
    exact isLasting_add here _ rfl
  · cases added
    exact isLasting_add here _ rfl
  · split at added
    · cases added
    · split at added
      · cases added
        exact isLasting_add here _ rfl
      · cases added
  · split at added
    · cases added
    · split at added
      · split at added
        · cases added
          exact isLasting_add here _ rfl
        · cases added
      · cases added
  · cases added

theorem isLasting_addObjects {image : Storage.Image} (rows : List Storage.CatalogueRow) :
    ∀ {d d' : Contents}, IsLasting d → rows.foldlM (Storage.addObject image) d = .ok d' → IsLasting d' := by
  induction rows with
  | nil =>
    intro d d' here added
    cases added
    exact here
  | cons r rows ih =>
    intro d d' here added
    rw [List.foldlM_cons] at added
    obtain ⟨next, first, added⟩ := bind_eq_ok.mp added
    exact ih (isLasting_addObject here first) added

theorem isLasting_decode {bytes : List UInt8} {d : Contents} (decoded : Storage.decode bytes = .ok d) :
    IsLasting d := by
  unfold Storage.decode at decoded
  split_ifs at decoded
  · cases decoded
    exact isLasting_of_nil rfl
  · obtain ⟨image, -, decoded⟩ := bind_eq_ok.mp decoded
    obtain ⟨rows, -, decoded⟩ := bind_eq_ok.mp decoded
    exact isLasting_addObjects _ (isLasting_of_nil rfl) decoded

theorem isLasting_ofBytes (bytes : List UInt8) : IsLasting (ofBytes bytes) := by
  unfold ofBytes
  split
  · next decoded => exact isLasting_decode decoded
  · exact isLasting_of_nil rfl

theorem isLasting_ofFile {files : Files.Tree} {path : String} {d : Contents}
    (opened : Contents.ofFile files path = .ok d) : IsLasting d := by
  unfold Contents.ofFile at opened
  obtain ⟨_, -, opened⟩ := bind_eq_ok.mp opened
  split_ifs at opened
  · cases opened
    exact isLasting_of_nil rfl
  · split at opened
    · cases opened
      exact isLasting_ofBytes _
    · cases opened
    · cases opened

theorem isLasting_openReading {files : Files.Tree} {path : String} {d : Contents}
    (opened : openReading files path = .ok d) : IsLasting d :=
  isLasting_ofFile (mapError_eq_ok.mp opened)

/-- A connection over which nothing has changed leaves the database as it was. -/
theorem closed_of_kept {s : Session} {d : Contents} (here : IsLasting d) (kept : s.before.getD s.database = d) :
    s.closed = d := by
  have all : d.entries.filter (!·.temporary) = d.entries :=
    List.filter_eq_self.mpr fun e among => by rw [here.stays e among]; rfl
  subst kept
  show ({ s.before.getD s.database with entries := _ } : Contents) = _
  rw [all]

end QueryWarden.Database
