import QueryWarden.Database.Executor
import QueryWarden.Proofs.Database.Keeping
import QueryWarden.Proofs.Database.LayoutPlans

/-! What the layout of a database shows: each table that is not hidden, once, in the order of the bytes of the
names. It hides the reserved tables, and with them those whose names only look reserved. -/
namespace QueryWarden.Database
open Files Text.Utf8

/-! ## The queries give the layout -/

section
variable {d : Contents}

theorem textAt_ofString {row : List Value} {column : Nat} {s : String} (here : row[column]? = some (.ofString s)) :
    textAt row column = .ok s := by
  unfold textAt
  rw [here]
  exact charactersAt_eq_ok_iff.mpr rfl

theorem textsOf_ofList {ι : Type} {row : ι → List Value} {texts : ι → List String} {about : String}
    {columns : List Nat} (is : List ι) (same : ∀ i, columns.mapM (fun n => (textAt (row i) n).mapError fun message =>
      Failure.execution (about ++ message)) = .ok (texts i)) :
    textsOf about columns (.ofList (is.map row)) = .ok (is.map texts) := by
  unfold textsOf
  induction is with
  | nil => rfl
  | cons i is ih =>
    rw [List.map_cons, Rows.ofList, taken, same i]
    · exact congrArg (Except.map (texts i :: ·)) ih
    · intro limit
      cases limit

section
variable {there : String → Bool} {sql unprepared uncollected : String} {given : Value} {columns : List Nat} {s : Session}

theorem asked_unprepared {f : Fault} (failed : s.database.prepareFirst there sql = .error f) :
    (asked there sql given columns unprepared uncollected).run s =
      (.error (.execution (unprepared ++ f.worded sql)), s) := by
  unfold asked
  rw [ExceptT.run_mk, failed]

theorem asked_query {a : Answer} {n : Nat} (prepared : s.database.prepareFirst there sql = .ok (some (.query a), n)) :
    (asked there sql given columns unprepared uncollected).run s =
      (textsOf uncollected columns (a.plan.rows evalDepth (Session.surroundings { s with given := given } [])),
        { s with given := given }) := by
  unfold asked
  rw [ExceptT.run_mk, prepared]
  rfl

/-- What is asked in a query whose rows are texts. -/
theorem asked_texts {ι : Type} {row : ι → List Value} {texts : ι → List String} {a : Answer} {n : Nat} {is : List ι}
    (prepared : s.database.prepareFirst there sql = .ok (some (.query a), n))
    (rows : a.plan.rows evalDepth (Session.surroundings { s with given := given } []) = .ofList (is.map row))
    (same : ∀ i, columns.mapM (fun n => (textAt (row i) n).mapError fun message =>
      Failure.execution (uncollected ++ message)) = .ok (texts i)) :
    (asked there sql given columns unprepared uncollected).run s = (.ok (is.map texts), { s with given := given }) := by
  rw [asked_query prepared, rows, textsOf_ofList is same]

end

theorem columnsAsked_run {s : Session} {t : Table} (there : String → Bool) (readable : d.unreadable = none)
    (calm : IsCalm d s) (found : d.table? t.name = some t) :
    ∃ s', IsCalm d s' ∧ (columnsAsked there t.name).run s = (.ok t.layout.columns, s') := by
  have prepared : s.database.prepareFirst there columnsQuery = .ok (some (.query columnsAnswer), 57) := by
    rw [calm.database, prepareFirst_columnsQuery there readable]
  have found : s.database.table? t.name = some t := calm.database ▸ found
  have rows := rows_columnsPlan (n := 19996) (s := Session.surroundings { s with given := .ofString t.name } [])
    rfl found
  have ran : (asked there columnsQuery (.ofString t.name) [0, 1] ("Failed to prepare table_info for " ++ t.name ++ ": ")
      ("Failed to collect columns for " ++ t.name ++ ": ")).run s =
        (.ok (t.layout.columns.map fun c => [c.name, c.declaredType]), { s with given := .ofString t.name }) := by
    refine asked_texts prepared rows fun c => ?_
    rw [List.mapM_cons, List.mapM_cons, List.mapM_nil, textAt_ofString rfl, textAt_ofString rfl]
    rfl
  refine ⟨{ s with given := .ofString t.name }, calm.given _, ?_⟩
  unfold columnsAsked
  rw [run_bind_of_ok ran]
  show (Except.ok ((t.layout.columns.map _).map _), _) = _
  rw [List.map_map]
  exact congrArg (fun cs => (Except.ok cs, _)) (List.map_id _)

def layoutNamed (d : Contents) (name : String) : Schema.Table :=
  ⟨name, ((d.table? name).map (·.layout.columns)).getD []⟩

theorem layoutNamed_eq (lasting : IsLasting d) {t : Table} (among : t ∈ d.tables) :
    layoutNamed d t.name = t.layout := by
  unfold layoutNamed
  rw [lasting.find among]
  rfl

theorem introspect_eq (lasting : IsLasting d) (readable : d.unreadable = none) :
    d.introspect = .ok ((shownNames d).map (layoutNamed d)) := by
  unfold Contents.introspect shownNames
  rw [readable]
  dsimp only
  rw [← List.map_mergeSort (r := fun a b : Table => !decide (b.name < a.name)) fun _ _ _ _ => rfl, List.map_map]
  refine congrArg Except.ok (List.map_congr_left fun t among => ?_)
  have shown := (List.mem_filter.mp ((List.mergeSort_perm ..).mem_iff.mp among)).1
  exact (layoutNamed_eq lasting shown).symm

/-- The queries for the layout give the layout, and leave the database as it is. -/
theorem layoutAsked_run (lasting : IsLasting d) {s : Session} (calm : IsCalm d s) (there : String → Bool) :
    ∃ s', IsCalm d s' ∧ (layoutAsked there).run s = (d.introspect, s') := by
  obtain rfl := calm.database
  cases legible : s.database.unreadable with
  | some message =>
    refine ⟨s, calm, ?_⟩
    have unprepared : s.database.prepareFirst there tablesQuery = .error (.of message) := by
      rw [prepareFirst_unreadable there legible]
    have failed : (asked there tablesQuery .null [0] "Failed to query tables: "
        "Failed to collect table names: ").run s = (.error (.execution ("Failed to query tables: " ++ message)), s) :=
      asked_unprepared unprepared
    unfold layoutAsked Contents.introspect
    rw [run_bind_of_error failed, legible]
  | none =>
    have prepared : s.database.prepareFirst there tablesQuery = .ok (some (.query tablesAnswer), 133) := by
      rw [prepareFirst_tablesQuery there legible]
    have rows := rows_tablesPlan (n := 19995) (s := Session.surroundings { s with given := .null } [])
      lasting
    have ran : (asked there tablesQuery .null [0] "Failed to query tables: " "Failed to collect table names: ").run s =
        (.ok ((shownNames s.database).map fun name => [name]), { s with given := .null }) := by
      refine asked_texts prepared rows fun name => ?_
      rw [List.mapM_cons, List.mapM_nil, textAt_ofString rfl]
      rfl
    have next : IsCalm s.database { s with given := .null } := calm.given _
    have each : ∀ texts ∈ (shownNames s.database).map fun name => [name], ∀ s₁, IsCalm s.database s₁ →
        ∃ s', IsCalm s.database s' ∧ (tableAsked there (texts[0]?.getD "")).run s₁ =
          (.ok (layoutNamed s.database (texts[0]?.getD "")), s') := by
      intro texts among s₁ calm
      obtain ⟨name, shown, rfl⟩ := List.mem_map.mp among
      obtain ⟨t, kept, rfl⟩ := List.mem_map.mp ((List.mergeSort_perm ..).mem_iff.mp shown)
      have inside := (List.mem_filter.mp kept).1
      obtain ⟨s', after, columns⟩ := columnsAsked_run there legible calm (lasting.find inside)
      refine ⟨s', after, ?_⟩
      show (tableAsked there t.name).run s₁ = (.ok (layoutNamed s.database t.name), s')
      unfold tableAsked
      rw [layoutNamed_eq lasting inside, run_bind_of_ok columns]
      rfl
    obtain ⟨s', after, all⟩ := run_mapM_of_each _ each _ next
    refine ⟨s', after, ?_⟩
    unfold layoutAsked
    rw [run_bind_of_ok ran, introspect_eq lasting legible]
    rw [List.map_map] at all
    exact all

theorem lookUp_eq (lasting : IsLasting d) (now : Wire.Instant) (there : String → Bool) :
    d.lookUp now there = (d, d.introspect) := by
  obtain ⟨s', calm, ran⟩ := layoutAsked_run lasting (IsCalm.start d (Moment.countOf now)) there
  rw [Contents.lookUp, run_run, ran]
  exact congrArg (·, d.introspect) (closed_of_kept lasting calm.left)

end

namespace Executor
variable {e : Executor} {files : Tree} {d : Contents}

theorem isLasting_connect {task : String} (connected : e.connect files task = .ok d) : IsLasting d := by
  unfold connect at connected
  obtain ⟨opened, isOpen, connected⟩ := bind_eq_ok.mp connected
  split_ifs at connected
  · cases connected
  · cases connected
    exact isLasting_openReading isOpen

theorem closing_same (files : Tree) (place : Place) (d : Contents) : closing files place d d = files := by
  unfold closing
  exact if_pos rfl

/-- Looking up the layout gives the layout, and leaves the files as they are. -/
theorem lookUp_eq (e : Executor) (files : Tree) (now : Wire.Instant) :
    e.lookUp files now = (files, e.introspect files) := by
  unfold lookUp introspect
  cases connected : e.connect files "Introspection" with
  | error f => rfl
  | ok d =>
    dsimp only
    rw [Database.lookUp_eq (isLasting_connect connected), closing_same]
    rfl

end Executor

/-- A layout that leaves out the tables of certain names and no others. There is one entry for each table that
stays, with the columns in the order in which they were declared, and the names are in the order of their bytes. -/
structure Shows (d : Contents) (omitted : String → Prop) [DecidablePred omitted] (listed : List Schema.Table) :
    Prop where
  tables : listed.Perm ((d.tables.filter fun t => ¬ omitted t.name).map Table.layout)
  ordered : listed.Pairwise fun a b => compareBytes (bytes a.name) (bytes b.name) ≠ .gt

section
variable {d : Contents} {omitted : String → Prop} [DecidablePred omitted] {listed : List Schema.Table}

/-- A table that is not listed has been left out. -/
theorem Shows.omitted_of_missing (h : Shows d omitted listed) {t : Table} (among : t ∈ d.tables)
    (missing : ∀ s ∈ listed, s.name ≠ t.name) : omitted t.name := by
  refine Decidable.byContradiction fun stays => ?_
  have kept : t ∈ d.tables.filter fun t => ¬ omitted t.name := by simp [among, stays]
  exact missing t.layout (h.tables.mem_iff.mpr (List.mem_map_of_mem kept)) rfl

/-- No table that has been left out is listed. -/
theorem Shows.missing_of_omitted (h : Shows d omitted listed) {s : Schema.Table} (among : s ∈ listed) :
    ¬ omitted s.name := by
  obtain ⟨t, kept, rfl⟩ := List.mem_map.mp (h.tables.mem_iff.mp among)
  exact of_decide_eq_true (List.mem_filter.mp kept).2

/-- Of which tables are left out, only what befalls the names of the tables counts. -/
theorem Shows.congr {left_out : String → Prop} [DecidablePred left_out] (h : Shows d omitted listed)
    (same : ∀ t ∈ d.tables, omitted t.name ↔ left_out t.name) : Shows d left_out listed := by
  refine ⟨?_, h.ordered⟩
  rw [← List.filter_congr fun t among => decide_eq_decide.mpr (not_congr (same t among))]
  exact h.tables

end

/-- The layout of a database leaves out what is hidden. -/
theorem shows_of_introspect {d : Contents} {listed : List Schema.Table} (h : d.introspect = .ok listed) :
    Shows d (isHidden · = true) listed := by
  unfold Contents.introspect at h
  split at h
  · cases h
  cases h
  let before (a b : Table) : Bool := !decide (b.name < a.name)
  have before_iff : ∀ a b, before a b = true ↔ a.name ≤ b.name := fun a b => by
    rw [Bool.not_eq_true', decide_eq_false_iff_not, String.not_lt]
  have trans : ∀ a b c, before a b = true → before b c = true → before a c = true := by
    simp only [before_iff]
    exact fun a b c => String.le_trans
  have total : ∀ a b, (before a b || before b a) = true := by
    simp only [Bool.or_eq_true, before_iff]
    exact fun a b => String.le_total ..
  have sorted := List.pairwise_mergeSort trans total (d.tables.filter (!isHidden ·.name))
  constructor
  · refine ((List.mergeSort_perm ..).map _).trans ?_
    simp
  · exact List.pairwise_map.mpr (sorted.imp fun order => compareBytes_bytes ((before_iff _ _).mp order))

/-- A connection that is not told to wait only opens the file. -/
theorem lookUp_eq_introspect {e : Executor} {files : Tree} {d : Contents} (opened : openReading files e.file = .ok d)
    (patient : e.busyTimeout = none) (now : Wire.Instant) : (e.lookUp files now).2 = d.introspect := by
  have connected : e.connect files "Introspection" = .ok d := by
    unfold Executor.connect
    rw [opened, patient]
    rfl
  rw [Executor.lookUp_eq, Executor.introspect, connected]
  rfl

/-- A look-up that succeeds shows every table of the file that is not hidden, and no other. So it shows every
table but the reserved ones exactly if no table has a name that only looks reserved. -/
theorem lookUp_complete_iff {e : Executor} {files : Tree} {now : Wire.Instant} {listed : List Schema.Table}
    (h : (e.lookUp files now).2 = .ok listed) :
    ∃ d, openReading files e.file = .ok d ∧ Shows d (isHidden · = true) listed ∧
      (Shows d IsReserved listed ↔ ∀ t ∈ d.tables, ¬ IsLookalike t.name) := by
  rw [Executor.lookUp_eq] at h
  obtain ⟨d, connected, introspected⟩ := bind_eq_ok.mp h
  obtain ⟨d', opened, checked⟩ := bind_eq_ok.mp connected
  have hidden := shows_of_introspect introspected
  refine ⟨d, ?_, hidden, ?_⟩
  · split at checked
    · cases checked
    · cases checked
      exact opened
  · constructor
    · intro reserved t among looks
      have missing : ∀ s ∈ listed, s.name ≠ t.name := fun s shown same =>
        hidden.missing_of_omitted shown (same ▸ isHidden_iff_reserved.mpr (.inr looks))
      exact looks.not_isReserved (reserved.omitted_of_missing among missing)
    · intro none
      exact hidden.congr fun t among => isHidden_iff_reserved.trans (or_iff_left (none t among))

/-- What a connection that only opens the file finds there. -/
theorem lookUp_found {e : Executor} {files : Tree} {names : List String} {listed : List Schema.Table}
    (patient : e.busyTimeout = none) (now : Wire.Instant)
    (found : ((openReading files e.file).toOption.any fun d =>
      d.tables.map (·.name) == names && d.introspect.toOption == some listed) = true) :
    ∃ d, openReading files e.file = .ok d ∧ d.tables.map (·.name) = names ∧ (e.lookUp files now).2 = .ok listed := by
  obtain ⟨d, opened, found⟩ := (Option.any_eq_true _ _).mp found
  simp only [Bool.and_eq_true, beq_iff_eq] at found
  have opened := toOption_eq_some.mp opened
  exact ⟨d, opened, found.1, (lookUp_eq_introspect opened patient now).trans (toOption_eq_some.mp found.2)⟩

def oneTableFile (name : String) : List UInt8 :=
  bytes "SQLite format 3" ++ [0, 2, 0, 1, 1, 0, 64, 32, 32] ++ List.replicate 76 0 ++
    [13, 0, 0, 0, 1, 1, 204, 0, 1, 204] ++ List.replicate 350 0 ++
    [50, 1, 6, 23, 27, 27, 1, 61] ++ bytes ("table" ++ name ++ name) ++ 2 :: bytes ("CREATE TABLE " ++ name ++ " (a)") ++
    13 :: List.replicate 511 0

/-- A table with an ordinary name is shown. -/
theorem ordinary_table_shown :
    let e : Executor := ⟨"/db", none, none⟩
    let files : Tree := ⟨[(["db"], .file (oneTableFile "Tickets"))], []⟩
    let listed : List Schema.Table := [⟨"Tickets", [⟨"a", ""⟩]⟩]
    (e.lookUp files ⟨0, 0, 0⟩).2 = .ok listed ∧
      ∃ d, openReading files e.file = .ok d ∧ d.tables.map (·.name) = ["Tickets"] ∧ Shows d IsReserved listed := by
  intro e files listed
  have found : ((openReading files e.file).toOption.any fun d =>
      d.tables.map (·.name) == ["Tickets"] && d.introspect.toOption == some listed) = true := by decide +kernel
  obtain ⟨d, opened, names, looked⟩ := lookUp_found rfl ⟨0, 0, 0⟩ found
  obtain ⟨d', same, -, complete⟩ := lookUp_complete_iff looked
  cases opened.symm.trans same
  refine ⟨looked, d, opened, names, complete.mpr fun t among looks => ?_⟩
  have named : t.name ∈ ["Tickets"] := names ▸ List.mem_map_of_mem among
  rw [List.mem_singleton] at named
  exact absurd (isHidden_iff_reserved.mpr (.inr looks)) (by rw [named]; decide)

/-- A table with a name that only looks reserved is missing. -/
theorem lookalike_table_missing :
    let e : Executor := ⟨"/db", none, none⟩
    let files : Tree := ⟨[(["db"], .file (oneTableFile "sqlitex"))], []⟩
    (e.lookUp files ⟨0, 0, 0⟩).2 = .ok [] ∧ ¬ IsReserved "sqlitex" ∧
      ∃ d, openReading files e.file = .ok d ∧ d.tables.map (·.name) = ["sqlitex"] ∧ ¬ Shows d IsReserved [] := by
  intro e files
  have found : ((openReading files e.file).toOption.any fun d =>
      d.tables.map (·.name) == ["sqlitex"] && d.introspect.toOption == some []) = true := by decide +kernel
  obtain ⟨d, opened, names, looked⟩ := lookUp_found rfl ⟨0, 0, 0⟩ found
  have free : ¬ IsReserved "sqlitex" := by decide
  refine ⟨looked, free, d, opened, names, fun complete => ?_⟩
  obtain ⟨t, among, named⟩ := List.mem_map.mp (show "sqlitex" ∈ d.tables.map (·.name) by simp [names])
  exact free (named ▸ complete.omitted_of_missing among nofun)

end QueryWarden.Database
