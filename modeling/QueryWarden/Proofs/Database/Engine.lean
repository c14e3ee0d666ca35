import QueryWarden.Database.Executor
import QueryWarden.Proofs.Database.Layout
import QueryWarden.Proofs.Database.Untouched

/-! The executor over files, as one that asks a library: its connections, statements and steps make a driver, a step
of a statement that is called read-only leaves the files as they are, and what comes of the driver's steps, taken far
enough, is what comes of the executor. -/
namespace QueryWarden.Database
open Files

namespace Engine

/-- A connection to a file, over which nothing of the database has changed. -/
structure Connection where
  place : Place
  found : Contents
  session : Session
  there : String → Bool
  lasting : IsLasting found
  calm : IsCalm found session

/-- A statement, if a text has one, and how many values it asks for. -/
structure Statement where
  prepared : Option Prepared
  values : Nat
  honest : ∀ p ∈ prepared, p.Honest

inductive Cursor where
  | fresh (given : Value)
  | under (rows : Rows (List Value))

def told {α : Type} (message : String) : Except Mishap α := .error (.told message)

def next : Rows (List Value) → Except Mishap (Option (List Value × Cursor))
  | .done => .ok none
  | .fault f => told f.message
  | .row row rest => .ok (some (row, .under (rest ())))

def connect (w : Tree × Wire.Instant) (file : String) : Except Mishap Connection :=
  match opened : Contents.ofFile w.1 file with
  | .error message => told message
  | .ok d => .ok ⟨filePlace w.1 file, d, .start d (Moment.countOf w.2), canAttach w.1 false, isLasting_ofFile opened,
      .start d _⟩

def prepare (c : Connection) (sql : String) : Except Mishap Statement :=
  match made : c.session.database.prepareFirst c.there sql with
  | .error f => told (f.worded sql)
  | .ok (none, _) => .ok ⟨none, 0, nofun⟩
  | .ok (some p, ending) => .ok ⟨some p, variableCount sql ending, fun q here => by
      rw [← Option.some.inj here]
      exact prepareFirst_honest made⟩

def bind (st : Statement) (values : List Value) : Except Mishap Cursor :=
  if values.length = st.values then .ok (.fresh (values.head?.getD .null))
  else told ("Wrong number of parameters passed to query. Got " ++ toString values.length ++ ", needed " ++
    toString st.values)

/-- The first step of a statement runs it; the files are then as they are left when the connection is closed. -/
def step (w : Tree × Wire.Instant) (c : Connection) (st : Statement) :
    Cursor → (Tree × Wire.Instant) × Connection × Except Mishap (Option (List Value × Cursor))
  | .under rows => (w, c, next rows)
  | .fresh given =>
    match known : st.prepared with
    | none => (w, c, told "not an error")
    | some p =>
      if readOnly : p.isReadOnly = true then
        let ran := p.run.run { c.session with given := given }
        ((closing w.1 c.place c.found ran.2.closed, w.2),
          { c with session := ran.2, calm := st.honest p known readOnly (c.calm.given given) },
          match ran.1 with
          | .error f => told f.message
          | .ok rows => next rows)
      else (w, c, told "attempt to write a readonly database")

end Engine

/-- The library that reads and writes database files. -/
abbrev engine : Driver where
  World := Tree × Wire.Instant
  Connection := Engine.Connection
  Statement := Engine.Statement
  Cursor := Engine.Cursor
  connect := Engine.connect
  await c wait := if Executor.longestWait < wait then .error (.crashed "too big") else .ok c
  prepare _ c sql := (c, Engine.prepare c sql)
  isReadOnly st := st.prepared.all (·.isReadOnly)
  columns st := (st.prepared.map (·.columns)).getD []
  bind := Engine.bind
  step := Engine.step
  text _ := textAt

section
variable {c : Engine.Connection} {sql : String}

theorem Engine.prepare_error {f : Fault} (failed : c.session.database.prepareFirst c.there sql = .error f) :
    prepare c sql = told (f.worded sql) := by
  unfold prepare
  split <;> simp_all

theorem Engine.prepare_none {n : Nat} (empty : c.session.database.prepareFirst c.there sql = .ok (none, n)) :
    prepare c sql = .ok ⟨none, 0, nofun⟩ := by
  unfold prepare
  split <;> simp_all

theorem Engine.prepare_some {p : Prepared} {n : Nat}
    (made : c.session.database.prepareFirst c.there sql = .ok (some p, n)) :
    ∃ honest, prepare c sql = .ok ⟨some p, variableCount sql n, honest⟩ := by
  have honest : ∀ q ∈ some p, q.Honest := fun q here => Option.some.inj here ▸ prepareFirst_honest made
  refine ⟨honest, ?_⟩
  unfold prepare
  split <;> simp_all

end

/-- A query is called read-only, whatever the library makes of it. -/
theorem Engine.prepare_query {c : Connection} {sql : String} {st : Statement} {q : Query} {n : Nat}
    (parsed : Grammar.firstStatement sql = .ok (some (.query q), n)) (made : prepare c sql = .ok st) :
    engine.isReadOnly st = true := by
  have prepared := prepareFirst_query (d := c.session.database) c.there parsed
  cases answer : q.answer ⟨c.session.database, [], [], [], false⟩ with
  | error f =>
    rw [answer] at prepared
    cases (prepare_error prepared).symm.trans made
  | ok a =>
    rw [answer] at prepared
    obtain ⟨honest, known⟩ := prepare_some prepared
    cases known.symm.trans made
    rfl

theorem engine_callsQueriesReadOnly : engine.CallsQueriesReadOnly := by
  intro sql known w c st made
  replace made : Engine.prepare c sql = .ok st := made
  have parsed : ∃ q n, Grammar.firstStatement sql = .ok (some (.query q), n) := by
    simp only [List.mem_cons, List.not_mem_nil, or_false] at known
    rcases known with rfl | rfl
    · exact ⟨tablesTree, 133, firstStatement_tablesQuery⟩
    · exact ⟨columnsTree, 57, firstStatement_columnsQuery⟩
  obtain ⟨q, n, parsed⟩ := parsed
  exact Engine.prepare_query parsed made

/-- A statement that is called read-only leaves the database as it is, so there is nothing to write to the file. -/
theorem engine_stepsKeep : engine.StepsKeep (·.1) := by
  intro w c st at_ readOnly
  show (Engine.step w c st at_).1.1 = w.1
  cases at_ with
  | under rows => rfl
  | fresh given =>
    unfold Engine.step
    dsimp only
    split
    · rfl
    · next p known =>
      split
      · next reads =>
        have calm := st.honest p known reads (c.calm.given given)
        dsimp only
        rw [closed_of_kept c.lasting calm.left, Executor.closing_same]
      · rfl

/-- A table is not made in a file that holds nothing yet. -/
theorem new_table_is_refused :
    let e : Executor := ⟨"/db", none, none⟩
    let w : engine.World := (⟨[(["db"], .file [])], []⟩, ⟨0, 0, 0⟩)
    let sql := "CREATE TABLE t (a)"
    (engine.StepsKeep (·.1) ∧ engine.CallsQueriesReadOnly ∧
      ∃ c st, engine.opened e "Execution" w = .ok c ∧ (engine.prepare w c sql).2 = .ok st ∧
        engine.isReadOnly st = false) ∧
    ∃ f : Failure, f.code = "EXECUTION_FAILED" ∧ ∀ steps, engine.execute e steps sql w = (w, .error (.failed f)) := by
  intro e w sql
  have told : ((engine.opened e "Execution" w).toOption.any fun c => (Engine.prepare c sql).toOption.any fun st =>
      !engine.isReadOnly st) = true := by decide +kernel
  obtain ⟨c, opened, told⟩ := (Option.any_eq_true _ _).mp told
  obtain ⟨st, prepared, told⟩ := (Option.any_eq_true _ _).mp told
  have opened := toOption_eq_some.mp opened
  have prepared := toOption_eq_some.mp prepared
  have writes : engine.isReadOnly st = false := (Bool.not_eq_true' _).mp told
  obtain ⟨f, code, ended⟩ := (calls_leave_content_alone engine_stepsKeep engine_callsQueriesReadOnly e
    ⟨.sqlite, Pipeline.usualLimits⟩).2 w sql c st opened prepared writes
  exact ⟨⟨engine_stepsKeep, engine_callsQueriesReadOnly, c, st, opened, prepared, writes⟩, f, code, ended engine.step⟩

/-! ## The executor -/

/-- Something that is done over the engine comes to what is asked over a session, if it comes far enough. -/
def Answers {α : Type} (there : String → Bool) (use : Nat → engine.Use α) (asking : Asking α) : Prop :=
  ∀ w (c : Engine.Connection), c.there = there → ∃ n, ∃ c' : Engine.Connection, c'.there = there ∧
    c'.session = (asking.run c.session).2 ∧
    ∀ steps, n ≤ steps → (use steps).run (w, c) = ((asking.run c.session).1.mapError .failed, (w, c'))

section
variable {α β : Type} {there : String → Bool}

theorem answers_pure (a : α) : Answers there (fun _ => pure a) (pure a) :=
  fun _ c same => ⟨0, c, same, rfl, fun _ _ => rfl⟩

theorem Answers.bind {use : Nat → engine.Use α} {asking : Asking α} {next : Nat → α → engine.Use β}
    {then_ : α → Asking β} (first : Answers there use asking)
    (later : ∀ a, Answers there (fun steps => next steps a) (then_ a)) :
    Answers there (fun steps => use steps >>= next steps) (asking >>= then_) := by
  intro w c same
  obtain ⟨n, c', same', session, here⟩ := first w c same
  rw [run_bind_apply]
  generalize asking.run c.session = ran at session here ⊢
  obtain ⟨answer, s⟩ := ran
  cases answer with
  | error f =>
    refine ⟨n, c', same', session, fun steps enough => ?_⟩
    rw [run_bind_of_error (here steps enough)]
    rfl
  | ok a =>
    obtain ⟨m, c'', same'', session', there'⟩ := later a w c' same'
    obtain rfl : c'.session = s := session
    refine ⟨max n m, c'', same'', session', fun steps enough => ?_⟩
    rw [run_bind_of_ok (here steps (by omega))]
    exact there' steps (by omega)

theorem answers_mapM {each : Nat → α → engine.Use β} {asking : α → Asking β} (as : List α)
    (all : ∀ a, Answers there (fun steps => each steps a) (asking a)) :
    Answers there (fun steps => as.mapM (each steps)) (as.mapM asking) := by
  induction as with
  | nil => exact answers_pure []
  | cons a as ih =>
    simp only [List.mapM_cons]
    exact (all a).bind fun _ => ih.bind fun _ => answers_pure _

end

/-- The rows of a statement that has begun are those of its stream, if they are read far enough. -/
theorem rows_under {α : Type} (task about : String) (read : List Value → Except Failure α) (st : Engine.Statement)
    (rs : Rows (List Value)) (limit : Option Nat) :
    ∃ n, ∀ steps, n ≤ steps → ∀ w c,
      (Driver.rows (Driver.failure task about) read st steps limit (.under rs) : engine.Use _).run (w, c) =
        ((taken about read limit rs).mapError .failed, (w, c)) := by
  induction rs generalizing limit with
  | done =>
    refine ⟨1, fun steps enough w c => ?_⟩
    obtain ⟨steps, rfl⟩ := Nat.exists_eq_add_of_le' enough
    cases limit <;> rfl
  | fault f =>
    refine ⟨1, fun steps enough w c => ?_⟩
    obtain ⟨steps, rfl⟩ := Nat.exists_eq_add_of_le' enough
    cases limit <;> rfl
  | row row rest ih =>
    obtain ⟨n, later⟩ := ih () (limit.map (· - 1))
    refine ⟨n + 1, fun steps enough w c => ?_⟩
    obtain ⟨steps, rfl⟩ := Nat.exists_eq_add_of_le' (Nat.one_le_iff_ne_zero.mpr (by omega : steps ≠ 0))
    have stepped : (Driver.stepped (Driver.failure task about) st (.under (.row row rest)) : engine.Use _).run (w, c) =
        (.ok (some (row, .under (rest ()))), (w, c)) := rfl
    unfold Driver.rows
    rw [run_bind_of_ok stepped]
    dsimp only
    by_cases last : limit = some 0
    · subst last
      rfl
    · rw [if_neg last, taken]
      · cases read row with
        | error f => rfl
        | ok a =>
          dsimp only
          rw [run_bind_apply, later steps (by omega) w c]
          show _ = (((taken about read (limit.map (· - 1)) (rest ())).map (a :: ·)).mapError Halt.failed, (w, c))
          cases taken about read (limit.map (· - 1)) (rest ()) <;> rfl
      · exact last

/-- A statement that begins leaves the world as it is and goes on with the rows that it gives. -/
theorem step_fresh {st : Engine.Statement} {p : Prepared} (known : st.prepared = some p) (readOnly : p.isReadOnly = true)
    (given : Value) (w : Tree × Wire.Instant) (c : Engine.Connection) :
    ∃ c' : Engine.Connection, c'.there = c.there ∧ c'.session = (p.run.run { c.session with given := given }).2 ∧
      Engine.step w c st (.fresh given) = (w, c', match (p.run.run { c.session with given := given }).1 with
        | .error f => Engine.told f.message
        | .ok rows => Engine.next rows) := by
  have calm := st.honest p known readOnly (c.calm.given given)
  refine ⟨{ c with session := (p.run.run { c.session with given := given }).2, calm := calm }, rfl, rfl, ?_⟩
  unfold Engine.step
  dsimp only
  split
  · next missing => exact absurd (missing.symm.trans known) nofun
  · next q known' =>
    obtain rfl := Option.some.inj (known'.symm.trans known)
    rw [dif_pos readOnly, closed_of_kept c.lasting calm.left, Executor.closing_same]

/-- What is read of a statement from its beginning. -/
theorem rows_fresh {α : Type} (task about : String) (read : List Value → Except Failure α) {st : Engine.Statement}
    {p : Prepared} (known : st.prepared = some p) (readOnly : p.isReadOnly = true) (given : Value) (limit : Option Nat)
    (w : Tree × Wire.Instant) (c : Engine.Connection) :
    ∃ n, ∃ c' : Engine.Connection, c'.there = c.there ∧
      c'.session = (p.run.run { c.session with given := given }).2 ∧ ∀ steps, n ≤ steps →
      (Driver.rows (Driver.failure task about) read st steps limit (.fresh given) : engine.Use _).run (w, c) =
        ((match (p.run.run { c.session with given := given }).1 with
          | .error f => Except.error (Failure.execution (about ++ f.message))
          | .ok rows => taken about read limit rows).mapError .failed, (w, c')) := by
  obtain ⟨c', same, session, stepped⟩ := step_fresh known readOnly given w c
  generalize p.run.run { c.session with given := given } = ran at session stepped ⊢
  obtain ⟨answer, s⟩ := ran
  cases answer with
  | error f =>
    refine ⟨1, c', same, session, fun steps enough => ?_⟩
    obtain ⟨steps, rfl⟩ := Nat.exists_eq_add_of_le' enough
    have first : (Driver.stepped (Driver.failure task about) st (.fresh given) : engine.Use _).run (w, c) =
        (.error (.failed (.execution (about ++ f.message))), (w, c')) := by
      rw [Driver.stepped_run, show engine.step w c st (.fresh given) = _ from stepped]
      rfl
    unfold Driver.rows
    rw [run_bind_of_error first]
    rfl
  | ok rows =>
    obtain ⟨n, later⟩ := rows_under task about read st rows limit
    refine ⟨n + 1, c', same, session, fun steps enough => ?_⟩
    obtain ⟨steps, rfl⟩ := Nat.exists_eq_add_of_le' (Nat.one_le_iff_ne_zero.mpr (by omega : steps ≠ 0))
    dsimp only
    rw [← later (steps + 1) (by omega) w c']
    have first : (Driver.stepped (Driver.failure task about) st (.fresh given) : engine.Use _).run (w, c) =
        (Driver.stepped (Driver.failure task about) st (.under rows) : engine.Use _).run (w, c') := by
      rw [Driver.stepped_run, Driver.stepped_run, show engine.step w c st (.fresh given) = _ from stepped]
      rfl
    unfold Driver.rows
    rw [run_bind_apply, run_bind_apply, first]

/-! ### The layout -/

/-- What a query for the layout gives. -/
theorem answers_asked {there : String → Bool} {sql : String} {q : Query} {ending : Nat} {values : List Value}
    (parsed : Grammar.firstStatement sql = .ok (some (.query q), ending))
    (count : variableCount sql ending = values.length) (columns : List Nat)
    (unprepared unanswered uncollected : String) :
    Answers there (fun steps => Driver.asked steps sql values columns unprepared unanswered uncollected)
      (asked there sql (values.head?.getD .null) columns unprepared uncollected) := by
  intro w c same
  have prepared := prepareFirst_query (d := c.session.database) c.there parsed
  subst same
  cases answer : q.answer ⟨c.session.database, [], [], [], false⟩ with
  | error f =>
    rw [answer] at prepared
    rw [asked_unprepared prepared]
    refine ⟨0, c, rfl, rfl, fun steps _ => ?_⟩
    have failed := Engine.prepare_error prepared
    unfold Driver.asked
    dsimp only
    rw [run_bind_apply, Driver.prepared_run, show (engine.prepare w c sql).2 = _ from failed]
    rfl
  | ok a =>
    rw [answer] at prepared
    rw [asked_query prepared]
    obtain ⟨honest, made⟩ := Engine.prepare_some prepared
    have bound : Engine.bind ⟨some (Prepared.query a), variableCount sql ending, honest⟩ values =
        .ok (.fresh (values.head?.getD .null)) := if_pos count.symm
    have known : (Engine.Statement.mk (some (Prepared.query a)) (variableCount sql ending) honest).prepared =
      some (Prepared.query a) := rfl
    obtain ⟨n, c', same, session, later⟩ := rows_fresh "Introspection" uncollected
      (fun row => columns.mapM fun i => (textAt row i).mapError fun message => .execution (uncollected ++ message))
      known rfl (values.head?.getD .null) none w c
    refine ⟨n, c', same, session, fun steps enough => ?_⟩
    unfold Driver.asked
    dsimp only
    rw [run_bind_apply, Driver.prepared_run, show (engine.prepare w c sql).2 = _ from made]
    show (Driver.answered _ (Engine.bind _ values) >>= _ : engine.Use _).run (w, c) = _
    rw [bound]
    exact later steps enough

theorem answers_layout (there : String → Bool) :
    Answers there (fun steps => Driver.layout steps) (layoutAsked there) := by
  unfold Driver.layout layoutAsked
  have one : variableCount columnsQuery 57 = 1 := by decide +kernel
  have columns : ∀ table, Answers there (fun steps => Driver.columnsOf steps table) (columnsAsked there table) :=
    fun table => (answers_asked firstStatement_columnsQuery (show _ = [Value.ofString table].length from one)
      _ _ _ _).bind fun _ => answers_pure _
  exact (answers_asked firstStatement_tablesQuery (by decide +kernel) _ _ _ _).bind fun found =>
    answers_mapM found fun texts => (columns _).bind fun _ => answers_pure _

section
variable {e : Executor} {files : Tree} {task : String}

theorem Engine.connect_error {file message : String} (failed : Contents.ofFile files file = .error message)
    (now : Wire.Instant) : connect (files, now) file = told message := by
  unfold connect
  split <;> simp_all

theorem Engine.connect_ok {file : String} {d : Contents} (opened : Contents.ofFile files file = .ok d)
    (now : Wire.Instant) :
    ∃ c, connect (files, now) file = .ok c ∧ c.session = .start d (Moment.countOf now) ∧
      c.there = canAttach files false := by
  unfold connect
  split
  · next failed => cases failed.symm.trans opened
  · next found =>
    cases found.symm.trans opened
    exact ⟨_, rfl, rfl, rfl⟩

/-- Where the executor finds a database, the driver has a connection to it, and where it fails, both say the same. -/
theorem opened_eq (e : Executor) (files : Tree) (task : String) (now : Wire.Instant) :
    match e.connect files task with
    | .error f => engine.opened e task (files, now) = .error f
    | .ok d => ∃ c : Engine.Connection, engine.opened e task (files, now) = .ok c ∧
        c.session = Session.start d (Moment.countOf now) ∧ c.there = canAttach files false := by
  cases read : Contents.ofFile files e.file with
  | error message =>
    unfold Executor.connect openReading Driver.opened
    rw [read, show engine.connect (files, now) e.file = _ from Engine.connect_error read now]
    rfl
  | ok d =>
    obtain ⟨c, connected, known⟩ := Engine.connect_ok read now
    cases patience : e.busyTimeout with
    | none =>
      unfold Executor.connect openReading Driver.opened
      rw [read, patience, show engine.connect (files, now) e.file = _ from connected]
      exact ⟨c, rfl, known⟩
    | some wait =>
      have here : e.connect files task = if Executor.longestWait < wait then
          .error (.execution (task ++ " task failed: too big")) else .ok d := by
        unfold Executor.connect openReading
        rw [read, patience]
        show (if decide (Executor.longestWait < wait) = true then _ else _ : Except Failure Contents) = _
        by_cases long : Executor.longestWait < wait
        · rw [if_pos (decide_eq_true long), if_pos long]
          rfl
        · rw [if_neg (decide_eq_false long ▸ Bool.false_ne_true), if_neg long]
          rfl
      rw [here]
      unfold Driver.opened
      rw [patience, show engine.connect (files, now) e.file = _ from connected]
      by_cases long : Executor.longestWait < wait
      · rw [if_pos long]
        show (engine.await c wait).mapError _ = _
        rw [show engine.await c wait = .error (.crashed "too big") from if_pos long]
        show Except.error (Failure.execution (task ++ " task failed: " ++ "too big")) = _
        rw [String.append_assoc]
        rfl
      · rw [if_neg long]
        refine ⟨c, ?_, known⟩
        show (engine.await c wait).mapError _ = _
        rw [show engine.await c wait = .ok c from if_neg long]
        rfl

end

/-- The executor looks up what the queries for the layout give over the engine. -/
theorem introspect_eq_lookUp (e : Executor) (files : Tree) (now : Wire.Instant) :
    ∃ n, ∀ steps, n ≤ steps → engine.introspect e steps (files, now) =
      (((e.lookUp files now).1, now), (e.lookUp files now).2.mapError .failed) := by
  rw [e.lookUp_eq]
  have connection := opened_eq e files "Introspection" now
  unfold Executor.introspect
  cases connected : e.connect files "Introspection" with
  | error f =>
    rw [connected] at connection
    refine ⟨0, fun steps _ => ?_⟩
    unfold Driver.introspect
    rw [Driver.visit_unopened connection]
    rfl
  | ok d =>
    rw [connected] at connection
    obtain ⟨c, opened, session, there⟩ := connection
    obtain ⟨n, c', -, -, ran⟩ := answers_layout (canAttach files false) (files, now) c there
    obtain ⟨s', -, layout⟩ := layoutAsked_run (Executor.isLasting_connect connected)
      (IsCalm.start d (Moment.countOf now)) (canAttach files false)
    rw [session, layout] at ran
    refine ⟨n, fun steps enough => ?_⟩
    unfold Driver.introspect
    rw [Driver.visit_opened opened, ran steps enough]
    rfl

/-- A statement that is called read-only leaves the database as it is when it is carried out. -/
theorem carryOut_keeps {d : Contents} {p : Prepared} (lasting : IsLasting d) (honest : p.Honest) (now : Wire.Instant)
    (limit : Option Nat) (values : Nat) : (d.carryOut now limit values p).1 = d := by
  unfold Contents.carryOut
  cases readOnly : p.isReadOnly with
  | false => rfl
  | true =>
    cases values with
    | succ n => rfl
    | zero =>
      have calm := honest readOnly (IsCalm.start d (Moment.countOf now))
      have closed := closed_of_kept lasting calm.left
      generalize p.run.run (Session.start d (Moment.countOf now)) = ran at closed ⊢
      obtain ⟨r, s⟩ := ran
      cases r <;> exact closed

theorem execute_database {d : Contents} (lasting : IsLasting d) (now : Wire.Instant) (there : String → Bool)
    (limit : Option Nat) (sql : String) : (d.execute now there limit sql).1 = d := by
  unfold Contents.execute
  split
  · rfl
  · rfl
  · next prepared => exact carryOut_keeps lasting (prepareFirst_honest prepared) now limit _

theorem fetched_eq_taken (columns : List String) (limit : Option Nat) (rs : Rows (List Value)) :
    fetched columns limit rs = (taken "Failed to fetch row: " (cellsFrom 0 columns) limit rs).map (·.map Row.mk) := by
  induction rs generalizing limit with
  | done => cases limit <;> rfl
  | fault f => cases limit <;> rfl
  | row row rest ih =>
    by_cases last : limit = some 0
    · subst last
      rfl
    · rw [fetched, taken, ih]
      · cases cellsFrom 0 columns row with
        | error f => rfl
        | ok cells =>
          cases taken "Failed to fetch row: " (cellsFrom 0 columns) (limit.map (· - 1)) (rest ()) <;> rfl
      · exact last
      · exact last

/-- What comes of a statement over the engine is what comes of it over the database. -/
theorem result_run {d : Contents} {now : Wire.Instant} {there : String → Bool} (sql : String) (limit : Option Nat)
    (w : Tree × Wire.Instant) {c : Engine.Connection} (session : c.session = .start d (Moment.countOf now))
    (same : c.there = there) :
    ∃ n, ∃ c', ∀ steps, n ≤ steps → (Driver.result steps limit sql : engine.Use _).run (w, c) =
      ((d.execute now there limit sql).2.mapError .failed, (w, c')) := by
  subst same
  have text : c.session.database.prepareFirst c.there sql = d.prepareFirst c.there sql := by
    rw [session]
    rfl
  unfold Contents.execute
  cases made : d.prepareFirst c.there sql with
  | error f =>
    have failed := Engine.prepare_error (text.trans made)
    refine ⟨0, c, fun steps _ => ?_⟩
    unfold Driver.result
    dsimp only
    rw [run_bind_apply, Driver.prepared_run, show (engine.prepare w c sql).2 = _ from failed]
    rfl
  | ok found =>
    obtain ⟨p?, ending⟩ := found
    cases p? with
    | none =>
      have empty := Engine.prepare_none (text.trans made)
      refine ⟨1, c, fun steps enough => ?_⟩
      obtain ⟨steps, rfl⟩ := Nat.exists_eq_add_of_le' enough
      unfold Driver.result
      dsimp only
      rw [run_bind_apply, Driver.prepared_run, show (engine.prepare w c sql).2 = _ from empty]
      rfl
    | some p =>
      obtain ⟨honest, prepared⟩ := Engine.prepare_some (text.trans made)
      have begun : ∀ steps, (Driver.result steps limit sql : engine.Use _).run (w, c) =
          (do
            if !p.isReadOnly then throw (.failed (.execution "Statement is not read-only"))
            let first ← Driver.answered (Driver.failure "Execution" "Failed to execute query: ")
              (Engine.bind ⟨some p, variableCount sql ending, honest⟩ [])
            let found ← Driver.rows (Driver.failure "Execution" "Failed to fetch row: ") (cellsFrom 0 p.columns)
              ⟨some p, variableCount sql ending, honest⟩ steps limit first
            return ⟨p.columns, found.map Row.mk⟩ : engine.Use ResultSet).run (w, c) := by
        intro steps
        unfold Driver.result
        dsimp only
        rw [run_bind_apply, Driver.prepared_run, show (engine.prepare w c sql).2 = _ from prepared]
        rfl
      simp only [begun]
      unfold Contents.carryOut
      cases readOnly : p.isReadOnly with
      | false => exact ⟨0, c, fun _ _ => rfl⟩
      | true =>
        generalize variableCount sql ending = count at honest
        cases count with
        | succ n => exact ⟨0, c, fun _ _ => rfl⟩
        | zero =>
          have known : (Engine.Statement.mk (some p) 0 honest).prepared = some p := rfl
          obtain ⟨n, c', -, -, read⟩ :=
            rows_fresh "Execution" "Failed to fetch row: " (cellsFrom 0 p.columns) known readOnly .null limit w c
          refine ⟨n, c', fun steps enough => ?_⟩
          have begins : ({ c.session with given := .null } : Session) = .start d (Moment.countOf now) := by
            rw [session]
            rfl
          rw [begins] at read
          refine (run_bind_apply (Driver.rows (D := engine) (Driver.failure "Execution" "Failed to fetch row: ")
            (cellsFrom 0 p.columns) ⟨some p, 0, honest⟩ steps limit (.fresh .null)) _ (w, c)).trans ?_
          rw [read steps enough]
          generalize p.run.run (Session.start d (Moment.countOf now)) = ran
          obtain ⟨answer, s⟩ := ran
          cases answer with
          | error f => rfl
          | ok rows =>
            dsimp only
            unfold resultSet
            rw [fetched_eq_taken]
            cases taken "Failed to fetch row: " (cellsFrom 0 p.columns) limit rows <;> rfl

/-- The executor runs statements as they are run over the engine. -/
theorem execute_eq_driver (e : Executor) (files : Tree) (now : Wire.Instant) (sql : String) :
    ∃ n, ∀ steps, n ≤ steps → engine.execute e steps sql (files, now) =
      (((e.execute files now sql).1, now), (e.execute files now sql).2.mapError .failed) := by
  have connection := opened_eq e files "Execution" now
  unfold Executor.execute
  cases connected : e.connect files "Execution" with
  | error f =>
    rw [connected] at connection
    refine ⟨0, fun steps _ => ?_⟩
    unfold Driver.execute
    rw [Driver.visit_unopened connection]
    rfl
  | ok d =>
    rw [connected] at connection
    obtain ⟨c, opened, session, there⟩ := connection
    obtain ⟨n, c', ran⟩ := result_run sql e.maxRows (files, now) session there
    refine ⟨n, fun steps enough => ?_⟩
    unfold Driver.execute
    rw [Driver.visit_opened opened, ran steps enough]
    dsimp only
    rw [execute_database (Executor.isLasting_connect connected), Executor.closing_same]

end QueryWarden.Database
