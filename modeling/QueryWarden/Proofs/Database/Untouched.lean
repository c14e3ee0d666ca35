import QueryWarden.Database.Driver
import QueryWarden.Pipeline.Service
import QueryWarden.Proofs.Fallible

/-! Calls on a database, one after the other, over any library that knows its format: statements, whatever their text
is, looking up the layout, and requests to a pipeline. If a step of a statement that the library calls read-only leaves
the content of the database as it is, then all calls do, whatever comes of them; and a statement that is not called
read-only is refused before its first step. -/
namespace QueryWarden.Database

namespace Driver
variable {D : Driver} {Content α β : Type} {content : D.World → Content}

/-! ## What is assumed -/

/-- A step of a statement that is called read-only leaves the content of the database as it is. -/
def StepsKeep (D : Driver) (content : D.World → Content) : Prop :=
  ∀ w c st at_, D.isReadOnly st = true → content (D.step w c st at_).1 = content w

/-- The two queries for the layout are called read-only. They are in the source, and both do nothing but select. -/
def CallsQueriesReadOnly (D : Driver) : Prop :=
  ∀ sql ∈ [tablesQuery, columnsQuery], ∀ w c st, (D.prepare w c sql).2 = .ok st → D.isReadOnly st = true

/-! ## One connection -/

/-- Whatever the world and the connection are, the content of the database stays. -/
def Quiet (content : D.World → Content) (use : D.Use α) : Prop :=
  ∀ w c, content (use.run.run (w, c)).2.1 = content w

theorem quiet_pure (a : α) : Quiet content (pure a) := fun _ _ => rfl

theorem quiet_throw (halt : Halt) : Quiet content (throw halt : D.Use α) := fun _ _ => rfl

theorem Quiet.bind {use : D.Use α} {next : α → D.Use β} (first : Quiet content use)
    (later : ∀ a, Quiet content (next a)) : Quiet content (use >>= next) := by
  intro w c
  have kept := first w c
  rw [run_run, run_bind_apply]
  change content (use.run (w, c)).2.1 = content w at kept
  generalize use.run (w, c) = ran at kept ⊢
  obtain ⟨answer, w', c'⟩ := ran
  cases answer with
  | error halt => exact kept
  | ok a => exact (later a w' c').trans kept

theorem quiet_answered (blame : Mishap → Failure) (answer : Except Mishap α) :
    Quiet content (answered blame answer : D.Use α) := by
  cases answer with
  | ok a => exact quiet_pure a
  | error m => exact quiet_throw _

theorem prepared_run (blame : Mishap → Failure) (sql : String) (w : D.World) (c : D.Connection) :
    (prepared blame sql : D.Use D.Statement).run (w, c) =
      (answered blame (D.prepare w c sql).2 : D.Use D.Statement).run (w, (D.prepare w c sql).1) := rfl

/-- Preparing is quiet; what follows has to be so only for statements that the library has prepared. -/
theorem quiet_prepared {blame : Mishap → Failure} {sql : String} {next : D.Statement → D.Use β}
    (later : ∀ w c st, (D.prepare w c sql).2 = .ok st → Quiet content (next st)) :
    Quiet content (prepared blame sql >>= next) := by
  intro w c
  rw [run_run, run_bind_apply, prepared_run]
  cases answer : (D.prepare w c sql).2 with
  | error m => rfl
  | ok st => exact later w c st answer w _

theorem stepped_run (blame : Mishap → Failure) (st : D.Statement) (at_ : D.Cursor) (w : D.World) (c : D.Connection) :
    (stepped blame st at_ : D.Use _).run (w, c) =
      (answered blame (D.step w c st at_).2.2 : D.Use _).run ((D.step w c st at_).1, (D.step w c st at_).2.1) := rfl

theorem quiet_stepped (keeps : D.StepsKeep content) {st : D.Statement} (readOnly : D.isReadOnly st = true)
    (blame : Mishap → Failure) (at_ : D.Cursor) : Quiet content (stepped blame st at_) := by
  intro w c
  have kept := keeps w c st at_ readOnly
  show content ((stepped blame st at_ : D.Use _).run (w, c)).2.1 = content w
  rw [stepped_run]
  exact (quiet_answered blame (D.step w c st at_).2.2 _ _).trans kept

/-- However many rows are read, each is one step. -/
theorem quiet_rows (keeps : D.StepsKeep content) {st : D.Statement} (readOnly : D.isReadOnly st = true)
    (blame : Mishap → Failure) (read : List Value → Except Failure α) (steps : Nat) (limit : Option Nat)
    (at_ : D.Cursor) : Quiet content (rows blame read st steps limit at_) := by
  induction steps generalizing limit at_ with
  | zero => exact quiet_throw _
  | succ steps ih =>
    refine (quiet_stepped keeps readOnly blame at_).bind fun found => ?_
    cases found with
    | none => exact quiet_pure _
    | some found =>
      obtain ⟨row, next⟩ := found
      dsimp only
      split
      · exact quiet_pure _
      · cases read row with
        | error f => exact quiet_throw _
        | ok a => exact (ih _ next).bind fun _ => quiet_pure _

theorem quiet_mapM (as : List α) {each : α → D.Use β} (quiet : ∀ a, Quiet content (each a)) :
    Quiet content (as.mapM each) := by
  induction as with
  | nil => exact quiet_pure _
  | cons a as ih =>
    rw [List.mapM_cons]
    exact (quiet a).bind fun _ => ih.bind fun _ => quiet_pure _

theorem quiet_asked (keeps : D.StepsKeep content) (queries : D.CallsQueriesReadOnly) {sql : String}
    (known : sql ∈ [tablesQuery, columnsQuery]) (steps : Nat) (values : List Value) (columns : List Nat)
    (unprepared unanswered uncollected : String) :
    Quiet content (asked steps sql values columns unprepared unanswered uncollected) := by
  refine quiet_prepared fun w c st answer => ?_
  have readOnly := queries sql known w c st answer
  exact (quiet_answered _ _).bind fun first => quiet_rows keeps readOnly _ _ steps none first

theorem quiet_layout (keeps : D.StepsKeep content) (queries : D.CallsQueriesReadOnly) (steps : Nat) :
    Quiet content (layout steps : D.Use _) := by
  have columns : ∀ table, Quiet content (columnsOf steps table : D.Use _) := fun table =>
    (quiet_asked keeps queries (.tail _ (.head _)) steps _ _ _ _ _).bind fun _ => quiet_pure _
  exact (quiet_asked keeps queries (.head _) steps _ _ _ _ _).bind fun found =>
    quiet_mapM found fun texts => (columns _).bind fun _ => quiet_pure _

theorem quiet_result (keeps : D.StepsKeep content) (steps : Nat) (limit : Option Nat) (sql : String) :
    Quiet content (result steps limit sql : D.Use _) := by
  refine quiet_prepared fun w c st answer => ?_
  -- a statement that is not called read-only goes no further
  cases readOnly : D.isReadOnly st with
  | false => exact quiet_throw _
  | true =>
    exact (quiet_answered _ _).bind fun first =>
      (quiet_rows keeps readOnly _ _ steps limit first).bind fun _ => quiet_pure _

/-! ## One call -/

theorem visit_unopened {e : Executor} {task : String} {w : D.World} {f : Failure}
    (failed : D.opened e task w = .error f) (use : D.Use α) : D.visit e task use w = (w, .error (.failed f)) := by
  unfold visit
  rw [failed]

theorem visit_opened {e : Executor} {task : String} {w : D.World} {c : D.Connection}
    (opened : D.opened e task w = .ok c) (use : D.Use α) :
    D.visit e task use w = ((use.run (w, c)).2.1, (use.run (w, c)).1) := by
  unfold visit
  rw [opened]
  rfl

theorem visit_content {use : D.Use α} (quiet : Quiet content use) (e : Executor) (task : String) (w : D.World) :
    content (D.visit e task use w).1 = content w := by
  cases opened : D.opened e task w with
  | error f => rw [visit_unopened opened]
  | ok c =>
    rw [visit_opened opened]
    exact quiet w c

theorem execute_content (keeps : D.StepsKeep content) (e : Executor) (steps : Nat) (sql : String) (w : D.World) :
    content (D.execute e steps sql w).1 = content w :=
  visit_content (quiet_result keeps steps e.maxRows sql) e "Execution" w

theorem introspect_content (keeps : D.StepsKeep content) (queries : D.CallsQueriesReadOnly) (e : Executor)
    (steps : Nat) (w : D.World) : content (D.introspect e steps w).1 = content w :=
  visit_content (quiet_layout keeps queries steps) e "Introspection" w

theorem result_refuses {w : D.World} {c : D.Connection} {sql : String} {st : D.Statement}
    (answer : (D.prepare w c sql).2 = .ok st) (writes : D.isReadOnly st = false) (steps : Nat) (limit : Option Nat) :
    (result steps limit sql : D.Use _).run (w, c) =
      (.error (.failed (.execution "Statement is not read-only")), (w, (D.prepare w c sql).1)) := by
  have ran : (prepared (failure "Execution" "Failed to prepare query: ") sql : D.Use D.Statement).run (w, c) =
      (.ok st, (w, (D.prepare w c sql).1)) := by
    rw [prepared_run, answer]
    rfl
  unfold result
  dsimp only
  rw [run_bind_of_ok ran, writes]
  rfl

/-- The library with another way to take steps. -/
def steppingLike (D : Driver)
    (step : D.World → D.Connection → D.Statement → D.Cursor →
      D.World × D.Connection × Except Mishap (Option (List Value × D.Cursor))) : Driver :=
  { D with step := step }

/-- How steps are taken does not count for a statement that is not called read-only. -/
theorem execute_refuses {e : Executor} {w : D.World} {sql : String} {c : D.Connection} {st : D.Statement}
    (opened : D.opened e "Execution" w = .ok c) (answer : (D.prepare w c sql).2 = .ok st)
    (writes : D.isReadOnly st = false) (step) (steps : Nat) :
    (D.steppingLike step).execute e steps sql w = (w, .error (.failed (.execution "Statement is not read-only"))) := by
  have refused := result_refuses (D := D.steppingLike step) answer writes steps e.maxRows
  unfold execute
  rw [visit_opened (D := D.steppingLike step) opened, refused]
  rfl

end Driver

/-! ## Any number of calls -/

/-- A call on a database: of the executor, or of a pipeline over it. -/
inductive Call (D : Driver) {Content : Type} (content : D.World → Content) where
  /-- The executor runs a statement. -/
  | execute (steps : Nat) (sql : String)
  /-- The executor looks up the layout. -/
  | introspect (steps : Nat)
  /-- The pipeline handles requests. Each time that it has the executor do something, this comes so far; the replies
  to the pipeline may be any. -/
  | handle (replies : Pipeline.Collaborators) (steps : Pipeline.Note → Nat) (requests : List Pipeline.Request)
  /-- Others do something that leaves the content of the database as it is. -/
  | meanwhile (others : D.World → D.World) (aloof : ∀ w, content (others w) = content w)

/-- Between two calls: the world, and the pipeline. -/
structure Situation (D : Driver) where
  world : D.World
  service : Pipeline.Service

variable {D : Driver} {Content : Type} {content : D.World → Content}

/-- The world after what a pipeline has had its executor do. -/
def Driver.leftBy (D : Driver) (e : Executor) (steps : Pipeline.Note → Nat) (w : D.World) (note : Pipeline.Note) :
    D.World :=
  match note with
  | .introspecting _ _ => (D.introspect e (steps note) w).1
  | .executing _ candidate => (D.execute e (steps note) candidate w).1
  | _ => w

def Situation.after (e : Executor) (rules : Pipeline.Rules) (s : Situation D) : Call D content → Situation D
  | .execute steps sql => { s with world := (D.execute e steps sql s.world).1 }
  | .introspect steps => { s with world := (D.introspect e steps s.world).1 }
  | .handle replies steps requests =>
    let service := (s.service.handleAll rules replies requests).1
    ⟨(service.notes.drop s.service.notes.length).foldl (D.leftBy e steps) s.world, service⟩
  | .meanwhile others _ => { s with world := others s.world }

section
variable (keeps : D.StepsKeep content) (queries : D.CallsQueriesReadOnly) (e : Executor) (rules : Pipeline.Rules)
include keeps queries

theorem leftBy_content (steps : Pipeline.Note → Nat) (w : D.World) (note : Pipeline.Note) :
    content (D.leftBy e steps w note) = content w := by
  cases note with
  | introspecting => exact Driver.introspect_content keeps queries e _ w
  | executing _ candidate => exact Driver.execute_content keeps e _ candidate w
  | _ => rfl

theorem leftBy_all_content (steps : Pipeline.Note → Nat) (w : D.World) (notes : List Pipeline.Note) :
    content (notes.foldl (D.leftBy e steps) w) = content w := by
  induction notes generalizing w with
  | nil => rfl
  | cons note notes ih => rw [List.foldl_cons, ih, leftBy_content keeps queries]

theorem after_content (s : Situation D) (call : Call D content) :
    content (s.after e rules call).world = content s.world := by
  cases call with
  | execute steps sql => exact Driver.execute_content keeps e steps sql s.world
  | introspect steps => exact Driver.introspect_content keeps queries e steps s.world
  | handle replies steps requests => exact leftBy_all_content keeps queries e steps s.world _
  | meanwhile others aloof => exact aloof s.world

theorem after_all_content (s : Situation D) (calls : List (Call D content)) :
    content (calls.foldl (Situation.after e rules) s).world = content s.world := by
  induction calls generalizing s with
  | nil => rfl
  | cons call calls ih => rw [List.foldl_cons, ih, after_content keeps queries]

end

/-- If a step of a statement that is called read-only leaves the content of the database as it is, and the queries for
the layout are called so, then the content stays, whatever is called and whatever comes of it. A statement that has been
prepared and is not called read-only fails, in whatever way steps are taken: it does not come to one. -/
theorem calls_leave_content_alone (keeps : D.StepsKeep content) (queries : D.CallsQueriesReadOnly) (e : Executor)
    (rules : Pipeline.Rules) :
    (∀ (s : Situation D) (calls : List (Call D content)),
      content (calls.foldl (Situation.after e rules) s).world = content s.world) ∧
    ∀ (w : D.World) (sql : String) (c : D.Connection) (st : D.Statement), D.opened e "Execution" w = .ok c →
      (D.prepare w c sql).2 = .ok st → D.isReadOnly st = false →
      ∃ f : Failure, f.code = "EXECUTION_FAILED" ∧
        ∀ step steps, (D.steppingLike step).execute e steps sql w = (w, .error (.failed f)) :=
  ⟨after_all_content keeps queries e rules, fun _ _ _ _ opened answer writes =>
    ⟨.execution "Statement is not read-only", rfl, Driver.execute_refuses opened answer writes⟩⟩

end QueryWarden.Database
