import Mathlib.Tactic.SplitIfs
import QueryWarden.Database.Script
import QueryWarden.Proofs.Fallible

/-! Statements that are said to leave the database as it is. Each of them does so, whatever it is: queries and
explanations touch nothing, what steers a transaction has nothing to undo on a connection on which nothing has
happened, and a switch of the connection is no part of the database. -/
namespace QueryWarden.Database

/-- A session over which nothing of a database has changed, and which holds nothing else to go back to. -/
structure IsCalm (d : Contents) (s : Session) : Prop where
  database : s.database = d
  before : ∀ b ∈ s.before, b = d
  savepoints : ∀ p ∈ s.savepoints, p.2 = d

/-- Whatever the database is, it stays when this runs on a session over which nothing has changed. -/
def Keeps {α : Type} (w : Writing α) : Prop := ∀ ⦃d s⦄, IsCalm d s → IsCalm d (w.run s).2

def Still {α : Type} (w : Writing α) : Prop := ∀ s : Session, (w.run s).2 = s

theorem IsCalm.settled {d : Contents} {s : Session} (database : s.database = d) (before : s.before = none)
    (savepoints : s.savepoints = []) : IsCalm d s :=
  ⟨database, by simp [before], by simp [savepoints]⟩

theorem IsCalm.start (d : Contents) (now : Int) : IsCalm d (Session.start d now) :=
  .settled rfl rfl rfl

theorem IsCalm.given {d : Contents} {s : Session} (calm : IsCalm d s) (v : Value) : IsCalm d { s with given := v } :=
  ⟨calm.database, calm.before, calm.savepoints⟩

/-- The database is the same when the connection is closed, but for what is temporary. -/
theorem IsCalm.left {d : Contents} {s : Session} (calm : IsCalm d s) : s.before.getD s.database = d := by
  cases opened : s.before with
  | none => exact calm.database
  | some b => exact calm.before b opened

theorem Still.keeps {α : Type} {w : Writing α} (still : Still w) : Keeps w := by
  intro d s calm
  rw [still]
  exact calm

theorem Still.bind {α β : Type} {w : Writing α} {f : α → Writing β} (first : Still w)
    (later : ∀ a, Still (f a)) : Still (w >>= f) := by
  intro s
  have here := first s
  rw [run_bind_apply]
  generalize w.run s = ran at here ⊢
  obtain ⟨r, s'⟩ := ran
  cases r with
  | error f => exact here
  | ok a => exact (later a s').trans here

theorem Keeps.bind {α β : Type} {w : Writing α} {f : α → Writing β} (first : Keeps w)
    (later : ∀ a, Keeps (f a)) : Keeps (w >>= f) := by
  intro d s calm
  have kept := first calm
  rw [run_bind_apply]
  generalize w.run s = ran at kept ⊢
  obtain ⟨r, s'⟩ := ran
  cases r with
  | error f => exact kept
  | ok a => exact later a kept

theorem keeps_begin : Keeps beginTransaction := by
  rintro d ⟨database, now, before, savepoints⟩ ⟨rfl, old, marks⟩
  cases before with
  | none => exact ⟨rfl, fun b held => (Option.some.inj held).symm, marks⟩
  | some b => exact ⟨rfl, old, marks⟩

theorem keeps_commit : Keeps commitTransaction := by
  rintro d ⟨database, now, before, savepoints⟩ ⟨rfl, old, marks⟩
  cases before with
  | none => exact ⟨rfl, old, marks⟩
  | some b => exact .settled rfl rfl rfl

/-- The savepoints from one on are among all of them. -/
theorem IsCalm.mark {d : Contents} {s : Session} (calm : IsCalm d s) {n : String} {p : String × Contents}
    {rest : List (String × Contents)} (found : (s.savepoints.dropWhile fun p => !sameName p.1 n) = p :: rest) :
    ∀ q ∈ p :: rest, q.2 = d :=
  fun q among => calm.savepoints q ((List.dropWhile_sublist _).mem (found ▸ among))

theorem keeps_rollBack (savepoint : Option String) : Keeps (rollBack savepoint) := by
  rintro d s calm
  unfold rollBack
  rw [run_get_bind]
  cases savepoint with
  | none =>
    dsimp only
    cases old : s.before with
    | none => exact calm
    | some b => exact .settled (calm.before b old) rfl rfl
  | some n =>
    dsimp only
    cases found : s.savepoints.dropWhile fun p => !sameName p.1 n with
    | nil => exact calm
    | cons p rest => exact ⟨calm.mark found p List.mem_cons_self, calm.before, calm.mark found⟩

theorem keeps_savepoint (n : String) : Keeps (setSavepoint n) := by
  rintro d ⟨database, now, before, savepoints⟩ ⟨rfl, old, marks⟩
  cases before with
  | none =>
    refine ⟨rfl, fun b held => (Option.some.inj held).symm, ?_⟩
    exact List.forall_mem_cons.mpr ⟨rfl, List.forall_mem_cons.mpr ⟨rfl, marks⟩⟩
  | some b => exact ⟨rfl, old, List.forall_mem_cons.mpr ⟨rfl, marks⟩⟩

theorem keeps_release (n : String) : Keeps (releaseSavepoint n) := by
  rintro d s calm
  unfold releaseSavepoint
  rw [run_get_bind]
  cases found : s.savepoints.dropWhile fun p => !sameName p.1 n with
  | nil => exact calm
  | cons p rest =>
    have marks : ∀ q ∈ rest, q.2 = d := fun q among => calm.mark found q (.tail p among)
    dsimp only
    split
    · exact .settled calm.database rfl rfl
    · exact ⟨calm.database, calm.before, marks⟩

theorem attempt_still {α : Type} (e : Except Fault α) : Still (attempt e) := by
  intro s
  cases e <;> rfl

theorem valueOf_still (frames : List Frame) (t : Term) : Still (valueOf frames t) := by
  intro s
  exact attempt_still _ s

theorem refusal_still (e : Except Fault Term) (refused : Value → Fault) :
    Still (do throw (refused (← valueOf [] (← attempt e))) : Writing Unit) :=
  (attempt_still e).bind fun t => (valueOf_still [] t).bind fun _ _ => rfl

theorem attachFile_still (there : String → Bool) (file : Term) : Still (attachFile there file) := by
  refine (valueOf_still [] file).bind fun v s => ?_
  dsimp only
  split_ifs <;> rfl

theorem run_tryCatch {α : Type} (w : Writing α) (handle : Fault → Writing α) (s : Session) :
    (tryCatch w handle : Writing α).run s =
      match w.run s with
      | (.ok a, s') => (.ok a, s')
      | (.error e, s') => (handle e).run s' := by
  rw [ExceptT.run_tryCatch]
  change StateT.bind w.run _ s = _
  unfold StateT.bind
  simp only [bind]
  generalize w.run s = ran
  obtain ⟨r, s'⟩ := ran
  cases r <;> rfl

theorem keepingReferences_still {w : Writing Unit} (still : Still w) : Still (keepingReferences w) := by
  have looked : Still (get : Writing Session) := fun _ => rfl
  refine still.bind fun _ => looked.bind fun now s => ?_
  cases now.keepsReferences && !now.referencesHold <;> rfl

/-- A fault undoes nothing if nothing has been done. -/
theorem undo_keeps {d : Contents} {start s : Session} (before : IsCalm d start) (calm : IsCalm d s) (f : Fault) :
    IsCalm d ((start.undo f).run s).2 := by
  obtain ⟨message, offset, resolution⟩ := f
  cases resolution with
  | fail | ignore => exact calm
  | rollback => exact .settled before.left rfl rfl
  | _ => exact ⟨before.database, calm.before, calm.savepoints⟩

theorem keeps_atomically {w : Writing Unit} (still : Still w) : Keeps (atomically w) := by
  intro d s calm
  let s' : Session := { s with written := [], reduced := [], changes := 0 }
  have calm' : IsCalm d s' := ⟨calm.database, calm.before, calm.savepoints⟩
  have ran : (atomically w).run s = (tryCatch (keepingReferences w) s.undo : Writing Unit).run s' := rfl
  have kept := keepingReferences_still still s'
  rw [ran, run_tryCatch]
  generalize (keepingReferences w).run s' = out at kept ⊢
  obtain ⟨r, after⟩ := out
  obtain rfl : after = s' := kept
  cases r with
  | ok u => exact calm'
  | error f => exact undo_keeps calm calm' f

/-- If a statement is said to leave the database as it is, it does. -/
def Prepared.Honest (p : Prepared) : Prop := p.isReadOnly = true → Keeps p.run

theorem honest_act {w : Writing Unit} {isReadOnly : Bool} (h : isReadOnly = true → Keeps w) :
    (Prepared.act isReadOnly w).Honest :=
  fun readOnly => (h readOnly).bind fun _ => Still.keeps fun _ => rfl

theorem honest_fixed (columns : List String) (rows : List (List Value)) : (Prepared.fixed columns rows).Honest :=
  fun _ => Still.keeps fun _ => rfl

theorem honest_explained (isReadOnly plan : Bool) : (Prepared.explained isReadOnly plan).Honest :=
  fun _ => Still.keeps fun _ => rfl

theorem honest_query (a : Answer) : (Prepared.query a).Honest := fun _ => Still.keeps fun _ => rfl

variable {d : Contents} {p : Prepared}

theorem honest_lookingInto (h : p.Honest) : (p.lookingInto d).Honest := by
  intro readOnly
  have looking : (p.lookingInto d).run = (d.refuseUnreadable >>= fun _ => p.run : Writing _) := rfl
  rw [looking, Contents.refuseUnreadable]
  cases d.unreadable with
  | none => exact h readOnly
  | some message => exact Still.keeps fun _ => rfl

/-- A switch of the connection does not touch the database. -/
theorem keeps_switch {f : Session → Session}
    (same : ∀ s, (f s).database = s.database ∧ (f s).before = s.before ∧ (f s).savepoints = s.savepoints) :
    Keeps (modify f) := by
  intro d s calm
  obtain ⟨database, before, savepoints⟩ := same s
  exact ⟨database.trans calm.database, before ▸ calm.before, savepoints ▸ calm.savepoints⟩

theorem honest_of_either {c : Prop} [Decidable c] {q : Prepared} {rest : Option Prepared}
    (found : (if c then some q else rest) = some p) (first : q.Honest) (later : rest = some p → p.Honest) :
    p.Honest := by
  split_ifs at found
  · exact Option.some.inj found ▸ first
  · exact later found

theorem honest_setting {name : String} {argument : Option String}
    (found : pragmaOfSetting d name argument = some p) : p.Honest := by
  cases argument with
  | none =>
    obtain ⟨v, -, rfl⟩ := Option.map_eq_some_iff.mp found
    exact fun _ => Still.keeps fun _ => rfl
  | some a =>
    have changing (f : Contents → Contents) : (Prepared.act false (change f)).Honest := nofun
    have switch (f : Session → Session) (same : ∀ s, (f s).database = s.database ∧ (f s).before = s.before ∧
        (f s).savepoints = s.savepoints) : (Prepared.act true (modify f)).Honest := honest_act fun _ => keeps_switch same
    -- the numbers in the head of the file are changed, and it is said so; the rest concerns the connection
    refine honest_of_either found (changing _) fun found => ?_
    refine honest_of_either found (changing _) fun found => ?_
    refine honest_of_either found (changing _) fun found => ?_
    refine honest_of_either found (switch _ fun s => ?_) fun found => ?_
    · split <;> exact ⟨rfl, rfl, rfl⟩
    refine honest_of_either found (switch _ fun s => ⟨rfl, rfl, rfl⟩) fun found => ?_
    refine honest_of_either found nofun fun found => ?_
    refine honest_of_either found (honest_fixed _ _) fun found => ?_
    obtain ⟨-, -, rfl⟩ := Option.map_eq_some_iff.mp found
    exact honest_fixed _ _

theorem honest_pragma (d : Contents) (n : Name) (argument : Option String) :
    (d.pragma n argument).Honest := by
  unfold Contents.pragma
  dsimp only
  split_ifs
  · exact honest_fixed _ _
  · exact honest_fixed _ _
  · exact nofun
  · exact honest_act nofun
  · exact honest_act nofun
  · exact honest_fixed _ _
  · exact honest_fixed _ _
  · split
    · exact honest_fixed _ _
    · cases found : pragmaOfSetting d n.text argument with
      | none => exact honest_fixed _ _
      | some p => exact honest_setting found
    · split
      · exact honest_fixed _ _
      · exact honest_fixed _ _
      · split_ifs <;> exact honest_fixed _ _
      · exact honest_fixed _ _

theorem honest_change {made : Except Fault (Writing Unit)}
    (prepared : (do return Prepared.act false (atomically (← made)) : Except Fault Prepared) = .ok p) : p.Honest := by
  obtain ⟨w, -, h⟩ := bind_eq_ok.mp prepared
  cases h
  exact nofun

/-- Where a trigger of a name is there and that is no fault, nothing is made. -/
theorem createTrigger_idle {temporary ifMissing : Bool} {g : Trigger} {n : Name} {w : Writing Unit}
    (made : d.createTrigger temporary ifMissing g n = .ok w)
    (idle : (ifMissing && (d.trigger? n.text).isSome) = true) : Still w := by
  obtain ⟨rfl, there⟩ := Bool.and_eq_true_iff.mp idle
  unfold Contents.createTrigger at made
  obtain ⟨-, -, made⟩ := bind_eq_ok.mp made
  dsimp only at made
  rw [there] at made
  split at made
  · cases made
  · cases made
    exact fun _ => rfl

/-- Where a trigger is not there and that is no fault, nothing is taken away. -/
theorem drop_idle {kind : ObjectKind} {ifThere : Bool} {schema : Option Name} {n : Name} {w : Writing Unit}
    (made : d.drop kind ifThere schema n = .ok w)
    (idle : (kind == .trigger && (d.trigger? n.text).isNone) = true) : Still w := by
  obtain ⟨isTrigger, missing⟩ := Bool.and_eq_true_iff.mp idle
  obtain rfl := eq_of_beq isTrigger
  rw [Option.isNone_iff_eq_none] at missing
  unfold Contents.drop at made
  simp only [missing] at made
  cases ifThere with
  | false => cases made
  | true =>
    cases made
    exact fun _ => rfl

theorem ready_honest {there : String → Bool} {st : Statement} (ready : st.ready d there = .ok p) :
    p.Honest := by
  unfold Statement.ready at ready
  cases st with
  | query q =>
    obtain ⟨a, -, h⟩ := bind_eq_ok.mp ready
    cases h
    exact honest_query a
  | change c =>
    obtain ⟨a, -, h⟩ := bind_eq_ok.mp ready
    cases h
    exact nofun
  | createTable | createTableAs | createView | createIndex | renameTable | renameColumn | addColumn | dropColumn =>
    exact honest_change ready
  -- a trigger is the one object that may be made or taken away by a statement that is read-only: by one that
  -- finds nothing to do
  | createTrigger =>
    obtain ⟨w, made, h⟩ := bind_eq_ok.mp ready
    cases h
    exact honest_act fun idle => keeps_atomically (createTrigger_idle made idle)
  | drop =>
    obtain ⟨w, made, h⟩ := bind_eq_ok.mp ready
    cases h
    exact honest_act fun idle => keeps_atomically (drop_idle made idle)
  | pragma schema n argument =>
    cases ready
    split_ifs
    · exact honest_lookingInto (honest_pragma d n argument)
    · exact honest_pragma d n argument
  | «begin» =>
    cases ready
    exact honest_act fun _ => keeps_begin
  | commit =>
    cases ready
    exact honest_act fun _ => keeps_commit
  | rollback name? =>
    cases ready
    exact honest_act fun _ => keeps_rollBack name?
  | savepoint n =>
    cases ready
    exact honest_act fun _ => keeps_savepoint n
  | release n =>
    cases ready
    exact honest_act fun _ => keeps_release n
  | attach file name =>
    obtain ⟨t, -, h⟩ := bind_eq_ok.mp ready
    cases h
    exact honest_act fun _ => (attachFile_still there t).keeps
  | detach e =>
    cases ready
    exact honest_act fun _ => (refusal_still _ _).keeps
  | vacuum =>
    cases ready
    exact honest_lookingInto nofun
  | analyze n | reindex n =>
    cases n with
    | none =>
      cases ready
      exact honest_act fun _ => Still.keeps fun _ => rfl
    | some n =>
      dsimp only at ready
      split_ifs at ready
      · cases ready
      · cases ready
        exact honest_act fun _ => Still.keeps fun _ => rfl
  | explain plan st =>
    cases st with
    | query q =>
      obtain ⟨a, -, h⟩ := bind_eq_ok.mp ready
      cases h
      split_ifs
      · exact honest_fixed _ _
      · exact honest_explained true _
    | change c =>
      obtain ⟨a, -, h⟩ := bind_eq_ok.mp ready
      cases h
      exact nofun
    | pragma | «begin» | commit | rollback | savepoint | release =>
      cases ready
      exact honest_explained _ plan
    | _ =>
      cases ready
      exact nofun

theorem prepare_honest {there : String → Bool} {st : Statement} (prepared : st.prepare d there = .ok p) :
    p.Honest := by
  have ready : st.ready d there = .ok p := by
    unfold Statement.prepare at prepared
    split_ifs at prepared
    · obtain ⟨_, -, ready⟩ := bind_eq_ok.mp prepared
      exact ready
    · exact prepared
  exact ready_honest ready

theorem prepareFirst_honest {d : Contents} {there : String → Bool} {sql : String} {p : Prepared} {n : Nat}
    (prepared : d.prepareFirst there sql = .ok (some p, n)) : p.Honest := by
  unfold Contents.prepareFirst at prepared
  obtain ⟨⟨st, m⟩, -, prepared⟩ := bind_eq_ok.mp prepared
  cases st with
  | none => cases prepared
  | some st =>
    obtain ⟨q, made, h⟩ := bind_eq_ok.mp prepared
    cases h
    exact prepare_honest made

end QueryWarden.Database
