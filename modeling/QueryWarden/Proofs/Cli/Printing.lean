import Mathlib.Tactic.SplitIfs
import QueryWarden.Proofs.Cli.Documents
import QueryWarden.Proofs.Json.ReadBack
import QueryWarden.Proofs.Pipeline.TimeLimit

/-! What a command prints, and the exit code of its run. A command that does not serve prints one document and a
line feed, whatever the settings, the files and the pace are, and the exit code agrees with the document: nothing
but a question that is none fails as an invalid input. -/
namespace QueryWarden.Cli
open Files

/-! ## Failures of a command -/

def Apt {α : Type} (r : Except Failure α) : Prop := ∀ f, r = .error f → f.code ≠ "INVALID_INPUT"

section
variable {α β : Type}

theorem apt_ok (a : α) : Apt (.ok a) := nofun

theorem apt_error {f : Failure} (other : f.code ≠ "INVALID_INPUT") : Apt (.error f : Except Failure α) := by
  rintro g ⟨⟩
  exact other

theorem apt_configuration (detail : String) : Apt (.error (.configuration detail) : Except Failure α) :=
  apt_error (show "CONFIG_ERROR" ≠ "INVALID_INPUT" by decide)

theorem apt_connection (detail : String) : Apt (.error (.connection detail) : Except Failure α) :=
  apt_error (show "CONNECTION_FAILED" ≠ "INVALID_INPUT" by decide)

theorem apt_execution (detail : String) : Apt (.error (.execution detail) : Except Failure α) :=
  apt_error (show "EXECUTION_FAILED" ≠ "INVALID_INPUT" by decide)

theorem apt_timeout (detail : String) : Apt (.error (.timeout detail) : Except Failure α) :=
  apt_error (show "TIMEOUT" ≠ "INVALID_INPUT" by decide)

theorem Apt.bind {r : Except Failure α} {f : α → Except Failure β} (h : Apt r) (later : ∀ a, Apt (f a)) :
    Apt (r >>= f) := by
  cases r with
  | error g => exact apt_error (h g rfl)
  | ok a => exact later a

end

theorem apt_readRaw (files : Tree) (path : String) : Apt (Config.readRaw files path) := by
  unfold Config.readRaw
  split
  · exact apt_ok _
  · split
    · exact apt_configuration _
    · split
      · exact apt_configuration _
      · exact apt_ok _
      · exact apt_configuration _

theorem apt_ofRaw (raw : Json) : Apt (Config.ofRaw raw) := by
  unfold Config.ofRaw
  split
  · exact apt_ok _
  · exact apt_configuration _

theorem apt_resolve (w : Config.Surroundings) (config : Option String) : Apt (Config.resolve w config) := by
  cases config with
  | some path =>
    unfold Config.resolve
    dsimp only
    split
    · exact (apt_readRaw _ _).bind apt_ofRaw
    · exact apt_configuration _
  | none =>
    have located : Apt w.globalPath := by
      unfold Config.Surroundings.globalPath
      split
      · exact apt_ok _
      · exact apt_configuration _
    exact located.bind fun _ => (apt_readRaw _ _).bind fun _ => (apt_readRaw _ _).bind fun _ => apt_ofRaw _

theorem apt_collaborators (pace : Pace) (w : World) (s : Config.Settings) : Apt (collaborators pace w s) := by
  have key : Apt (s.ai.resolveKey w.surroundings.readVariable) := by
    unfold Config.AiSettings.resolveKey
    split
    · exact apt_ok _
    · split
      · exact apt_ok _
      · exact apt_configuration _
  have chat : Apt (Generator.Chat.ofSettings s.ai w.surroundings.readVariable) := by
    unfold Generator.Chat.ofSettings
    dsimp only
    split_ifs
    · exact apt_configuration _
    · exact apt_configuration _
    · exact apt_configuration _
    · exact key.bind fun _ => apt_ok _
  exact chat.bind fun _ => apt_ok _

theorem apt_introspect (e : Database.Executor) (files : Tree) : Apt (e.introspect files) := by
  have opened : Apt (Database.openReading files e.file) := by
    unfold Database.openReading
    cases Database.Contents.ofFile files e.file with
    | ok d => exact apt_ok _
    | error message => exact apt_connection _
  have connected : Apt (e.connect files "Introspection") := by
    refine opened.bind fun _ => ?_
    split_ifs
    · exact apt_execution _
    · exact apt_ok _
  refine connected.bind fun d => ?_
  unfold Database.Contents.introspect
  split
  · exact apt_execution _
  · exact apt_ok _

theorem apt_runScriptOn (files : Tree) (now : Wire.Instant) (path script : String) :
    Apt (Database.runScriptOn files now path script).2 := by
  have ran : ∀ fault : Option String, Apt (Database.runScriptOn.ran fault) := by
    intro fault
    cases fault with
    | none => exact apt_ok _
    | some message => exact apt_execution _
  unfold Database.runScriptOn
  dsimp only
  split
  · exact apt_connection _
  · split_ifs
    · exact ran _
    · exact apt_connection _
    · exact ran _

/-! ## Commands -/

/-- The texts that the guard judges while a command runs, each with its dialect. -/
inductive Judges (pace : Pace) (w : World) (s : Config.Settings) : Command → Sql.Dialect → String → Prop where
  | check (sql : String) (dialect : Option Sql.Dialect) :
      Judges pace w s (.check sql dialect) (dialect.getD s.guarding.dialect) sql
  | ask {text candidate : String} {c : Pipeline.Collaborators} {t : Clock.TaskId}
      (ready : collaborators pace w s = .ok c)
      (replied : .replied t (.ok candidate) ∈ ((service s).handle (rules s) c text).1.notes)
      (clean : Generator.isViolation candidate = false) :
      Judges pace w s (.ask text) s.guarding.dialect candidate

def Answer.IsSound : Answer → Prop
  | .ok (d, code) => Agrees code d
  | .error (.failure f) => f.code ≠ "INVALID_INPUT"
  | .error (.other _) => True
  | .error .crash => False

def Ended.IsSound (e : Ended) : Prop := ∃ d, e.output = printed d ∧ Agrees e.code d

theorem Answer.IsSound.ended {a : Answer} (h : a.IsSound) (files : Tree) : (a.ended files).IsSound := by
  match a, h with
  | .ok (d, code), agrees => exact ⟨d, rfl, agrees⟩
  | .error (.failure f), other =>
    exact ⟨envelope f.code f.message, String.empty_append, .failed (.error other f.message)⟩
  | .error (.other message), _ =>
    exact ⟨envelope "INTERNAL_ERROR" message, String.empty_append, .failed (.error (by decide) message)⟩

theorem sound_orFailure {α : Type} {r : Except Failure α} (apt : Apt r) {f : α → Answer}
    (later : ∀ a, r = .ok a → Answer.IsSound (f a)) : Answer.IsSound (orFailure r >>= f) := by
  cases r with
  | error g => exact apt g rfl
  | ok a => exact later a rfl

/-- However a request ends, its response agrees with its class. -/
theorem outcome_agrees (o : Pipeline.Outcome) :
    Agrees o.response.responseClass.exitCode o.response.body.toJson := by
  cases o with
  | success question candidate result => exact .done (.answer question candidate result)
  | rejected question candidate reason kind => exact .refused (.rejection reason candidate)
  | inputError message => exact .refused (.invalid message)
  | securityAlert message => exact .refused (.rejection message Pipeline.blockedQuery)
  | executionError => exact .failed (.error (by decide) internalMessage)

/-- The clock does not come to its end while one request is handled. -/
theorem service_clock (s : Config.Settings) (c : Pipeline.Collaborators) (text : String) :
    Cache.expiry? ((service s).handle (rules s) c text).1.run.now (service s).run.cache.life ≠ none := by
  have taken := Pipeline.Service.handle_now_le (rules s) c (s := service s) (Pipeline.Service.idle_start _) text
  have execution : (rules s).limits.execution ≤ Nat.pow 2 64 * Clock.millisecond :=
    Nat.mul_le_mul_right _ (Nat.le_of_lt s.limits.executionTimeoutMs.toNat_lt)
  have generation : (rules s).limits.generation ≤ Nat.pow 2 64 * Clock.millisecond :=
    Nat.mul_le_mul_right _ (Nat.le_of_lt s.limits.generationTimeoutMs.toNat_lt)
  have longest : (rules s).limits.longest ≤ Nat.pow 2 64 * Clock.millisecond := Nat.max_le.mpr ⟨execution, generation⟩
  have early : 6 * (Nat.pow 2 64 * Clock.millisecond) + Cache.longestLife ≤ Clock.lastMoment := by decide
  have soon : ((service s).handle (rules s) c text).1.run.now ≤ 6 * (Nat.pow 2 64 * Clock.millisecond) := by
    have begun : (service s).run.now = 0 := rfl
    rw [begun, Nat.zero_add] at taken
    exact Nat.le_trans taken (Nat.mul_le_mul_left 6 longest)
  intro ends
  obtain ⟨-, late⟩ := Cache.expiry?_eq_none.mp ends
  exact Nat.not_lt.mpr (Nat.le_trans (Nat.add_le_add_right soon _) early) late

/-- A question is answered, if the guard does not crash over a reply. -/
theorem service_answers {s : Config.Settings} {c : Pipeline.Collaborators} (text : String)
    (calm : ∀ t candidate, .replied t (.ok candidate) ∈ ((service s).handle (rules s) c text).1.notes →
      Generator.isViolation candidate = false → ∃ v, Guard.inspect s.guarding.dialect candidate = .ok v) :
    ∃ o, ((service s).handle (rules s) c text).2 = .ok o := by
  have idle : (service s).Idle := Pipeline.Service.idle_start _
  have ends := service_clock s c text
  obtain ⟨-, -, answered | ⟨message, -, ⟨t, candidate, replied, clean, fault⟩ | ⟨-, late⟩⟩⟩ :=
    Pipeline.Service.handle_ends (rules s) c idle text
  · exact answered
  · obtain ⟨v, judged⟩ := calm t candidate replied clean
    exact nomatch fault.symm.trans judged
  · exact absurd late ends

theorem ask_sound {pace : Pace} {w : World} {s : Config.Settings} {text : String}
    (calm : ∀ dialect sql, Judges pace w s (.ask text) dialect sql → ∃ v, Guard.inspect dialect sql = .ok v) :
    Answer.IsSound (ask pace w s text) := by
  refine sound_orFailure (apt_collaborators pace w s) fun c ready => ?_
  obtain ⟨o, answered⟩ := service_answers text fun t candidate replied clean =>
    calm _ _ (.ask ready replied clean)
  rw [answered]
  exact outcome_agrees o

theorem check_sound {pace : Pace} {w : World} {s : Config.Settings} {sql : String} {dialect : Option Sql.Dialect}
    (calm : ∀ d text, Judges pace w s (.check sql dialect) d text → ∃ v, Guard.inspect d text = .ok v) :
    Answer.IsSound (check s sql dialect) := by
  obtain ⟨v, judged⟩ := calm _ _ (.check sql dialect)
  unfold check
  rw [judged]
  show Agrees (if v.safe then 0 else 2) v.toJson
  cases safe : v.safe with
  | true => exact .done (.verdict safe)
  | false => exact .refused (.verdict safe)

theorem introspect_sound (pace : Pace) (w : World) (s : Config.Settings) : Answer.IsSound (introspect pace w s) := by
  refine sound_orFailure ?_ fun tables _ => .done (.schema ⟨tables, w.now⟩)
  unfold Clock.Paced.inTime?
  split_ifs
  · exact apt_introspect _ _
  · exact apt_timeout _

theorem initDb_sound (w : World) (s : Config.Settings) (script : String) : Answer.IsSound (initDb w s script).2 := by
  unfold initDb
  dsimp only
  split
  · exact trivial
  · next text _ =>
    have apt := apt_runScriptOn w.surroundings.files w.now s.database.file text
    generalize Database.runScriptOn w.surroundings.files w.now s.database.file text = ran at apt ⊢
    obtain ⟨files, result⟩ := ran
    cases result with
    | error f => exact apt f rfl
    | ok u => exact .done (.ready s.database.file script)

/-- A run at whatever pace that does not serve prints one document and a line feed, unless the guard crashes over
a text that it judges; and its exit code is 2 if the document refuses, 1 if it is any other error, and 0 if it is
what was asked for. -/
theorem run_prints_one_document (pace : Pace) (w : World) (help : String) {arguments : List String} {verbosity : Nat}
    {config : Option String} {command : Command}
    (accepted : Request.ofArguments? arguments = some (.run verbosity config command)) (prints : command ≠ .mcp)
    (calm : ∀ s dialect sql, Config.resolve w.surroundings config = .ok s → Judges pace w s command dialect sql →
      ∃ v, Guard.inspect dialect sql = .ok v) :
    let ended := runPaced pace w help arguments
    ∃ d : Json, ended.output = d.pretty ++ "\n" ∧
      (∃ node, Json.Document.ofText ended.output = ⟨node, none⟩ ∧ Json.Shows node d) ∧
      (Refused d ∨ Failed d ∨ Done d) ∧
      (ended.code = 2 ↔ Refused d) ∧ (ended.code = 1 ↔ Failed d) ∧ (ended.code = 0 ↔ Done d) := by
  intro ended
  have sound : ended.IsSound := by
    subst ended
    unfold runPaced
    simp only [accepted]
    cases resolved : Config.resolve w.surroundings config with
    | error f => exact Answer.IsSound.ended (a := .error (.failure f)) (apt_resolve _ _ f resolved) _
    | ok s =>
      have calm := fun dialect sql => calm s dialect sql resolved
      show (runCommand pace w s command).IsSound
      cases command with
      | ask text => exact (ask_sound calm).ended _
      | check sql dialect => exact (check_sound calm).ended _
      | introspect => exact (introspect_sound pace w s).ended _
      | initDb script => exact (initDb_sound w s script).ended _
      | mcp => exact absurd rfl prints
  obtain ⟨d, output, agrees⟩ := sound
  refine ⟨d, output, ?_, agrees.sort, agrees.sorts⟩
  rw [output]
  exact Json.ofText_pretty d (Json.blank_single (by decide))

/-- A check of a statement that drops a table, in a home without settings. -/
theorem check_prints_one_refusal :
    let world : World :=
      ⟨⟨⟨[], []⟩, "/", fun name => if name = "HOME" then some "/home" else none⟩, [], ⟨0, 0, 0⟩, fun _ => .broken⟩
    let ended := runPaced .atOnce world "" ["check", "--dialect", "sqlite", "DROP TABLE t"]
    ∃ d : Json, ended.output = d.pretty ++ "\n" ∧ ended.code = 2 ∧ Refused d := by
  intro world ended
  have accepted : Request.ofArguments? ["check", "--dialect", "sqlite", "DROP TABLE t"] =
      some (.run 0 none (.check "DROP TABLE t" (some .sqlite))) := by decide +kernel
  have calm : ∀ s dialect sql, Config.resolve world.surroundings none = .ok s →
      Judges .atOnce world s (.check "DROP TABLE t" (some .sqlite)) dialect sql →
      ∃ v, Guard.inspect dialect sql = .ok v := by
    intro s dialect sql _ judges
    cases judges
    have judged : (Guard.inspect .sqlite "DROP TABLE t").isOk = true := by decide +kernel
    show ∃ v, Guard.inspect .sqlite "DROP TABLE t" = .ok v
    cases answer : Guard.inspect .sqlite "DROP TABLE t" with
    | ok v => exact ⟨v, rfl⟩
    | error message =>
      rw [answer] at judged
      cases judged
  have code : ended.code = 2 := by decide +kernel
  obtain ⟨d, output, -, -, two, -⟩ := run_prints_one_document .atOnce world _ accepted (by decide) calm
  exact ⟨d, output, code, two.mp code⟩

end QueryWarden.Cli
