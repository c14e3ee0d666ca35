import QueryWarden.Cli.Arguments
import QueryWarden.Config.Store
import QueryWarden.Database.Executor
import QueryWarden.Generator.Chat
import QueryWarden.Json.Printer
import QueryWarden.Pipeline.Service

/-! Runs of the program. Every command but the session over lines prints one JSON document, and its exit
code says of which sort it is. -/
namespace QueryWarden.Cli
open Files

/-- What surrounds a run: files and environment, the input, the time, and what comes of requests to other
machines. -/
structure World where
  surroundings : Config.Surroundings
  input : List UInt8
  now : Wire.Instant
  exchange : Generator.Request → Generator.Exchange

/-- What a run leaves behind. -/
structure Ended where
  output : String
  code : Nat
  files : Tree

inductive Obstacle where
  | failure (f : Failure)
  /-- Something that is no concern of the pipeline. -/
  | other (message : String)
  /-- The program broke down. -/
  | crash

def misuseCode : Nat := 2

def crashCode : Nat := 101

def printed (j : Json) : String := j.pretty ++ "\n"

def envelope (code message : String) : Json := (ResponseBody.error code message).toJson

def Obstacle.ended (o : Obstacle) (before : String) (files : Tree) : Ended :=
  match o with
  | .failure f => ⟨before ++ printed (envelope f.code f.message), 1, files⟩
  | .other message => ⟨before ++ printed (envelope "INTERNAL_ERROR" message), 1, files⟩
  | .crash => ⟨before, crashCode, files⟩

/-- What is printed and the exit code, or why there is none. -/
abbrev Answer := Except Obstacle (Json × Nat)

def orFailure {α : Type} (r : Except Failure α) : Except Obstacle α := r.mapError .failure

def rules (s : Config.Settings) : Pipeline.Rules :=
  ⟨s.guarding.dialect, ⟨s.limits.generationTimeoutMs.toNat * Clock.millisecond,
    s.limits.executionTimeoutMs.toNat * Clock.millisecond⟩⟩

/-- How long it takes for what stands outside of the program to answer: a chat server to a request, and the
database when its layout is looked up or a statement runs. What never comes has no time. -/
structure Pace where
  exchange : Generator.Request → Option Clock.Duration
  layout : Option Clock.Duration
  statement : String → Option Clock.Duration

def Pace.atOnce : Pace := ⟨fun _ => some 0, some 0, fun _ => some 0⟩

def generated (pace : Pace) (w : World) (chat : Generator.Chat) (question schema : String) :
    Clock.Paced (Except Failure String) :=
  match chat.request question schema with
  | .error f => .atOnce (.error f)
  | .ok r => ⟨pace.exchange r, Generator.Chat.reply r (w.exchange r)⟩

def collaborators (pace : Pace) (w : World) (s : Config.Settings) : Except Failure Pipeline.Collaborators := do
  let chat ← Generator.Chat.ofSettings s.ai w.surroundings.readVariable
  let c := (Database.Executor.ofSettings s).collaborators w.surroundings.files w.now (generated pace w chat)
  return { c with
    introspect := fun n => ⟨pace.layout, (c.introspect n).answer⟩
    execute := fun sql => ⟨pace.statement sql, (c.execute sql).answer⟩ }

def service (s : Config.Settings) : Pipeline.Service := .start (s.cache.ttl * Clock.millisecond)

def ask (pace : Pace) (w : World) (s : Config.Settings) (text : String) : Answer := do
  let c ← orFailure (collaborators pace w s)
  match ((service s).handle (rules s) c text).2 with
  | .ok outcome => return (outcome.response.body.toJson, outcome.response.responseClass.exitCode)
  | .error _ => throw .crash

def check (s : Config.Settings) (sql : String) (dialect : Option Sql.Dialect) : Answer :=
  match Guard.inspect (dialect.getD s.guarding.dialect) sql with
  | .ok v => .ok (v.toJson, if v.safe then 0 else 2)
  | .error _ => .error .crash

def introspect (pace : Pace) (w : World) (s : Config.Settings) : Answer := do
  let lookedUp : Clock.Paced (Except Failure (List Schema.Table)) :=
    ⟨pace.layout, (Database.Executor.ofSettings s).introspect w.surroundings.files⟩
  let tables ← orFailure ((lookedUp.inTime? (rules s).limits.execution).getD
    (.error (.timeout "Schema introspection timed out")))
  return ((⟨tables, w.now⟩ : Schema.Snapshot).toJson, 0)

def initDb (w : World) (s : Config.Settings) (script : String) : Tree × Answer :=
  let files := w.surroundings.files
  match Config.readText files script with
  | .error e => (files, .error (.other ("Could not read script " ++ script ++ ": " ++ e)))
  | .ok text =>
    let (files, result) := Database.runScriptOn files w.now s.database.file text
    (files, (orFailure result).map fun () =>
      (.obj [("database", .str s.database.file), ("ok", .bool true), ("script", .str script)], 0))

def sessionEnded (lines : String) (files : Tree) : Mcp.Ending → Ended
  | .finished => ⟨lines, 0, files⟩
  | .unreadable message => (Obstacle.other message).ended lines files
  | .crashed _ => Obstacle.crash.ended lines files

def serve (pace : Pace) (w : World) (s : Config.Settings) : Ended :=
  let files := w.surroundings.files
  match collaborators pace w s with
  | .error f => (Obstacle.failure f).ended "" files
  | .ok c =>
    let t := Mcp.serve (Pipeline.Service.backend (rules s) c) (service s) w.input
    sessionEnded (String.join (t.lines.map (· ++ "\n"))) files t.ending

def Answer.ended (files : Tree) : Answer → Ended
  | .ok (document, code) => ⟨printed document, code, files⟩
  | .error o => o.ended "" files

/-- Runs a command under the settings. -/
def runCommand (pace : Pace) (w : World) (s : Config.Settings) (command : Command) : Ended :=
  let files := w.surroundings.files
  match command with
  | .ask text => (ask pace w s text).ended files
  | .check sql dialect => (check s sql dialect).ended files
  | .introspect => (introspect pace w s).ended files
  | .initDb script =>
    let (files, answer) := initDb w s script
    answer.ended files
  | .mcp => serve pace w s

/-- A run at a pace. What is printed for `--help` is the concern of the library that reads the arguments. -/
def runPaced (pace : Pace) (w : World) (help : String) (arguments : List String) : Ended :=
  let files := w.surroundings.files
  match Request.ofArguments? arguments with
  | none => ⟨"", misuseCode, files⟩
  | some .version => ⟨programName ++ " " ++ Mcp.serverVersion ++ "\n", 0, files⟩
  | some .help => ⟨help, 0, files⟩
  | some .configure => (Obstacle.other "IO error: not a terminal: not a terminal").ended "" files
  | some (.run _ config command) =>
    match Config.resolve w.surroundings config with
    | .error f => (Obstacle.failure f).ended "" files
    | .ok s => runCommand pace w s command

def run (w : World) (arguments : List String) (help : String := "") : Ended := runPaced .atOnce w help arguments

def settingsPaths (w : Config.Surroundings) (config : Option String) : List String :=
  match config, w.globalPath with
  | some path, _ => [path]
  | none, .ok path => [path, w.localPath]
  | none, .error _ => [w.localPath]

def Command.paths (s : Config.Settings) : Command → List String
  | .initDb script => [s.database.file, script]
  | .check _ _ => []
  | _ => [s.database.file]

end QueryWarden.Cli
