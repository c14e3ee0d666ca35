import QueryWarden.Cli.Run
import Std.Time.DateTime.Timestamp

/-! The program: looks at the files and variables that a run needs, runs it, and writes what it leaves. No
other machine can be reached. -/
namespace QueryWarden.Cli
open Files

def placeText (place : Place) : String := "/" ++ "/".intercalate place

def observed (files : Tree) (path : String) : IO Tree := do
  let here ← IO.currentDir
  let place := Database.filePlace files path
  (List.range place.length).foldlM (fun files n => do
    let part := place.take (n + 1)
    let file := here / placeText part
    if (files.at? part).isSome then return files
    if ← file.isDir then return files.put part .directory
    match ← (IO.FS.readBinFile file).toBaseIO with
    | .ok bytes => return files.put part (.file bytes.toList)
    | .error _ => return files) files

def storeFiles (before after : Tree) : IO Unit :=
  after.entries.forM fun (place, e) =>
    match e with
    | .file content => do
      if before.at? place ≠ some e then
        IO.FS.writeBinFile (placeText place) ⟨content.toArray⟩
    | .directory => pure ()

def environment (names : List String) : IO (String → Option String) := do
  let found ← names.mapM fun n => return (n, ← IO.getEnv n)
  return fun n => (found.lookup n).join

def clockTime : IO Wire.Instant := do
  let nanos := (← Std.Time.Timestamp.now).toNanosecondsSinceUnixEpoch.val
  let seconds := nanos / 1000000000
  return ⟨seconds / 86400, (seconds % 86400).toNat, (nanos % 1000000000).toNat⟩

/-- The next line of the input with its end; nothing where the input is at its end. -/
partial def readLine (input : IO.FS.Stream) (held : List UInt8) : IO (List UInt8) := do
  match (← input.read 1).toList with
  | [] => return held.reverse
  | b :: _ => if b = 10 then return (b :: held).reverse else readLine input (b :: held)

/-- Answers lines as they come in, each with what stands behind the tools at that time. -/
partial def converse (backend : IO (Mcp.Backend Pipeline.Service)) (s : Pipeline.Service)
    (input output : IO.FS.Stream) : IO Mcp.Ending := do
  match ← readLine input [] with
  | [] => return .finished
  | line =>
    let t := Mcp.serveLines (← backend) s [line]
    t.lines.forM output.putStrLn
    output.flush
    match t.ending with
    | .finished => converse backend t.state input output
    | ending => return ending

def runHere (arguments : List String) : IO Ended := do
  let here := (← IO.currentDir).toString
  let nowhere : Tree := ⟨[], (Path.ofText here).parts⟩
  let usual := ["XDG_CONFIG_HOME", "HOME"]
  let world (files : Tree) (names : List String) : IO World := do
    return ⟨⟨files, here, ← environment (names ++ usual)⟩, [], ← clockTime, fun _ => .broken⟩
  match Request.ofArguments? arguments with
  | some (.run _ config command) =>
    let w ← world nowhere []
    let files ← (settingsPaths w.surroundings config).foldlM observed nowhere
    match Config.resolve { w.surroundings with files } config with
    | .error f => return (Obstacle.failure f).ended "" files
    | .ok s =>
      let look : IO World := do
        world (← (command.paths s).foldlM observed files) s.ai.apiKeyVariable.toList
      let w ← look
      let files := w.surroundings.files
      match command, collaborators .atOnce w s with
      | .mcp, .ok c =>
        let backend := do
          return Pipeline.Service.backend (rules s) (((collaborators .atOnce (← look) s).toOption).getD c)
        return sessionEnded "" files (← converse backend (service s) (← IO.getStdin) (← IO.getStdout))
      | _, _ =>
        let ended := runCommand .atOnce w s command
        storeFiles files ended.files
        return ended
  | _ => return run (← world nowhere []) arguments

end QueryWarden.Cli

def main (arguments : List String) : IO UInt32 := do
  let ended ← QueryWarden.Cli.runHere arguments
  IO.print ended.output
  return ended.code.toUInt32
