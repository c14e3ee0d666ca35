import QueryWarden.Config.Settings
import QueryWarden.Files.Tree
import QueryWarden.Json.Basic

/-! Where settings are kept: one file in the current directory and one for the user, of which the first
is laid over the second, or one file named for the run. Of two files that are laid over each other, objects are
merged name by name and all the way down; anything else takes the place of what it lies on. A missing file counts
as one without settings. -/
namespace QueryWarden.Config
open Files

mutual
def overlay (base : Json) : (upper : Json) → Json
  | .obj members =>
    match base with
    | .obj below => .obj (overlayMembers below members)
    | _ => .obj members
  | other => other
def overlayMembers (below : List (String × Json)) : (members : List (String × Json)) →
    List (String × Json)
  | [] => below
  | (name, value) :: rest =>
    let merged := match Json.lookup name below with
      | some old => overlay old value
      | none => value
    overlayMembers (Json.insertMember name merged below) rest
end

/-- What surrounds a run: the files, the text of the current directory, and the environment. -/
structure Surroundings where
  files : Tree
  currentDirectory : String
  readVariable : String → Option String

namespace Surroundings

def localPath (w : Surroundings) : String :=
  Path.joinAll w.currentDirectory [".sqlsentry", "config.json"]

def userDirectory? (w : Surroundings) : Option String :=
  match (w.readVariable "XDG_CONFIG_HOME").filter (·.startsWith "/") with
  | some directory => some directory
  | none => (w.readVariable "HOME").filter (· != "") |>.map (Path.join · ".config")

def globalPath (w : Surroundings) : Except Failure String :=
  match w.userDirectory? with
  | some directory => .ok (Path.joinAll directory ["sqlsentry", "config.json"])
  | none => .error (.configuration "Could not determine user config directory")

end Surroundings

def readText (files : Tree) (path : String) : Except String String :=
  match files.read path with
  | .error e => .error e.message
  | .ok bytes =>
    match Text.Utf8.decode bytes with
    | .ok chars => .ok (String.ofList chars)
    | .error _ => .error "stream did not contain valid UTF-8"

def readRaw (files : Tree) (path : String) : Except Failure Json :=
  if !files.exists? path then .ok (.obj [])
  else
    match readText files path with
    | .error e => .error (.configuration ("Could not read config file " ++ path ++ ": " ++ e))
    | .ok text =>
      match Json.parse text with
      | .error f => .error (.configuration ("Invalid config file " ++ path ++ ": " ++ f.message))
      | .ok (.obj members) => .ok (.obj members)
      | .ok _ => .error (.configuration
          ("Invalid config file " ++ path ++ ": top level must be an object"))

def ofRaw (raw : Json) : Except Failure Settings :=
  match Settings.wire.ofJson raw with
  | .ok v => .ok (.ofValue v)
  | .error f => .error (.configuration ("Invalid configuration: " ++ f.message))

def load (files : Tree) (path : String) : Except Failure Settings := do ofRaw (← readRaw files path)

/-- The settings of two files, the second laid over the first. -/
def loadLayered (files : Tree) (globalPath localPath : String) : Except Failure Settings := do
  let base ← readRaw files globalPath
  let upper ← readRaw files localPath
  ofRaw (overlay base upper)

/-- The settings of a run: those of the file named for it, which has to be there, or the layered
ones. -/
def resolve (w : Surroundings) (named : Option String) : Except Failure Settings :=
  match named with
  | some path =>
    if w.files.exists? path then load w.files path
    else .error (.configuration ("Config file " ++ path ++ " does not exist"))
  | none => do loadLayered w.files (← w.globalPath) w.localPath

def document (s : Settings) : List UInt8 := Text.Utf8.bytes s.toJson.pretty

/-- The files with settings written to one of them. -/
def save (files : Tree) (path : String) (s : Settings) : Except Failure Tree :=
  match files.makeParent path with
  | .error e => .error (.configuration ("Could not create config directory: " ++ e.message))
  | .ok files =>
    match files.write path (document s) with
    | .error e => .error (.configuration ("Could not write config file: " ++ e.message))
    | .ok files => .ok files

end QueryWarden.Config
