import QueryWarden.Database.Connection
import QueryWarden.Database.Storage
import QueryWarden.Files.Tree

/-! Databases in files. A connection that reads needs the file to be there; one that writes makes it. A
path without characters, or one that names the memory, stands for a database of its own that goes away
with its connection. -/
namespace QueryWarden.Database
open Files

def filePlace (files : Tree) (path : String) : Place :=
  let p := Path.ofText path
  p.parts.foldl Tree.step (if p.absolute then [] else files.current)

def isFleeting (path : String) : Bool := path.isEmpty || path == ":memory:"

def ofBytes (bytes : List UInt8) : Contents :=
  match Storage.decode bytes with
  | .ok d => d
  | .error message => .ofUnreadable message

def refused (message : String) : Failure := .connection ("Failed to open SQLite database: " ++ message)

def unopened (path : String) : String := "unable to open database file: " ++ path

def checkPath (path : String) : Except String Unit :=
  match path.toList.span (· != '\x00') with
  | (_, []) => .ok ()
  | (before, _) => .error ("nul byte found in provided data at position: " ++
      toString (String.ofList before).utf8ByteSize)

def canWrite (files : Tree) (place : Place) : Bool :=
  match files.at? place with
  | some (.file _) => true
  | some .directory => false
  | none => files.at? place.dropLast == some .directory && (place.getLast?.getD "").utf8ByteSize ≤ 255

def canAttach (files : Tree) (writing : Bool) (path : String) : Bool :=
  let place := filePlace files path
  if writing then canWrite files place
  else
    match files.at? place with
    | some (.file _) => true
    | _ => false

def Contents.ofFile (files : Tree) (path : String) : Except String Contents := do
  checkPath path
  if isFleeting path then return .empty
  match files.at? (filePlace files path) with
  | some (.file bytes) => return ofBytes bytes
  | some .directory => throw "disk I/O error"
  | none => throw (unopened path)

def openReading (files : Tree) (path : String) : Except Failure Contents := (Contents.ofFile files path).mapError refused

/-- The files when a connection to the database at a place is closed. A file is written only if what it
holds has changed. -/
def closing (files : Tree) (place : Place) (before after : Contents) : Tree :=
  let bytes := Storage.encode after
  if bytes = Storage.encode before then files else files.put place (.file bytes)

def runScriptOn (files : Tree) (now : Wire.Instant) (path script : String) :
    Tree × Except Failure Unit :=
  let present := Moment.countOf now
  let place := filePlace files path
  match checkPath path with
  | .error message => (files, .error (refused message))
  | .ok () =>
    if isFleeting path then
      (files, ran ((Session.start .empty present).runScript (canAttach files true) script).2)
    else if !canWrite files place then (files, .error (refused (unopened path)))
    else
      let files := match files.at? place with
        | none => files.put place (.file [])
        | some _ => files
      let d := match files.at? place with
        | some (.file bytes) => ofBytes bytes
        | _ => .empty
      let (s, fault) := (Session.start d present).runScript (canAttach files true) script
      (closing files place d s.closed, ran fault)
where
  /-- What comes of a script: why it did not run to its end, if so. -/
  ran : Option String → Except Failure Unit
    | none => .ok ()
    | some message => .error (.execution ("Initialization script failed: " ++ message))

end QueryWarden.Database
