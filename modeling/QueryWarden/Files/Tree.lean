import QueryWarden.Files.Path
import QueryWarden.Text.Utf8

/-! A tree of files: what stands at each place, and the current directory. Reading and writing find
their place step by step, so that each step through something that is no directory is noticed. -/
namespace QueryWarden.Files

abbrev Place := List String

inductive Entry where
  | directory
  | file (content : List UInt8)
deriving Repr, DecidableEq

inductive Fault where
  | notFound
  | alreadyExists
  | notDirectory
  | isDirectory
  | nameTooLong
  | invalidName
deriving Repr, DecidableEq

def Fault.message : Fault → String
  | .notFound => "No such file or directory (os error 2)"
  | .alreadyExists => "File exists (os error 17)"
  | .notDirectory => "Not a directory (os error 20)"
  | .isDirectory => "Is a directory (os error 21)"
  | .nameTooLong => "File name too long (os error 36)"
  | .invalidName => "file name contained an unexpected NUL byte"

/-- A tree of files with a current directory. -/
structure Tree where
  entries : List (Place × Entry)
  current : Place
deriving Repr

namespace Tree

def at? (t : Tree) (place : Place) : Option Entry :=
  if place.isPrefixOf t.current then some .directory
  else (t.entries.find? (·.1 == place)).map (·.2)

def put (t : Tree) (place : Place) (e : Entry) : Tree :=
  { t with entries := (place, e) :: t.entries.filter (·.1 != place) }

def step (place : Place) (part : String) : Place :=
  if part = "." then place else if part = ".." then place.dropLast else place ++ [part]

def walk (t : Tree) (place : Place) : List String → Except Fault Place
  | [] => .ok place
  | part :: rest =>
    match t.at? place with
    | none => .error .notFound
    | some (.file _) => .error .notDirectory
    | some .directory =>
      if 255 < part.utf8ByteSize then .error .nameTooLong else t.walk (step place part) rest

def resolve (t : Tree) (p : Path) : Except Fault Place :=
  if p.isEmpty then .error .notFound
  else if p.parts.any (·.toList.contains '\x00') then .error .invalidName
  else t.walk (if p.absolute then [] else t.current) p.parts

def find (t : Tree) (p : Path) : Except Fault Entry := do
  let place ← t.resolve p
  match t.at? place with
  | none => throw .notFound
  | some (.file content) =>
    if p.directory then throw .notDirectory else return .file content
  | some .directory => return .directory

def exists? (t : Tree) (path : String) : Bool := (t.find (.ofText path)).isOk

def read (t : Tree) (path : String) : Except Fault (List UInt8) := do
  match ← t.find (.ofText path) with
  | .file content => return content
  | .directory => throw .isDirectory

def write (t : Tree) (path : String) (content : List UInt8) : Except Fault Tree := do
  let p := Path.ofText path
  let place ← t.resolve p
  match t.at? place with
  | some .directory => throw .isDirectory
  | some (.file _) => if p.directory then throw .notDirectory else return t.put place (.file content)
  | none =>
    if p.directory then throw .isDirectory
    else if (t.at? place.dropLast).isNone then throw .notFound
    else return t.put place (.file content)

def makeDirectory (t : Tree) (p : Path) : Except Fault Tree := do
  let place ← t.resolve p
  match t.at? place with
  | some _ => throw .alreadyExists
  | none =>
    if (t.at? place.dropLast).isNone then throw .notFound else return t.put place .directory

def isDirectory (t : Tree) (p : Path) : Bool :=
  match t.find p with
  | .ok .directory => true
  | _ => false

/-- The tree with a directory and those above it made, where they are not there; `levels` bounds how
many are made. -/
def makeDirectories (t : Tree) (p : Path) : (levels : Nat) → Except Fault Tree
  | 0 => .ok t
  | levels + 1 =>
    if p.isEmpty then .ok t
    else
      match t.makeDirectory p with
      | .ok t => .ok t
      | .error .notFound =>
        match p.parent? with
        | none => .error .notFound
        | some above => do
          let t ← t.makeDirectories above levels
          t.makeDirectory p
      | .error e => if t.isDirectory p then .ok t else .error e

def makeParent (t : Tree) (path : String) : Except Fault Tree :=
  match (Path.ofText path).parent? with
  | none => .ok t
  | some above => t.makeDirectories above (above.parts.length + 1)

theorem at?_put_self (t : Tree) (place : Place) (e : Entry) (h : place.isPrefixOf t.current = false) :
    (t.put place e).at? place = some e := by
  simp [at?, put, h]

end Tree
end QueryWarden.Files
