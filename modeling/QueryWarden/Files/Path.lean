import QueryWarden.Text.Blank

/-! Paths as they are written, and the parts that name directories and files. -/
namespace QueryWarden.Files

/-- A path: its parts in order, whether it begins at the root, and whether only a directory fits it. -/
structure Path where
  absolute : Bool
  parts : List String
  directory : Bool
deriving Repr, DecidableEq

def pieces : List Char → List (List Char)
  | [] => [[]]
  | c :: cs =>
    match pieces cs with
    | [] => [[c]]
    | p :: ps => if c = '/' then [] :: p :: ps else (c :: p) :: ps

namespace Path

/-- The path that a text is. Empty parts count for nothing, and so do single periods unless the first
part is one. -/
def ofText (text : String) : Path :=
  let all := (pieces text.toList).map String.ofList
  let absolute := text.startsWith "/"
  let last := all.getLast?
  let kept := all.filter fun p => p != "" && p != "."
  ⟨absolute, if !absolute && all.head? == some "." then "." :: kept else kept,
    text != "" && (last == some "" || last == some ".")⟩

def isEmpty (p : Path) : Bool := !p.absolute && p.parts.isEmpty

def parent? (p : Path) : Option Path :=
  if p.parts.isEmpty then none else some ⟨p.absolute, p.parts.dropLast, false⟩

def join (directory name : String) : String :=
  if directory == "" || directory.endsWith "/" then directory ++ name else directory ++ "/" ++ name

def joinAll (directory : String) (names : List String) : String := names.foldl join directory

end Path
end QueryWarden.Files
