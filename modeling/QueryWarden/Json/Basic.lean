/-! JSON values. An object keeps its members in the order they were written and keeps repeated names;
the unordered reading of an object, in which the last member of each name counts, is a view. -/
namespace QueryWarden

inductive Json.Number where
  | int (value : Int)
  | real (value : Float)

/-- A JSON value whose objects are lists of members. -/
inductive Json where
  | null
  | bool (value : Bool)
  | num (value : Json.Number)
  | str (value : String)
  | arr (items : List Json)
  | obj (members : List (String × Json))
deriving Inhabited

namespace Json

def int (n : Int) : Json := .num (.int n)

def nat (n : Nat) : Json := .num (.int n)

/-- A double as a JSON value; JSON has no spelling for the ones that are not finite. -/
def real (x : Float) : Json := if x.isFinite then .num (.real x) else .null

def strOrNull : Option String → Json
  | none => .null
  | some s => .str s

def insertMember (name : String) (value : Json) :
    List (String × Json) → List (String × Json)
  | [] => [(name, value)]
  | (other, kept) :: rest =>
    if name < other then (name, value) :: (other, kept) :: rest
    else if name = other then (name, value) :: rest
    else (other, kept) :: insertMember name value rest

def sortMembers (members : List (String × Json)) : List (String × Json) :=
  members.foldl (fun sorted m => insertMember m.1 m.2 sorted) []

mutual
def sorted : Json → Json
  | .arr items => .arr (sortedItems items)
  | .obj members => .obj (sortMembers (sortedMembers members))
  | other => other
def sortedItems : List Json → List Json
  | [] => []
  | item :: rest => sorted item :: sortedItems rest
def sortedMembers : List (String × Json) → List (String × Json)
  | [] => []
  | (name, value) :: rest => (name, sorted value) :: sortedMembers rest
end

def lookup (name : String) (members : List (String × Json)) : Option Json :=
  (members.reverse.find? (·.1 == name)).map (·.2)

def member? (name : String) : Json → Option Json
  | .obj members => lookup name members
  | _ => none

def text? : Json → Option String
  | .str s => some s
  | _ => none

end Json
end QueryWarden
