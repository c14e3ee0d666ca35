import QueryWarden.Url.Host

/-! Addresses of resources, as browsers read them: blanks around them and line breaks in them count for
nothing, dots in a path are followed, and what a part cannot hold is encoded. -/
namespace QueryWarden

structure Url where
  scheme : String
  user : String
  password : String
  host : Option Url.Host
  port : Option Nat
  path : String
  query : Option String
  fragment : Option String
deriving Repr, DecidableEq

namespace Url

def specialSchemes : List String := ["http", "https", "ws", "wss", "ftp"]

def defaultPort? : String → Option Nat
  | "http" | "ws" => some 80
  | "https" | "wss" => some 443
  | "ftp" => some 21
  | _ => none

def text (u : Url) : String :=
  let credentials :=
    if u.user == "" && u.password == "" then ""
    else u.user ++ (if u.password == "" then "" else ":" ++ u.password) ++ "@"
  let authority := match u.host with
    | some h => "//" ++ credentials ++ h.text ++ (u.port.map fun p => ":" ++ toString p).getD ""
    | none => if u.scheme == "file" then "//" else ""
  u.scheme ++ ":" ++ authority ++ u.path ++ (u.query.map ("?" ++ ·)).getD "" ++
    (u.fragment.map ("#" ++ ·)).getD ""

def target (u : Url) : String := u.path ++ (u.query.map ("?" ++ ·)).getD ""

def significant (text : String) : List Char :=
  let blank (c : Char) : Bool := c.toNat ≤ 0x20
  let trimmed := ((text.toList.dropWhile blank).reverse.dropWhile blank).reverse
  trimmed.filter fun c => c != '\t' && c != '\n' && c != '\r'

def scheme? (cs : List Char) : Option (String × List Char) :=
  let letters := cs.takeWhile fun c => c.isAlphanum || c == '+' || c == '-' || c == '.'
  match letters, cs.drop letters.length with
  | first :: _, ':' :: rest =>
    if first.isAlpha then some (String.ofList (letters.map Char.toLower), rest) else none
  | _, _ => none

def splitAt (mark : Char) (cs : List Char) : List Char × Option (List Char) :=
  match cs.dropWhile (· != mark) with
  | [] => (cs, none)
  | _ :: rest => (cs.takeWhile (· != mark), some rest)

def isDot (part : List Char) : Bool := [".", "%2e"].contains (String.ofList (part.map Char.toLower))

def isDots (part : List Char) : Bool :=
  ["..", ".%2e", "%2e.", "%2e%2e"].contains (String.ofList (part.map Char.toLower))

def followDots (found : List (List Char)) : List (List Char) → List (List Char)
  | [] => found.reverse
  | [last] =>
    if isDots last then ([] :: found.drop 1).reverse
    else if isDot last then ([] :: found).reverse
    else (last :: found).reverse
  | part :: rest =>
    if isDots part then followDots (found.drop 1) rest
    else if isDot part then followDots found rest
    else followDots (part :: found) rest

def slashPath (special : Bool) (cs : List Char) : String :=
  let slashed := if special then cs.map fun c => if c == '\\' then '/' else c else cs
  let parts := (Host.split '/' slashed).map (encode pathSet)
  let parts := match parts with
    | [] :: rest => rest
    | other => other
  "/" ++ "/".intercalate ((followDots [] parts).map String.ofList)

def readPort (scheme : String) (cs : List Char) : Except Fault (Option Nat) :=
  if cs.isEmpty then .ok none
  else
    match Host.digitsIn? 10 cs with
    | none => .error .invalidPort
    | some n =>
      if 65535 < n then .error .invalidPort
      else .ok (if some n == defaultPort? scheme then none else some n)

def readHost (scheme : String) (cs : List Char) : Except Fault (Host × Option Nat) := do
  let inBrackets := if cs.head? == some '[' then (cs.takeWhile (· != ']')).length else 0
  let (rest, port) := splitAt ':' (cs.drop inBrackets)
  let name := cs.take inBrackets ++ rest
  if name.isEmpty then throw .emptyHost
  let host ← Host.ofChars name
  return (host, ← readPort scheme (port.getD []))

def credentials (cs : List Char) : (String × String) × List Char :=
  match splitAt '@' cs.reverse with
  | (_, none) => (("", ""), cs)
  | (host, some before) =>
    let (user, password) := splitAt ':' before.reverse
    let written (p : List Char) := String.ofList (encode userSet p)
    ((written user, written (password.getD [])), host.reverse)

def ofAuthority (scheme : String) (cs : List Char) (query fragment : Option String) :
    Except Fault Url := do
  let isSlash (c : Char) : Bool := c == '/' || c == '\\'
  let ((user, password), host) := credentials (cs.takeWhile (!isSlash ·))
  let (host, port) ← readHost scheme host
  return ⟨scheme, user, password, some host, port, slashPath true (cs.dropWhile (!isSlash ·)), query,
    fragment⟩

def ofPlainPath (scheme : String) (cs : List Char) (query fragment : Option String) : Url :=
  let path := if cs.head? == some '/' then
      if scheme == "file" then slashPath true (cs.dropWhile (· == '/')) else String.ofList (encode pathSet cs)
    else String.ofList (encode isControl cs)
  ⟨scheme, "", "", none, none, path, query, fragment⟩

def ofText (text : String) : Except Fault Url :=
  match scheme? (significant text) with
  | none => .error .relative
  | some (scheme, rest) =>
    let (rest, fragment) := splitAt '#' rest
    let (rest, query) := splitAt '?' rest
    let fragment := fragment.map fun f => String.ofList (encode fragmentSet f)
    let query := query.map fun q => String.ofList (encode querySet q)
    if specialSchemes.contains scheme then
      ofAuthority scheme (rest.dropWhile fun c => c == '/' || c == '\\') query fragment
    else .ok (ofPlainPath scheme rest query fragment)

end Url
end QueryWarden
