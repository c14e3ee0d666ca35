import QueryWarden.Sql.Dialect

/-! The arguments of the program. Options may stand before the command and behind it; two hyphens end them,
so that what follows is taken as it is. -/
namespace QueryWarden.Cli
open Sql

/-- What the program can be asked to do under the settings. -/
inductive Command where
  | ask (text : String)
  | check (sql : String) (dialect : Option Dialect)
  | introspect
  | initDb (script : String)
  | mcp
deriving Repr, DecidableEq

inductive Request where
  | run (verbosity : Nat) (config : Option String) (command : Command)
  /-- The settings are to be asked for. -/
  | configure
  | version
  | help
deriving Repr, DecidableEq

inductive CommandName where
  | ask
  | check
  | introspect
  | initDb
  | configure
  | mcp
deriving Repr, DecidableEq

namespace CommandName

def text : CommandName → String
  | ask => "ask"
  | check => "check"
  | introspect => "introspect"
  | initDb => "init-db"
  | configure => "configure"
  | mcp => "mcp"

def all : List CommandName := [ask, check, introspect, initDb, configure, mcp]

def ofText? (s : String) : Option CommandName := all.find? (·.text == s)

theorem ofText?_text (c : CommandName) : ofText? c.text = some c := by
  cases c <;> rfl

end CommandName

structure Gathered where
  verbosity : Nat := 0
  config : Option String := none
  dialect : Option Dialect := none
  script : Option String := none
  word : Option String := none
deriving Repr, DecidableEq

inductive Stop where
  | version
  | help
  /-- They make no sense. -/
  | misuse
deriving Repr, DecidableEq

inductive Level where
  | program
  | command (c : CommandName)
deriving Repr, DecidableEq

namespace Gathered

private def once {α : Type} (place : Option α) (value : α) : Except Stop (Option α) :=
  match place with
  | none => .ok (some value)
  | some _ => .error .misuse

def putOption (g : Gathered) (level : Level) (name value : String) : Except Stop Gathered := do
  if name = "config" then
    if value.isEmpty then throw .misuse
    return { g with config := ← once g.config value }
  else if name = "dialect" && level = .command .check then
    match Dialect.ofName? value with
    | some d => return { g with dialect := ← once g.dialect d }
    | none => throw .misuse
  else if name = "script" && level = .command .initDb then
    if value.isEmpty then throw .misuse
    return { g with script := ← once g.script value }
  else throw .misuse

def hasValue (level : Level) (name : String) : Bool :=
  name = "config" || (name = "dialect" && level = .command .check) ||
    (name = "script" && level = .command .initDb)

def putFlag (g : Gathered) (level : Level) (name : String) : Except Stop Gathered :=
  if name = "verbose" || name = "v" then .ok { g with verbosity := g.verbosity + 1 }
  else if name = "help" || name = "h" then .error .help
  else if (name = "version" || name = "V") && level = .program then .error .version
  else .error .misuse

def putWord (g : Gathered) (level : Level) (word : String) : Except Stop Gathered := do
  match level with
  | .command .ask | .command .check => return { g with word := ← once g.word word }
  | _ => throw .misuse

end Gathered

inductive Argument where
  /-- Two hyphens alone. -/
  | ending
  | long (name : String) (value : Option String)
  | short (letters : List Char)
  | word (text : String)
deriving Repr, DecidableEq

def Argument.ofText (text : String) : Argument :=
  match text.toList with
  | ['-', '-'] => .ending
  | '-' :: '-' :: rest =>
    match rest.span (· != '=') with
    | (name, []) => .long (String.ofList name) none
    | (name, _ :: value) => .long (String.ofList name) (some (String.ofList value))
  | '-' :: c :: rest => .short (c :: rest)
  | _ => .word text

def readLevel (level : Level) : List String → Gathered → Except Stop (Gathered × Option (String × List String))
  | [], g => .ok (g, none)
  | text :: rest, g =>
    match Argument.ofText text with
    | .ending => do return (← rest.foldlM (·.putWord level) g, none)
    | .long name (some value) => do
      readLevel level rest (← if Gathered.hasValue level name then g.putOption level name value
        else throw .misuse)
    | .long name none =>
      if Gathered.hasValue level name then
        match rest with
        | value :: rest =>
          match Argument.ofText value with
          | .word value => do readLevel level rest (← g.putOption level name value)
          | _ => .error .misuse
        | [] => .error .misuse
      else do readLevel level rest (← g.putFlag level (if name.length < 2 then "" else name))
    | .short letters => do
      readLevel level rest (← letters.foldlM (fun g c => g.putFlag level (String.singleton c)) g)
    | .word word =>
      match level with
      | .program => .ok (g, some (word, rest))
      | .command _ => do readLevel level rest (← g.putWord level word)

def Gathered.request (g : Gathered) : CommandName → Except Stop Request
  | .ask => needed g.word .ask
  | .check => needed g.word (.check · g.dialect)
  | .introspect => .ok (.run g.verbosity g.config .introspect)
  | .initDb => needed g.script .initDb
  | .configure => .ok .configure
  | .mcp => .ok (.run g.verbosity g.config .mcp)
where
  /-- A command with something that has to be there. -/
  needed (value : Option String) (f : String → Command) : Except Stop Request :=
    match value with
    | some v => .ok (.run g.verbosity g.config (f v))
    | none => .error .misuse

def askedHelp (rest : List String) : Stop :=
  match rest with
  | [] => .help
  | [name] => if name == "help" || (CommandName.ofText? name).isSome then .help else .misuse
  | _ => .misuse

def readArguments (arguments : List String) : Except Stop Request := do
  let (g, rest) ← readLevel .program arguments {}
  match rest with
  | none => throw .misuse
  | some ("help", rest) => throw (askedHelp rest)
  | some (name, rest) =>
    match CommandName.ofText? name with
    | none => throw .misuse
    | some c =>
      let (own, _) ← readLevel (.command c) rest {}
      { own with verbosity := g.verbosity + own.verbosity, config := own.config.or g.config }.request c

/-- What the arguments ask for; `none` if they make no sense. -/
def Request.ofArguments? (arguments : List String) : Option Request :=
  match readArguments arguments with
  | .ok r => some r
  | .error .version => some .version
  | .error .help => some .help
  | .error .misuse => none

/-! Log levels by how often `-v` is given. -/

def logLevel : Nat → String
  | 0 => "warn"
  | 1 => "info"
  | 2 => "debug"
  | _ => "trace"

def programName : String := "sqlsentry"

def logDirective (count : Nat) : String := programName ++ "=" ++ logLevel count

end QueryWarden.Cli
