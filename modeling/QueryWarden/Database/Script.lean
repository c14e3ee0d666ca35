import QueryWarden.Database.Prepared

/-! Running the statements of a text one after the other, and the rows of a single statement. -/
namespace QueryWarden.Database

def Fault.worded (f : Fault) (sql : String) : String :=
  match f.offset with
  | some n => f.message ++ " in " ++ sql ++ " at offset " ++ toString n
  | none => f.message

def afterBytes : Nat → List Char → List Char
  | 0, cs => cs
  | _, [] => []
  | n + 1, c :: cs => afterBytes (n + 1 - c.utf8Size) cs

/-- The first statement of a text, ready to run, and the byte where it ends; there is none where the
text has nothing but blanks and comments. -/
def Contents.prepareFirst (d : Contents) (there : String → Bool) (sql : String) :
    Except Fault (Option Prepared × Nat) := do
  match ← Grammar.firstStatement sql with
  | (none, n) => return (none, n)
  | (some st, n) => return (some (← st.prepare d there), n)

def Session.runAll (there : String → Bool) : (bound : Nat) → Session → List Char → Session × Option String
  | 0, s, _ => (s, none)
  | bound + 1, s, cs =>
    let sql := String.ofList cs
    match s.database.prepareFirst there sql with
    | .error f => (s, some (f.worded sql))
    | .ok (none, _) => (s, none)
    | .ok (some p, n) =>
      let step : Writing Unit := do
        let rows ← p.run
        let _ ← attempt rows.head?
      match step.run.run s with
      | (.error f, s) => (s, some f.message)
      | (.ok (), s) =>
        match afterBytes n cs with
        | [] => (s, none)
        | rest => s.runAll there bound rest

/-- Runs the statements of a text one after the other, and says why they did not all run. -/
def Session.runScript (s : Session) (there : String → Bool) (script : String) : Session × Option String :=
  s.runAll there (script.length + 1) script.toList

def Session.closed (s : Session) : Contents :=
  let d := s.before.getD s.database
  { d with entries := d.entries.filter (!·.temporary) }

def variableCount (sql : String) (ending : Nat) : Nat :=
  let vs := (Token.ofText sql).filter fun t => t.kind = .variable && t.offset < ending
  (vs.foldl (fun (count, seen) t =>
    match t.raw.toList with
    | '?' :: ds =>
      if ds.isEmpty then (count + 1, seen)
      else (max count (Nat.ofDigitChars 10 ds 0), seen)
    | _ => if seen.contains t.raw then (count, seen) else (count + 1, t.raw :: seen))
    (0, ([] : List String))).1

end QueryWarden.Database
