import QueryWarden.Sql.Grammar.Name

/-! The definitions of columns and what they share with other definitions. A definition is read and
checked, and leaves nothing in the tree. -/
namespace QueryWarden.Sql.Grammar
open Sql.Parser

variable (g : Grammar)

def signedNumber : Parser Unit := do
  unless ← mark? "+" do
    let _ ← mark? "-"
  let _ ← g.numberValue

def parenExpr : Parser Expr := inParens g.expr

def direction? : Parser Unit := do
  let _ ← wordOf? ["ASC", "DESC"]

def partitionOption : Parser Unit := do
  expectWord "PARTITION"
  inParens do
    let _ ← ident
    expectWord "RANGE"
    let _ ← wordOf? ["LEFT", "RIGHT"]
    expectWords ["FOR", "VALUES"]
    let _ ← inParens g.exprs

def clusteredOption : Parser Unit := do
  if ← words? ["CLUSTERED", "COLUMNSTORE", "INDEX", "ORDER"] then
    let _ ← g.columnList
  else if ← words? ["CLUSTERED", "COLUMNSTORE", "INDEX"] then return
  else if ← words? ["CLUSTERED", "INDEX"] then
    inParens do
      let _ ← g.commas do
        let _ ← ident
        direction?
  else fail "invalid CLUSTERED sequence"

def setting : Parser Unit := do
  let k ← keyAt 0
  if g.speaks [.mssql, .generic] && k == "HEAP" then skip
  else if g.speaks [.mssql, .generic] && k == "PARTITION" then g.partitionOption
  else if g.speaks [.mssql, .generic] && k == "CLUSTERED" then g.clusteredOption
  else
    let _ ← ident
    expectMark "="
    let _ ← g.expr

def settings? (k : String) : Parser Unit := do
  if ← word? k then
    let _ ← inParens (listOrNone g.budget ")" g.setting)

def referentialAction : Parser Unit := do
  if ← word? "RESTRICT" then return
  else if ← word? "CASCADE" then return
  else if ← words? ["SET", "NULL"] then return
  else if ← words? ["NO", "ACTION"] then return
  else if ← words? ["SET", "DEFAULT"] then return
  else expected "one of RESTRICT, CASCADE, SET NULL, NO ACTION or SET DEFAULT"

def constraintTiming (deferrable : Bool := false) (initially : Bool := false)
    (enforced : Bool := false) (rounds : Nat := 3) : Parser Unit :=
  match rounds with
  | 0 => Parser.pure ()
  | rounds + 1 => do
    if ← provided (!deferrable) (words? ["NOT", "DEFERRABLE"]) then
      constraintTiming true initially enforced rounds
    else if ← provided (!deferrable) (word? "DEFERRABLE") then
      constraintTiming true initially enforced rounds
    else if ← provided (!initially) (word? "INITIALLY") then
      if (← wordOf? ["DEFERRED", "IMMEDIATE"]).isNone then expected "one of DEFERRED or IMMEDIATE"
      constraintTiming deferrable true enforced rounds
    else if ← provided (!enforced) (word? "ENFORCED") then
      constraintTiming deferrable initially true rounds
    else if ← provided (!enforced) (words? ["NOT", "ENFORCED"]) then
      constraintTiming deferrable initially true rounds

def references : Parser Unit := do
  let _ ← g.objectName
  let _ ← g.columnList?
  actions false false 2
  constraintTiming
where
  actions (onDelete onUpdate : Bool) : Nat → Parser Unit
    | 0 => Parser.pure ()
    | rounds + 1 => do
      if ← provided (!onDelete) (words? ["ON", "DELETE"]) then
        referentialAction
        actions true onUpdate rounds
      else if ← provided (!onUpdate) (words? ["ON", "UPDATE"]) then
        referentialAction
        actions onDelete true rounds

def sequenceOptions : Parser Unit := do
  if ← word? "INCREMENT" then
    let _ ← word? "BY"
    g.signedNumber
  if ← word? "MINVALUE" then g.signedNumber
  else
    let _ ← words? ["NO", "MINVALUE"]
  if ← word? "MAXVALUE" then g.signedNumber
  else
    let _ ← words? ["NO", "MAXVALUE"]
  if ← word? "START" then
    let _ ← word? "WITH"
    g.signedNumber
  if ← word? "CACHE" then g.signedNumber
  unless ← words? ["NO", "CYCLE"] do
    let _ ← word? "CYCLE"

def generated? : Parser Bool := do
  if ← words? ["ALWAYS", "AS", "IDENTITY"] then identity
  else if ← words? ["BY", "DEFAULT", "AS", "IDENTITY"] then identity
  else if ← words? ["ALWAYS", "AS"] then
    if ← mark? "(" then
      let _ ← g.expr
      expectMark ")"
      if ← word? "STORED" then return true
      else if g.speaks [.postgres] then expected "STORED"
      else
        let _ ← word? "VIRTUAL"
        return true
    else return false
  else return false
where
  identity : Parser Bool := do
    if ← mark? "(" then
      g.sequenceOptions
      expectMark ")"
    return true

/-- A property of a column, if one comes next. The keyword of a property that the dialect does not
know is passed all the same, and what follows it is looked at. -/
def columnProperty? : Parser Bool := do
  if ← words? ["CHARACTER", "SET"] then
    let _ ← g.objectName
    return true
  else if ← words? ["NOT", "NULL"] then return true
  else if ← word? "COMMENT" then
    match ← peek with
    | some (.literal .single _) => skip; return true
    | _ => expected "string"
  else if ← word? "NULL" then return true
  else if ← word? "DEFAULT" then valued
  else if ← g.onlyIn [.generic] (word? "MATERIALIZED") then valued
  else if ← g.onlyIn [.generic] (word? "ALIAS") then valued
  else if ← g.onlyIn [.generic] (word? "EPHEMERAL") then
    if [",", ")"].contains (← symbolAt 0) then return true else valued
  else if ← words? ["PRIMARY", "KEY"] then timed
  else if ← word? "UNIQUE" then timed
  else if ← word? "REFERENCES" then
    g.references
    return true
  else if ← word? "CHECK" then
    let _ ← g.parenExpr
    return true
  else if (← word? "AUTO_INCREMENT") && g.speaks [.mysql, .generic] then return true
  else if (← word? "AUTOINCREMENT") && g.speaks [.sqlite, .generic] then return true
  else if (← word? "ASC") && g.speaks [.sqlite, .generic] then return true
  else if (← word? "DESC") && g.speaks [.sqlite, .generic] then return true
  else if (← words? ["ON", "UPDATE"]) && g.speaks [.mysql, .generic] then valued
  else if ← word? "GENERATED" then g.generated?
  else if g.speaks [.generic] && (← wordsAhead ["OPTIONS"]) then
    g.settings? "OPTIONS"
    return true
  else if (← word? "AS") && g.speaks [.mysql, .sqlite, .generic] then
    let _ ← g.parenExpr
    unless ← word? "STORED" do
      let _ ← word? "VIRTUAL"
    return true
  else if (← word? "IDENTITY") && g.speaks [.mssql, .generic] then
    if ← mark? "(" then
      g.signedNumber
      expectMark ","
      g.signedNumber
      expectMark ")"
    return true
  else if ← g.onlyIn [.sqlite, .generic] (words? ["ON", "CONFLICT"]) then
    let _ ← expectWordOf ["ROLLBACK", "ABORT", "FAIL", "IGNORE", "REPLACE"]
    return true
  else return false
where
  valued : Parser Bool := do
    let _ ← g.expr
    return true
  timed : Parser Bool := do
    constraintTiming
    return true

def typeIsMissing : Parser Bool := do
  if g.speaks [.sqlite] then
    match ← peek with
    | some (.word w) => return ["CONSTRAINT", "PRIMARY", "NOT", "UNIQUE", "CHECK", "DEFAULT",
        "COLLATE", "REFERENCES", "GENERATED", "AS"].contains w.key
    | _ => return true
  else return false

def columnWith (type : Parser DataType) : Parser Unit := do
  let _ ← ident
  unless ← g.typeIsMissing do
    let _ ← type
  if ← word? "COLLATE" then
    let _ ← g.objectName
  let _ ← many g.budget do
    if ← word? "CONSTRAINT" then
      let _ ← ident
      if ← g.columnProperty? then return some ()
      else expected "constraint details after CONSTRAINT <name>"
    else if ← g.columnProperty? then return some ()
    else if ← g.onlyIn [.mysql, .generic] (word? "COLLATE") then
      let _ ← g.objectName
      return some ()
    else return none

end QueryWarden.Sql.Grammar
