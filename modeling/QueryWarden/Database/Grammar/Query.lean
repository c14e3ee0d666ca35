import QueryWarden.Database.Numeral
import QueryWarden.Database.Reader

/-! Reading expressions and queries. Operators bind in the order of their levels; every reader is given a
bound on how deeply what it reads may nest. -/
namespace QueryWarden.Database.Grammar
open Reader

def hexValue (ds : List Char) : Nat :=
  ds.foldl (fun n d =>
    n * 16 + (if d.isDigit then d.toNat - 48 else (d.toLower.toNat - 97) + 10)) 0

def numeralValue (t : Token) : Value :=
  match t.value.toList with
  | '0' :: 'x' :: ds | '0' :: 'X' :: ds =>
    let n := Int.ofNat (hexValue ds % Nat.pow 2 64)
    .integer (if Int.pow 2 63 ≤ n then n - Int.pow 2 64 else n)
  | cs =>
    let n := Numeral.ofBytes (asciiBytes cs)
    if t.kind = .integer && isInteger n.integer then .integer n.integer else .real n.real

def hexBytes : List Char → List UInt8
  | a :: b :: rest => (hexValue [a, b]).toUInt8 :: hexBytes rest
  | _ => []

def literal? (t : Token) : Option Value :=
  match t.kind with
  | .integer | .real => some (numeralValue t)
  | .text => some (.ofString t.value)
  | .blob => some (.blob (hexBytes t.value.toList))
  | _ => if t.isWord "NULL" then some .null else none

def binaryOps : List (Nat × String × BinaryOp) :=
  [(5, "<=", .lessEqual), (5, ">=", .greaterEqual), (5, "<", .less), (5, ">", .greater),
    (4, "==", .equal), (4, "=", .equal), (4, "<>", .unequal), (4, "!=", .unequal),
    (7, "&", .bitAnd), (7, "|", .bitOr), (7, "<<", .shiftLeft), (7, ">>", .shiftRight),
    (8, "+", .add), (8, "-", .subtract), (9, "*", .multiply), (9, "/", .divide),
    (9, "%", .remainder), (10, "||", .concat), (10, "->>", .extractText), (10, "->", .extract)]

def binaryOp? (t : Token) : Option (Nat × BinaryOp) :=
  if t.isWord "OR" then some (1, .or)
  else if t.isWord "AND" then some (2, .and)
  else if t.kind = .symbol then (binaryOps.find? (·.2.1 = t.value)).map fun o => (o.1, o.2.2)
  else none

def patternOp? (t : Token) : Option PatternOp :=
  if t.isWord "LIKE" then some .like
  else if t.isWord "GLOB" then some .glob
  else if t.isWord "REGEXP" then some .regexp
  else if t.isWord "MATCH" then some .matches
  else none

def clockWords : List String := ["CURRENT_TIMESTAMP", "CURRENT_DATE", "CURRENT_TIME"]

def beginsQuery (t : Option Token) : Bool :=
  match t with
  | some t => t.isWord "SELECT" || t.isWord "VALUES" || t.isWord "WITH"
  | none => false

def joinKind? : Reader (Option (JoinKind × Bool)) := do
  if ← symbol "," then return some (.inner, false)
  let written ← many (takeIf fun t => Token.joinWords.any (t.isWord ·)) 3
  if written.isEmpty then
    if ← word "JOIN" then return some (.inner, false) else return none
  expect "JOIN"
  let has (w : String) : Bool := written.any (·.isWord w)
  let bad := (has "INNER" || has "CROSS") && (has "LEFT" || has "RIGHT" || has "FULL" || has "OUTER") ||
    (has "OUTER" && !(has "LEFT" || has "RIGHT" || has "FULL"))
  if bad then
    throw (Fault.of ("unknown join type: " ++ " ".intercalate (written.map (·.raw))))
  let kind : JoinKind :=
    if has "FULL" || (has "LEFT" && has "RIGHT") then .full
    else if has "LEFT" then .left
    else if has "RIGHT" then .right
    else if has "CROSS" then .cross
    else .inner
  return some (kind, has "NATURAL")

def setOp? : Reader (Option SetOp) := do
  if ← word "UNION" then
    if ← word "ALL" then return some .unionAll else return some .union
  if ← word "INTERSECT" then return some .intersect
  if ← word "EXCEPT" then return some .except
  return none

structure QueryPart where
  body : QueryBody
  order : List OrderTerm
  limit : Option Expr
  offset : Option Expr

def QueryPart.early? (p : QueryPart) (op : SetOp) : Option Fault :=
  if !p.order.isEmpty then
    some (.of ("ORDER BY clause should come after " ++ op.title ++ " not before"))
  else if p.limit.isSome then
    some (.of ("LIMIT clause should come after " ++ op.title ++ " not before"))
  else none

def beginsWindows : List Token → Bool
  | w :: n :: as :: _ => w.isWord "WINDOW" && n.isName && as.isWord "AS"
  | _ => false

def freeName? : Reader (Option Name) := do
  if beginsWindows (← get) then return none else looseName?

def sourceAlias : Reader (Option Name) := do
  if (← peek).any (·.isWord "INDEXED") then return none else freeName?

mutual
def expression (depth level : Nat) : Reader Expr :=
  match depth with
  | 0 => throw tooDeep
  | depth + 1 => do
    let left ← operand depth
    grow (operation depth level) ((← Reader.left) + 1) left
def operation (depth level : Nat) (left : Expr) : Reader (Option Expr) :=
  match depth with
  | 0 => return none
  | depth + 1 => do
    let some t ← peek | return none
    match binaryOp? t with
    | some (at_, op) =>
      if at_ < level then return none
      let _ ← take fun _ => true
      return some (.binary op left (← expression depth (at_ + 1)))
    | none =>
      if t.isWord "COLLATE" && level ≤ 11 then
        let _ ← take fun _ => true
        let c ← take fun t => t.isLooseName || t.kind = .text
        return some (.collate left c.value)
      if 4 < level then return none
      if t.isWord "ISNULL" then
        let _ ← take fun _ => true
        return some (.isNull false left)
      if t.isWord "NOTNULL" then
        let _ ← take fun _ => true
        return some (.isNull true left)
      if t.isWord "IS" then
        let _ ← take fun _ => true
        let negated ← word "NOT"
        let distinct ← words ["DISTINCT", "FROM"]
        let right ← expression depth 5
        return some (.binary (if negated != distinct then .isNot else .is) left right)
      let negated ← word "NOT"
      let some t ← peek | if negated then fail else return none
      if negated && t.isWord "NULL" then
        let _ ← take fun _ => true
        return some (.isNull true left)
      if t.isWord "BETWEEN" then
        let _ ← take fun _ => true
        let low ← expression depth 4
        expect "AND"
        return some (.between negated left low (← expression depth 5))
      if t.isWord "IN" then
        let _ ← take fun _ => true
        if ← symbol "(" then
          let inner ←
            if beginsQuery (← peek) then
              pure (Expr.inQuery negated left (← query depth))
            else if (← peek).any (·.isSymbol ")") then pure (Expr.inList negated left [])
            else pure (Expr.inList negated left (← listOf (expression depth 1)))
          expectSymbol ")"
          return some inner
        let table ← name
        let table ← if ← symbol "." then name else pure table
        return some (.inQuery negated left (.mk [] (.select false [.all]
          [.mk .inner false (.table none table) none none []] none [] none []) [] none none))
      match patternOp? t with
      | some op =>
        let _ ← take fun _ => true
        let p ← expression depth 5
        let escape ← if ← word "ESCAPE" then some <$> expression depth 7 else pure none
        return some (.pattern op negated left p escape)
      | none => if negated then fail else return none
def operand (depth : Nat) : Reader Expr :=
  match depth with
  | 0 => throw tooDeep
  | depth + 1 => do
    let some t ← peek | fail
    if t.isWord "NOT" then
      let _ ← take fun _ => true
      return .unary .not (← expression depth 3)
    if t.isSymbol "-" then
      let _ ← take fun _ => true
      let least ← takeIf fun t => t.kind = .integer && t.value = "9223372036854775808"
      if least.isSome then return .value (.integer leastInteger)
      return .unary .minus (← expression depth 12)
    if t.isSymbol "+" then
      let _ ← take fun _ => true
      return .unary .plus (← expression depth 12)
    if t.isSymbol "~" then
      let _ ← take fun _ => true
      return .unary .complement (← expression depth 12)
    if t.isSymbol "(" then
      let _ ← take fun _ => true
      if beginsQuery (← peek) then
        let q ← query depth
        expectSymbol ")"
        return .scalar q
      let items ← listOf (expression depth 1)
      expectSymbol ")"
      match items with
      | [e] => return e
      | items => return .tuple items
    if let some v := literal? t then
      let _ ← take fun _ => true
      return .value v
    if t.kind = .variable then
      let _ ← take fun _ => true
      return .variable
    if t.isWord "CASE" then
      let _ ← take fun _ => true
      let base ← if (← peek).any (·.isWord "WHEN") then pure none else some <$> expression depth 1
      let arms ← many (do
        if ← word "WHEN" then
          let c ← expression depth 1
          expect "THEN"
          return some (c, ← expression depth 1)
        else return none) ((← left) + 1)
      if arms.isEmpty then fail
      let other ← if ← word "ELSE" then some <$> expression depth 1 else pure none
      expect "END"
      return .case base arms other
    if t.isWord "EXISTS" then
      let _ ← take fun _ => true
      expectSymbol "("
      let q ← query depth
      expectSymbol ")"
      return .exists q
    let called := (← peekSecond).any (·.isSymbol "(")
    if t.isWord "CAST" && called then
      let _ ← take fun _ => true
      expectSymbol "("
      let e ← expression depth 1
      expect "AS"
      let type ← Reader.type
      expectSymbol ")"
      return .cast e type
    if t.isWord "RAISE" && called then
      let _ ← take fun _ => true
      expectSymbol "("
      let action ← resolution
      let message ← if action = .ignore then pure "" else do
        expectSymbol ","
        (·.value) <$> take fun t => t.kind = .text
      expectSymbol ")"
      return .raise action message
    if clockWords.any (t.isWord ·) then
      let _ ← take fun _ => true
      return .call (nameOf t) false false [] [] none
    if t.isName && called then
      let _ ← take fun _ => true
      expectSymbol "("
      return ← arguments depth (nameOf t)
    if t.isName then
      let first ← name
      if ← symbol "." then
        let second ← name
        if ← symbol "." then return .name [first, second, ← name]
        return .name [first, second]
      return .name [first]
    fail
def arguments (depth : Nat) (function : Name) : Reader Expr :=
  match depth with
  | 0 => fail
  | depth + 1 => do
    let distinct ← word "DISTINCT"
    if !distinct then let _ ← word "ALL"
    let star ← if distinct then pure false else symbol "*"
    let items ←
      if star || (← peek).any (·.isSymbol ")") then pure []
      else listOf (expression depth 1)
    let order ← if !star && (← words ["ORDER", "BY"]) then listOf (orderTerm depth) else pure []
    expectSymbol ")"
    let filter ←
      if ((← peek).any (·.isWord "FILTER")) && ((← peekSecond).any (·.isSymbol "(")) then do
        expect "FILTER"
        expectSymbol "("
        expect "WHERE"
        let f ← expression depth 1
        expectSymbol ")"
        pure (some f)
      else pure none
    let after ← peekSecond
    if ((← peek).any (·.isWord "OVER")) && after.any (fun t => t.isSymbol "(" || t.isName) then
      expect "OVER"
      let w ←
        if ← symbol "(" then windowSpec depth
        else do pure (.mk (some (← name)) true [] [] none)
      if distinct then throw (Fault.of "DISTINCT is not supported for window functions")
      if !order.isEmpty then throw (.near (orderRefused function) function.offset)
      return .window function distinct star items filter w
    return .call function distinct star items order filter
def windowSpec (depth : Nat) : Reader WindowSpec :=
  match depth with
  | 0 => fail
  | depth + 1 => do
    let opening (t : Token) : Bool :=
      t.isWord "PARTITION" || t.isWord "ROWS" || t.isWord "RANGE" || t.isWord "GROUPS"
    let base ← takeIf fun t => t.isName && !opening t
    let partition ← if ← words ["PARTITION", "BY"] then listOf (expression depth 1) else pure []
    let order ← if ← words ["ORDER", "BY"] then listOf (orderTerm depth) else pure []
    let unit? ←
      if ← word "ROWS" then pure (some FrameUnit.rows)
      else if ← word "RANGE" then pure (some .range)
      else if ← word "GROUPS" then pure (some .groups)
      else pure none
    let frame ← match unit? with
      | none => pure none
      | some unit => do
        let (start, stop) ←
          if ← word "BETWEEN" then do
            let a ← frameBound depth true
            expect "AND"
            pure (a, ← frameBound depth false)
          else do pure (← frameBound depth true, FrameBound.here)
        let unfit := match start, stop with
          | .here, .before _ | .behind _, .before _ | .behind _, .here => true
          | _, _ => false
        let gap ←
          if ← word "EXCLUDE" then
            if ← word "NO" then do expect "OTHERS"; pure FrameGap.nothing
            else if ← word "CURRENT" then do expect "ROW"; pure .row
            else if ← word "GROUP" then pure .peers
            else do expect "TIES"; pure .ties
          else pure .nothing
        if unfit then throw (Fault.of "unsupported frame specification")
        pure (some (FrameSpec.mk unit start stop gap))
    expectSymbol ")"
    return .mk (base.map nameOf) false partition order frame
def frameBound (depth : Nat) (start : Bool) : Reader FrameBound :=
  match depth with
  | 0 => fail
  | depth + 1 => do
    if ← words ["CURRENT", "ROW"] then return .here
    if ← word "UNBOUNDED" then
      expect (if start then "PRECEDING" else "FOLLOWING")
      return if start then .first else .last
    let e ← expression depth 1
    if ← word "PRECEDING" then return .before e
    expect "FOLLOWING"
    return .behind e
def orderTerm (depth : Nat) : Reader OrderTerm :=
  match depth with
  | 0 => fail
  | depth + 1 => do
    let e ← expression depth 1
    let descending ← if ← word "DESC" then pure true else do let _ ← word "ASC"; pure false
    let nullsFirst ←
      if ← word "NULLS" then
        if ← word "FIRST" then pure (some true) else do expect "LAST"; pure (some false)
      else pure none
    return .mk e descending nullsFirst
def query (depth : Nat) : Reader Query :=
  match depth with
  | 0 => throw tooDeep
  | depth + 1 => do
    let tables ← commonTables depth
    let part : Reader QueryPart := do
      let body ← simpleQuery depth
      let order ← if ← words ["ORDER", "BY"] then listOf (orderTerm depth) else pure []
      if ← word "LIMIT" then
        let a ← expression depth 1
        if ← word "OFFSET" then return ⟨body, order, some a, some (← expression depth 1)⟩
        if ← symbol "," then return ⟨body, order, some (← expression depth 1), some a⟩
        return ⟨body, order, some a, none⟩
      return ⟨body, order, none, none⟩
    let first ← part
    let (whole, late) ← grow (fun (before, late) => do
      match ← setOp? with
      | none => return none
      | some op =>
        let next ← part
        return some ({ next with body := .compound op before.body next.body },
          late <|> before.early? op)) ((← Reader.left) + 1) (first, none)
    if let some f := late then throw f
    return .mk tables whole.body whole.order whole.limit whole.offset
def commonTables (depth : Nat) : Reader (List CommonTable) :=
  match depth with
  | 0 => fail
  | depth + 1 => do
    if ← word "WITH" then
      if (← peek).any (·.isWord "RECURSIVE") && !(← peekSecond).any (fun t => t.isWord "AS" || t.isSymbol "(") then
        expect "RECURSIVE"
      listOf do
        let n ← name
        let columns ← if (← peek).any (·.isSymbol "(") then names else pure []
        expect "AS"
        if ← word "NOT" then expect "MATERIALIZED" else let _ ← word "MATERIALIZED"
        expectSymbol "("
        let q ← query depth
        expectSymbol ")"
        return .mk n (columns.map (·.text)) q
    else return []
def simpleQuery (depth : Nat) : Reader QueryBody :=
  match depth with
  | 0 => fail
  | depth + 1 => do
    if ← word "VALUES" then
      let rows ← listOf do
        expectSymbol "("
        let r ← listOf (expression depth 1)
        expectSymbol ")"
        return r
      return .values rows
    expect "SELECT"
    let distinct ← if ← word "DISTINCT" then pure true else do let _ ← word "ALL"; pure false
    let results ← listOf (resultItem depth)
    let sources ← if ← word "FROM" then sourceList depth else pure []
    let filter ← if ← word "WHERE" then some <$> expression depth 1 else pure none
    let groups ← if ← words ["GROUP", "BY"] then listOf (expression depth 1) else pure []
    let having ← if ← word "HAVING" then some <$> expression depth 1 else pure none
    let windows ← if ← word "WINDOW" then listOf do
        let n ← name
        expect "AS"
        expectSymbol "("
        return (n, ← windowSpec depth)
      else pure []
    return .select distinct results sources filter groups having windows
def resultItem (depth : Nat) : Reader ResultItem :=
  match depth with
  | 0 => fail
  | depth + 1 => do
    if ← symbol "*" then return .all
    let start ← get
    match start with
    | t :: dot :: star :: rest =>
      if t.isName && dot.isSymbol "." && star.isSymbol "*" then
        set rest
        return .allOf (nameOf t)
    | _ => pure ()
    let (e, written) ← spanned (expression depth 1)
    let label ← if ← word "AS" then (fun n => some n.text) <$> name
      else (fun n => n.map (·.text)) <$> freeName?
    return .expr e label written
def sourceList (depth : Nat) : Reader (List Source) :=
  match depth with
  | 0 => fail
  | depth + 1 => do
    let first ← oneSource depth .inner false
    let rest ← many (do
      match ← joinKind? with
      | some (kind, natural) => return some (← oneSource depth kind natural)
      | none => return none) ((← Reader.left) + 1)
    return first :: rest
def oneSource (depth : Nat) (kind : JoinKind) (natural : Bool) : Reader Source :=
  match depth with
  | 0 => fail
  | depth + 1 => do
    let what ←
      if ← symbol "(" then do
        let inner ←
          if beginsQuery (← peek) then SourceKind.query <$> query depth
          else SourceKind.group <$> sourceList depth
        expectSymbol ")"
        pure inner
      else do
        let first ← name
        let (schema, table) ← if ← symbol "." then pure (some first, ← name) else pure (none, first)
        if ← symbol "(" then
          let items ← if (← peek).any (·.isSymbol ")") then pure [] else listOf (expression depth 1)
          expectSymbol ")"
          pure (SourceKind.function table items)
        else pure (SourceKind.table schema table)
    let label ← if ← word "AS" then (fun n => some n.text) <$> name
      else (fun n => n.map (·.text)) <$> sourceAlias
    if ← word "INDEXED" then
      expect "BY"
      let _ ← name
    else let _ ← words ["NOT", "INDEXED"]
    let on ← if ← word "ON" then some <$> expression depth 1 else pure none
    let byNames ← if on.isNone then word "USING" else pure false
    let common ← if byNames then (·.map (·.text)) <$> names else pure []
    return .mk kind natural what label on common
end

def depthLimit : Nat := 1000

def anyExpression : Reader Expr := expression depthLimit 1

def anyQuery : Reader Query := query depthLimit

end QueryWarden.Database.Grammar
