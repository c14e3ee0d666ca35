import QueryWarden.Proofs.Database.Lasting
import QueryWarden.Proofs.Database.Names

/-! The two queries for the layout of a database: as what they are read, what they resolve to, and which rows they give.
The first gives the names of the tables that are not hidden, in their order, the second the columns of one table. -/
namespace QueryWarden.Database

variable {d : Contents}

/-! ## The queries as they are read -/

def writtenAt (n : Nat) (s : String) : Name := ⟨s, s, n, false⟩

def tablesTree : Query :=
  .mk [] (.select false [.expr (.name [writtenAt 7 "name"]) none "name"]
    [.mk .inner false (.table none (writtenAt 17 "sqlite_master")) none none []]
    (some (.binary .and (.binary .equal (.name [writtenAt 50 "type"]) (.value (.ofString "table")))
      (.pattern .like true (.name [writtenAt 82 "name"]) (.value (.ofString "sqlite_%")) none))) [] none [])
    [.mk (.name [writtenAt 129 "name"]) false none] none none

def columnsTree : Query :=
  .mk [] (.select false
    [.expr (.name [writtenAt 7 "name"]) none "name", .expr (.name [writtenAt 13 "type"]) none "type"]
    [.mk .inner false (.function (writtenAt 23 "pragma_table_info") [.variable]) none none []]
    none [] none []) [.mk (.name [writtenAt 54 "cid"]) false none] none none

/-! Trees cannot be compared, but the parts that these two are made of can, one by one. -/

def isName (n : Name) : Expr → Bool
  | .name [m] => m == n
  | _ => false

theorem eq_of_isName {n : Name} {e : Expr} (h : isName n e = true) : e = .name [n] := by
  unfold isName at h
  split at h
  · rw [eq_of_beq h]
  · cases h

def isText (s : String) : Expr → Bool
  | .value (.text bs) => bs == Text.Utf8.bytes s
  | _ => false

theorem eq_of_isText {s : String} {e : Expr} (h : isText s e = true) : e = .value (.ofString s) := by
  unfold isText at h
  split at h
  · rw [eq_of_beq h]
    rfl
  · cases h

def isBinary (op : BinaryOp) (left right : Expr → Bool) : Expr → Bool
  | .binary o a b => o == op && left a && right b
  | _ => false

theorem eq_of_isBinary {op : BinaryOp} {left right : Expr → Bool} {a b e : Expr}
    (h : isBinary op left right e = true) (isLeft : ∀ {a'}, left a' = true → a' = a)
    (isRight : ∀ {b'}, right b' = true → b' = b) : e = .binary op a b := by
  unfold isBinary at h
  split at h
  · simp only [Bool.and_eq_true] at h
    obtain ⟨⟨same, one⟩, other⟩ := h
    rw [eq_of_beq same, isLeft one, isRight other]
  · cases h

def isUnlike (n : Name) (pattern : String) : Expr → Bool
  | .pattern .like true a b none => isName n a && isText pattern b
  | _ => false

theorem eq_of_isUnlike {n : Name} {pattern : String} {e : Expr} (h : isUnlike n pattern e = true) :
    e = .pattern .like true (.name [n]) (.value (.ofString pattern)) none := by
  unfold isUnlike at h
  split at h
  · obtain ⟨one, other⟩ := Bool.and_eq_true_iff.mp h
    rw [eq_of_isName one, eq_of_isText other]
  · cases h

def isResult (n : Name) (span : String) : ResultItem → Bool
  | .expr e none s => isName n e && s == span
  | _ => false

theorem eq_of_isResult {n : Name} {span : String} {r : ResultItem} (h : isResult n span r = true) :
    r = .expr (.name [n]) none span := by
  unfold isResult at h
  split at h
  · obtain ⟨one, same⟩ := Bool.and_eq_true_iff.mp h
    rw [eq_of_isName one, eq_of_beq same]
  · cases h

/-- A query that selects from one source, ordered by one name, with conditions on its parts. -/
def isPlain (results : List ResultItem → Bool) (source : SourceKind → Bool) (filter : Option Expr → Bool) (key : Name) :
    Query → Bool
  | .mk [] (.select false rs [.mk .inner false s none none []] f [] none []) [.mk e false none] none none =>
    results rs && source s && filter f && isName key e
  | _ => false

theorem eq_of_isPlain {results : List ResultItem → Bool} {source : SourceKind → Bool} {filter : Option Expr → Bool}
    {key : Name} {q : Query} {rs : List ResultItem} {s : SourceKind} {f : Option Expr}
    (h : isPlain results source filter key q = true) (isResults : ∀ {rs'}, results rs' = true → rs' = rs)
    (isSource : ∀ {s'}, source s' = true → s' = s) (isFilter : ∀ {f'}, filter f' = true → f' = f) :
    q = .mk [] (.select false rs [.mk .inner false s none none []] f [] none []) [.mk (.name [key]) false none]
      none none := by
  unfold isPlain at h
  split at h
  · simp only [Bool.and_eq_true] at h
    obtain ⟨⟨⟨shown, from_⟩, kept⟩, ordered⟩ := h
    rw [isResults shown, isSource from_, isFilter kept, eq_of_isName ordered]
  · cases h

def isTablesTree : Query → Bool :=
  isPlain (fun | [r] => isResult (writtenAt 7 "name") "name" r | _ => false)
    (fun | .table none n => n == writtenAt 17 "sqlite_master" | _ => false)
    (fun
      | some e => isBinary .and (isBinary .equal (isName (writtenAt 50 "type")) (isText "table"))
          (isUnlike (writtenAt 82 "name") "sqlite_%") e
      | none => false)
    (writtenAt 129 "name")

theorem eq_tablesTree {q : Query} (h : isTablesTree q = true) : q = tablesTree := by
  refine eq_of_isPlain h ?_ ?_ ?_
  · intro rs shown
    split at shown
    · rw [eq_of_isResult shown]
    · cases shown
  · intro s named
    split at named
    · rw [eq_of_beq named]
    · cases named
  · intro f kept
    split at kept
    · have kinds : ∀ {a}, isBinary .equal (isName (writtenAt 50 "type")) (isText "table") a = true →
        a = .binary .equal (.name [writtenAt 50 "type"]) (.value (.ofString "table")) :=
        fun h => eq_of_isBinary h eq_of_isName eq_of_isText
      rw [eq_of_isBinary kept kinds eq_of_isUnlike]
    · cases kept

/-- A statement is a query if it looks like it to someone who knows the query by its looks. -/
theorem firstStatement_query {sql : String} {size : Nat} {q : Query} {looks : Query → Bool}
    (known : ∀ {q'}, looks q' = true → q' = q)
    (told : ((Grammar.firstStatement sql).toOption.any fun r => r.2 == size && r.1.any fun
      | .query q' => looks q'
      | _ => false) = true) :
    Grammar.firstStatement sql = .ok (some (.query q), size) := by
  obtain ⟨⟨st?, n⟩, parsed, seen⟩ := (Option.any_eq_true _ _).mp told
  obtain ⟨ending, one⟩ := Bool.and_eq_true_iff.mp seen
  obtain ⟨st, there, right⟩ := (Option.any_eq_true _ _).mp one
  obtain rfl := eq_of_beq ending
  obtain rfl : st? = some st := there
  cases st with
  | query q' => rw [toOption_eq_some.mp parsed, known right]
  | _ => cases right

theorem firstStatement_tablesQuery : Grammar.firstStatement tablesQuery = .ok (some (.query tablesTree), 133) :=
  firstStatement_query eq_tablesTree (by decide +kernel)

def isColumnsTree : Query → Bool :=
  isPlain
    (fun
      | [r, t] => isResult (writtenAt 7 "name") "name" r && isResult (writtenAt 13 "type") "type" t
      | _ => false)
    (fun | .function n [.variable] => n == writtenAt 23 "pragma_table_info" | _ => false)
    (fun | none => true | some _ => false) (writtenAt 54 "cid")

theorem eq_columnsTree {q : Query} (h : isColumnsTree q = true) : q = columnsTree := by
  refine eq_of_isPlain h ?_ ?_ ?_
  · intro rs shown
    split at shown
    · obtain ⟨one, other⟩ := Bool.and_eq_true_iff.mp shown
      rw [eq_of_isResult one, eq_of_isResult other]
    · cases shown
  · intro s named
    split at named
    · rw [eq_of_beq named]
    · cases named
  · intro f kept
    split at kept
    · rfl
    · cases kept

theorem firstStatement_columnsQuery : Grammar.firstStatement columnsQuery = .ok (some (.query columnsTree), 57) :=
  firstStatement_query eq_columnsTree (by decide +kernel)

/-! ## What they resolve to -/

theorem resolve_plain (n : Nat) (x : Context) (order : List OrderTerm)
    (distinct results sources filter groups having windows) :
    (Query.mk [] (.select distinct results sources filter groups having windows) order none none).resolve (n + 1) x =
      (QueryBody.select distinct results sources filter groups having windows).resolve n x order none none := rfl

def catalogueAnswer : TableAnswer := ⟨"sqlite_master", .catalogue false, catalogueFields, false, none⟩

theorem named_catalogue (readable : d.unreadable = none) (n : Nat) (s : Gathered) :
    (TableAnswer.named (n + 1) ⟨d, [], [], [], false⟩ none (writtenAt 17 "sqlite_master")).run s =
      .ok (catalogueAnswer, s) := by
  have known : catalogueNamed? (writtenAt 17 "sqlite_master").text = some false := by decide
  unfold TableAnswer.named
  simp only [Contents.refuseUnreadable, readable, Option.isSome, List.dropWhile, known]
  rfl

def catalogueSource : Sourced := catalogueAnswer.sourced .empty .inner 0 "sqlite_master" none

theorem sources_catalogue (readable : d.unreadable = none) (n : Nat) (s : Gathered) :
    (SourceSet.resolve (n + 2) ⟨d, [], [], [], false⟩
      [.mk .inner false (.table none (writtenAt 17 "sqlite_master")) none none []] .empty).run s =
      .ok (⟨[catalogueSource], 5, []⟩, s) := by
  unfold SourceSet.resolve
  simp only [List.foldlM_cons, List.foldlM_nil, StateT.run_bind, named_catalogue readable n s]
  rfl

def typeCell : Term := .cell 0 0 (some .text) (some .binary)

def nameCell : Term := .cell 0 1 (some .text) (some .binary)

def likeness : Scalar := ⟨"like", 2, some 3, fun _ vs => Scalar.likeFunction vs⟩

def filterTerm : Term :=
  .binary .and (.compare .equal (some .text) .binary typeCell (.value (.ofString "table")))
    (.unary .not (.call likeness .binary [.value (.ofString "sqlite_%"), nameCell]))

def tablesPlan : Plan :=
  .select 5 [.mk .inner 0 5 (.catalogue false) none] (some filterTerm)
    none [] [nameCell] none [.mk nameCell ⟨.binary, false, true⟩] none none

def tablesAnswer : Answer := ⟨tablesPlan, [⟨"name", "name", none, some .text, some .binary, "TEXT"⟩]⟩

theorem answer_tablesTree (readable : d.unreadable = none) :
    tablesTree.answer ⟨d, [], [], [], false⟩ = .ok tablesAnswer := by
  unfold Query.answer tablesTree resolveDepth
  rw [resolve_plain]
  unfold QueryBody.resolve
  simp only [apart, StateT.run_bind, StateT.run_get, StateT.run_set, pure_bind, sources_catalogue readable]
  rfl

def columnsPlan : Plan :=
  .select 6 [.mk .inner 0 6 (.function (.columns false) [.given]) none] none none []
    [.cell 0 1 (some .text) (some .binary), .cell 0 2 (some .text) (some .binary)] none
    [.mk (.cell 0 0 (some .integer) (some .binary)) ⟨.binary, false, true⟩] none none

def columnsAnswer : Answer :=
  ⟨columnsPlan, [⟨"name", "name", none, some .text, some .binary, ""⟩,
    ⟨"type", "type", none, some .text, some .binary, ""⟩]⟩

theorem answer_columnsTree (readable : d.unreadable = none) :
    columnsTree.answer ⟨d, [], [], [], false⟩ = .ok columnsAnswer := by
  have known :
      (if (String.ofList ((writtenAt 23 "pragma_table_info").text.toList.map Char.toLower)).startsWith "pragma_" then
        TableFunction.named?
          ((String.ofList ((writtenAt 23 "pragma_table_info").text.toList.map Char.toLower)).drop 7).toString
      else none) = some (.columns false) := by decide +kernel
  unfold Query.answer columnsTree resolveDepth
  rw [resolve_plain]
  unfold QueryBody.resolve
  simp only [apart, StateT.run_bind, StateT.run_get, StateT.run_set, pure_bind]
  unfold SourceSet.resolve
  simp only [List.foldlM_cons, List.foldlM_nil, StateT.run_bind, Contents.refuseUnreadable, readable, known]
  rfl

theorem answer_unreadable {message : String} (unreadable : d.unreadable = some message) :
    tablesTree.answer ⟨d, [], [], [], false⟩ = .error (.of message) := by
  unfold Query.answer tablesTree resolveDepth
  rw [resolve_plain]
  unfold QueryBody.resolve
  simp only [apart, StateT.run_bind, StateT.run_get, StateT.run_set, pure_bind]
  unfold SourceSet.resolve
  simp only [List.foldlM_cons, List.foldlM_nil, StateT.run_bind]
  unfold TableAnswer.named
  simp only [Contents.refuseUnreadable, unreadable, Option.isSome, List.dropWhile]
  rfl

theorem prepare_query (q : Query) (there : String → Bool) : (Statement.query q).prepare d there =
    (q.answer ⟨d, [], [], [], false⟩).map Prepared.query := by
  have quiet : (Statement.query q).asksForObjects = false := rfl
  unfold Statement.prepare Statement.ready
  simp only [quiet]
  cases q.answer ⟨d, [], [], [], false⟩ <;> rfl

theorem prepareFirst_query {sql : String} {q : Query} {n : Nat} (there : String → Bool)
    (parsed : Grammar.firstStatement sql = .ok (some (.query q), n)) :
    d.prepareFirst there sql = (q.answer ⟨d, [], [], [], false⟩).map fun a => (some (Prepared.query a), n) := by
  unfold Contents.prepareFirst
  rw [parsed]
  show ((Statement.query q).prepare d there >>= _) = _
  rw [prepare_query]
  cases q.answer ⟨d, [], [], [], false⟩ <;> rfl

theorem prepareFirst_tablesQuery (there : String → Bool) (readable : d.unreadable = none) :
    d.prepareFirst there tablesQuery = .ok (some (.query tablesAnswer), 133) := by
  rw [prepareFirst_query there firstStatement_tablesQuery, answer_tablesTree readable]
  rfl

theorem prepareFirst_columnsQuery (there : String → Bool) (readable : d.unreadable = none) :
    d.prepareFirst there columnsQuery = .ok (some (.query columnsAnswer), 57) := by
  rw [prepareFirst_query there firstStatement_columnsQuery, answer_columnsTree readable]
  rfl

theorem prepareFirst_unreadable (there : String → Bool) {message : String}
    (unreadable : d.unreadable = some message) : d.prepareFirst there tablesQuery = .error (.of message) := by
  rw [prepareFirst_query there firstStatement_tablesQuery, answer_unreadable unreadable]
  rfl

/-! ## What comes of a query with one source -/

namespace Rows
variable {α β : Type}

theorem filterMap_ofList {ι : Type} {r : ι → α} {f : α → Except Fault (Option β)} {g : ι → Option β}
    (is : List ι) (same : ∀ i, f (r i) = .ok (g i)) : (ofList (is.map r)).filterMap f = ofList (is.filterMap g) := by
  induction is with
  | nil => rfl
  | cons i is ih =>
    rw [List.map_cons, ofList, filterMap, same i, List.filterMap_cons]
    cases g i with
    | none => exact ih
    | some b => exact congrArg (fun rows => Rows.row b fun _ => rows) ih

theorem map_ofList {ι : Type} {r : ι → α} {f : α → Except Fault (Option β)} {g : ι → β} (is : List ι)
    (same : ∀ i, f (r i) = .ok (some (g i))) : (ofList (is.map r)).filterMap f = ofList (is.map g) := by
  rw [filterMap_ofList (g := fun i => some (g i)) is same, List.filterMap_eq_map']

theorem collect_go_ofList (seen as : List α) : collect.go seen (ofList as) = .ok (seen.reverse ++ as) := by
  induction as generalizing seen with
  | nil => rw [ofList, collect.go, List.append_nil]
  | cons a as ih => rw [ofList, collect.go, ih, List.reverse_cons, List.append_assoc, List.singleton_append]

theorem collect_ofList (as : List α) : (ofList as).collect = .ok as := collect_go_ofList [] as

theorem append_done (as : List α) : (ofList as).append (fun _ => .done) = ofList as := by
  induction as with
  | nil => rfl
  | cons a as ih => exact congrArg (fun rows => Rows.row a fun _ => rows) ih

end Rows

theorem filterMap_ite {ι α : Type} (p : ι → Bool) (f : ι → α) (is : List ι) :
    is.filterMap (fun i => if p i = true then some (f i) else none) = (is.filter p).map f := by
  induction is with
  | nil => rfl
  | cons i is ih => cases h : p i <;> simp [h, ih]

/-- The cells of a query with one source, of which a row is known. -/
def framed (width : Nat) (row : List Value) : Frame := ⟨placed (Array.replicate width .null) 0 row, #[], #[]⟩

theorem placed_of_lt {row : List Value} {cells : Array Value} {start i : Nat} (before : i < start) :
    (placed cells start row)[i]? = cells[i]? := by
  induction row generalizing cells start with
  | nil => rfl
  | cons v row ih =>
    show (placed (cells.setIfInBounds start v) (start + 1) row)[i]? = _
    rw [ih (Nat.lt_succ_of_lt before), Array.getElem?_setIfInBounds_ne (Nat.ne_of_gt before)]

theorem placed_at {row : List Value} {cells : Array Value} {start i : Nat} {v : Value}
    (fits : start + row.length ≤ cells.size) (here : row[i]? = some v) :
    (placed cells start row)[start + i]? = some v := by
  induction row generalizing cells start i with
  | nil => cases here
  | cons w row ih =>
    rw [List.length_cons] at fits
    show (placed (cells.setIfInBounds start w) (start + 1) row)[start + i]? = _
    cases i with
    | zero =>
      obtain rfl : w = v := Option.some.inj here
      show (placed (cells.setIfInBounds start w) (start + 1) row)[start]? = _
      rw [placed_of_lt (Nat.lt_add_one start), Array.getElem?_setIfInBounds_self_of_lt (by omega)]
    | succ i =>
      rw [show start + (i + 1) = start + 1 + i by omega]
      exact ih (by rw [Array.size_setIfInBounds]; omega) here

/-- A cell of a query with one source. -/
theorem eval_cell {n width i : Nat} {s : Surroundings} {row : List Value} {v : Value} (fits : row.length ≤ width)
    (here : row[i]? = some v) (affinity : Option Affinity) (collation : Option Collation) :
    (Term.cell 0 i affinity collation).eval (n + 1) (s.enter (framed width row)) = .ok v := by
  have found : (placed (Array.replicate width .null) 0 row)[0 + i]? = some v := placed_at (by simpa using fits) here
  rw [Nat.zero_add] at found
  show Except.ok ((placed (Array.replicate width .null) 0 row)[i]?.getD .null) = _
  rw [found]
  rfl

section
variable {n width : Nat} {s : Surroundings} {ι : Type} {is : List ι} {row : ι → List Value}

/-- A row that joins is kept exactly if the condition holds of it. -/
theorem row_kept (filter : Option Term) (f : Frame) (holds : Bool) :
    (filter.elim (.ok (.ofBool true)) (Term.eval n (s.enter f))) = .ok (.ofBool holds) → (do
      let fits ← (match filter with
        | none => .ok true
        | some t => do return (← t.eval n (s.enter f)).truth? = some true : Except Fault Bool)
      return if fits = true then some f else none : Except Fault (Option Frame)) =
        .ok (if holds = true then some f else none) := by
  intro condition
  cases filter with
  | none =>
    cases holds with
    | true => rfl
    | false => cases condition
  | some t =>
    replace condition : t.eval n (s.enter f) = .ok (.ofBool holds) := condition
    simp only [condition]
    cases holds <;> rfl

/-- A row that is kept gives what is asked for, and by what it is ordered. -/
theorem row_answered {f : Frame} {results : List Term} {e : Term} {d : Direction} {out : List Value} {key : Value}
    (shown : results.mapM (Term.eval n (s.enter f)) = .ok out) (ordered : e.eval n (s.enter f) = .ok key) :
    (do
      return some (← results.mapM (Term.eval n (s.enter f)),
        ← [OrderKey.mk e d].mapM fun | .mk e _ => e.eval n (s.enter f)) :
        Except Fault (Option (List Value × List Value))) = .ok (some (out, [key])) := by
  rw [shown, List.mapM_cons, List.mapM_nil]
  dsimp only
  rw [ordered]
  rfl

/-- The rows of a query with one source: those for which the condition holds, in their order, and of each what is
asked for. -/
theorem rows_select {j : Join} {filter : Option Term} {results : List Term} {e : Term} {d : Direction}
    {holds : ι → Bool} {out : ι → List Value} {key : ι → Value}
    (joined : j.rows (n + 1) s true (.row (.of (Array.replicate width .null)) fun _ => .done) =
      .ofList (is.map fun i => framed width (row i)))
    (condition : ∀ i, (filter.elim (.ok (.ofBool true)) (Term.eval (n + 1) (s.enter (framed width (row i))))) =
      .ok (.ofBool (holds i)))
    (shown : ∀ i, results.mapM (Term.eval (n + 1) (s.enter (framed width (row i)))) = .ok (out i))
    (ordered : ∀ i, e.eval (n + 1) (s.enter (framed width (row i))) = .ok (key i)) :
    (Plan.select width [j] filter none [] results none [.mk e d] none none).rows (n + 2) s =
      .ofList (((is.filter holds).mergeSort fun a b => d.compare (key a) (key b) != .gt).map out) := by
  have single : ∀ a b, compareIn [d] [key a] [key b] = d.compare (key a) (key b) := by
    intro a b
    rw [compareIn]
    cases d.compare (key a) (key b) <;> rfl
  unfold Plan.rows
  dsimp only
  rw [List.foldl_cons, List.foldl_nil]
  dsimp only
  rw [joined, if_neg (show ¬ [OrderKey.mk e d].isEmpty = true by simp),
    if_pos (show ([] : List Window).isEmpty = true from rfl),
    Rows.filterMap_ofList (g := fun i => if holds i = true then some (framed width (row i)) else none) is
      fun i => row_kept _ _ _ (condition i),
    filterMap_ite, Rows.map_ofList (g := fun i => (out i, [key i])) _ ?_, Rows.collect_ofList]
  show (Rows.filterMap _ (Rows.ofList (List.mergeSort (List.map _ _) _))).limited none none = _
  rw [← List.map_mergeSort (r := fun a b => d.compare (key a) (key b) != .gt)
      fun a _ b _ => congrArg (· != .gt) (single a b).symm,
    Rows.map_ofList (g := out) _ ?_]
  · rfl
  · exact fun _ => rfl
  · exact fun i => row_answered (shown i) (ordered i)

/-- Each row of a source that comes first is put into a frame of its own. -/
theorem framed_rows (width : Nat) (is : List ι) (row : ι → List Value) :
    (((Rows.ofList (is.map row)).filterMap fun r => .ok (some (framed width r, r))).filterMap fun p =>
      .ok (some p.1)).append (fun _ => .done) = .ofList (is.map fun i => framed width (row i)) := by
  have kept : (Rows.ofList (is.map row)).filterMap (fun r => .ok (some (framed width r, r))) =
      .ofList (is.map fun i => (framed width (row i), row i)) := Rows.map_ofList is fun _ => rfl
  have bare : (Rows.ofList (is.map fun i => (framed width (row i), row i))).filterMap (fun p => .ok (some p.1)) =
      .ofList (is.map fun i => framed width (row i)) := Rows.map_ofList is fun _ => rfl
  rw [kept, bare]
  exact Rows.append_done _

theorem joined_catalogue (n : Nat) (s : Surroundings) {es : List Entry} {row : Entry → List Value}
    (visited : s.database.catalogue false = es.map row) :
    (Join.mk .inner 0 5 (.catalogue false) none).rows (n + 2) s true
      (.row (.of (Array.replicate 5 .null)) fun _ => .done) = .ofList (es.map fun e => framed 5 (row e)) := by
  unfold Join.rows
  dsimp only
  unfold Plan.rows
  dsimp only
  rw [Rows.bind, visited]
  exact framed_rows 5 es row

theorem joined_function (n : Nat) (s : Surroundings) {cs : List (Column × Nat)} {row : Column × Nat → List Value}
    (visited : TableFunction.rows s.database (.columns false) [s.given] = cs.map row) :
    (Join.mk .inner 0 6 (.function (.columns false) [.given]) none).rows (n + 2) s true
      (.row (.of (Array.replicate 6 .null)) fun _ => .done) = .ofList (cs.map fun c => framed 6 (row c)) := by
  have given : [Term.given].mapM (Term.eval (n + 1) (s.enter (.of (Array.replicate 6 .null)))) = .ok [s.given] := rfl
  unfold Join.rows
  dsimp only
  rw [Rows.bind, given]
  refine Eq.trans ?_ (framed_rows 6 cs row)
  rw [← visited]
  rfl

end

/-! ## The rows of the queries -/

def shownNames (d : Contents) : List String :=
  ((d.tables.filter (!isHidden ·.name)).map (·.name)).mergeSort fun a b => !decide (b < a)

def catalogueRow (e : Entry) : List Value :=
  [.ofString e.object.kind, .ofString e.object.name, .ofString e.object.tableName, .integer e.page,
    (e.object.sql?.map Value.ofString).getD .null]

def isShown (e : Entry) : Bool := e.object.kind == "table" && !isHidden e.object.name

theorem comparison_equal (a b : String) :
    BinaryOp.equal.comparison .binary (.ofString a) (.ofString b) = some (a == b) :=
  congrArg some (compareBytes_bytes_eq a b)

section
variable {n : Nat} {s : Surroundings} {e : Entry}

theorem eval_typeCell : typeCell.eval (n + 1) (s.enter (framed 5 (catalogueRow e))) = .ok (.ofString e.object.kind) :=
  eval_cell (Nat.le_refl 5) rfl _ _

theorem eval_nameCell : nameCell.eval (n + 1) (s.enter (framed 5 (catalogueRow e))) = .ok (.ofString e.object.name) :=
  eval_cell (Nat.le_refl 5) rfl _ _

theorem eval_filterTerm :
    filterTerm.eval (n + 4) (s.enter (framed 5 (catalogueRow e))) = .ok (.ofBool (isShown e)) := by
  have kind : (Term.compare .equal (some .text) .binary typeCell (.value (.ofString "table"))).eval (n + 3)
      (s.enter (framed 5 (catalogueRow e))) = .ok (.ofBool (e.object.kind == "table")) := by
    show (typeCell.eval (n + 2) (s.enter (framed 5 (catalogueRow e))) >>= fun v =>
      Except.ok (Value.ofTruth (BinaryOp.equal.comparison .binary (Affinity.text.apply v) (.ofString "table")))) = _
    rw [eval_typeCell]
    exact congrArg (fun truth => Except.ok (Value.ofTruth truth)) (comparison_equal e.object.kind "table")
  have visible : (Term.unary .not (.call likeness .binary [.value (.ofString "sqlite_%"), nameCell])).eval (n + 3)
      (s.enter (framed 5 (catalogueRow e))) = .ok (.ofBool !isHidden e.object.name) := by
    show (nameCell.eval (n + 1) (s.enter (framed 5 (catalogueRow e))) >>= fun v =>
      ofFunction (Scalar.likeFunction [.ofString "sqlite_%", v]) >>= fun v => Except.ok (UnaryOp.not.apply v)) = _
    rw [eval_nameCell]
    show (ofFunction (Scalar.likeFunction [.ofString "sqlite_%", .ofString e.object.name]) >>= fun v =>
      Except.ok (UnaryOp.not.apply v)) = _
    rw [likeFunction_isHidden]
    cases isHidden e.object.name <;> rfl
  show (Term.eval (n + 3) (s.enter (framed 5 (catalogueRow e))) _ >>= fun v => _) = _
  rw [kind]
  unfold isShown
  cases e.object.kind == "table" with
  | false => rfl
  | true =>
    have holds : ¬ (Value.ofBool true).truth? = some false := by decide
    show (if (Value.ofBool true).truth? = some false then Except.ok (Value.ofBool false) else _) = _
    rw [if_neg holds, visible]
    cases isHidden e.object.name <;> rfl

/-- The tables among the entries of the catalogue that are shown; that some other objects are not listed does not
count. -/
theorem map_isShown (d : Contents) (es : List Entry) (listed : Object → Bool)
    (tables : ∀ t, listed (.table t) = true) (stays : ∀ e ∈ es, e.temporary = false) :
    ((es.filter fun e => e.temporary == false && listed e.object).filter isShown).map (·.object.name) =
      ((Contents.tables { d with entries := es }).filter (!isHidden ·.name)).map (·.name) := by
  unfold Contents.tables Contents.objects
  dsimp only
  induction es with
  | nil => rfl
  | cons e es ih =>
    rw [List.forall_mem_cons] at stays
    have later := ih stays.2
    obtain ⟨o, page, temporary⟩ := e
    obtain rfl : temporary = false := stays.1
    cases o with
    | table t =>
      have kind : isShown ⟨.table t, page, false⟩ = !isHidden t.name := rfl
      rw [List.filter_cons_of_pos (by rw [tables]; rfl), List.map_cons, List.filterMap_cons]
      dsimp only
      cases hidden : isHidden t.name with
      | true =>
        rw [List.filter_cons_of_neg (by rw [kind, hidden]; nofun), List.filter_cons_of_neg (by rw [hidden]; nofun)]
        exact later
      | false =>
        rw [List.filter_cons_of_pos (by rw [kind, hidden]; rfl), List.filter_cons_of_pos (by rw [hidden]; rfl),
          List.map_cons, List.map_cons, later]
        rfl
    | index i | view v | trigger t =>
      rw [List.filter_cons, List.map_cons, List.filterMap_cons]
      dsimp only
      split
      · rw [List.filter_cons_of_neg (show ¬ isShown ⟨_, page, false⟩ = true by nofun)]
        exact later
      · exact later

theorem rows_tablesPlan (lasting : IsLasting s.database) :
    tablesPlan.rows (n + 5) s = .ofList ((shownNames s.database).map fun name => [.ofString name]) := by
  have visited : s.database.catalogue false = (s.database.entries.filter fun e =>
    e.temporary == false && s.database.isListed e.object).map catalogueRow := rfl
  have joined := joined_catalogue (n + 2) s visited
  have condition : ∀ e : Entry, (some filterTerm).elim (.ok (.ofBool true))
      (Term.eval (n + 4) (s.enter (framed 5 (catalogueRow e)))) = .ok (.ofBool (isShown e)) := fun e => eval_filterTerm
  have shown : ∀ e : Entry, [nameCell].mapM (Term.eval (n + 4) (s.enter (framed 5 (catalogueRow e)))) =
      .ok [.ofString e.object.name] := fun e => by
    rw [List.mapM_cons, List.mapM_nil, eval_nameCell]
    rfl
  have ordered : ∀ e : Entry, nameCell.eval (n + 4) (s.enter (framed 5 (catalogueRow e))) =
      .ok (.ofString e.object.name) := fun e => eval_nameCell
  have order : ∀ a b : String, (Direction.compare ⟨.binary, false, true⟩ (.ofString a) (.ofString b) != .gt) =
      !decide (b < a) := fun a b => compareBytes_bytes_gt a b
  have names := map_isShown s.database s.database.entries s.database.isListed (fun _ => rfl) lasting.stays
  unfold tablesPlan
  refine (rows_select joined condition shown ordered).trans ?_
  unfold shownNames
  rw [← names,
    ← List.map_mergeSort (r := fun a b : Entry => !decide (b.object.name < a.object.name)) fun _ _ _ _ => rfl,
    List.map_map]
  simp only [order]
  rfl

def columnRow (c : Column × Nat) : List Value :=
  [.integer c.2, .ofString c.1.name, .ofString c.1.type, .ofBool c.1.notNull.isSome,
    (c.1.default.map fun d => Value.ofString d.2).getD .null, .integer c.1.keyPlace]

theorem rows_columns {d : Contents} {name : String} {t : Table} (found : d.table? name = some t) :
    TableFunction.rows d (.columns false) [.ofString name] =
      (t.columns.filter (·.generated.isNone)).zipIdx.map columnRow := by
  have named : Text.Utf8.decode (((([Value.ofString name].head?).getD .null).bytes?).getD []) = .ok name.toList :=
    Text.Utf8.decode_encode _
  unfold TableFunction.rows
  rw [named]
  dsimp only
  rw [String.ofList_toList, found]
  unfold TableFunction.columnRows columnRow
  simp

theorem zipIdx_pairwise {α : Type} (as : List α) (k : Nat) : (as.zipIdx k).Pairwise fun a b => a.2 ≤ b.2 := by
  induction as generalizing k with
  | nil => exact List.Pairwise.nil
  | cons a as ih =>
    rw [List.zipIdx_cons]
    exact List.pairwise_cons.mpr ⟨fun b among => Nat.le_of_succ_le (List.le_snd_of_mem_zipIdx among), ih (k + 1)⟩

theorem rows_columnsPlan {name : String} {t : Table} (asked : s.given = .ofString name)
    (found : s.database.table? name = some t) :
    columnsPlan.rows (n + 4) s =
      .ofList (t.layout.columns.map fun c => [.ofString c.name, .ofString c.declaredType]) := by
  have visited : TableFunction.rows s.database (.columns false) [s.given] =
      (t.columns.filter (·.generated.isNone)).zipIdx.map columnRow := by rw [asked, rows_columns found]
  have joined := joined_function (n + 1) s visited
  have condition : ∀ c : Column × Nat, (none : Option Term).elim (.ok (.ofBool true))
      (Term.eval (n + 3) (s.enter (framed 6 (columnRow c)))) = .ok (.ofBool true) := fun c => rfl
  have shown : ∀ c : Column × Nat,
      [Term.cell 0 1 (some .text) (some .binary), .cell 0 2 (some .text) (some .binary)].mapM
        (Term.eval (n + 3) (s.enter (framed 6 (columnRow c)))) = .ok [.ofString c.1.name, .ofString c.1.type] :=
    fun c => by
      rw [List.mapM_cons, List.mapM_cons, List.mapM_nil, eval_cell (Nat.le_refl 6) rfl, eval_cell (Nat.le_refl 6) rfl]
      rfl
  have ordered : ∀ c : Column × Nat, (Term.cell 0 0 (some .integer) (some .binary)).eval (n + 3)
      (s.enter (framed 6 (columnRow c))) = .ok (.integer c.2) := fun c => eval_cell (Nat.le_refl 6) rfl _ _
  have sorted : (t.columns.filter (·.generated.isNone)).zipIdx.Pairwise fun a b =>
      (Direction.compare ⟨.binary, false, true⟩ (.integer a.2) (.integer b.2) != .gt) = true := by
    refine (zipIdx_pairwise _ 0).imp fun {a b} before => ?_
    show ((if (a.2 : Int) < b.2 then Ordering.lt else if (b.2 : Int) < a.2 then .gt else .eq) != .gt) = true
    rw [if_neg (show ¬ (b.2 : Int) < a.2 by omega)]
    split <;> rfl
  unfold columnsPlan
  refine (rows_select joined condition shown ordered).trans ?_
  rw [List.filter_eq_self.mpr fun _ _ => rfl, List.mergeSort_of_pairwise sorted]
  show _ = Rows.ofList
    (((t.columns.filter (·.generated.isNone)).map fun c => (⟨c.name, c.type⟩ : Schema.Column)).map _)
  have plain := List.zipIdx_map_fst 0 (t.columns.filter (·.generated.isNone))
  rw [List.map_map, ← congrArg (List.map _) plain, List.map_map]
  rfl
end

end QueryWarden.Database
