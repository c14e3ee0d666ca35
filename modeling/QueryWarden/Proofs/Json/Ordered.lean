import Mathlib.Data.List.Perm.Basic
import QueryWarden.Proofs.Json.Members
import QueryWarden.Proofs.Json.ReadBack

/-! Two views of a document. Read in order, an object keeps its members as they are written, repeated names
included; the unordered value of any document is this tree sorted, with the last member of each name. A
value without doubles is read in order as it was written, compactly or indented, and an object that holds the
double zero too is if it is written compactly. -/
namespace QueryWarden.Json

mutual
/-- The value that a part of a document stands for, the members of objects as they are written. -/
def Node.ordered : Nat → Node → Except Fault Json
  | _, .null _ => .ok .null
  | _, .bool b _ => .ok (.bool b)
  | _, .number n _ => n.map .num
  | _, .text s _ => s.map .str
  | 0, .list start _ _ => .error (.at .tooDeep ⟨start.line, start.column + 1⟩)
  | depth + 1, .list _ items close => do
    let values ← itemsOrdered depth items
    match close.listFault? with
    | some f => throw f
    | none => return .arr values
  | 0, .object start _ _ => .error (.at .tooDeep ⟨start.line, start.column + 1⟩)
  | depth + 1, .object _ members close => do
    let values ← membersOrdered depth members
    match close.objectFault? with
    | some f => throw f
    | none => return .obj values
  | _, .broken _ _ f _ => .error f
def itemsOrdered : Nat → List Item → Except Fault (List Json)
  | _, [] => .ok []
  | depth, .mk _ value :: rest => do
    let v ← value.ordered depth
    let vs ← itemsOrdered depth rest
    return v :: vs
def membersOrdered : Nat → List Member → Except Fault (List (String × Json))
  | _, [] => .ok []
  | depth, .mk name _ value :: rest => do
    let name ← name
    let v ← value.ordered depth
    let vs ← membersOrdered depth rest
    return (name, v) :: vs
end

/-- The value that a text is the document of, its members in order and repeated names kept. -/
def parseOrdered (text : String) : Except Fault Json := do
  let d := Document.ofText text
  let v ← d.root.ordered depthLimit
  match d.extra with
  | some f => throw f
  | none => return v

mutual
theorem value_eq_sorted : ∀ (depth : Nat) (node : Node),
    node.value depth = (node.ordered depth).map sorted
  | _, .null _ | _, .bool _ _ | _, .broken .. => by simp [Node.value, Node.ordered, sorted, Except.map]
  | _, .number n _ => by cases n <;> simp [Node.value, Node.ordered, sorted, Except.map]
  | _, .text s _ => by cases s <;> simp [Node.value, Node.ordered, sorted, Except.map]
  | 0, .list .. | 0, .object .. => by simp [Node.value, Node.ordered, Except.map]
  | depth + 1, .list _ items close => by
    rw [Node.value, Node.ordered, itemValues_eq_sorted depth items]
    cases itemsOrdered depth items with
    | error f => rfl
    | ok values =>
      simp only [Except.map, bind, Except.bind]
      cases close.listFault? with
      | some f => rfl
      | none => exact congrArg Except.ok (by rw [sorted])
  | depth + 1, .object _ members close => by
    rw [Node.value, Node.ordered, memberValues_eq_sorted depth members]
    cases membersOrdered depth members with
    | error f => rfl
    | ok values =>
      simp only [Except.map, bind, Except.bind]
      cases close.objectFault? with
      | some f => rfl
      | none => exact congrArg Except.ok (by rw [sorted])
theorem itemValues_eq_sorted : ∀ (depth : Nat) (items : List Item),
    itemValues depth items = (itemsOrdered depth items).map sortedItems
  | _, [] => by simp [itemValues, itemsOrdered, sortedItems, Except.map]
  | depth, .mk _ value :: rest => by
    rw [itemValues, itemsOrdered, value_eq_sorted depth value, itemValues_eq_sorted depth rest]
    cases value.ordered depth with
    | error f => rfl
    | ok v =>
      cases itemsOrdered depth rest with
      | error f => rfl
      | ok vs => exact congrArg Except.ok (by rw [sortedItems])
theorem memberValues_eq_sorted : ∀ (depth : Nat) (members : List Member),
    memberValues depth members = (membersOrdered depth members).map sortedMembers
  | _, [] => by simp [memberValues, membersOrdered, sortedMembers, Except.map]
  | depth, .mk name _ value :: rest => by
    rw [memberValues, membersOrdered, value_eq_sorted depth value, memberValues_eq_sorted depth rest]
    cases name with
    | error f => rfl
    | ok n =>
      cases value.ordered depth with
      | error f => rfl
      | ok v =>
        cases membersOrdered depth rest with
        | error f => rfl
        | ok vs => exact congrArg Except.ok (by rw [sortedMembers])
end

/-- The unordered value of a text is the ordered one sorted. -/
theorem parse_eq_sorted (text : String) : parse text = (parseOrdered text).map sorted := by
  rw [parse, Document.value, parseOrdered, value_eq_sorted]
  cases (Document.ofText text).root.ordered depthLimit with
  | error f => rfl
  | ok v =>
    simp only [Except.map, bind, Except.bind]
    cases (Document.ofText text).extra <;> rfl

/-- A value without doubles, with integers that a document can hold, that opens at most so many levels. -/
inductive Exact : Nat → Json → Prop where
  | null {depth : Nat} : Exact depth .null
  | bool {depth : Nat} (b : Bool) : Exact depth (.bool b)
  | int {depth : Nat} {n : Int} (fits : Fits n) : Exact depth (.num (.int n))
  | str {depth : Nat} (s : String) : Exact depth (.str s)
  | arr {depth : Nat} {items : List Json} (all : ∀ item ∈ items, Exact depth item) :
      Exact (depth + 1) (.arr items)
  | obj {depth : Nat} {members : List (String × Json)} (all : ∀ m ∈ members, Exact depth m.2) :
      Exact (depth + 1) (.obj members)

theorem Exact.mono {depth depth' : Nat} (le : depth ≤ depth') {j : Json} (h : Exact depth j) :
    Exact depth' j := by
  induction h generalizing depth' with
  | null => exact .null
  | bool b => exact .bool b
  | int fits => exact .int fits
  | str s => exact .str s
  | arr all ih =>
    obtain ⟨outer, rfl⟩ := Nat.exists_eq_add_of_lt le
    exact .arr fun item among => ih item among (by omega)
  | obj all ih =>
    obtain ⟨outer, rfl⟩ := Nat.exists_eq_add_of_lt le
    exact .obj fun m among => ih m among (by omega)

mutual
theorem ordered_of_shows : ∀ {j : Json} {depth : Nat} {node : Node}, Exact depth j → Shows node j →
    node.ordered depth = .ok j
  | .null, _, _, _, .null _ => by simp [Node.ordered]
  | .bool _, _, _, _, .bool b _ => by simp [Node.ordered]
  | .str _, _, _, _, .text s _ => by simp [Node.ordered, Except.map]
  | .num (.int n), _, _, exact, shows => by
    cases exact with
    | int fits =>
      cases shows with
      | int span read =>
        rw [read fits]
        simp [Node.ordered, Except.map]
  | .num (.real x), _, _, exact, _ => by cases exact
  | .arr values, _, _, exact, .list start stop shows => by
    cases exact with
    | arr all =>
      rw [Node.ordered, itemsOrdered_of_shows all shows]
      rfl
  | .obj values, _, _, exact, .object start stop shows => by
    cases exact with
    | obj all =>
      rw [Node.ordered, membersOrdered_of_shows all shows]
      rfl
theorem itemsOrdered_of_shows : ∀ {values : List Json} {depth : Nat} {items : List Item},
    (∀ v ∈ values, Exact depth v) → ShowsItems items values → itemsOrdered depth items = .ok values
  | [], _, _, _, .nil => by simp [itemsOrdered]
  | value :: values, _, _, all, .cons peek first rest => by
    obtain ⟨exact, later⟩ := List.forall_mem_cons.mp all
    rw [itemsOrdered, ordered_of_shows exact first, itemsOrdered_of_shows later rest]
    rfl
theorem membersOrdered_of_shows : ∀ {values : List (String × Json)} {depth : Nat} {members : List Member},
    (∀ v ∈ values, Exact depth v.2) → ShowsMembers members values →
    membersOrdered depth members = .ok values
  | [], _, _, _, .nil => by simp [membersOrdered]
  | (name, value) :: values, _, _, all, .cons _ places first rest => by
    obtain ⟨exact, later⟩ := List.forall_mem_cons.mp all
    rw [membersOrdered, ordered_of_shows exact first, membersOrdered_of_shows later rest]
    rfl
end

variable {j : Json}

theorem parseOrdered_of_shows (exact : Exact depthLimit j) {text : String} {node : Node}
    (read : Document.ofText text = ⟨node, none⟩) (shows : Shows node j) : parseOrdered text = .ok j := by
  rw [parseOrdered, read]
  simp only [ordered_of_shows exact shows]
  rfl

theorem parseOrdered_compact (exact : Exact depthLimit j) : parseOrdered j.compact = .ok j := by
  obtain ⟨node, read, shows⟩ := ofText_compact j
  exact parseOrdered_of_shows exact read shows

theorem reads_pretty (j : Json) : ∃ node, Document.ofText j.pretty = ⟨node, none⟩ ∧ Shows node j := by
  have read := ofText_pretty j blank_nil
  rw [show j.pretty ++ String.ofList [] = j.pretty by simp] at read
  exact read

theorem parseOrdered_pretty (exact : Exact depthLimit j) : parseOrdered j.pretty = .ok j := by
  obtain ⟨node, read, shows⟩ := reads_pretty j
  exact parseOrdered_of_shows exact read shows

/-- An indented document is read again, as far as an unordered value can tell. -/
theorem parse_pretty (exact : Exact depthLimit j) : parse j.pretty = .ok (sorted j) := by
  rw [parse_eq_sorted, parseOrdered_pretty exact]
  rfl

/-! Doubles. The double zero is read back as itself, and so is an object that holds it beside values without doubles:
reading takes exactly its compact spelling, whatever follows, and gives the value that was written. -/

section
open Text.Utf8 (Glyph)

variable {depth : Nat} {members : List (String × Json)}

def ReadsBack (depth : Nat) (j : Json) : Prop :=
  ∀ (budget : Nat) (rest : List Glyph) (p : Place), 2 * (compactChars j).length ≤ budget + 1 → EndsNumber rest →
    ∃ node, readValue budget ⟨glyphs (compactChars j) ++ rest, p⟩ =
      (node, some ⟨rest, p.after (compactChars j)⟩) ∧ node.ordered depth = .ok j

theorem Exact.readsBack (exact : Exact depth j) : ReadsBack depth j := by
  intro budget rest p enough ends
  obtain ⟨node, read, shows⟩ := readValue_spelling (spelling_compact j) budget enough rest ends p
  exact ⟨node, read, ordered_of_shows exact shows⟩

theorem real_zero : Json.real 0 = .num (.real 0) := if_pos (by decide)

theorem readNumber_zero {rest : List Glyph} (ends : EndsNumber rest) (p : Place) :
    readNumber false ⟨glyphs ['0', '.', '0'] ++ rest, p⟩ =
      ⟨.ok (.real 0), .ok ⟨rest, p.after ['0', '.', '0']⟩⟩ := by
  have whole : Whole ['0'] := ⟨by simp, '0', [], rfl, .inl rfl⟩
  have apart : NoDigit (glyphs ['.', '0'] ++ rest) := noDigit_cons (by decide) _
  have isDigit : ∀ d ∈ ['0'], d.isDigit = true := by simp
  have digits := digits_of_digits isDigit ends.noDigit
  have value : (Significand.whole (['0'].map digitValue)).fraction (['0'].map digitValue) = ⟨0, -1, false⟩ := rfl
  have real : (Significand.mk 0 (-1) false).real? false 0 = some 0 := by decide +kernel
  have nonempty : ['0'].map digitValue ≠ [] := nofun
  change readNumber false ⟨glyphs ['0'] ++ (glyphs ['.', '0'] ++ rest), p⟩ = _
  rw [readNumber_leads whole false apart p]
  change readTail false _ ⟨.char '.' :: (glyphs ['0'] ++ rest), _⟩ = _
  simp only [readTail, next_cons, digits, List.isEmpty_iff, nonempty, if_false, value, real]
  split
  · exact absurd rfl (ends.noMark _).1
  · exact absurd rfl (ends.noMark _).2
  · rfl

theorem readsBack_zero (depth : Nat) : ReadsBack depth (.num (.real 0)) := by
  intro budget rest p enough ends
  have text : Number.text (.real 0) = ['0', '.', '0'] := by
    rw [Number.text]
    decide +kernel
  rw [compactChars, text] at enough ⊢
  obtain ⟨budget, rfl⟩ : ∃ n, budget = n + 1 := ⟨budget - 1, by simp at enough; omega⟩
  exact ⟨_, readValue_number budget false (by decide) ['.', '0'] rest p (readNumber_zero ends _), by
    simp [Node.ordered, Except.map]⟩

theorem readMembers_back (all : ∀ m ∈ members, ReadsBack depth m.2) (budget : Nat)
    (enough : 2 * (compactMembers members).length ≤ budget + 1) (rest : List Glyph) (p : Place) :
    ∃ shown, readMembers budget false ⟨glyphs (compactMembers members) ++ rest, p⟩ =
      (shown, .shut (p.after (compactMembers members)), some ⟨rest, p.after (compactMembers members)⟩) ∧
      membersOrdered depth shown = .ok members := by
  induction members generalizing budget p with
  | nil =>
    obtain ⟨budget, rfl⟩ : ∃ n, budget = n + 1 := ⟨budget - 1, by simp [compactMembers] at enough; omega⟩
    exact ⟨[], readMembers_shut blank_nil budget rest p, by rw [membersOrdered]⟩
  | cons m members ih =>
    obtain ⟨name, value⟩ := m
    obtain ⟨first, later⟩ := List.forall_mem_cons.mp all
    change ReadsBack depth value at first
    rw [compactMembers] at enough ⊢
    have quoted : 0 < (quote name).length := by simp [quote]
    simp only [List.length_cons, List.length_append] at enough
    obtain ⟨budget, rfl⟩ : ∃ n, budget = n + 1 := ⟨budget - 1, by omega⟩
    have ends := (spelling_compactMembers members).ends rest
    obtain ⟨node, read, ordered⟩ := first budget (glyphs (compactMembers members) ++ rest)
      (((p.pass (.char ',')).after (quote name)).pass (.char ':')) (by omega) ends
    obtain ⟨shown, reads, rests⟩ := ih later budget (by omega)
      ((((p.pass (.char ',')).after (quote name)).pass (.char ':')).after (compactChars value))
    obtain ⟨places, step⟩ := readMembers_next blank_nil name read
    rw [reads] at step
    refine ⟨.mk (.ok name) places node :: shown, ?_, ?_⟩
    · simp only [glyphs_cons, glyphs_append, List.cons_append, List.append_assoc, Place.after_cons,
        Place.after_append]
      exact step
    · rw [membersOrdered, ordered, rests]
      rfl

theorem ReadsBack.obj (all : ∀ m ∈ members, ReadsBack depth m.2) : ReadsBack (depth + 1) (.obj members) := by
  intro budget rest p enough ends
  cases members with
  | nil => exact Exact.readsBack (.obj fun _ among => absurd among List.not_mem_nil) budget rest p enough ends
  | cons m members =>
    obtain ⟨name, value⟩ := m
    obtain ⟨first, later⟩ := List.forall_mem_cons.mp all
    change ReadsBack depth value at first
    rw [compactChars] at enough ⊢
    have quoted : 0 < (quote name).length := by simp [quote]
    simp only [List.length_cons, List.length_append] at enough
    obtain ⟨budget, rfl⟩ : ∃ n, budget = n + 2 := ⟨budget - 2, by omega⟩
    have brace : Opens '{' := by decide
    obtain ⟨node, read, ordered⟩ := first budget (glyphs (compactMembers members) ++ rest)
      (((p.pass (.char '{')).after (quote name)).pass (.char ':')) (by omega)
      ((spelling_compactMembers members).ends rest)
    obtain ⟨shown, reads, rests⟩ := readMembers_back later budget (by omega) rest
      ((((p.pass (.char '{')).after (quote name)).pass (.char ':')).after (compactChars value))
    obtain ⟨places, step⟩ := readMembers_first (p := p.pass (.char '{')) blank_nil name read
    rw [reads] at step
    refine ⟨.object p (.mk (.ok name) places node :: shown)
      (.shut (p.after ('{' :: (quote name ++ ':' :: (compactChars value ++ compactMembers members))))), ?_, ?_⟩
    · simp only [glyphs_cons, glyphs_append, List.cons_append, List.append_assoc, Place.after_cons,
        Place.after_append]
      rw [readValue, skipSpace_opens brace]
      rw [glyphs_nil, List.nil_append] at step
      simp only [next_cons, step]
    · rw [Node.ordered, membersOrdered, ordered, rests]
      rfl

theorem parseOrdered_of_readsBack (back : ReadsBack depthLimit j) : parseOrdered j.compact = .ok j := by
  obtain ⟨node, read, ordered⟩ := back (2 * (compactChars j).length + 2) [] .start (by omega) endsNumber_nil
  rw [List.append_nil] at read
  have text : j.compact.toList.map Glyph.char = glyphs (compactChars j) := by simp [compact, glyphs]
  have length : (glyphs (compactChars j)).length = (compactChars j).length := by simp [glyphs]
  rw [parseOrdered, Document.ofText, text, Document.ofGlyphs, length, read]
  simp only [ordered]
  rfl

end

/-! What sorting keeps of members. -/

section
variable {name : String} {value : Json} {members : List (String × Json)} {m : String × Json}

theorem sortedItems_eq_map (items : List Json) : sortedItems items = items.map sorted := by
  induction items with
  | nil => rw [sortedItems, List.map_nil]
  | cons item rest ih => rw [sortedItems, ih, List.map_cons]

theorem sortedMembers_eq_map (members : List (String × Json)) :
    sortedMembers members = members.map fun m => (m.1, sorted m.2) := by
  induction members with
  | nil => rw [sortedMembers, List.map_nil]
  | cons m rest ih => rw [sortedMembers, ih, List.map_cons]

theorem lookup_map (f : Json → Json) (name : String) (members : List (String × Json)) :
    lookup name (members.map fun m => (m.1, f m.2)) = (lookup name members).map f := by
  induction members with
  | nil => rfl
  | cons m rest ih =>
    obtain ⟨other, value⟩ := m
    rw [List.map_cons, lookup_cons, lookup_cons, ih, Option.map_or]
    split_ifs <;> rfl

theorem lookup_sortMembers (name : String) (members : List (String × Json)) :
    lookup name (sortMembers members) = lookup name members := by
  have onto : ∀ kept, Ascending kept →
      lookup name (members.foldl (fun sorted m => insertMember m.1 m.2 sorted) kept) =
        (lookup name members).or (lookup name kept) := by
    induction members with
    | nil => exact fun kept _ => (Option.none_or ..).symm
    | cons m rest ih =>
      intro kept ascending
      obtain ⟨other, value⟩ := m
      rw [List.foldl_cons, ih _ (ascending.insertMember other value), ascending.lookup_insertMember,
        lookup_cons, Option.or_assoc]
      split_ifs <;> simp
  exact (onto [] ascending_nil).trans (Option.or_none ..)

/-- A name has in the unordered value what it has in the ordered one, in its unordered reading. -/
theorem member?_sorted (name : String) (j : Json) : (sorted j).member? name = (j.member? name).map sorted := by
  cases j with
  | obj members => rw [sorted, member?, member?, lookup_sortMembers, sortedMembers_eq_map, lookup_map]
  | _ => simp [sorted, member?]

theorem lookup_eq_none_iff : lookup name members = none ↔ name ∉ members.map (·.1) := by
  constructor
  · intro absent among
    obtain ⟨m, there, rfl⟩ := List.mem_map.mp among
    simp only [lookup, Option.map_eq_none_iff, List.find?_eq_none, List.mem_reverse] at absent
    exact absent m there (beq_self_eq_true _)
  · intro absent
    exact lookup_eq_none fun m among same => absent (same ▸ List.mem_map_of_mem among)

def IsLast (m : String × Json) (members : List (String × Json)) : Prop :=
  ∃ before after, members = before ++ m :: after ∧ ∀ later ∈ after, later.1 ≠ m.1

theorem lookup_eq_some_iff : lookup name members = some value ↔ IsLast (name, value) members := by
  constructor
  · intro found
    induction members with
    | nil => cases found
    | cons m rest ih =>
      obtain ⟨other, old⟩ := m
      rw [lookup_cons, Option.or_eq_some_iff] at found
      obtain later | ⟨absent, here⟩ := found
      · obtain ⟨before, after, split, unlike⟩ := ih later
        exact ⟨(other, old) :: before, after, congrArg _ split, unlike⟩
      · split_ifs at here with same
        refine ⟨[], rest, by rw [same, Option.some.inj here]; rfl, fun later among unlike => ?_⟩
        have named : later.1 ∈ rest.map (·.1) := List.mem_map_of_mem among
        rw [show later.1 = name from unlike] at named
        exact lookup_eq_none_iff.mp absent named
  · rintro ⟨before, after, rfl, unlike⟩
    have absent : lookup name after = none := lookup_eq_none unlike
    induction before with
    | nil => rw [List.nil_append, lookup_cons, absent, if_pos rfl, Option.none_or]
    | cons m before ih =>
      obtain ⟨other, old⟩ := m
      rw [List.cons_append, lookup_cons, ih, Option.some_or]

theorem Ascending.nodup (h : Ascending members) : (members.map (·.1)).Nodup :=
  List.pairwise_map.mpr (h.imp ne_of_lt)

/-- Where each name stands once, its member is the last of its name. -/
theorem mem_iff_lookup (nodup : (members.map (·.1)).Nodup) :
    m ∈ members ↔ lookup m.1 members = some m.2 := by
  refine ⟨fun among => ?_, fun found => mem_of_lookup found⟩
  obtain ⟨before, after, rfl⟩ := List.append_of_mem among
  refine lookup_eq_some_iff.mpr ⟨before, after, rfl, fun later among same => ?_⟩
  rw [List.map_append, List.map_cons, List.nodup_append] at nodup
  exact (List.nodup_cons.mp nodup.2.1).1 (same ▸ List.mem_map_of_mem among)

/-- Sorted members are the last of each name. -/
theorem mem_sortMembers_iff : m ∈ sortMembers members ↔ IsLast m members := by
  rw [mem_iff_lookup (ascending_sortMembers members).nodup, lookup_sortMembers, lookup_eq_some_iff]

theorem names_sortMembers (nodup : (members.map (·.1)).Nodup) :
    ((sortMembers members).map (·.1)).Perm (members.map (·.1)) := by
  refine (List.perm_ext_iff_of_nodup (ascending_sortMembers members).nodup nodup).mpr fun name => ?_
  rw [← not_iff_not, ← lookup_eq_none_iff, ← lookup_eq_none_iff, lookup_sortMembers]

end

end QueryWarden.Json
