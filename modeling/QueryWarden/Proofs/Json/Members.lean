import Mathlib.Data.String.Basic
import Mathlib.Order.Basic
import QueryWarden.Json.Node
import QueryWarden.Proofs.Fallible

/-! Members in the order of their names, each name once, as every object has them that is read from a
text: what a name has there, and what putting a member among them changes. -/
namespace QueryWarden.Json

variable {name other : String} {value : Json} {members : List (String × Json)}

@[simp] theorem lookup_nil (name : String) : lookup name [] = none := rfl

theorem lookup_cons (name other : String) (value : Json) (rest : List (String × Json)) :
    lookup name ((other, value) :: rest) =
      (lookup name rest).or (if other = name then some value else none) := by
  simp only [lookup, List.reverse_cons, List.find?_append, List.find?_singleton, Option.map_or, beq_iff_eq]
  split_ifs <;> rfl

theorem mem_of_lookup (h : lookup name members = some value) : (name, value) ∈ members := by
  induction members with
  | nil => cases h
  | cons m rest ih =>
    obtain ⟨other, old⟩ := m
    rw [lookup_cons, Option.or_eq_some_iff] at h
    obtain later | ⟨-, here⟩ := h
    · exact List.mem_cons_of_mem _ (ih later)
    · split_ifs at here with same
      cases here
      exact same ▸ List.mem_cons_self ..

theorem lookup_eq_none (h : ∀ m ∈ members, m.1 ≠ name) : lookup name members = none := by
  cases found : lookup name members with
  | none => rfl
  | some value => exact absurd rfl (h _ (mem_of_lookup found))

/-- Members in the order of their names, each name once. -/
def Ascending (members : List (String × Json)) : Prop := members.Pairwise (·.1 < ·.1)

theorem ascending_nil : Ascending [] := .nil

theorem Ascending.rest {m : String × Json} (h : Ascending (m :: members)) : Ascending members :=
  List.Pairwise.of_cons h

theorem Ascending.below {m later : String × Json} (h : Ascending (m :: members)) (among : later ∈ members) :
    m.1 < later.1 :=
  List.rel_of_pairwise_cons h among

theorem mem_insertMember {m : String × Json} (h : m ∈ insertMember name value members) :
    m = (name, value) ∨ m ∈ members := by
  induction members with
  | nil => exact .inl (List.mem_singleton.mp h)
  | cons first rest ih =>
    obtain ⟨other, old⟩ := first
    rw [insertMember] at h
    split_ifs at h
    · exact List.mem_cons.mp h
    · obtain here | later := List.mem_cons.mp h
      · exact .inl here
      · exact .inr (List.mem_cons_of_mem _ later)
    · obtain here | later := List.mem_cons.mp h
      · exact .inr (here ▸ List.mem_cons_self ..)
      · exact (ih later).imp_right (List.mem_cons_of_mem _)

theorem Ascending.insertMember (h : Ascending members) (name : String) (value : Json) :
    Ascending (insertMember name value members) := by
  induction members with
  | nil => exact List.pairwise_singleton ..
  | cons first rest ih =>
    obtain ⟨other, old⟩ := first
    rw [Json.insertMember]
    split_ifs with before same
    · refine List.Pairwise.cons (fun m among => ?_) h
      obtain rfl | later := List.mem_cons.mp among
      · exact before
      · exact before.trans (h.below later)
    · subst same
      exact List.Pairwise.cons (fun m later => h.below later) h.rest
    · have after : other < name := lt_of_le_of_ne (not_lt.mp before) (Ne.symm same)
      refine List.Pairwise.cons (fun m among => ?_) (ih h.rest)
      obtain rfl | later := mem_insertMember among
      · exact after
      · exact h.below later

theorem lookup_insertMember_ne (apart : name ≠ other) (value : Json) (members : List (String × Json)) :
    lookup other (insertMember name value members) = lookup other members := by
  induction members with
  | nil => rw [insertMember, lookup_cons, if_neg apart, Option.or_none]
  | cons first rest ih =>
    obtain ⟨standing, old⟩ := first
    rw [insertMember]
    split_ifs with before same
    · rw [lookup_cons, if_neg apart, Option.or_none]
    · rw [lookup_cons, lookup_cons, if_neg apart, if_neg (same ▸ apart)]
    · rw [lookup_cons, lookup_cons, ih]

theorem Ascending.lookup_insertMember_self (h : Ascending members) (name : String) (value : Json) :
    lookup name (Json.insertMember name value members) = some value := by
  induction members with
  | nil => rw [Json.insertMember, lookup_cons, if_pos rfl, lookup_nil, Option.none_or]
  | cons first rest ih =>
    obtain ⟨standing, old⟩ := first
    rw [Json.insertMember]
    split_ifs with before same
    · have absent : lookup name ((standing, old) :: rest) = none := by
        refine lookup_eq_none fun m among => ?_
        obtain rfl | later := List.mem_cons.mp among
        · exact before.ne'
        · exact (before.trans (h.below later)).ne'
      rw [lookup_cons, absent, if_pos rfl, Option.none_or]
    · have absent : lookup name rest = none :=
        lookup_eq_none fun m later => same ▸ (h.below later).ne'
      rw [lookup_cons, absent, if_pos rfl, Option.none_or]
    · rw [lookup_cons, ih h.rest, Option.some_or]

/-- A member that is put among others takes the place of the one of its name. -/
theorem Ascending.lookup_insertMember (h : Ascending members) (name : String) (value : Json)
    (wanted : String) : lookup wanted (Json.insertMember name value members) =
      if name = wanted then some value else lookup wanted members := by
  split_ifs with same
  · exact same ▸ h.lookup_insertMember_self name value
  · exact lookup_insertMember_ne same value members

theorem ascending_sortMembers (members : List (String × Json)) : Ascending (sortMembers members) := by
  have from_ascending : ∀ sorted, Ascending sorted →
      Ascending (members.foldl (fun sorted m => insertMember m.1 m.2 sorted) sorted) := by
    induction members with
    | nil => exact fun _ h => h
    | cons m rest ih => exact fun sorted h => ih _ (h.insertMember m.1 m.2)
  exact from_ascending [] ascending_nil

theorem mem_sortMembers {m : String × Json} (h : m ∈ sortMembers members) : m ∈ members := by
  have from_somewhere : ∀ sorted, m ∈ members.foldl (fun sorted m => insertMember m.1 m.2 sorted) sorted →
      m ∈ members ∨ m ∈ sorted := by
    clear h
    induction members with
    | nil => exact fun _ h => .inr h
    | cons first rest ih =>
      intro sorted h
      obtain later | there := ih _ h
      · exact .inl (List.mem_cons_of_mem _ later)
      · obtain rfl | there := mem_insertMember there
        · exact .inl (List.mem_cons_self ..)
        · exact .inr there
  exact (from_somewhere [] h).resolve_right List.not_mem_nil

/-- Every object in a value, all the way down, has its members in the order of their names, each once. -/
inductive Tidy : Json → Prop where
  | null : Tidy .null
  | bool (b : Bool) : Tidy (.bool b)
  | num (n : Number) : Tidy (.num n)
  | str (s : String) : Tidy (.str s)
  | arr {items : List Json} (all : ∀ item ∈ items, Tidy item) : Tidy (.arr items)
  | obj {members : List (String × Json)} (ascending : Ascending members)
      (all : ∀ m ∈ members, Tidy m.2) : Tidy (.obj members)

theorem Tidy.ascending (h : Tidy (.obj members)) : Ascending members := by
  cases h with
  | obj ascending => exact ascending

theorem Tidy.lookup (h : Tidy (.obj members)) (found : lookup name members = some value) : Tidy value := by
  cases h with
  | obj _ all => exact all _ (mem_of_lookup found)

/-! What a document stands for is tidy. -/

mutual
theorem tidy_value : ∀ {depth : Nat} {node : Node} {j : Json}, node.value depth = .ok j → Tidy j
  | _, .null _, _, h => by
    cases h
    exact .null
  | _, .bool b _, _, h => by
    cases h
    exact .bool b
  | _, .number (.ok n) _, _, h => by
    cases h
    exact .num n
  | _, .text (.ok s) _, _, h => by
    cases h
    exact .str s
  | depth + 1, .list _ items close, j, h => by
    rw [Node.value, bind_eq_ok] at h
    obtain ⟨values, read, closed⟩ := h
    split at closed
    · cases closed
    · cases closed
      exact .arr (tidy_itemValues read)
  | depth + 1, .object _ members close, j, h => by
    rw [Node.value, bind_eq_ok] at h
    obtain ⟨values, read, closed⟩ := h
    split at closed
    · cases closed
    · cases closed
      exact .obj (ascending_sortMembers values) fun m among => tidy_memberValues read m (mem_sortMembers among)
  | _, .number (.error _) _, _, h => by cases h
  | _, .text (.error _) _, _, h => by cases h
  | 0, .list .., _, h => by cases h
  | 0, .object .., _, h => by cases h
  | _, .broken .., _, h => by cases h
theorem tidy_itemValues : ∀ {depth : Nat} {items : List Item} {values : List Json},
    itemValues depth items = .ok values → ∀ item ∈ values, Tidy item
  | _, [], _, h => by
    cases h
    nofun
  | depth, .mk _ value :: rest, _, h => by
    rw [itemValues, bind_eq_ok] at h
    obtain ⟨v, first, h⟩ := h
    obtain ⟨vs, later, h⟩ := bind_eq_ok.mp h
    cases h
    exact List.forall_mem_cons.mpr ⟨tidy_value first, tidy_itemValues later⟩
theorem tidy_memberValues : ∀ {depth : Nat} {members : List Member} {values : List (String × Json)},
    memberValues depth members = .ok values → ∀ m ∈ values, Tidy m.2
  | _, [], _, h => by
    cases h
    nofun
  | depth, .mk name _ value :: rest, _, h => by
    rw [memberValues, bind_eq_ok] at h
    obtain ⟨n, -, h⟩ := h
    obtain ⟨v, first, h⟩ := bind_eq_ok.mp h
    obtain ⟨vs, later, h⟩ := bind_eq_ok.mp h
    cases h
    exact List.forall_mem_cons.mpr ⟨tidy_value first, tidy_memberValues later⟩
end

theorem tidy_parse {text : String} {j : Json} (h : parse text = .ok j) : Tidy j := by
  rw [parse, Document.value, bind_eq_ok] at h
  obtain ⟨v, read, ended⟩ := h
  split at ended
  · cases ended
  · cases ended
    exact tidy_value read

end QueryWarden.Json
