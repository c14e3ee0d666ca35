import Mathlib.Data.List.Basic
import Mathlib.Data.List.Infix

/-! Texts that are put together from parts: lines, each closed by a line feed, and items with a separator between
them. Where no part holds the separator, the text tells the parts again. -/
namespace QueryWarden.Text

theorem eq_of_map_eq {α β : Type} {P : α → Prop} {f : α → β} (inj : ∀ x y, P x → P y → f x = f y → x = y)
    {xs ys : List α} (hx : ∀ x ∈ xs, P x) (hy : ∀ y ∈ ys, P y) (same : xs.map f = ys.map f) : xs = ys := by
  induction xs generalizing ys with
  | nil => exact (List.map_eq_nil_iff.mp same.symm).symm
  | cons x xs ih =>
    cases ys with
    | nil => cases same
    | cons y ys =>
      obtain ⟨first, laterX⟩ := List.forall_mem_cons.mp hx
      obtain ⟨first', laterY⟩ := List.forall_mem_cons.mp hy
      obtain ⟨head, tail⟩ := List.cons.inj same
      rw [inj x y first first' head, ih laterX laterY tail]

/-! Separators. -/

def Unbordered (sep : List Char) : Prop := ∀ v ∈ sep.tails, v <+: sep → v = [] ∨ v = sep

instance (sep : List Char) : Decidable (Unbordered sep) := inferInstanceAs (Decidable (∀ v ∈ sep.tails, _))

theorem unbordered_single (c : Char) : Unbordered [c] := by
  intro v among _
  simp only [List.tails, List.mem_cons, List.not_mem_nil, or_false] at among
  exact among.symm

variable {sep u w w' r r' : List Char}

/-- Where a text begins with a separator, and with characters that hold none and have one behind them as well, these
characters are none. -/
theorem overlap_eq_nil (unbordered : Unbordered sep) (free : ¬ sep <:+: u)
    (same : sep ++ r = u ++ (sep ++ r')) : u = [] := by
  obtain ⟨more, rfl, -⟩ | ⟨v, split, rest⟩ := List.append_eq_append_iff.mp same
  · exact absurd (List.prefix_append sep more).isInfix free
  · have behind : v <:+ sep := ⟨u, split.symm⟩
    have front : v <+: sep := by
      have both : v <+: sep ++ r' := ⟨r, rest.symm⟩
      exact List.prefix_of_prefix_length_le both (List.prefix_append sep r') behind.length_le
    obtain rfl | rfl := unbordered v ((List.mem_tails _ _).mpr behind) front
    · rw [List.append_nil] at split
      exact absurd (split ▸ List.infix_rfl) free
    · exact List.append_left_eq_self.mp split.symm

/-- The first separator of a text tells what is before it and what is behind it. -/
theorem separator_inj (unbordered : Unbordered sep) (free : ¬ sep <:+: w) (free' : ¬ sep <:+: w')
    (same : w ++ (sep ++ r) = w' ++ (sep ++ r')) : w = w' ∧ r = r' := by
  obtain ⟨u, rfl, rest⟩ | ⟨u, rfl, rest⟩ := List.append_eq_append_iff.mp same
  · have none := overlap_eq_nil unbordered (fun inside => free' (inside.trans (List.suffix_append w u).isInfix)) rest
    subst none
    exact ⟨(List.append_nil w).symm, List.append_cancel_left rest⟩
  · have none := overlap_eq_nil unbordered (fun inside => free (inside.trans (List.suffix_append w' u).isInfix)) rest
    subst none
    exact ⟨List.append_nil w', (List.append_cancel_left rest).symm⟩

theorem char_inj {c : Char} (free : c ∉ w) (free' : c ∉ w') (same : w ++ c :: r = w' ++ c :: r') :
    w = w' ∧ r = r' :=
  separator_inj (unbordered_single c) (fun inside => free (inside.subset List.mem_cons_self))
    (fun inside => free' (inside.subset List.mem_cons_self)) same

/-- A separator is not met where its first character does not stand. -/
theorem infix_of_infix_append {c : Char} {more : List Char} (absent : c ∉ w) (inside : c :: more <:+: w ++ r) :
    c :: more <:+: r := by
  induction w with
  | nil => exact inside
  | cons x w ih =>
    rw [List.mem_cons, not_or] at absent
    obtain ⟨other, later⟩ := absent
    obtain here | behind := List.infix_cons_iff.mp inside
    · exact absurd (List.cons_prefix_cons.mp here).1 other
    · exact ih later behind

/-! Items with a separator between them. -/

theorem mem_intercalate {c : Char} (apart : c ∉ sep) {items : List (List Char)} :
    c ∈ sep.intercalate items ↔ ∃ item ∈ items, c ∈ item := by
  induction items with
  | nil => simp
  | cons item items ih =>
    cases items with
    | nil => simp
    | cons next items =>
      rw [List.intercalate_cons_cons, List.mem_append, List.mem_append, or_iff_left apart, ih]
      exact (List.exists_mem_cons_iff (c ∈ ·) item (next :: items)).symm

def IsItem (sep item : List Char) : Prop := item ≠ [] ∧ ¬ sep <:+: item

theorem intercalate_eq_nil {items : List (List Char)} (h : ∀ item ∈ items, IsItem sep item)
    (none : sep.intercalate items = []) : items = [] := by
  cases items with
  | nil => rfl
  | cons item items =>
    have some : item ≠ [] := (h item List.mem_cons_self).1
    cases items with
    | nil => exact absurd (List.intercalate_singleton.symm.trans none) some
    | cons next items =>
      rw [List.intercalate_cons_cons, List.append_assoc] at none
      exact absurd (List.append_eq_nil_iff.mp none).1 some

theorem intercalate_inj (unbordered : Unbordered sep) {a b : List (List Char)} (ha : ∀ item ∈ a, IsItem sep item)
    (hb : ∀ item ∈ b, IsItem sep item) (same : sep.intercalate a = sep.intercalate b) : a = b := by
  induction a generalizing b with
  | nil => exact (intercalate_eq_nil hb same.symm).symm
  | cons item a ih =>
    cases b with
    | nil => exact intercalate_eq_nil ha same
    | cons item' b =>
      obtain ⟨⟨-, free⟩, laterA⟩ := List.forall_mem_cons.mp ha
      obtain ⟨⟨-, free'⟩, laterB⟩ := List.forall_mem_cons.mp hb
      cases a with
      | nil =>
        cases b with
        | nil => simpa using same
        | cons next b =>
          rw [List.intercalate_singleton, List.intercalate_cons_cons, List.append_assoc] at same
          exact absurd (same ▸ List.infix_append' ..) free
      | cons next a =>
        cases b with
        | nil =>
          rw [List.intercalate_singleton, List.intercalate_cons_cons, List.append_assoc] at same
          exact absurd (same ▸ List.infix_append' ..) free'
        | cons next' b =>
          simp only [List.intercalate_cons_cons, List.append_assoc] at same
          obtain ⟨rfl, rest⟩ := separator_inj unbordered free free' same
          rw [ih laterA laterB rest]

/-! Lines. -/

def ofLines (lines : List (List Char)) : List Char := lines.flatMap (· ++ ['\n'])

theorem ofLines_cons (line : List Char) (lines : List (List Char)) :
    ofLines (line :: lines) = line ++ '\n' :: ofLines lines := by
  simp [ofLines]

theorem ofLines_inj {a b : List (List Char)} (ha : ∀ line ∈ a, '\n' ∉ line) (hb : ∀ line ∈ b, '\n' ∉ line)
    (same : ofLines a = ofLines b) : a = b := by
  induction a generalizing b with
  | nil =>
    cases b with
    | nil => rfl
    | cons line b => simp [ofLines] at same
  | cons line a ih =>
    cases b with
    | nil => simp [ofLines] at same
    | cons line' b =>
      rw [ofLines_cons, ofLines_cons] at same
      obtain ⟨first, laterA⟩ := List.forall_mem_cons.mp ha
      obtain ⟨first', laterB⟩ := List.forall_mem_cons.mp hb
      obtain ⟨rfl, rest⟩ := char_inj first first' same
      rw [ih laterA laterB rest]

theorem length_le_count_ofLines (lines : List (List Char)) : lines.length ≤ (ofLines lines).count '\n' := by
  induction lines with
  | nil => exact Nat.zero_le _
  | cons line lines ih =>
    rw [ofLines_cons, List.count_append, List.count_cons_self, List.length_cons]
    omega

/-- A text of lines has as many line feeds as lines exactly if none of the lines holds one. -/
theorem count_ofLines_eq_length_iff {lines : List (List Char)} :
    (ofLines lines).count '\n' = lines.length ↔ ∀ line ∈ lines, '\n' ∉ line := by
  induction lines with
  | nil => exact ⟨fun _ _ among => absurd among List.not_mem_nil, fun _ => rfl⟩
  | cons line lines ih =>
    have least := length_le_count_ofLines lines
    rw [ofLines_cons, List.count_append, List.count_cons_self, List.length_cons, List.forall_mem_cons, ← ih,
      ← List.count_eq_zero]
    omega

end QueryWarden.Text
