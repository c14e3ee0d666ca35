import Mathlib.Data.List.TakeWhile
import QueryWarden.Text.Blank

/-! What trimming leaves: nothing exactly if the text is blank throughout, else a text without blanks at its
ends, from which nothing more is trimmed off. -/
namespace QueryWarden.Text

theorem trimRight_eq_nil {cs : List Char} : trimRight cs = [] ↔ ∀ c ∈ cs, isBlank c = true := by
  simp [trimRight, List.dropWhile_eq_nil_iff]

theorem trim_eq_empty {s : String} : trim s = "" ↔ s.toList.all isBlank = true := by
  have none_left : (∀ c ∈ trimLeft s.toList, isBlank c = true) ↔ ∀ c ∈ s.toList, isBlank c = true := by
    constructor
    · intro h c hc
      rw [← List.takeWhile_append_dropWhile (p := isBlank) (l := s.toList)] at hc
      obtain hc | hc := List.mem_append.mp hc
      · exact List.mem_takeWhile_imp hc
      · exact h c hc
    · intro h c hc
      exact h c ((List.dropWhile_sublist _).subset hc)
  rw [List.all_eq_true, ← none_left, ← trimRight_eq_nil, trim]
  constructor
  · intro h
    simpa using congrArg String.toList h
  · intro h
    rw [h]

theorem isDigit_of_isBlank {x : Char} (h : isBlank x = true) : x.isDigit = false := by
  by_contra digit
  have low : '0'.val.toNat = 48 := rfl
  have high : '9'.val.toNat = 57 := rfl
  simp only [Bool.not_eq_false, Char.isDigit, Bool.and_eq_true, decide_eq_true_eq, ge_iff_le,
    UInt32.le_iff_toNat_le] at digit
  simp only [isBlank, Char.toNat, Bool.or_eq_true, Bool.and_eq_true, decide_eq_true_eq,
    beq_iff_eq] at h
  omega

/-! Texts without blanks at their ends. -/

variable {cs : List Char}

/-- A text that neither begins nor ends with a blank. -/
structure Trimmed (cs : List Char) : Prop where
  front : ∀ c ∈ cs.head?, isBlank c = false
  back : ∀ c ∈ cs.getLast?, isBlank c = false

theorem trimmed_iff :
    Trimmed cs ↔ (cs.head?.all fun c => !isBlank c) = true ∧ (cs.getLast?.all fun c => !isBlank c) = true := by
  simp only [Option.all_eq_true, Bool.not_eq_true']
  exact ⟨fun h => ⟨h.front, h.back⟩, fun ⟨front, back⟩ => ⟨front, back⟩⟩

instance (cs : List Char) : Decidable (Trimmed cs) := decidable_of_iff _ trimmed_iff.symm

theorem trimLeft_head {c : Char} (h : c ∈ (trimLeft cs).head?) : isBlank c = false := by
  have := List.head?_dropWhile_not isBlank cs
  rw [trimLeft] at h
  rw [h] at this
  simpa using this

theorem trimRight_begins (cs : List Char) : trimRight cs <+: cs := by
  have suffix : cs.reverse.dropWhile isBlank <:+ cs.reverse := List.dropWhile_suffix _
  simpa [trimRight] using List.reverse_prefix.mpr suffix

theorem trim_infix (cs : List Char) : trimRight (trimLeft cs) <:+: cs :=
  (trimRight_begins _).isInfix.trans (List.dropWhile_suffix _).isInfix

theorem trimRight_getLast (cs : List Char) : ∀ c ∈ (trimRight cs).getLast?, isBlank c = false := by
  intro c hc
  rw [trimRight, List.getLast?_reverse] at hc
  exact trimLeft_head hc

theorem trimmed_trim (cs : List Char) : Trimmed (trimRight (trimLeft cs)) := by
  constructor
  · intro c hc
    obtain ⟨rest, split⟩ := trimRight_begins (trimLeft cs)
    have first : c ∈ (trimLeft cs).head? := by
      rw [← split, List.head?_append, Option.mem_def.mp hc]
      rfl
    exact trimLeft_head first
  · exact trimRight_getLast (trimLeft cs)

theorem trimLeft_of_head (h : ∀ c ∈ cs.head?, isBlank c = false) : trimLeft cs = cs := by
  cases cs with
  | nil => rfl
  | cons c cs =>
    rw [trimLeft, List.dropWhile_cons_of_neg]
    rw [h c rfl]
    exact Bool.false_ne_true

theorem trimRight_of_getLast (h : ∀ c ∈ cs.getLast?, isBlank c = false) : trimRight cs = cs := by
  have back : ∀ c ∈ cs.reverse.head?, isBlank c = false := by
    rw [List.head?_reverse]
    exact h
  have same : cs.reverse.dropWhile isBlank = cs.reverse := trimLeft_of_head back
  rw [trimRight, same, List.reverse_reverse]

/-- Nothing is trimmed off a text that is trimmed. -/
theorem Trimmed.trim_eq (h : Trimmed cs) : trimRight (trimLeft cs) = cs := by
  rw [trimLeft_of_head h.front, trimRight_of_getLast h.back]

theorem trimLeft_append_left {blanks : List Char} (h : ∀ c ∈ blanks, isBlank c = true) :
    trimLeft (blanks ++ cs) = trimLeft cs := List.dropWhile_append_of_pos h

theorem trimRight_append_right {blanks : List Char} (h : ∀ c ∈ blanks, isBlank c = true) :
    trimRight (cs ++ blanks) = trimRight cs := by
  rw [trimRight, List.reverse_append, List.dropWhile_append_of_pos, trimRight]
  intro c hc
  exact h c (List.mem_reverse.mp hc)

theorem trimRight_append_cons {x : Char} (solid : isBlank x = false) (more : List Char) :
    trimRight (cs ++ x :: more) = cs ++ x :: trimRight more := by
  have kept : (x :: cs.reverse).dropWhile isBlank = x :: cs.reverse :=
    List.dropWhile_cons_of_neg (Bool.eq_false_iff.mp solid)
  have turned : (cs ++ x :: more).reverse = more.reverse ++ x :: cs.reverse := by simp
  rw [trimRight, turned, List.dropWhile_append, kept, trimRight]
  split
  · rename_i blank
    rw [List.isEmpty_iff.mp blank]
    simp
  · simp

/-- What is left behind a character is left because something behind it, or the character itself, is no blank. -/
theorem mem_trimRight_iff {c : Char} :
    c ∈ trimRight cs ↔ ∃ before behind, cs = before ++ c :: behind ∧ ∃ x ∈ c :: behind, isBlank x = false := by
  constructor
  · intro among
    obtain ⟨before, behind, split⟩ := List.append_of_mem among
    obtain ⟨rest, whole⟩ := trimRight_begins cs
    refine ⟨before, behind ++ rest, by rw [← whole, split, List.append_assoc, List.cons_append], ?_⟩
    have last := trimRight_getLast cs
    rw [split, List.getLast?_append, List.getLast?_eq_some_getLast (List.cons_ne_nil c behind)] at last
    have among : _ ∈ (c :: behind) ++ rest := List.mem_append_left rest (List.getLast_mem (List.cons_ne_nil c behind))
    exact ⟨_, among, last _ rfl⟩
  · rintro ⟨before, behind, rfl, x, among, solid⟩
    obtain rfl | later := List.mem_cons.mp among
    · rw [trimRight_append_cons solid]
      simp
    · obtain ⟨p, q, rfl⟩ := List.append_of_mem later
      rw [← List.cons_append, ← List.append_assoc, trimRight_append_cons solid]
      simp

/-- Blanks around a text are trimmed off with its own. -/
theorem trim_between {front back : List Char} (hf : ∀ c ∈ front, isBlank c = true)
    (hb : ∀ c ∈ back, isBlank c = true) :
    trimRight (trimLeft (front ++ (cs ++ back))) = trimRight (trimLeft cs) := by
  rw [trimLeft_append_left hf]
  by_cases blank : ∀ c ∈ cs, isBlank c = true
  · have none_left : trimLeft (cs ++ back) = [] := by
      rw [trimLeft_append_left blank]
      exact List.dropWhile_eq_nil_iff.mpr hb
    have nothing : trimLeft cs = [] := List.dropWhile_eq_nil_iff.mpr blank
    rw [none_left, nothing]
  · have some_left : (cs.dropWhile isBlank).isEmpty = false := by
      rw [Bool.eq_false_iff, Ne, List.isEmpty_iff, List.dropWhile_eq_nil_iff]
      exact blank
    have cut : trimLeft (cs ++ back) = trimLeft cs ++ back := by
      rw [trimLeft, List.dropWhile_append, some_left]
      rfl
    rw [cut, trimRight_append_right hb]

end QueryWarden.Text
