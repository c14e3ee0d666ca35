import QueryWarden.Generator.Candidate
import QueryWarden.Proofs.Text.Blank

/-! What cleaning a reply leaves of it. Only characters of fences and blanks are taken out, so a word that
has none of them is still there, in one piece. What is left is a normal form: it has no fence anywhere and no
blank at its ends, and cleaning leaves such a text as it is. -/
namespace QueryWarden.Generator

inductive Thinned (p : Char → Prop) : List Char → List Char → Prop where
  | nil : Thinned p [] []
  | keep (c : Char) {text left : List Char} : Thinned p text left → Thinned p (c :: text) (c :: left)
  | drop {c : Char} {text left : List Char} : p c → Thinned p text left → Thinned p (c :: text) left

section
variable {p : Char → Prop} {text left word : List Char}

theorem Thinned.refl (p : Char → Prop) (text : List Char) : Thinned p text text := by
  induction text with
  | nil => exact .nil
  | cons c text ih => exact .keep c ih

/-- What stands at the front and has nothing to lose stays at the front. -/
theorem Thinned.front (h : Thinned p text left) (apart : ∀ c ∈ word, ¬ p c) (front : word <+: text) :
    word <+: left := by
  induction h generalizing word with
  | nil => exact front
  | keep c _ ih =>
    cases word with
    | nil => exact ⟨_, rfl⟩
    | cons w word =>
      obtain ⟨rfl, behind⟩ := List.cons_prefix_cons.mp front
      have rest := ih (fun c hc => apart c (List.mem_cons_of_mem _ hc)) behind
      exact List.cons_prefix_cons.mpr ⟨rfl, rest⟩
  | drop dropped _ ih =>
    cases word with
    | nil => exact ⟨_, rfl⟩
    | cons w word =>
      obtain ⟨rfl, -⟩ := List.cons_prefix_cons.mp front
      exact absurd dropped (apart w (List.mem_cons_self ..))

/-- What has nothing to lose stays in one piece. -/
theorem Thinned.piece (h : Thinned p text left) (apart : ∀ c ∈ word, ¬ p c) (within : word <:+: text) :
    word <:+: left := by
  induction h with
  | nil => exact within
  | keep c h ih =>
    obtain front | behind := List.infix_cons_iff.mp within
    · exact ((Thinned.keep c h).front apart front).isInfix
    · exact List.infix_cons (ih behind)
  | drop dropped h ih =>
    obtain front | behind := List.infix_cons_iff.mp within
    · exact ((Thinned.drop dropped h).front apart front).isInfix
    · exact ih behind

theorem thinned_dropWhile {q : Char → Bool} (text : List Char) :
    Thinned (q · = true) text (text.dropWhile q) := by
  induction text with
  | nil => exact .nil
  | cons c text ih =>
    by_cases h : q c = true
    · rw [List.dropWhile_cons_of_pos h]
      exact .drop h ih
    · rw [List.dropWhile_cons_of_neg h]
      exact .refl _ _

end

def fence : List Char := ['\x60', '\x60', '\x60', 's', 'q', 'l']

theorem thinned_dropSqlFences (text : List Char) : Thinned (· ∈ fence) text (dropSqlFences text) := by
  fun_induction dropSqlFences text with
  | case1 rest ih =>
    have mark : '\x60' ∈ fence := by decide
    exact .drop mark (.drop mark (.drop mark (.drop (by decide) (.drop (by decide) (.drop (by decide) ih)))))
  | case2 c rest _ ih => exact .keep c ih
  | case3 => exact .nil

theorem thinned_dropFences (text : List Char) : Thinned (· ∈ fence) text (dropFences text) := by
  fun_induction dropFences text with
  | case1 rest ih =>
    have mark : '\x60' ∈ fence := by decide
    exact .drop mark (.drop mark (.drop mark ih))
  | case2 c rest _ ih => exact .keep c ih
  | case3 => exact .nil

/-- A word without blanks is not trimmed away. -/
theorem infix_trimmed {word text : List Char} (solid : ∀ c ∈ word, Text.isBlank c = false)
    (within : word <:+: text) : word <:+: Text.trimRight (Text.trimLeft text) := by
  have apart : ∀ c ∈ word, ¬ Text.isBlank c = true := by
    intro c hc
    rw [solid c hc]
    exact Bool.false_ne_true
  have left : word <:+: Text.trimLeft text := (thinned_dropWhile text).piece apart within
  have right := (thinned_dropWhile (Text.trimLeft text).reverse).piece
    (fun c hc => apart c (List.mem_reverse.mp hc)) left.reverse
  simpa [Text.trimRight] using right.reverse

/-- The sentinel has nothing in common with fences and blanks. -/
theorem sentinel_apart : ∀ c ∈ sentinel.toList, c ∉ fence ∧ Text.isBlank c = false := by
  have each : (sentinel.toList.all fun c => !fence.contains c && !Text.isBlank c) = true := by decide
  simpa using each

theorem sentinel_trim {text : String} (h : sentinel.toList <:+: text.toList) :
    sentinel.toList <:+: (Text.trim text).toList := by
  rw [Text.trim, String.toList_ofList]
  exact infix_trimmed (fun c hc => (sentinel_apart c hc).2) h

theorem sentinel_clean {text : String} (h : sentinel.toList <:+: text.toList) :
    sentinel.toList <:+: (clean text).toList := by
  have apart : ∀ c ∈ sentinel.toList, c ∉ fence := fun c hc => (sentinel_apart c hc).1
  have unfenced : sentinel.toList <:+: dropFences (dropSqlFences text.toList) :=
    (thinned_dropFences _).piece apart ((thinned_dropSqlFences _).piece apart h)
  rw [clean, String.toList_ofList]
  exact infix_trimmed (fun c hc => (sentinel_apart c hc).2) unfenced

/-! ### The normal form -/

def mark : List Char := ['\x60', '\x60', '\x60']

/-- A text as cleaning leaves it. -/
structure IsClean (text : List Char) : Prop where
  unfenced : ¬ mark <:+: text
  trimmed : Text.Trimmed text

variable {text left rest : List Char}

/-! What is left is part of the reply. -/

theorem Thinned.sublist {p : Char → Prop} (h : Thinned p text left) : left.Sublist text := by
  induction h with
  | nil => exact .slnil
  | keep c _ ih => exact .cons_cons c ih
  | drop _ _ ih => exact .cons _ ih

theorem clean_sublist (reply : String) : (clean reply).toList.Sublist reply.toList := by
  rw [clean, String.toList_ofList]
  have unfenced := (thinned_dropFences (dropSqlFences reply.toList)).sublist
  exact (Text.trim_infix _).sublist.trans (unfenced.trans (thinned_dropSqlFences _).sublist)

/-! No fence is left: a run of backticks loses three after three, and what is around it stays apart. -/

def ticks (text : List Char) : Nat := (text.takeWhile (· == '\x60')).length

theorem ticks_tick (text : List Char) : ticks ('\x60' :: text) = ticks text + 1 := rfl

theorem ticks_other {c : Char} (h : c ≠ '\x60') (text : List Char) : ticks (c :: text) = 0 := by
  simp [ticks, h]

theorem ticks_of_mark (h : mark <+: text) : 3 ≤ ticks text := by
  obtain ⟨rest, rfl⟩ := h
  exact Nat.le_add_left 3 (ticks rest)

theorem cons_of_ticks {n : Nat} (h : n + 1 ≤ ticks text) : ∃ rest, text = '\x60' :: rest ∧ n ≤ ticks rest := by
  cases text with
  | nil => cases h
  | cons c text =>
    by_cases tick : c = '\x60'
    · subst tick
      exact ⟨text, rfl, Nat.le_of_succ_le_succ h⟩
    · rw [ticks_other tick] at h
      cases h

theorem ticks_dropFences (text : List Char) : ticks (dropFences text) = ticks text % 3 := by
  fun_induction dropFences text with
  | case1 rest ih =>
    simp only [ticks_tick, ih]
    omega
  | case2 c rest alone ih =>
    by_cases tick : c = '\x60'
    · subst tick
      have few : ticks rest < 2 := by
        by_contra many
        obtain ⟨one, rfl, some⟩ := cons_of_ticks (Nat.le_of_not_lt many)
        obtain ⟨two, rfl, -⟩ := cons_of_ticks some
        exact alone two rfl rfl
      rw [ticks_tick, ticks_tick, ih]
      omega
    · rw [ticks_other tick, ticks_other tick]
  | case3 => rfl

theorem dropFences_unfenced (text : List Char) : ¬ mark <:+: dropFences text := by
  fun_induction dropFences text with
  | case1 rest ih => exact ih
  | case2 c rest alone ih =>
    intro fenced
    obtain front | behind := List.infix_cons_iff.mp fenced
    · have many := ticks_of_mark front
      have few := ticks_dropFences (c :: rest)
      rw [dropFences] at few
      · omega
      · exact alone
    · exact ih behind
  | case3 => decide

theorem isClean_clean (reply : String) : IsClean (clean reply).toList := by
  rw [clean, String.toList_ofList]
  refine ⟨fun fenced => ?_, Text.trimmed_trim _⟩
  exact dropFences_unfenced _ (fenced.trans (Text.trim_infix _))

/-! Cleaning leaves a clean text as it is. -/

theorem dropSqlFences_of_unfenced (h : ¬ mark <:+: text) : dropSqlFences text = text := by
  fun_induction dropSqlFences text with
  | case1 rest => exact absurd ⟨[], _, rfl⟩ h
  | case2 c rest _ ih => rw [ih fun fenced => h (List.infix_cons fenced)]
  | case3 => rfl

theorem dropFences_of_unfenced (h : ¬ mark <:+: text) : dropFences text = text := by
  fun_induction dropFences text with
  | case1 rest => exact absurd ⟨[], _, rfl⟩ h
  | case2 c rest _ ih => rw [ih fun fenced => h (List.infix_cons fenced)]
  | case3 => rfl

theorem clean_of_isClean {reply : String} (h : IsClean reply.toList) : clean reply = reply := by
  rw [clean, dropSqlFences_of_unfenced h.unfenced, dropFences_of_unfenced h.unfenced, h.trimmed.trim_eq,
    String.ofList_toList]

/-! A statement between fences. -/

theorem dropSqlFences_append (h : '\x60' ∉ text) : dropSqlFences (text ++ rest) = text ++ dropSqlFences rest := by
  induction text with
  | nil => rfl
  | cons c text ih =>
    have other := List.ne_of_not_mem_cons h
    rw [List.cons_append, dropSqlFences, ih (List.not_mem_of_not_mem_cons h), List.cons_append]
    intro _ tick
    exact absurd tick.symm other

theorem dropFences_append (h : '\x60' ∉ text) : dropFences (text ++ rest) = text ++ dropFences rest := by
  induction text with
  | nil => rfl
  | cons c text ih =>
    have other := List.ne_of_not_mem_cons h
    rw [List.cons_append, dropFences, ih (List.not_mem_of_not_mem_cons h), List.cons_append]
    intro _ tick
    exact absurd tick.symm other

/-- The lines between two fences, trimmed. -/
theorem trim_lines (text : List Char) :
    Text.trimRight (Text.trimLeft ('\n' :: (text ++ ['\n']))) = Text.trimRight (Text.trimLeft text) := by
  have blank : ∀ c ∈ ['\n'], Text.isBlank c = true := List.forall_mem_singleton.mpr (by decide)
  exact Text.trim_between blank blank

theorem clean_between {sql : String} (h : '\x60' ∉ sql.toList) :
    clean ("```sql\n" ++ sql ++ "\n```") = Text.trim sql ∧ clean ("```\n" ++ sql ++ "\n```") = Text.trim sql := by
  generalize hbody : '\n' :: (sql.toList ++ ['\n']) = body
  have plain : '\x60' ∉ body := by
    simpa [← hbody] using h
  have inner : dropSqlFences (body ++ mark) = body ++ mark := by
    rw [dropSqlFences_append plain]
    rfl
  have bare : dropFences (body ++ mark) = body := by
    rw [dropFences_append plain]
    exact List.append_nil body
  have trimmed : Text.trim sql = String.ofList (Text.trimRight (Text.trimLeft body)) := by
    rw [← hbody, trim_lines, Text.trim]
  have labelled : ("```sql\n" ++ sql ++ "\n```").toList = fence ++ (body ++ mark) := by
    simp [fence, mark, ← hbody]
  have unlabelled : ("```\n" ++ sql ++ "\n```").toList = mark ++ (body ++ mark) := by
    simp [mark, ← hbody]
  constructor
  · have opened : dropSqlFences (fence ++ (body ++ mark)) = dropSqlFences (body ++ mark) := rfl
    rw [clean, labelled, opened, inner, bare, trimmed]
  · have kept : dropSqlFences (mark ++ (body ++ mark)) = mark ++ dropSqlFences (body ++ mark) := by
      subst hbody
      simp [mark, dropSqlFences]
    have opened : dropFences (mark ++ (body ++ mark)) = dropFences (body ++ mark) := rfl
    rw [clean, unlabelled, kept, inner, opened, bare, trimmed]

/-- Cleaning brings every reply to a normal form: no fence is left in it, it neither begins nor ends with white
space, it consists of characters of the reply in their order, and cleaning it again changes nothing. A
statement without backticks between two fences, labelled or not, comes out trimmed. -/
theorem clean_normalizes :
    (∀ reply : String, IsClean (clean reply).toList ∧ clean (clean reply) = clean reply ∧
      (clean reply).toList.Sublist reply.toList) ∧
    ∀ sql : String, '\x60' ∉ sql.toList →
      clean ("```sql\n" ++ sql ++ "\n```") = Text.trim sql ∧ clean ("```\n" ++ sql ++ "\n```") = Text.trim sql :=
  ⟨fun reply => ⟨isClean_clean reply, clean_of_isClean (isClean_clean reply), clean_sublist reply⟩,
    fun _ h => clean_between h⟩

theorem fenced_query_cleaned :
    '\x60' ∉ " SELECT 1\t".toList ∧ clean ("```sql\n" ++ " SELECT 1\t" ++ "\n```") = "SELECT 1" := by
  have plain : '\x60' ∉ " SELECT 1\t".toList := by decide
  exact ⟨plain, (clean_normalizes.2 _ plain).1⟩

end QueryWarden.Generator
