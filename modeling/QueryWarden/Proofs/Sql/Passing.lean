import QueryWarden.Sql.Parser

/-! Which tokens a parser has passed, and behind which of them it has passed a terminator. -/
namespace QueryWarden.Sql

/-- The tokens of a path behind which the next one is passed whatever it is: none, or parts each with a
period. -/
inductive PathBegun : List Located → Prop where
  | nothing : PathBegun []
  | part (t : Located) {dot : Located} {path : List Located} (period : dot.token = .symbol ".") :
      PathBegun path → PathBegun (t :: dot :: path)

/-- The tokens behind which the next one is passed whatever it is: those that end with `TABLE`, a word
and perhaps one token more, or with `OPERATOR`, a parenthesis and what has been read of a path. -/
inductive Swallows : List Located → Prop where
  | first (before : List Located) {t name : Located} (table : keyOf (some t.token) = "TABLE")
      (named : isWord (some name.token) = true) : Swallows (before ++ [t, name])
  | second (before : List Located) {t name : Located} (x : Located)
      (table : keyOf (some t.token) = "TABLE") (named : isWord (some name.token) = true) :
      Swallows (before ++ [t, name, x])
  | path (before : List Located) {t mark : Located} {path : List Located}
      (operator : keyOf (some t.token) = "OPERATOR") (opens : mark.token = .symbol "(")
      (begun : PathBegun path) : Swallows (before ++ t :: mark :: path)

theorem Swallows.prepend {before : List Located} (h : Swallows before) (more : List Located) :
    Swallows (more ++ before) := by
  cases h with
  | first before table named =>
    rw [← List.append_assoc]
    exact .first _ table named
  | second before x table named =>
    rw [← List.append_assoc]
    exact .second _ x table named
  | path before operator opens begun =>
    rw [← List.append_assoc]
    exact .path _ operator opens begun

def Swallowed (body : List Located) : Prop :=
  ∀ before semi after, body = before ++ semi :: after → semi.token = .terminator → Swallows before

theorem swallowed_nil : Swallowed [] := by
  intro before semi after h
  simp at h

/-- Terminators are swallowed if each of those in front is, and the others are by themselves. -/
theorem Swallowed.prepend {front body : List Located} (h : Swallowed body)
    (hfront : ∀ before semi after, front = before ++ semi :: after → semi.token = .terminator →
      Swallows before) : Swallowed (front ++ body) := by
  intro before semi after he hs
  obtain ⟨mid, rfl, hbody⟩ | ⟨mid, hmid, hafter⟩ := List.append_eq_append_iff.mp he
  · exact (h mid semi after hbody hs).prepend front
  · cases mid with
    | nil =>
      rw [List.append_nil] at hmid
      rw [← hmid, ← List.append_nil front]
      exact (h [] semi after hafter.symm hs).prepend front
    | cons x mid =>
      cases (List.cons.inj hafter).1
      exact hfront before semi mid hmid hs

theorem keyOf_terminator : keyOf (some .terminator) = "" := rfl

theorem isWord_terminator : isWord (some .terminator) = false := rfl

theorem period_ne_terminator : Token.symbol "." ≠ .terminator := by decide

theorem parenthesis_ne_terminator : Token.symbol "(" ≠ .terminator := by decide

/-- The tokens of a path: a terminator among them is one of its parts. -/
theorem pathIn_passed (ts : List Located) :
    ∃ path, ts = path ++ (pathIn ts).2 ∧
      ∀ before semi after, path = before ++ semi :: after → semi.token = .terminator →
        PathBegun before := by
  have only : ∀ (t : Located) before semi after, [t] = before ++ semi :: after → PathBegun before := by
    intro t before semi after he
    cases before with
    | nil => exact .nothing
    | cons x before => simp at he
  fun_induction pathIn ts with
  | case1 => exact ⟨[], rfl, by simp⟩
  | case2 t dot rest text period parts left hleft ih =>
    obtain ⟨path, hrest, hpath⟩ := ih
    refine ⟨t :: dot :: path, by simpa [hleft] using hrest, ?_⟩
    intro before semi after he hs
    cases before with
    | nil => exact .nothing
    | cons x before =>
      obtain ⟨rfl, hdot⟩ := List.cons.inj he
      cases before with
      | nil =>
        rw [← (List.cons.inj hdot).1, period] at hs
        exact absurd hs period_ne_terminator
      | cons y before =>
        obtain ⟨rfl, hmore⟩ := List.cons.inj hdot
        exact .part _ period (hpath before semi after hmore hs)
  | case3 t dot rest text plain =>
    exact ⟨[t], rfl, fun before semi after he _ => only t before semi after he⟩
  | case4 t => exact ⟨[t], rfl, fun before semi after he _ => only t before semi after he⟩

/-- What a parser has passed: the tokens in front of those that are left, and every terminator among
them is one that is passed whatever it is. -/
theorem Passes.body {ts rest : List Located} (h : Passes ts rest) :
    ∃ body, ts = body ++ rest ∧ Swallowed body := by
  induction h with
  | nothing ts => exact ⟨[], rfl, swallowed_nil⟩
  | @token t ts rest plain _ ih =>
    obtain ⟨body, rfl, hbody⟩ := ih
    refine ⟨[t] ++ body, rfl, hbody.prepend ?_⟩
    intro before semi after he hs
    cases before with
    | nil =>
      cases he
      exact absurd hs plain
    | cons x before => simp at he
  | @table t name ts rest table named _ ih =>
    obtain ⟨body, hdrop, hbody⟩ := ih
    refine ⟨(t :: name :: ts.take 2) ++ body, ?_, hbody.prepend ?_⟩
    · rw [List.append_assoc, ← hdrop, List.cons_append, List.cons_append, List.take_append_drop]
    · intro before semi after he hs
      match before with
      | [] =>
        rw [(List.cons.inj he).1, hs, keyOf_terminator] at table
        exact absurd table (by decide)
      | [x] =>
        simp only [List.cons_append, List.nil_append, List.cons.injEq] at he
        rw [he.2.1, hs, isWord_terminator] at named
        cases named
      | [x, y] =>
        simp only [List.cons_append, List.cons.injEq] at he
        obtain ⟨rfl, rfl, -⟩ := he
        exact .first [] table named
      | [x, y, z] =>
        simp only [List.cons_append, List.cons.injEq] at he
        obtain ⟨rfl, rfl, -⟩ := he
        exact .second [] z table named
      | x :: y :: z :: w :: before =>
        have hlength := congrArg List.length he
        simp at hlength
        omega
  | @operator t mark ts rest operator opens _ ih =>
    obtain ⟨body, hleft, hbody⟩ := ih
    obtain ⟨path, hts, hpath⟩ := pathIn_passed ts
    refine ⟨(t :: mark :: path) ++ body, ?_, hbody.prepend ?_⟩
    · rw [List.append_assoc, ← hleft, List.cons_append, List.cons_append, ← hts]
    · intro before semi after he hs
      match before with
      | [] =>
        rw [(List.cons.inj he).1, hs, keyOf_terminator] at operator
        exact absurd operator (by decide)
      | [x] =>
        simp only [List.cons_append, List.nil_append, List.cons.injEq] at he
        rw [he.2.1, hs] at opens
        exact absurd opens.symm parenthesis_ne_terminator
      | x :: y :: before =>
        simp only [List.cons_append, List.cons.injEq] at he
        obtain ⟨rfl, rfl, he⟩ := he
        exact .path [] operator opens (hpath before semi after he hs)

end QueryWarden.Sql
