import QueryWarden.Proofs.Sql.Lexemes

/-! The reading of a text from one point to another, and what a line feed behind the text changes in it.
Main result: a text with a line feed is read as the text is, unless a sign that may begin a name is the
last of the text; such a sign takes the line feed into the name. -/
namespace QueryWarden.Sql
open Lexeme
variable {d : Dialect} {p q r : Place} {s u v t : List Char} {ts us : List Located}

/-- The token that is found, if there is one, and how many further characters are taken. -/
def Lexeme.taken : Lexeme → Option (Option Token × Nat)
  | .token k n => some (some k, n)
  | .layout n => some (none, n)
  | .fault _ _ => none

theorem Lexeme.Stays.taken {room n : Nat} {x y : Lexeme} {k : Option Token} (h : Stays room x y)
    (found : x.taken = some (k, n)) :
    n ≤ room ∧ y.taken = some (k, n) ∨ n = room ∧ y.taken = some (k, n + 1) := by
  cases h with
  | fault => cases found
  | token k within =>
    cases found
    exact .inl ⟨within, rfl⟩
  | layout within =>
    cases found
    exact .inl ⟨within, rfl⟩
  | tokenToEnd k =>
    cases found
    exact .inr ⟨rfl, rfl⟩
  | layoutToEnd =>
    cases found
    exact .inr ⟨rfl, rfl⟩

/-- A text is read up to a point: the tokens in front of it, and the place and the characters that are
left. -/
inductive Scans (d : Dialect) : Place → List Char → List Located → Place → List Char → Prop where
  | here (p : Place) (s : List Char) : Scans d p s [] p s
  | step {p q : Place} {c : Char} {rest u : List Char} {k : Option Token} {n : Nat} {ts : List Located}
      (opens : (ofChars d c rest).taken = some (k, n)) :
      Scans d (p.passAll (c :: rest.take n)) (rest.drop n) ts q u →
      Scans d p (c :: rest) ((k.map (Located.mk · p)).toList ++ ts) q u

theorem Scans.token {c : Char} {rest : List Char} {k : Token} {n : Nat} (opens : ofChars d c rest = .token k n)
    (behind : Scans d (p.passAll (c :: rest.take n)) (rest.drop n) ts q u) :
    Scans d p (c :: rest) (⟨k, p⟩ :: ts) q u :=
  .step (congrArg Lexeme.taken opens) behind

theorem Scans.layout {c : Char} {rest : List Char} {n : Nat} (opens : ofChars d c rest = .layout n)
    (behind : Scans d (p.passAll (c :: rest.take n)) (rest.drop n) ts q u) : Scans d p (c :: rest) ts q u :=
  .step (congrArg Lexeme.taken opens) behind

theorem Scans.tokensFrom (h : Scans d p s ts q u) : tokensFrom d p s = (tokensFrom d q u).map (ts ++ ·) := by
  induction h with
  | here p s => cases Sql.tokensFrom d p s <;> rfl
  | @step p _ c rest _ _ _ _ opens _ ih =>
    rw [Sql.tokensFrom]
    cases h : ofChars d c rest with
    | fault message n => simp [h, Lexeme.taken] at opens
    | layout n =>
      rw [h] at opens
      cases opens
      exact ih
    | token k n =>
      rw [h] at opens
      cases opens
      simp only [ih]
      cases Sql.tokensFrom d _ _ <;> rfl

theorem scans_of_tokens (h : tokensFrom d p s = .ok ts) : ∃ q, Scans d p s ts q [] := by
  fun_induction tokensFrom d p s generalizing ts with
  | case1 p =>
    cases h
    exact ⟨p, .here p []⟩
  | case2 => cases h
  | case3 p c rest n opens ih =>
    obtain ⟨q, scans⟩ := ih h
    exact ⟨q, .layout opens scans⟩
  | case4 p c rest k n opens ih =>
    obtain ⟨more, found, rfl⟩ := map_eq_ok.mp h
    obtain ⟨q, scans⟩ := ih found
    exact ⟨q, .token opens scans⟩

theorem Scans.past {c : Char} {body : List Char} {k : Option Token}
    (opens : (ofChars d c (body ++ t)).taken = some (k, body.length))
    (behind : Scans d (p.passAll (c :: body)) t ts q u) :
    Scans d p (c :: (body ++ t)) ((k.map (Located.mk · p)).toList ++ ts) q u := by
  have scans : Scans d (p.passAll (c :: (body ++ t).take body.length)) ((body ++ t).drop body.length) ts q u := by
    rw [List.take_left, List.drop_left]
    exact behind
  exact .step opens scans

theorem Scans.trans (h : Scans d p s ts q u) (h' : Scans d q u us r v) : Scans d p s (ts ++ us) r v := by
  induction h with
  | here => exact h'
  | step opens _ ih =>
    rw [List.append_assoc]
    exact .step opens (ih h')

theorem Scans.to_end (h : Scans d p s ts q []) : Sql.tokensFrom d p s = .ok ts := by
  rw [h.tokensFrom, Sql.tokensFrom]
  simp [Except.map]

theorem Scans.suffix (h : Scans d p s ts q u) : u <:+ s := by
  induction h with
  | here => exact List.suffix_rfl
  | step _ _ ih => exact (ih.trans (List.drop_suffix _ _)).trans (List.suffix_cons _ _)

/-- At some point of the reading of a text nothing is left but a sign that may begin a name. -/
def Dangles (d : Dialect) (s : List Char) : Prop :=
  ∃ sign ∈ d.bareSigns, ∃ ts q, Scans d .start s ts q sign

theorem Dangles.suffix (h : Dangles d s) : ∃ sign ∈ d.bareSigns, sign <:+ s := by
  obtain ⟨sign, mem, _, _, scans⟩ := h
  exact ⟨sign, mem, scans.suffix⟩

theorem nil_notMem_bareSigns (d : Dialect) : [] ∉ d.bareSigns := by cases d <;> decide

/-- What a line feed behind a text changes in its reading: nothing, unless a sign is the last that is read. -/
theorem Scans.line (h : Scans d p s ts q []) :
    (∀ t, ∃ q', Scans d p (s ++ '\n' :: t) ts q' t) ∨
      ∃ sign ∈ d.bareSigns, ∃ kept q', Scans d p s kept q' sign ∧
        ∀ t, Scans d p (s ++ '\n' :: t) kept q' (sign ++ '\n' :: t) := by
  generalize ends : ([] : List Char) = u at h
  induction h with
  | here p s =>
    subst ends
    refine .inl fun t => ?_
    have line : (ofChars d '\n' t).taken = some (none, 0) := rfl
    exact ⟨_, .step line (.here _ t)⟩
  | @step p q c rest u k n ts opens behind ih =>
    by_cases bare : c :: rest ∈ d.bareSigns
    · exact .inr ⟨_, bare, [], p, .here _ _, fun t => .here _ _⟩
    have stays (t : List Char) := (ofChars_stays (t := t) bare).taken opens
    -- Where the line feed is not taken, reading goes on as before.
    have onwards {t v : List Char} {more : List Located} {q' : Place} (within : n ≤ rest.length)
        (same : (ofChars d c (rest ++ '\n' :: t)).taken = some (k, n))
        (scans : Scans d (p.passAll (c :: rest.take n)) (rest.drop n ++ '\n' :: t) more q' v) :
        Scans d p (c :: rest ++ '\n' :: t) ((k.map (Located.mk · p)).toList ++ more) q' v := by
      rw [← List.drop_append_of_le_length within, ← List.take_append_of_le_length within] at scans
      exact .step same scans
    obtain left | ⟨sign, mem, kept, q', scans, further⟩ := ih ends
    · refine .inl fun t => ?_
      obtain ⟨within, same⟩ | ⟨rfl, longer⟩ := stays t
      · obtain ⟨q', scans⟩ := left t
        exact ⟨q', onwards within same scans⟩
      · subst ends
        rw [List.drop_length] at behind
        cases behind
        have left : (rest ++ '\n' :: t).drop (rest.length + 1) = t := by simp
        have scans (q' : Place) : Scans d q' ((rest ++ '\n' :: t).drop (rest.length + 1)) [] q' t := by
          rw [left]
          exact .here q' t
        exact ⟨_, .step longer (scans _)⟩
    · refine .inr ⟨sign, mem, _, q', .step opens scans, fun t => ?_⟩
      obtain ⟨within, same⟩ | ⟨rfl, -⟩ := stays t
      · exact onwards within same (further t)
      · rw [List.drop_length] at scans
        cases scans
        exact absurd mem (nil_notMem_bareSigns d)

end QueryWarden.Sql
