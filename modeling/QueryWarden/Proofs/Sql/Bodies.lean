import QueryWarden.Sql.Quotation

/-! What a line feed behind a text changes in the readers of quoted bodies and comments: nothing where the
body ends in the text. -/
namespace QueryWarden.Sql.Quotation
open Text
variable {t : List Char} {room : Nat} {o o' : Option Body}

def Kept (room : Nat) (o o' : Option Body) : Prop := ∀ b, o = some b → b.2 ≤ room ∧ o' = some b

theorem kept_none : Kept room none o' := nofun

theorem kept_some {b : Body} (within : b.2 ≤ room) : Kept room (some b) (some b) := by
  rintro _ ⟨⟩
  exact ⟨within, rfl⟩

theorem Kept.map {f : Body → Body} {k : Nat} (grows : ∀ b, (f b).2 ≤ b.2 + k) (h : Kept room o o') :
    Kept (room + k) (o.map f) (o'.map f) := by
  intro b hb
  obtain ⟨b', found, rfl⟩ := Option.map_eq_some_iff.mp hb
  obtain ⟨within, again⟩ := h b' found
  have wide := grows b'
  exact ⟨by omega, by rw [again]; rfl⟩

theorem Kept.push (c : Char) (k : Nat) (h : Kept room o o') :
    Kept (room + k) (o.map (Body.push c k)) (o'.map (Body.push c k)) :=
  h.map fun _ => Nat.le_refl _

/-- What is kept behind some characters of a text is kept with them in front. -/
theorem Kept.behind {rest : List Char} {f : Body → Body} {n : Nat} (k : Nat) (within : n ≤ rest.length)
    (grows : ∀ b, (f b).2 ≤ b.2 + (n + k)) (h : Kept (rest.drop n).length o o') :
    Kept (rest.length + k) (o.map f) (o'.map f) := by
  have room : rest.length + k = (rest.drop n).length + (n + k) := by
    rw [List.length_drop]
    omega
  rw [room]
  exact h.map grows

theorem read?_kept {quote : Char} (inline : quote ≠ '\n') (backslash : Bool) (cs : List Char) :
    Kept cs.length (read? quote backslash cs) (read? quote backslash (cs ++ '\n' :: t)) := by
  have other : ('\n' == quote) = false := by simpa using inline.symm
  fun_induction read? quote backslash cs with
  | case1 => exact kept_none
  | case2 c closes =>
    simp only [List.cons_append, List.nil_append, read?, closes, other]
    exact kept_some (Nat.le_refl _)
  | case3 => exact kept_none
  | case4 c e rest closes again ih =>
    simp only [List.cons_append, read?, closes, again]
    exact ih.push c 2
  | case5 c e rest closes single =>
    simp only [List.cons_append, read?, closes, single]
    exact kept_some (by simp)
  | case6 c e rest plain escapes ih =>
    simp only [List.cons_append, read?, plain, escapes]
    exact ih.push _ 2
  | case7 c e rest plain unescaped ih =>
    simp only [List.cons_append, read?, plain, unescaped]
    exact ih.push c 1

theorem readTriple?_kept (quote : Char) (seen : Nat) (cs : List Char) :
    Kept cs.length (readTriple? quote seen cs) (readTriple? quote seen (cs ++ '\n' :: t)) := by
  fun_induction readTriple? quote seen cs with
  | case1 => exact kept_none
  | case2 seen c rest closes third =>
    simp only [List.cons_append, readTriple?, closes, third]
    exact kept_some (by simp)
  | case3 seen c rest closes early ih =>
    simp only [List.cons_append, readTriple?, closes, early]
    exact ih.push c 1
  | case4 seen c rest plain ih =>
    simp only [List.cons_append, readTriple?, plain]
    exact ih.push c 1

theorem isPrefixOf_line {mark : List Char} (inline : '\n' ∉ mark) (cs : List Char) :
    mark.isPrefixOf (cs ++ '\n' :: t) = mark.isPrefixOf cs := by
  induction mark generalizing cs with
  | nil => rfl
  | cons m mark ih =>
    rw [List.mem_cons, not_or] at inline
    cases cs with
    | nil =>
      have other : (m == '\n') = false := by simpa using Ne.symm inline.1
      simp [List.isPrefixOf, other]
    | cons c cs => simp [List.isPrefixOf, ih inline.2]

theorem readUntil?_kept {mark : List Char} (inline : '\n' ∉ mark) (cs : List Char) :
    Kept cs.length (readUntil? mark cs) (readUntil? mark (cs ++ '\n' :: t)) := by
  fun_induction readUntil? mark cs with
  | case1 => exact kept_none
  | case2 c rest ends =>
    have same := isPrefixOf_line (t := t) inline (c :: rest)
    rw [List.cons_append] at same ⊢
    rw [readUntil?, if_pos (same.trans ends)]
    exact kept_some (List.isPrefixOf_iff_prefix.mp ends).length_le
  | case3 c rest goesOn ih =>
    have same := isPrefixOf_line (t := t) inline (c :: rest)
    rw [List.cons_append] at same ⊢
    rw [readUntil?, if_neg (by rwa [same])]
    exact ih.push c 1

theorem comment?_kept {depth : Nat} {last : Char} {cs : List Char} {n : Nat}
    (h : comment? depth last cs = some n) :
    n ≤ cs.length ∧ comment? depth last (cs ++ '\n' :: t) = some n := by
  induction cs generalizing depth last n with
  | nil => cases h
  | cons c rest ih =>
    unfold comment? at h
    split at h
    · rename_i opens
      obtain ⟨m, hm, rfl⟩ := Option.map_eq_some_iff.mp h
      obtain ⟨within, same⟩ := ih hm
      simp [comment?, opens, same, within]
    · rename_i inside
      split at h
      · rename_i closes
        cases depth with
        | zero =>
          cases h
          simp [comment?, inside, closes]
        | succ depth =>
          obtain ⟨m, hm, rfl⟩ := Option.map_eq_some_iff.mp h
          obtain ⟨within, same⟩ := ih hm
          simp [comment?, inside, closes, same, within]
      · rename_i goesOn
        obtain ⟨m, hm, rfl⟩ := Option.map_eq_some_iff.mp h
        obtain ⟨within, same⟩ := ih hm
        simp [comment?, inside, goesOn, same, within]

theorem common_append (tag : List Char) {cs : List Char} (more : List Char) (h : common tag cs < cs.length) :
    common tag (cs ++ more) = common tag cs := by
  induction tag generalizing cs with
  | nil => cases cs <;> cases more <;> rfl
  | cons a tag ih =>
    cases cs with
    | nil => cases h
    | cons c cs =>
      by_cases same : a == c
      · simp only [common, same, if_true, List.length_cons] at h
        simp only [List.cons_append, common, same, if_true, ih (by omega : common tag cs < cs.length)]
      · simp [common, same]

theorem lt_length_of_drop {k : Nat} {cs more : List Char} {e : Char} (h : cs.drop k = e :: more) :
    k < cs.length := by
  have := congrArg List.length h
  rw [List.length_drop, List.length_cons] at this
  omega

theorem drop_line {k : Nat} {cs more : List Char} {e : Char} (h : cs.drop k = e :: more) :
    (cs ++ '\n' :: t).drop k = e :: (more ++ '\n' :: t) := by
  rw [List.drop_append_of_le_length (Nat.le_of_lt (lt_length_of_drop h)), h, List.cons_append]

theorem readTagged?_sign {tag rest more : List Char} {e : Char} {k : Nat} (same : common tag rest = k)
    (behind : rest.drop k = e :: more) :
    readTagged? tag ('$' :: rest) =
      if k == tag.length then
        if e == '$' then some ([], k + 2)
        else (readTagged? tag (rest.drop k)).map fun b => ('$' :: tag ++ b.1, b.2 + k + 1)
      else (readTagged? tag (rest.drop (k + 1))).map fun b => ('$' :: tag.take k ++ e :: b.1, b.2 + k + 2) := by
  rw [readTagged?, if_neg (by decide)]
  simp only [same, behind]

theorem readTagged?_kept (tag cs : List Char) :
    Kept cs.length (readTagged? tag cs) (readTagged? tag (cs ++ '\n' :: t)) := by
  fun_induction readTagged? tag cs with
  | case1 => exact kept_none
  | case2 c rest plain ih =>
    rw [List.cons_append, readTagged?, if_pos plain]
    exact ih.push c 1
  | case3 c rest sign k none => exact kept_none
  | case4 c rest sign k e more behind full shut =>
    have inside : k < rest.length := lt_length_of_drop behind
    obtain rfl : c = '$' := by simpa using sign
    rw [List.cons_append, readTagged?_sign (common_append tag _ inside) (drop_line behind), if_pos full,
      if_pos shut]
    exact kept_some (Nat.succ_le_succ inside)
  | case5 c rest sign k e more behind full goesOn ih =>
    have inside : k < rest.length := lt_length_of_drop behind
    obtain rfl : c = '$' := by simpa using sign
    rw [List.cons_append, readTagged?_sign (common_append tag _ inside) (drop_line behind), if_pos full,
      if_neg goesOn, List.drop_append_of_le_length (Nat.le_of_lt inside)]
    exact ih.behind 1 (Nat.le_of_lt inside) fun _ => Nat.le_refl _
  | case6 c rest sign k e more behind short ih =>
    have inside : k < rest.length := lt_length_of_drop behind
    obtain rfl : c = '$' := by simpa using sign
    rw [List.cons_append, readTagged?_sign (common_append tag _ inside) (drop_line behind), if_neg short,
      List.drop_append_of_le_length inside]
    exact ih.behind 1 inside fun _ => Nat.le_refl _

theorem takeWhile_line {p : Char → Bool} (stops : p '\n' = false) (cs : List Char) :
    (cs ++ '\n' :: t).takeWhile p = cs.takeWhile p := by
  induction cs with
  | nil => simp [stops]
  | cons c cs ih => simp only [List.cons_append, List.takeWhile_cons, ih]

theorem takeWhile_take_line {p : Char → Bool} (stops : p '\n' = false) (k : Nat) (cs : List Char) :
    ((cs ++ '\n' :: t).take k).takeWhile p = (cs.take k).takeWhile p := by
  rw [List.take_append]
  cases k - cs.length with
  | zero => simp
  | succ m => exact takeWhile_line stops _

theorem codePoint?_kept {width : Nat} {cs : List Char} {x : Char × Nat}
    (h : escape?.codePoint? width cs = some x) :
    x.2 ≤ cs.length + 1 ∧ escape?.codePoint? width (cs ++ '\n' :: t) = some x := by
  unfold escape?.codePoint? at h ⊢
  split at h
  · cases h
  · rename_i wide
    rw [Nat.not_lt] at wide
    rw [if_neg (by simp; omega), List.take_append_of_le_length wide]
    refine ⟨?_, h⟩
    simp only [Option.bind_eq_bind, Option.bind_eq_some_iff] at h
    obtain ⟨_, _, _, _, ⟨⟩⟩ := h
    exact Nat.succ_le_succ wide

theorem length_digits_le (p : Char → Bool) (rest : List Char) :
    ((rest.take 2).takeWhile p).length ≤ rest.length :=
  Nat.le_trans (List.takeWhile_sublist _).length_le (List.length_take_le' ..)

theorem escape?_kept {cs : List Char} {x : Char × Nat} (h : escape? cs = some x) :
    x.2 ≤ cs.length ∧ escape? (cs ++ '\n' :: t) = some x := by
  unfold escape? at h
  split at h
  · cases h
  all_goals try (cases h; simp [escape?])
  · exact codePoint?_kept h
  · exact codePoint?_kept h
  · rename_i rest
    have room := length_digits_le isHexDigit rest
    simp only [List.cons_append, escape?, takeWhile_take_line (p := isHexDigit) (by decide)]
    refine ⟨?_, h⟩
    dsimp only at h
    split at h
    · cases h
      simp
    · simp only [Option.bind_eq_bind, Option.bind_eq_some_iff] at h
      obtain ⟨_, _, _, _, ⟨⟩⟩ := h
      exact Nat.succ_le_succ room
  · rename_i c rest _ _ _ _ _ _ _ _
    have room := length_digits_le (fun c => (octalValue? c).isSome) rest
    rw [List.cons_append, escape?.eq_10 _ _ ‹_› ‹_› ‹_› ‹_› ‹_› ‹_› ‹_› ‹_›]
    simp only [takeWhile_take_line (p := fun c => (octalValue? c).isSome) (by decide)]
    refine ⟨?_, h⟩
    split at h
    · cases h
      simp
    · obtain ⟨_, _, rfl⟩ := Option.map_eq_some_iff.mp h
      exact Nat.succ_le_succ (Nat.le_trans (List.length_filterMap_le ..) room)

theorem cons_of_line {a : Char} (inline : a ≠ '\n') {cs body : List Char} (h : cs ++ '\n' :: t = a :: body) :
    ∃ body', cs = a :: body' ∧ body' ++ '\n' :: t = body := by
  cases cs with
  | nil => exact absurd (List.cons.inj h).1.symm inline
  | cons c cs =>
    obtain ⟨rfl, same⟩ := List.cons.inj h
    exact ⟨cs, rfl, same⟩

theorem ne_cons_of_line {a : Char} (inline : a ≠ '\n') {cs : List Char} (other : ∀ more, cs = a :: more → False)
    (more : List Char) : cs ++ '\n' :: t ≠ a :: more := by
  intro h
  obtain ⟨body, rfl, -⟩ := cons_of_line inline h
  exact other body rfl

theorem readEscaped?_kept (cs : List Char) :
    Kept cs.length (readEscaped? cs) (readEscaped? (cs ++ '\n' :: t)) := by
  fun_induction readEscaped? cs with
  | case1 => exact kept_none
  | case2 rest ih =>
    simp only [List.cons_append, readEscaped?]
    exact ih.push _ 2
  | case3 rest single =>
    rw [List.cons_append, readEscaped?.eq_3 _ (ne_cons_of_line (by decide) single)]
    exact kept_some (by simp)
  | case4 rest fault => exact kept_none
  | case5 rest c n found zero => exact kept_none
  | case6 rest c n found nonzero ih =>
    obtain ⟨within, again⟩ := escape?_kept (t := t) found
    rw [List.cons_append, readEscaped?]
    simp only [again, nonzero, List.drop_append_of_le_length within]
    exact ih.behind 1 within fun _ => Nat.le_refl _
  | case7 c rest double quote backslash ih =>
    rw [List.cons_append, readEscaped?.eq_5 _ _ (fun _ h _ => quote h) quote backslash]
    exact ih.push c 1

theorem codePoint_kept {count seen n : Nat} {cs : List Char} {c : Char} (h : codePoint count cs seen n = .ok c) :
    count ≤ cs.length ∧ codePoint count (cs ++ '\n' :: t) seen n = .ok c := by
  induction count generalizing cs seen n with
  | zero =>
    refine ⟨Nat.zero_le _, ?_⟩
    cases cs <;> exact h
  | succ count ih =>
    cases cs with
    | nil => cases h
    | cons d rest =>
      unfold codePoint at h
      split at h
      · cases h
      · rename_i digit found
        obtain ⟨within, again⟩ := ih h
        refine ⟨Nat.succ_le_succ within, ?_⟩
        simp only [List.cons_append, codePoint, found, again]

theorem readUnicode_kept (seen : Nat) (cs : List Char) :
    Kept cs.length (readUnicode seen cs).toOption (readUnicode seen (cs ++ '\n' :: t)).toOption := by
  have pushed (e : Except CodePointFault Body) (c : Char) (k : Nat) :
      (do return (← e).push c k : Except CodePointFault Body).toOption = e.toOption.map (Body.push c k) := by
    cases e <;> rfl
  fun_induction readUnicode seen cs with
  | case1 => exact kept_none
  | case2 seen rest ih =>
    rw [List.cons_append, List.cons_append, readUnicode, pushed, pushed]
    exact ih.push _ 2
  | case3 seen rest single =>
    rw [List.cons_append, readUnicode.eq_3 _ _ (ne_cons_of_line (by decide) single)]
    exact kept_some (by simp)
  | case4 seen rest ih =>
    rw [List.cons_append, List.cons_append, readUnicode, pushed, pushed]
    exact ih.push _ 2
  | case5 seen rest e fault => exact kept_none
  | case6 seen rest c found ih =>
    obtain ⟨within, again⟩ := codePoint_kept (t := t) found
    rw [List.cons_append, List.cons_append, readUnicode]
    simp only [again, pushed, List.drop_append_of_le_length within]
    exact ih.behind 2 within fun _ => Nat.le_refl _
  | case7 seen rest double plus e fault => exact kept_none
  | case8 seen rest double plus c found ih =>
    obtain ⟨within, again⟩ := codePoint_kept (t := t) found
    rw [List.cons_append, readUnicode.eq_6 _ _ (ne_cons_of_line (by decide) double)
      (ne_cons_of_line (by decide) plus)]
    simp only [again, pushed, List.drop_append_of_le_length within]
    exact ih.behind 1 within fun _ => Nat.le_refl _
  | case9 seen c rest double quote escaped plus backslash ih =>
    rw [List.cons_append, readUnicode.eq_7 _ _ _ (fun _ h _ => quote h) quote
      (fun _ h _ => backslash h) (fun _ h _ => backslash h) backslash, pushed, pushed]
    exact ih.push c 1

end QueryWarden.Sql.Quotation
