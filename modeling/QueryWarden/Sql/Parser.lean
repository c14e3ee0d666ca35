import QueryWarden.Sql.Token
import QueryWarden.Text.Quoted

/-! Parsers over lists of tokens. Every parser carries two laws, and the combinators below keep them. A
parser cannot tell a terminator from the end of the text: two lists that differ only in the number of
terminators at their ends give the same answer (`Parser.steady`). And a parser passes no terminator but
in two places where the grammar passes tokens whatever they are (`Parser.onward`). -/
namespace QueryWarden.Sql

/-- Why parsing stops: the text is wrong, it nests too deeply, or a wrong text stands where no fault
can be reported. -/
inductive Fault where
  | syntaxError (message : String)
  | tooDeep
  | crash (message : String)
deriving Repr, DecidableEq

namespace Fault

def SameKind : Fault → Fault → Prop
  | syntaxError _, syntaxError _ => True
  | tooDeep, tooDeep => True
  | crash _, crash _ => True
  | _, _ => False

theorem SameKind.refl (f : Fault) : f.SameKind f := by cases f <;> trivial

def insisted : Fault → Fault
  | syntaxError message => crash (opening ++ "ParserError(" ++ Text.quoted message ++ ")")
  | tooDeep => crash (opening ++ "RecursionLimitExceeded")
  | crash message => crash message
where
  /-- The words in front of the fault. -/
  opening : String := "called \x60Result::unwrap()\x60 on an \x60Err\x60 value: "

theorem SameKind.insisted {e f : Fault} (h : e.SameKind f) : e.insisted.SameKind f.insisted := by
  cases e <;> cases f <;> trivial

end Fault

def Ended (ts : List Located) : Prop := ∀ t ∈ ts, t.token = .terminator

inductive Alike : List Located → List Located → Prop where
  | ended {as bs : List Located} : Ended as → Ended bs → Alike as bs
  | cons (t : Located) {as bs : List Located} : Alike as bs → Alike (t :: as) (t :: bs)

theorem Alike.refl (ts : List Located) : Alike ts ts := by
  induction ts with
  | nil => exact .ended (by simp [Ended]) (by simp [Ended])
  | cons t ts ih => exact .cons t ih

theorem Alike.append_ended (ts : List Located) {more : List Located} (h : Ended more) :
    Alike ts (ts ++ more) := by
  induction ts with
  | nil => exact .ended (by simp [Ended]) h
  | cons t ts ih => exact .cons t ih

theorem Ended.tail {ts : List Located} (h : Ended ts) : Ended ts.tail :=
  fun t ht => h t (List.mem_of_mem_tail ht)

theorem Alike.tail {as bs : List Located} (h : Alike as bs) : Alike as.tail bs.tail := by
  cases h with
  | ended ha hb => exact .ended ha.tail hb.tail
  | cons t h => exact h

theorem Alike.drop {as bs : List Located} (h : Alike as bs) (n : Nat) :
    Alike (as.drop n) (bs.drop n) := by
  induction n generalizing as bs with
  | zero => exact h
  | succ n ih =>
    rw [← List.drop_tail, ← List.drop_tail]
    exact ih h.tail

abbrev Outcome (α : Type) := Except Fault (α × List Located)

inductive Agree {α : Type} : Outcome α → Outcome α → Prop where
  | ok (a : α) {ts us : List Located} : Alike ts us → Agree (.ok (a, ts)) (.ok (a, us))
  | error {e f : Fault} : e.SameKind f → Agree (.error e) (.error f)

def viewAt (ts : List Located) (n : Nat) : Option Token :=
  (ts[n]?).bind fun t => if t.token = .terminator then none else some t.token

theorem viewAt_ended {ts : List Located} (h : Ended ts) (n : Nat) : viewAt ts n = none := by
  unfold viewAt
  cases ht : ts[n]? with
  | none => rfl
  | some t => simp [h t (List.mem_of_getElem? ht)]

theorem viewAt_alike {ts us : List Located} (h : Alike ts us) (n : Nat) :
    viewAt ts n = viewAt us n := by
  induction h generalizing n with
  | ended ha hb => rw [viewAt_ended ha, viewAt_ended hb]
  | cons t _ ih =>
    cases n with
    | zero => simp [viewAt]
    | succ n => simpa [viewAt] using ih n

def behind (ts : List Located) : List Located := if (viewAt ts 0).isSome then ts.tail else ts

theorem Alike.behind {as bs : List Located} (h : Alike as bs) : Alike (behind as) (behind bs) := by
  unfold Sql.behind
  rw [viewAt_alike h 0]
  split
  · exact h.tail
  · exact h

def pathIn : List Located → List String × List Located
  | [] => (["EOF"], [])
  | t :: dot :: rest =>
    let text := ((viewAt [t] 0).map Token.text).getD "EOF"
    if dot.token = .symbol "." then
      let (parts, left) := pathIn rest
      (text :: parts, left)
    else ([text], dot :: rest)
  | [t] => ([((viewAt [t] 0).map Token.text).getD "EOF"], [])

theorem pathIn_ended {ts : List Located} (h : Ended ts) : pathIn ts = (["EOF"], ts.tail) := by
  match ts with
  | [] => rfl
  | [t] => simp [pathIn, viewAt, h t]
  | t :: u :: rest =>
    have ht : t.token = .terminator := h t (by simp)
    have hu : u.token = .terminator := h u (by simp)
    simp [pathIn, viewAt, ht, hu, Token.terminator]

theorem pathIn_cons_ended (t : Located) {ts : List Located} (h : Ended ts) :
    pathIn (t :: ts) = ([((viewAt [t] 0).map Token.text).getD "EOF"], ts) := by
  cases ts with
  | nil => rfl
  | cons u rest =>
    have hu : u.token = .terminator := h u (by simp)
    simp [pathIn, hu, Token.terminator]

theorem pathIn_alike {as bs : List Located} (h : Alike as bs) :
    (pathIn as).1 = (pathIn bs).1 ∧ Alike (pathIn as).2 (pathIn bs).2 := by
  match h with
  | .ended ha hb =>
    rw [pathIn_ended ha, pathIn_ended hb]
    exact ⟨rfl, .ended ha.tail hb.tail⟩
  | .cons t (.ended ha hb) =>
    rw [pathIn_cons_ended t ha, pathIn_cons_ended t hb]
    exact ⟨rfl, .ended ha hb⟩
  | .cons t (.cons dot h) =>
    have ih := pathIn_alike h
    by_cases hd : dot.token = .symbol "."
    · simpa [pathIn, hd] using ih
    · simpa [pathIn, hd] using Alike.cons dot h

/-- What a parser may pass: tokens that are no terminators, and whatever stands in two places, behind
`TABLE` and a word, and in the path of an `OPERATOR( … )`. -/
inductive Passes : List Located → List Located → Prop where
  | nothing (ts : List Located) : Passes ts ts
  | token {t : Located} {ts rest : List Located} (plain : t.token ≠ .terminator) :
      Passes ts rest → Passes (t :: ts) rest
  | table {t name : Located} {ts rest : List Located} (table : keyOf (some t.token) = "TABLE")
      (named : isWord (some name.token) = true) :
      Passes (ts.drop 2) rest → Passes (t :: name :: ts) rest
  | operator {t mark : Located} {ts rest : List Located} (operator : keyOf (some t.token) = "OPERATOR")
      (opens : mark.token = .symbol "(") :
      Passes (pathIn ts).2 rest → Passes (t :: mark :: ts) rest

theorem Passes.trans {as bs cs : List Located} (h : Passes as bs) (h' : Passes bs cs) :
    Passes as cs := by
  induction h with
  | nothing => exact h'
  | token plain _ ih => exact .token plain (ih h')
  | table table named _ ih => exact .table table named (ih h')
  | operator operator opens _ ih => exact .operator operator opens (ih h')

theorem passes_behind (ts : List Located) : Passes ts (behind ts) := by
  cases ts with
  | nil => exact .nothing _
  | cons t ts =>
    by_cases h : t.token = .terminator
    · simpa [behind, viewAt, h] using Passes.nothing (t :: ts)
    · simpa [behind, viewAt, h] using Passes.token h (.nothing ts)

/-- A parser that cannot tell a terminator from the end of the text, and passes none but where the
grammar does not look. -/
structure Parser (α : Type) where
  run : List Located → Outcome α
  steady : ∀ {ts us : List Located}, Alike ts us → Agree (run ts) (run us)
  onward : ∀ {ts rest : List Located} {a : α}, run ts = .ok (a, rest) → Passes ts rest

namespace Parser
variable {α β : Type}

protected def pure (a : α) : Parser α where
  run ts := .ok (a, ts)
  steady h := .ok a h
  onward h := by cases h; exact .nothing _

protected def bind (p : Parser α) (f : α → Parser β) : Parser β where
  run ts :=
    match p.run ts with
    | .ok (a, rest) => (f a).run rest
    | .error e => .error e
  steady {ts us} h := by
    have hp := p.steady h
    revert hp
    generalize p.run ts = x
    generalize p.run us = y
    intro hp
    cases hp with
    | ok a h' => simpa using (f a).steady h'
    | error h' => exact .error h'
  onward {ts rest b} h := by
    cases hp : p.run ts with
    | error e => simp [hp] at h
    | ok r =>
      simp only [hp] at h
      exact (p.onward hp).trans ((f r.1).onward h)

instance : Monad Parser where
  pure := Parser.pure
  bind := Parser.bind

def stop (e : Fault) : Parser α := ⟨fun _ => .error e, fun _ => .error (.refl e), nofun⟩

instance : Inhabited (Parser α) := ⟨stop .tooDeep⟩

def tooDeep : Parser α := stop .tooDeep

def fail (message : String) : Parser α := stop (.syntaxError message)

def peekAt (n : Nat) : Parser (Option Token) where
  run ts := .ok (viewAt ts n, ts)
  steady h := by rw [viewAt_alike h n]; exact .ok _ h
  onward h := by cases h; exact .nothing _

def peek : Parser (Option Token) := peekAt 0

def skip : Parser Unit where
  run ts := .ok ((), behind ts)
  steady h := .ok () h.behind
  onward h := by cases h; exact passes_behind _

def foundText : List Located → String
  | [] => "EOF"
  | t :: _ => t.token.text ++ t.place.text

def failWith (message : List Located → String) : Parser α where
  run ts := .error (.syntaxError (message ts))
  steady _ := .error trivial
  onward := nofun

def failBefore (message : String) : Parser α :=
  failWith fun ts => message ++ ((ts.head?.map (·.token.text)).getD "EOF")

def placeText : List Located → String
  | [] => ""
  | t :: _ => t.place.text

def expected (what : String) : Parser α :=
  failWith fun ts => "Expected: " ++ what ++ ", found: " ++ foundText ts

def expectedPast (what : String) : Parser α :=
  failWith fun ts => "Expected: " ++ what ++ ", found: " ++ foundText ts.tail

def failHere (message : String) : Parser α := failWith fun ts => message ++ placeText ts

def failFound (message : String) : Parser α := failWith fun ts => message ++ foundText ts

def passTable : Parser Unit where
  run ts :=
    if keyOf (viewAt ts 0) = "TABLE" ∧ isWord (viewAt ts 1) then .ok ((), ts.drop 4)
    else .error (.syntaxError ("Expected: TABLE, found: " ++ foundText ts))
  steady {ts us} h := by
    rw [viewAt_alike h 0, viewAt_alike h 1]
    split
    · exact .ok () (h.drop 4)
    · exact .error trivial
  onward {ts rest _} h := by
    split at h
    · rename_i ahead
      cases h
      match ts with
      | [] => simp [viewAt, keyOf] at ahead
      | [t] => simp [viewAt, isWord] at ahead
      | t :: name :: ts =>
        by_cases ht : t.token = .terminator
        · simp [viewAt, ht, keyOf] at ahead
        · by_cases hn : name.token = .terminator
          · simp [viewAt, hn, isWord] at ahead
          · simp [viewAt, ht, hn] at ahead
            exact .table ahead.1 ahead.2 (.nothing _)
    · cases h

def passPath : Parser (List String) where
  run ts :=
    if keyOf (viewAt ts 0) = "OPERATOR" ∧ symbolOf (viewAt ts 1) = "(" then .ok (pathIn (ts.drop 2))
    else .error (.syntaxError ("Expected: OPERATOR, found: " ++ foundText ts))
  steady {ts us} h := by
    rw [viewAt_alike h 0, viewAt_alike h 1]
    split
    · obtain ⟨hparts, hleft⟩ := pathIn_alike (h.drop 2)
      rw [← Prod.eta (pathIn (ts.drop 2)), ← Prod.eta (pathIn (us.drop 2)), hparts]
      exact .ok _ hleft
    · exact .error trivial
  onward {ts rest _} h := by
    split at h
    · rename_i ahead
      have hrest : (pathIn (ts.drop 2)).2 = rest := by rw [Except.ok.inj h]
      match ts with
      | [] => simp [viewAt, keyOf] at ahead
      | [t] => simp [viewAt, symbolOf] at ahead
      | t :: mark :: ts =>
        by_cases ht : t.token = .terminator
        · simp [viewAt, ht, keyOf] at ahead
        · by_cases hm : mark.token = .terminator
          · simp [viewAt, hm, symbolOf] at ahead
          · simp only [viewAt, List.getElem?_cons_zero, List.getElem?_cons_succ, Option.bind_some,
              if_neg ht, if_neg hm] at ahead
            refine .operator ahead.1 ?_ (hrest ▸ .nothing _)
            cases hk : mark.token <;> simp_all [symbolOf]
    · cases h

/-- A parser whose values are checked; a value that is refused with a message is reported at the place
where the parser began. -/
def checked (p : Parser α) (refuse : α → Option String) : Parser α where
  run ts :=
    match p.run ts with
    | .ok (a, rest) =>
      match refuse a with
      | some message => .error (.syntaxError (message ++ placeText ts))
      | none => .ok (a, rest)
    | .error e => .error e
  steady {ts us} h := by
    have hp := p.steady h
    revert hp
    generalize p.run ts = x
    generalize p.run us = y
    intro hp
    cases hp with
    | ok a h' =>
      simp only
      cases refuse a with
      | some m => exact .error trivial
      | none => exact .ok a h'
    | error h' => exact .error h'
  onward {ts rest a} h := by
    split at h
    · rename_i hp
      split at h
      · cases h
      · cases h; exact p.onward hp
    · cases h

def attempt (p : Parser α) : Parser (Option α) where
  run ts :=
    match p.run ts with
    | .ok (a, rest) => .ok (some a, rest)
    | .error (.syntaxError _) => .ok (none, ts)
    | .error e => .error e
  steady {ts us} h := by
    have hp := p.steady h
    revert hp
    generalize p.run ts = x
    generalize p.run us = y
    intro hp
    cases hp with
    | ok a h' => exact .ok _ h'
    | @error e f h' =>
      cases e <;> cases f <;> first
        | exact .ok _ h
        | exact .error trivial
        | exact absurd h' (by simp [Fault.SameKind])
  onward {ts rest a} h := by
    split at h
    · rename_i hp
      cases h; exact p.onward hp
    · cases h; exact .nothing _
    · cases h

def orNothing (p : Parser (Option α)) : Parser (Option α) where
  run ts :=
    match p.run ts with
    | .ok (none, _) => .ok (none, ts)
    | r => r
  steady {ts us} h := by
    have hp := p.steady h
    revert hp
    generalize p.run ts = x
    generalize p.run us = y
    intro hp
    cases hp with
    | ok a h' =>
      cases a with
      | none => exact .ok none h
      | some a => exact .ok (some a) h'
    | error h' => exact .error h'
  onward {ts rest a} h := by
    split at h
    · cases h; exact .nothing _
    · exact p.onward h

def insist (p : Parser α) : Parser α where
  run ts :=
    match p.run ts with
    | .ok r => .ok r
    | .error e => .error e.insisted
  steady {ts us} h := by
    have hp := p.steady h
    revert hp
    generalize p.run ts = x
    generalize p.run us = y
    intro hp
    cases hp with
    | ok a h' => exact .ok a h'
    | error h' => exact .error h'.insisted
  onward {ts rest a} h := by
    split at h
    · rename_i hp
      cases h; exact p.onward hp
    · cases h

end Parser
end QueryWarden.Sql
