import Mathlib.Data.List.ReduceOption
import Mathlib.Order.Interval.Set.Basic
import QueryWarden.Mcp.Session
import QueryWarden.Proofs.Json.OneLine
import QueryWarden.Proofs.Json.ReadBack
import QueryWarden.Proofs.Text.Utf8

/-! What a session writes over an input that is a text. It reads back the lines as they are in the text, and
writes an answer for each one that asks for one, in the order of the lines, up to the first request that
crashes. -/
namespace QueryWarden.Mcp
open Text.Utf8

/-- The lines of a text: each with its line feed, save perhaps the last. -/
def textLines : List Char → List (List Char)
  | [] => []
  | c :: rest =>
    if c = '\n' then ['\n'] :: textLines rest
    else
      match textLines rest with
      | [] => [[c]]
      | line :: lines => (c :: line) :: lines

def inputLines (text : String) : List String :=
  (textLines text.toList).map fun line => String.ofList (withoutLineEnd line)

/-- Bytes that hold no line feed belong to the line that follows them. -/
theorem rawLines_append {bytes : List UInt8} (apart : 10 ∉ bytes) (some : bytes ≠ [])
    (rest : List UInt8) :
    rawLines (bytes ++ rest) = (match rawLines rest with
      | [] => [bytes]
      | line :: lines => (bytes ++ line) :: lines) := by
  induction bytes with
  | nil => exact absurd rfl some
  | cons b bytes ih =>
    rw [List.mem_cons, not_or] at apart
    rw [List.cons_append, rawLines, if_neg (Ne.symm apart.1)]
    cases bytes with
    | nil => rfl
    | cons b' bytes =>
      rw [ih apart.2 nofun]
      cases rawLines rest <;> rfl

theorem rawLines_encode (cs : List Char) : rawLines (encode cs) = (textLines cs).map encode := by
  induction cs with
  | nil => rfl
  | cons c cs ih =>
    rw [encode_cons, textLines]
    by_cases h : c = '\n'
    · subst h
      rw [if_pos rfl, lineFeed_encode, List.map_cons, ← ih]
      rfl
    · rw [if_neg h, rawLines_append (lineFeed_notMem h) (encodeChar_ne_nil c), ih]
      cases textLines cs with
      | nil => simp [encode]
      | cons line lines => rfl

/-! ### Answers -/

/-- The requests that a session meets, each in the state in which it is met. -/
def met {σ : Type} (b : Backend σ) (s : σ) : List String → List (σ × Request)
  | [] => []
  | line :: rest =>
    if Text.trim line = "" then met b s rest
    else
      match Request.ofLine line with
      | .error _ => met b s rest
      | .ok r =>
        (s, r) :: match meet b s r with
          | (_, .error _) => []
          | (s, .ok _) => met b s rest

/-- What is written for a line. -/
inductive Answers (line : String) : Option String → Prop where
  | blank (h : Text.trim line = "") : Answers line none
  | garbled {f : Json.Fault} (full : Text.trim line ≠ "") (h : Request.ofLine line = .error f) :
      Answers line (some
        ((Reply.error parseErrorCode ("Parse error: " ++ f.message)).toJson none).compact)
  | met {r : Request} (full : Text.trim line ≠ "") (h : Request.ofLine line = .ok r) (reply : Reply) :
      Answers line (if reply.isSent r.identity then some (reply.toJson r.identity).compact else none)

section
variable {σ : Type} {b : Backend σ} {s : σ}

/-- A line is answered, or its request crashes. -/
theorem answerLine_spec (b : Backend σ) (s : σ) (line : String) :
    (∃ s' written, answerLine b s line = (s', .ok written) ∧ Answers line written ∧
      ∀ rest, met b s' rest ⊆ met b s (line :: rest)) ∨
    ∃ s' r message, answerLine b s line = (s', .error message) ∧ meet b s r = (s', .error message) ∧
      ∀ rest, (s, r) ∈ met b s (line :: rest) := by
  by_cases blank : Text.trim line = ""
  · refine .inl ⟨s, none, by rw [answerLine, if_pos blank], .blank blank, fun rest => ?_⟩
    rw [met, if_pos blank]
    exact List.Subset.refl _
  cases decoded : Request.ofLine line with
  | error f =>
    refine .inl ⟨s, _, by rw [answerLine, if_neg blank, decoded]; rfl, .garbled blank decoded, fun rest => ?_⟩
    rw [met, if_neg blank, decoded]
    exact List.Subset.refl _
  | ok r =>
    obtain ⟨⟨s', result⟩, meets⟩ : ∃ m, meet b s r = m := ⟨_, rfl⟩
    cases result with
    | error message =>
      refine .inr ⟨s', r, message, ?_, meets, fun rest => ?_⟩
      · rw [answerLine, if_neg blank, decoded]
        simp only [meets]
        rfl
      · rw [met, if_neg blank, decoded]
        exact List.mem_cons_self ..
    | ok reply =>
      refine .inl ⟨s', _, ?_, .met blank decoded reply, fun rest => ?_⟩
      · rw [answerLine, if_neg blank, decoded]
        simp only [meets]
        rfl
      · rw [met, if_neg blank, decoded]
        simp only [meets]
        exact List.subset_cons_self ..

/-- Lines that are texts are answered to the end, or up to a request that crashes. -/
theorem serveLines_encode (b : Backend σ) (s : σ) (lines : List (List Char)) :
    let t := serveLines b s (lines.map encode)
    let texts := lines.map fun line => String.ofList (withoutLineEnd line)
    (t.ending = .finished ∧ ∃ written, List.Forall₂ Answers texts written ∧
      t.lines = written.reduceOption) ∨
    ∃ s' r message, (s', r) ∈ met b s texts ∧ meet b s' r = (t.state, .error message) ∧
      t.ending = .crashed message := by
  induction lines generalizing s with
  | nil => exact .inl ⟨rfl, [], .nil, rfl⟩
  | cons line lines ih =>
    rw [List.map_cons, List.map_cons, serveLines, decode_encode]
    obtain ⟨s', written, answered, answers, later⟩ | ⟨s', r, message, crashed, meets, among⟩ :=
      answerLine_spec b s (String.ofList (withoutLineEnd line))
    · simp only [answered]
      obtain ⟨finished, rest, all, lines_eq⟩ | ⟨s'', r, message, among, meets, crashed⟩ := ih s'
      · refine .inl ⟨finished, written :: rest, .cons answers all, ?_⟩
        rw [lines_eq]
        cases written <;> rfl
      · exact .inr ⟨s'', r, message, later _ among, meets, crashed⟩
    · simp only [crashed]
      exact .inr ⟨s, r, message, among _, meets, rfl⟩

theorem meet_call {r : Request} (method : r.method = "tools/call") : meet b s r = callTool b s r.params := by
  simp only [meet, method, String.reduceEq, if_true, if_false]

theorem answerLine_keeps {P : σ → Prop} (keeps : ∀ s r, P s → P (meet b s r).1) (start : P s) (line : String) :
    P (answerLine b s line).1 := by
  rw [answerLine]
  split
  · exact start
  · split
    · exact start
    · exact keeps s _ start

/-- What every met request keeps holds when a session is over. -/
theorem serveLines_keeps {P : σ → Prop} (keeps : ∀ s r, P s → P (meet b s r).1) (start : P s)
    (lines : List (List UInt8)) : P (serveLines b s lines).state := by
  induction lines generalizing s with
  | nil => exact start
  | cons line lines ih =>
    rw [serveLines]
    split
    · exact start
    · rename_i chars _
      have next := answerLine_keeps keeps start (String.ofList (withoutLineEnd chars))
      split
      · rename_i crashed
        rw [crashed] at next
        exact next
      · rename_i written
        rw [written] at next
        exact ih next

/-- What every met request keeps holds in each state in which one is met. -/
theorem met_keeps {P : σ → Prop} (keeps : ∀ s r, P s → P (meet b s r).1) (start : P s)
    {lines : List String} {s' : σ} {r : Request} (among : (s', r) ∈ met b s lines) : P s' := by
  induction lines generalizing s with
  | nil => cases among
  | cons line lines ih =>
    rw [met] at among
    by_cases blank : Text.trim line = ""
    · rw [if_pos blank] at among
      exact ih start among
    rw [if_neg blank] at among
    cases decoded : Request.ofLine line with
    | error f =>
      rw [decoded] at among
      exact ih start among
    | ok first =>
      rw [decoded] at among
      obtain ⟨rfl, rfl⟩ | among := List.mem_cons.mp among
      · exact start
      obtain ⟨⟨next, result⟩, meets⟩ : ∃ m, meet b s first = m := ⟨_, rfl⟩
      have kept := keeps s first start
      rw [meets] at kept among
      cases result with
      | error message => cases among
      | ok reply => exact ih kept among

end

/-! Lines that are written. -/

def Transcript.written {σ : Type} (t : Transcript σ) : String := String.join (t.lines.map (· ++ "\n"))

/-- A line is the document of a value, and is read as one. -/
structure Spells (line : String) (j : Json) : Prop where
  text : line = j.compact
  oneLine : '\n' ∉ line.toList
  read : ∃ node, Json.Document.ofText line = ⟨node, none⟩ ∧ Json.Shows node j

theorem spells_compact (j : Json) : Spells j.compact j :=
  ⟨rfl, Json.compact_lineFeed_notMem j, Json.ofText_compact j⟩

def response (id : Json) (key : String) (value : Json) : Json :=
  .obj [("jsonrpc", .str "2.0"), ("id", id), (key, value)]

def parseError (message : String) : Json :=
  .obj [("code", .int (-32700)), ("message", .str message)]

theorem toJson_response (identity : Option Json) (reply : Reply) :
    ∃ key value, (key = "result" ∨ key = "error") ∧
      reply.toJson identity = response (identity.getD .null) key value := by
  cases reply with
  | result value => exact ⟨"result", value, .inl rfl, rfl⟩
  | error code message => exact ⟨"error", _, .inr rfl, rfl⟩

theorem Answers.full {line out : String} (h : Answers line (some out)) : Text.trim line ≠ "" := by
  generalize ho : some out = o at h
  cases h with
  | blank => cases ho
  | garbled full | met full => exact full

/-- Whatever is written is a response. -/
theorem Answers.spells {line out : String} (h : Answers line (some out)) :
    ∃ id key value, (key = "result" ∨ key = "error") ∧ Spells out (response id key value) := by
  generalize ho : some out = o at h
  cases h with
  | blank => cases ho
  | garbled =>
    obtain rfl := Option.some.inj ho
    exact ⟨.null, "error", _, .inr rfl, spells_compact _⟩
  | @met r _ _ reply =>
    split at ho
    · obtain rfl := Option.some.inj ho
      obtain ⟨key, value, among, shape⟩ := toJson_response r.identity reply
      rw [shape]
      exact ⟨_, key, value, among, spells_compact _⟩
    · cases ho

theorem Answers.of_garbled {line : String} {o : Option String} (h : Answers line o) {f : Json.Fault}
    (full : Text.trim line ≠ "") (garbled : Request.ofLine line = .error f) :
    ∃ out message, o = some out ∧ Spells out (response .null "error" (parseError message)) := by
  cases h with
  | blank blank => exact absurd blank full
  | @garbled f => exact ⟨_, "Parse error: " ++ f.message, rfl, spells_compact _⟩
  | met _ met => cases garbled.symm.trans met

theorem Answers.of_identity {line : String} {o : Option String} (h : Answers line o) {r : Request}
    {id : Json} (full : Text.trim line ≠ "") (decoded : Request.ofLine line = .ok r)
    (identity : r.identity = some id) :
    ∃ out key value, o = some out ∧ (key = "result" ∨ key = "error") ∧
      Spells out (response id key value) := by
  cases h with
  | blank blank => exact absurd blank full
  | garbled _ garbled => cases garbled.symm.trans decoded
  | met _ met reply =>
    cases decoded.symm.trans met
    have sent : reply.isSent r.identity = true := by
      rw [identity]
      cases reply <;> rfl
    obtain ⟨key, value, among, shape⟩ := toJson_response r.identity reply
    rw [identity] at shape
    rw [if_pos sent, identity, shape]
    exact ⟨_, key, value, rfl, among, spells_compact _⟩

theorem textLines_append {cs : List Char} (apart : '\n' ∉ cs) (rest : List Char) :
    textLines (cs ++ '\n' :: rest) = (cs ++ ['\n']) :: textLines rest := by
  induction cs with
  | nil => rfl
  | cons c cs ih =>
    rw [List.mem_cons, not_or] at apart
    rw [List.cons_append, textLines, if_neg (Ne.symm apart.1), ih apart.2]
    rfl

/-- The lines of what is written are the lines that were written. -/
theorem textLines_join {lines : List String} (apart : ∀ line ∈ lines, '\n' ∉ line.toList) :
    textLines (String.join (lines.map (· ++ "\n"))).toList = lines.map fun line => line.toList ++ ['\n'] := by
  induction lines with
  | nil => rfl
  | cons line lines ih =>
    have rest := ih fun line among => apart line (List.mem_cons_of_mem _ among)
    have first := textLines_append (apart line (List.mem_cons_self ..))
      (String.join (lines.map (· ++ "\n"))).toList
    rw [rest] at first
    rw [List.map_cons, List.map_cons, ← first]
    congr 1
    simp [String.join_cons]

def behindFirst (place : Nat → Nat) : Nat → Nat
  | 0 => 0
  | i + 1 => place i + 1

/-- What options hold stands in the order of the options. -/
theorem reduceOption_places {α : Type} (xs : List (Option α)) :
    ∃ place : Nat → Nat, StrictMonoOn place (Set.Iio xs.reduceOption.length) ∧
      (∀ i x, xs.reduceOption[i]? = some x → xs[place i]? = some (some x)) ∧
      ∀ j x, xs[j]? = some (some x) → ∃ i, place i = j ∧ xs.reduceOption[i]? = some x := by
  induction xs with
  | nil => exact ⟨id, strictMonoOn_id, nofun, nofun⟩
  | cons o xs ih =>
    obtain ⟨place, mono, there, back⟩ := ih
    cases o with
    | none =>
      rw [List.reduceOption_cons_of_none]
      refine ⟨fun i => place i + 1, ?_, there, ?_⟩
      · intro i hi i' hi' below
        exact Nat.succ_lt_succ (mono hi hi' below)
      · intro j x at_j
        cases j with
        | zero => cases at_j
        | succ j =>
          obtain ⟨i, rfl, at_i⟩ := back j x at_j
          exact ⟨i, rfl, at_i⟩
    | some y =>
      rw [List.reduceOption_cons_of_some]
      refine ⟨behindFirst place, ?_, ?_, ?_⟩
      · intro i hi i' hi' below
        cases i' with
        | zero => cases below
        | succ i' =>
          cases i with
          | zero => exact Nat.succ_pos _
          | succ i =>
            exact Nat.succ_lt_succ (mono (Nat.lt_of_succ_lt_succ hi) (Nat.lt_of_succ_lt_succ hi')
              (Nat.lt_of_succ_lt_succ below))
      · intro i x at_i
        cases i with
        | zero => exact congrArg _ at_i
        | succ i => exact there i x at_i
      · intro j x at_j
        cases j with
        | zero =>
          cases at_j
          exact ⟨0, rfl, rfl⟩
        | succ j =>
          obtain ⟨i, rfl, at_i⟩ := back j x at_j
          exact ⟨i + 1, rfl, at_i⟩

/-- The lines `out` answer the lines of an input, each from its place among them. -/
structure Answering (lines out : List String) (place : Nat → Nat) : Prop where
  /-- The answers stand in the order of the lines, and no line has two of them. -/
  order : StrictMonoOn place (Set.Iio out.length)
  /-- Each answer is a response to a line that is not blank. -/
  responds : ∀ i answer, out[i]? = some answer →
    (∃ line, lines[place i]? = some line ∧ Text.trim line ≠ "") ∧
    ∃ id key value, (key = "result" ∨ key = "error") ∧ Spells answer (response id key value)
  /-- A line that is no request gets an error without identity. -/
  garbled : ∀ j line f, lines[j]? = some line → Text.trim line ≠ "" → Request.ofLine line = .error f →
    ∃ i answer message, place i = j ∧ out[i]? = some answer ∧
      Spells answer (response .null "error" (parseError message))
  /-- A request with an identity gets a response that carries it. -/
  identified : ∀ j line r id, lines[j]? = some line → Text.trim line ≠ "" →
    Request.ofLine line = .ok r → r.identity = some id →
    ∃ i answer key value, place i = j ∧ out[i]? = some answer ∧ (key = "result" ∨ key = "error") ∧
      Spells answer (response id key value)

theorem forall₂_getElem? {α β : Type} {R : α → β → Prop} {xs : List α} {ys : List β}
    (h : List.Forall₂ R xs ys) (j : Nat) :
    (∀ x, xs[j]? = some x → ∃ y, ys[j]? = some y ∧ R x y) ∧
      ∀ y, ys[j]? = some y → ∃ x, xs[j]? = some x ∧ R x y := by
  induction h generalizing j with
  | nil => exact ⟨nofun, nofun⟩
  | cons related _ ih =>
    cases j with
    | zero =>
      constructor
      · rintro _ ⟨⟩
        exact ⟨_, rfl, related⟩
      · rintro _ ⟨⟩
        exact ⟨_, rfl, related⟩
    | succ j => exact ih j

/-- What is written for lines answers them. -/
theorem answering_of_answers {lines : List String} {written : List (Option String)}
    (answers : List.Forall₂ Answers lines written) :
    ∃ place, Answering lines written.reduceOption place := by
  obtain ⟨place, order, there, back⟩ := reduceOption_places written
  refine ⟨place, order, ?_, ?_, ?_⟩
  · intro i answer at_i
    obtain ⟨line, at_place, answered⟩ := (forall₂_getElem? answers _).2 _ (there i answer at_i)
    exact ⟨⟨line, at_place, answered.full⟩, answered.spells⟩
  · intro j line f at_j full garbled
    obtain ⟨o, written_j, answered⟩ := (forall₂_getElem? answers j).1 line at_j
    obtain ⟨answer, message, rfl, spells⟩ := answered.of_garbled full garbled
    obtain ⟨i, at_place, at_i⟩ := back j answer written_j
    exact ⟨i, answer, message, at_place, at_i, spells⟩
  · intro j line r id at_j full decoded identity
    obtain ⟨o, written_j, answered⟩ := (forall₂_getElem? answers j).1 line at_j
    obtain ⟨answer, key, value, rfl, among, spells⟩ := answered.of_identity full decoded identity
    obtain ⟨i, at_place, at_i⟩ := back j answer written_j
    exact ⟨i, answer, key, value, at_place, at_i, among, spells⟩

end QueryWarden.Mcp
