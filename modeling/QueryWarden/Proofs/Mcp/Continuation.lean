import QueryWarden.Proofs.Mcp.Answers
import QueryWarden.Proofs.Text.Blank
import QueryWarden.Proofs.Wire.Reading

/-! Sessions in parts. What a session writes over some lines stands in front of what it writes behind
them, and it gets behind them exactly if each is a text and no request among them crashes. -/
namespace QueryWarden

namespace Json
open Text.Utf8 (Glyph)

/-- Passing over space leaves an end of what was there. -/
theorem skipSpace_suffix (gs : List Glyph) (p : Place) : (Cursor.skipSpace ⟨gs, p⟩).rest <:+ gs := by
  change (Cursor.skipSpace.go gs p).rest <:+ gs
  fun_induction Cursor.skipSpace.go gs p with
  | case1 rest p ih | case2 rest p ih | case3 rest p ih | case4 rest p ih =>
    exact ih.trans (List.suffix_cons ..)
  | case5 rest p => exact List.suffix_rfl

/-- No value begins among blanks. -/
theorem readValue_blank {gs : List Glyph} (blank : ∀ x, .char x ∈ gs → Text.isBlank x = true)
    (budget : Nat) (p : Place) :
    ∃ opening peek read skip, readValue budget ⟨gs, p⟩ = (.broken opening peek read skip, none) := by
  cases budget with
  | zero => exact ⟨_, _, _, _, rfl⟩
  | succ budget =>
    have among := (skipSpace_suffix gs p).subset
    have ahead : ∀ x rest, (Cursor.skipSpace ⟨gs, p⟩).rest = .char x :: rest → Text.isBlank x = true := by
      intro x rest h
      exact blank x (among (h ▸ List.mem_cons_self ..))
    rw [readValue]
    split <;> first
      | exact ⟨_, _, _, _, rfl⟩
      | exact absurd (ahead _ _ ‹_›) (by decide)
      | rename_i h
        rw [if_neg (by simp [Text.isDigit_of_isBlank (ahead _ _ h)])]
        exact ⟨_, _, _, _, rfl⟩

end Json

namespace Mcp
open Text.Utf8

/-- A blank line is no request. -/
theorem ofLine_blank {line : String} (blank : Text.trim line = "") :
    ∃ f, Request.ofLine line = .error f := by
  have all : ∀ x, Glyph.char x ∈ line.toList.map Glyph.char → Text.isBlank x = true := by
    intro x among
    obtain ⟨y, hy, same⟩ := List.mem_map.mp among
    cases same
    exact List.all_eq_true.mp (Text.trim_eq_empty.mp blank) x hy
  obtain ⟨opening, peek, read, skip, broken⟩ := Json.readValue_blank all
    (2 * (line.toList.map Glyph.char).length + 2) .start
  have document : Json.Document.ofText line = ⟨.broken opening peek read skip, none⟩ := by
    rw [Json.Document.ofText, Json.Document.ofGlyphs, broken]
  have fails : requestShape.decode .text Json.depthLimit (.broken opening peek read skip) = .error read :=
    Wire.decode_record_broken ..
  refine ⟨read, ?_⟩
  simp only [Request.ofLine, Wire.Shape.ofText, Wire.Shape.ofDocument, document, fails]
  rfl

theorem full_of_request {line : String} {r : Request} (h : Request.ofLine line = .ok r) :
    Text.trim line ≠ "" := by
  intro blank
  obtain ⟨f, broken⟩ := ofLine_blank blank
  cases h.symm.trans broken

def decodesAs (line : String) (p : Request → Bool) : Bool :=
  match Request.ofLine line with
  | .ok r => p r
  | .error _ => false

theorem of_decodesAs {line : String} {p : Request → Bool} (h : decodesAs line p = true) :
    ∃ r, Request.ofLine line = .ok r ∧ p r = true := by
  unfold decodesAs at h
  split at h
  · rename_i r decoded
    exact ⟨r, decoded, h⟩
  · cases h

section
variable {σ : Type} {b : Backend σ} {s : σ} {line : String}

def Reply.written (identity : Option Json) (reply : Reply) : Option String :=
  if reply.isSent identity then some (reply.toJson identity).compact else none

theorem answerLine_request {r : Request} (h : Request.ofLine line = .ok r) :
    answerLine b s line = ((meet b s r).1, (meet b s r).2.map (Reply.written r.identity)) := by
  rw [answerLine, if_neg (full_of_request h), h]
  rfl

theorem met_replied {r : Request} {s' : σ} {reply : Reply} (h : Request.ofLine line = .ok r)
    (meets : meet b s r = (s', .ok reply)) (rest : List String) :
    met b s (line :: rest) = (s, r) :: met b s' rest := by
  simp only [met, full_of_request h, if_false, h, meets]

theorem met_crashed {r : Request} {s' : σ} {message : String} (h : Request.ofLine line = .ok r)
    (meets : meet b s r = (s', .error message)) (rest : List String) :
    met b s (line :: rest) = [(s, r)] := by
  simp only [met, full_of_request h, if_false, h, meets]

/-- A line that is no request changes nothing. -/
theorem answerLine_other {f : Json.Fault} (h : Request.ofLine line = .error f) :
    ∃ written, answerLine b s line = (s, .ok written) := by
  rw [answerLine]
  split
  · exact ⟨_, rfl⟩
  · rw [h]
    exact ⟨_, rfl⟩

theorem met_other {f : Json.Fault} (h : Request.ofLine line = .error f) (rest : List String) :
    met b s (line :: rest) = met b s rest := by
  rw [met]
  split
  · rfl
  · rw [h]

end

def lineText? (line : List UInt8) : Option String :=
  match decode line with
  | .ok chars => some (String.ofList (withoutLineEnd chars))
  | .error _ => none

def Transcript.andThen {σ : Type} (t : Transcript σ) (next : σ → Transcript σ) : Transcript σ :=
  match t.ending with
  | .finished => ⟨(next t.state).state, t.lines ++ (next t.state).lines, (next t.state).ending⟩
  | _ => t

section
variable {σ : Type} {b : Backend σ} {s : σ} {line : List UInt8}

theorem Transcript.andThen_finished {t : Transcript σ} (h : t.ending = .finished)
    (next : σ → Transcript σ) :
    t.andThen next =
      ⟨(next t.state).state, t.lines ++ (next t.state).lines, (next t.state).ending⟩ := by
  rw [andThen, h]

theorem Transcript.andThen_early {t : Transcript σ} (h : t.ending ≠ .finished)
    (next : σ → Transcript σ) : t.andThen next = t := by
  unfold andThen
  split
  · contradiction
  · rfl

theorem Transcript.andThen_assoc (t : Transcript σ) (next last : σ → Transcript σ) :
    (t.andThen next).andThen last = t.andThen fun s => (next s).andThen last := by
  by_cases h : t.ending = .finished
  · rw [andThen_finished h, andThen_finished h]
    by_cases h' : (next t.state).ending = .finished
    · rw [andThen_finished h', andThen_finished (by exact h'), List.append_assoc]
    · rw [andThen_early h', andThen_early (by exact h')]
  · rw [andThen_early h, andThen_early h, andThen_early h]

theorem Transcript.lines_andThen (t : Transcript σ) (next : σ → Transcript σ) :
    t.lines <+: (t.andThen next).lines := by
  by_cases h : t.ending = .finished
  · rw [andThen_finished h]
    exact List.prefix_append ..
  · simp only [andThen_early h, List.prefix_rfl]

theorem Transcript.ending_andThen (t : Transcript σ) (next : σ → Transcript σ) :
    (t.andThen next).ending = .finished ↔
      t.ending = .finished ∧ (next t.state).ending = .finished := by
  by_cases h : t.ending = .finished
  · rw [andThen_finished h]
    simp [h]
  · rw [andThen_early h]
    simp [h]

/-- A session over one line that is a text. -/
theorem serveLines_single {text : String} (h : lineText? line = some text) :
    serveLines b s [line] = match answerLine b s text with
      | (s', .error message) => ⟨s', [], .crashed message⟩
      | (s', .ok written) => ⟨s', written.toList, .finished⟩ := by
  unfold lineText? at h
  split at h
  · rename_i chars decoded
    cases h
    rw [serveLines, decoded]
    obtain ⟨⟨s', result⟩, answered⟩ :
        ∃ a, answerLine b s (String.ofList (withoutLineEnd chars)) = a := ⟨_, rfl⟩
    dsimp only
    rw [answered]
    cases result with
    | error message => rfl
    | ok written => simp only [serveLines, List.append_nil]
  · cases h

/-- A session over one line that is no text. -/
theorem serveLines_unreadable (h : lineText? line = none) :
    (serveLines b s [line]).lines = [] ∧ (serveLines b s [line]).ending ≠ .finished := by
  unfold lineText? at h
  split at h
  · cases h
  · rename_i fault decoded
    simp [serveLines, decoded]

theorem serveLines_cons (b : Backend σ) (s : σ) (line : List UInt8) (rest : List (List UInt8)) :
    serveLines b s (line :: rest) =
      (serveLines b s [line]).andThen fun s' => serveLines b s' rest := by
  rw [serveLines, serveLines]
  cases decode line with
  | error fault => rfl
  | ok chars =>
    dsimp only
    obtain ⟨⟨s', result⟩, answered⟩ :
        ∃ a, answerLine b s (String.ofList (withoutLineEnd chars)) = a := ⟨_, rfl⟩
    rw [answered]
    cases result with
    | error message => rfl
    | ok written => simp [serveLines, Transcript.andThen]

/-- A session over lines is one over the first of them, and behind it one over the others. -/
theorem serveLines_append (b : Backend σ) (s : σ) (before rest : List (List UInt8)) :
    serveLines b s (before ++ rest) =
      (serveLines b s before).andThen fun s' => serveLines b s' rest := by
  induction before generalizing s with
  | nil => rfl
  | cons line before ih =>
    rw [List.cons_append, serveLines_cons, serveLines_cons b s line before, Transcript.andThen_assoc]
    simp only [ih]

/-- What is written over the first lines of an input stays, whatever follows. -/
theorem lines_grow (b : Backend σ) (s : σ) (input : List UInt8) {before after : List (List UInt8)}
    (split : rawLines input = before ++ line :: after) :
    (serveLines b s before).lines <+: (serveLines b s (before ++ [line])).lines ∧
      (serveLines b s (before ++ [line])).lines <+: (serve b s input).lines := by
  have whole : before ++ line :: after = (before ++ [line]) ++ after := by simp
  constructor
  · rw [serveLines_append]
    exact Transcript.lines_andThen ..
  · rw [serve, split, whole, serveLines_append b s (before ++ [line])]
    exact Transcript.lines_andThen ..

/-- A session that gets behind lines adds to them what it writes for the next. -/
theorem lines_next {before : List (List UInt8)} (there : (serveLines b s before).ending = .finished) :
    (serveLines b s (before ++ [line])).lines =
      (serveLines b s before).lines ++ (serveLines b (serveLines b s before).state [line]).lines := by
  rw [serveLines_append, Transcript.andThen_finished there]

theorem lines_early {before : List (List UInt8)} (early : (serveLines b s before).ending ≠ .finished) :
    (serveLines b s (before ++ [line])).lines = (serveLines b s before).lines := by
  rw [serveLines_append, Transcript.andThen_early early]

/-- A session gets behind lines exactly if each is a text and no request among them crashes. -/
theorem finished_iff (b : Backend σ) (s : σ) (lines : List (List UInt8)) :
    (serveLines b s lines).ending = .finished ↔ (∀ line ∈ lines, (lineText? line).isSome = true) ∧
      ∀ m ∈ met b s (lines.filterMap lineText?), ∃ reply, (meet b m.1 m.2).2 = .ok reply := by
  induction lines generalizing s with
  | nil => simp [serveLines, met]
  | cons line lines ih =>
    rw [serveLines_cons, Transcript.ending_andThen, List.forall_mem_cons]
    cases read : lineText? line with
    | none => simp [(serveLines_unreadable (b := b) (s := s) read).2]
    | some text =>
      rw [List.filterMap_cons_some read, serveLines_single read]
      cases decoded : Request.ofLine text with
      | error f =>
        obtain ⟨written, answered⟩ := answerLine_other (b := b) (s := s) decoded
        simp [answered, met_other decoded, ih]
      | ok r =>
        rw [answerLine_request decoded]
        obtain ⟨⟨s', result⟩, meets⟩ : ∃ m, meet b s r = m := ⟨_, rfl⟩
        cases result with
        | error message => simp [met_crashed decoded meets, meets, Except.map]
        | ok reply => simp [met_replied decoded meets, meets, Except.map, ih]

end
end Mcp
end QueryWarden
