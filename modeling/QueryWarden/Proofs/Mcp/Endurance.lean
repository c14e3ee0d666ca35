import QueryWarden.Proofs.Mcp.Continuation
import QueryWarden.Proofs.Mcp.Serving

/-! What a session survives. Blank lines, lines that are no requests and requests that are not understood
never keep a later request from its answer. A line that is no text does, and so does a request that
crashes: over a text that the guard cannot judge, or over the clock. -/
namespace QueryWarden
namespace Pipeline
open Clock

namespace Service
open Mcp

section
variable {rules : Rules} {c : Collaborators} {s : Service} {r : Mcp.Request}

theorem handle_baffled (idle : s.Idle) {text candidate message : String} {t : TaskId}
    (replied : .replied t (.ok candidate) ∈ (s.handle rules c text).1.notes.drop s.notes.length)
    (clean : Generator.isViolation candidate = false)
    (fault : Guard.inspect rules.dialect candidate = .error message) :
    (s.handle rules c text).2 = .error message := by
  obtain ⟨es, run_eq, told_eq⟩ := handle_told rules c s text
  rw [told_eq] at replied
  have broken : (s.handle rules c text).1.run.requests t = some (.broken message) := by
    rw [run_eq]
    exact Run.broken_of_baffled replied clean fault
  -- only the request that is handled has a candidate in these notes
  have handled : t = s.requests := by
    by_contra other
    have stood : s.run.requests t = some (.broken message) :=
      (handle_others rules c idle text other).symm.trans broken
    exact Run.over_silent stood rfl rules es _ replied rfl
  rw [handle_answer rules c idle text, ← handled, broken]
  rfl

/-- The request crashes because the clock cannot say how long the schema that it has fetched is good. -/
def Overflows (rules : Rules) (c : Collaborators) (s : Service) (r : Mcp.Request) : Prop :=
  (meet (backend rules c) s r).2 = .error Cache.clockOverflow ∧
    Cache.expiry? (meet (backend rules c) s r).1.run.now s.run.cache.life = none

/-- The guard can judge whatever it is shown for the request, and the clock does not fail. -/
def Bearable (rules : Rules) (c : Collaborators) (s : Service) (r : Mcp.Request) : Prop :=
  (∀ sql, Judges rules c s r sql → ∃ v, Guard.inspect rules.dialect sql = .ok v) ∧
    ¬ Overflows rules c s r

/-- A request crashes if the guard is shown a text for it that it cannot judge. -/
theorem meet_baffled (idle : s.Idle) {sql message : String} (judges : Judges rules c s r sql)
    (fault : Guard.inspect rules.dialect sql = .error message) :
    (meet (backend rules c) s r).2 = .error message := by
  cases judges with
  | check method call =>
    rw [meet_call method, callTool_check call, fault]
    rfl
  | ask method call replied clean =>
    rw [meet_call method, callTool_ask call, handle_baffled idle replied clean fault]
    rfl

/-- Exactly the bearable requests are met with a reply. -/
theorem bearable_iff (idle : s.Idle) :
    Bearable rules c s r ↔ ∃ reply, (meet (backend rules c) s r).2 = .ok reply := by
  constructor
  · rintro ⟨able, steady⟩
    cases result : (meet (backend rules c) s r).2 with
    | ok reply => exact ⟨reply, rfl⟩
    | error message =>
      obtain ⟨sql, judges, fault⟩ | ⟨rfl, ends⟩ := (meet_comesTo rules c idle r).blame message result
      · obtain ⟨v, fine⟩ := able sql judges
        cases fault.symm.trans fine
      · exact absurd ⟨result, ends⟩ steady
  · rintro ⟨reply, met⟩
    constructor
    · intro sql judges
      cases judged : Guard.inspect rules.dialect sql with
      | ok v => exact ⟨v, rfl⟩
      | error message => cases met.symm.trans (meet_baffled idle judges judged)
    · rintro ⟨crashed, -⟩
      cases met.symm.trans crashed

end

/-- A session over a request with an identity writes its response, or nothing if the request crashes. -/
theorem serveLines_named {σ : Type} (b : Backend σ) (s : σ) {line : List UInt8} {text : String}
    {r : Mcp.Request} {id : Json} (read : lineText? line = some text)
    (decoded : Request.ofLine text = .ok r) (named : r.identity = some id) :
    ((serveLines b s [line]).ending = .finished ∧ ∃ answer key value,
      (key = "result" ∨ key = "error") ∧ Spells answer (Mcp.response id key value) ∧
      (serveLines b s [line]).lines = [answer]) ∨
    (serveLines b s [line]).ending ≠ .finished ∧ (serveLines b s [line]).lines = [] := by
  rw [serveLines_single read, answerLine_request decoded, named]
  cases (meet b s r).2 with
  | error message => exact .inr ⟨nofun, rfl⟩
  | ok reply =>
    obtain ⟨key, value, either, shape⟩ := toJson_response (some id) reply
    have sent : reply.isSent (some id) = true := by cases reply <;> rfl
    have written : Reply.written (some id) reply = some (Mcp.response id key value).compact := by
      rw [Reply.written, if_pos sent, shape]
      rfl
    refine .inl ⟨rfl, _, key, value, either, spells_compact _, ?_⟩
    simp [Except.map, written]

/-- A request with an identity is answered exactly if every line before it is a text, and every request
up to it bearable. Whatever else the other lines hold, it is answered right behind what was written
before. -/
theorem answered_iff (rules : Rules) (c : Collaborators) {s : Service} (idle : s.Idle)
    (input : List UInt8) {before after : List (List UInt8)} {line : List UInt8} {text : String}
    {r : Mcp.Request} {id : Json} (split : rawLines input = before ++ line :: after)
    (read : lineText? line = some text) (decoded : Request.ofLine text = .ok r)
    (named : r.identity = some id) :
    let written := fun lines => (serveLines (backend rules c) s lines).lines
    (written before <+: written (before ++ [line]) ∧
      written (before ++ [line]) <+: (serve (backend rules c) s input).lines) ∧
    ((∃ answer key value, (key = "result" ∨ key = "error") ∧
        Spells answer (Mcp.response id key value) ∧
        written (before ++ [line]) = written before ++ [answer]) ↔
      (∀ earlier ∈ before, (lineText? earlier).isSome = true) ∧
      ∀ m ∈ met (backend rules c) s ((before ++ [line]).filterMap lineText?),
        Bearable rules c m.1 m.2) := by
  intro written
  refine ⟨lines_grow _ s input split, ?_⟩
  have idle_met : ∀ m ∈ met (backend rules c) s ((before ++ [line]).filterMap lineText?), m.1.Idle :=
    fun m among => met_keeps (P := Idle) (fun s' r' idle' => (meet_comesTo rules c idle' r').idle) idle among
  have reached : (serveLines (backend rules c) s (before ++ [line])).ending = .finished ↔
      (∀ earlier ∈ before, (lineText? earlier).isSome = true) ∧
      ∀ m ∈ met (backend rules c) s ((before ++ [line]).filterMap lineText?), Bearable rules c m.1 m.2 := by
    rw [finished_iff]
    refine and_congr ?_ (forall₂_congr fun m among => (bearable_iff (idle_met m among)).symm)
    simp only [List.forall_mem_append, List.forall_mem_singleton, read, Option.isSome_some, and_true]
  rw [← reached, serveLines_append, Transcript.ending_andThen]
  by_cases there : (serveLines (backend rules c) s before).ending = .finished
  · have adds : written (before ++ [line]) = written before ++
        (serveLines (backend rules c) (serveLines (backend rules c) s before).state [line]).lines :=
      lines_next there
    obtain ⟨finished, answer, key, value, either, spells, alone⟩ | ⟨crashed, silent⟩ :=
      serveLines_named (backend rules c) (serveLines (backend rules c) s before).state read decoded named
    · exact iff_of_true ⟨answer, key, value, either, spells, by rw [adds, alone]⟩ ⟨there, finished⟩
    · refine iff_of_false ?_ fun ends => crashed ends.2
      rintro ⟨answer, key, value, -, -, more⟩
      rw [adds, silent] at more
      simp at more
  · have same : written (before ++ [line]) = written before := lines_early there
    refine iff_of_false ?_ fun ends => there ends.1
    rintro ⟨answer, key, value, -, -, more⟩
    rw [same] at more
    simp at more

def greet : String := "\x7b\"jsonrpc\":\"2.0\",\"id\":2,\"method\":\"initialize\"\x7d"

theorem greet_named : ∃ r id, Request.ofLine greet = .ok r ∧ r.identity = some id := by
  obtain ⟨r, decoded, named⟩ := of_decodesAs
    (show decodesAs greet (·.identity.isSome) = true by decide +kernel)
  obtain ⟨id, given⟩ := Option.isSome_iff_exists.mp named
  exact ⟨r, id, decoded, given⟩

def allReply (rules : Rules) (c : Collaborators) (s : Service) (lines : List String) : Bool :=
  (met (backend rules c) s lines).all fun m => (meet (backend rules c) m.1 m.2).2.isOk

theorem of_allReply {rules : Rules} {c : Collaborators} {s : Service} {lines : List String}
    (h : allReply rules c s lines = true) :
    ∀ m ∈ met (backend rules c) s lines, ∃ reply, (meet (backend rules c) m.1 m.2).2 = .ok reply := by
  intro m among
  have fine := List.all_eq_true.mp h m among
  cases result : (meet (backend rules c) m.1 m.2).2 with
  | ok reply => exact ⟨reply, rfl⟩
  | error message =>
    rw [result] at fine
    cases fine

theorem greeted_behind_garbage :
    let rules : Rules := ⟨.sqlite, usualLimits⟩
    let lines := fun input => (serveLines (backend rules Scenario.silent) (start 10) input).lines
    let garbage := Text.Utf8.bytes "not json\n"
    ∃ id answer key value, Spells answer (Mcp.response id key value) ∧
      lines [garbage, Text.Utf8.bytes greet] = lines [garbage] ++ [answer] := by
  intro rules lines garbage
  have split : rawLines (Text.Utf8.bytes ("not json\n" ++ greet)) =
      [garbage] ++ Text.Utf8.bytes greet :: [] := by decide +kernel
  have readable : ∀ earlier ∈ [garbage], (lineText? earlier).isSome = true := by decide +kernel
  have replies := of_allReply (show allReply rules Scenario.silent (start 10)
    (([garbage] ++ [Text.Utf8.bytes greet]).filterMap lineText?) = true by decide +kernel)
  obtain ⟨r, id, decoded, named⟩ := greet_named
  have read : lineText? (Text.Utf8.bytes greet) = some greet := by decide +kernel
  obtain ⟨-, answered⟩ := answered_iff rules Scenario.silent (idle_start 10) _ split read decoded named
  obtain ⟨answer, key, value, -, spells, more⟩ := answered.mpr ⟨readable, fun m among =>
    (bearable_iff (met_keeps (P := Idle) (fun s' r' idle' => (meet_comesTo _ _ idle' r').idle)
      (idle_start 10) among)).mpr (replies m among)⟩
  exact ⟨id, answer, key, value, spells, more⟩

def checkDiv : String :=
  "\x7b\"jsonrpc\":\"2.0\",\"id\":1,\"method\":\"tools/call\",\"params\":\x7b\"name\":\"check\",\"arguments\":\x7b\"sql\":\"SELECT a DIV\"\x7d\x7d\x7d"

/-- A check, and a line that is no text, either of which loses the request in the line behind it. -/
theorem request_lost :
    let b := backend ⟨.mysql, usualLimits⟩ Scenario.silent
    let lost := Text.Utf8.bytes greet
    let check := Text.Utf8.bytes checkDiv ++ [10]
    (∃ r id, lineText? lost = some greet ∧ Request.ofLine greet = .ok r ∧ r.identity = some id) ∧
    (rawLines (check ++ lost) = [check, lost] ∧ (serve b (start 10) (check ++ lost)).lines = []) ∧
    rawLines (0xFF :: 10 :: lost) = [[0xFF, 10], lost] ∧
      (serve b (start 10) (0xFF :: 10 :: lost)).lines = [] := by
  intro b lost check
  obtain ⟨r, id, decoded, named⟩ := greet_named
  have read : lineText? lost = some greet := by decide +kernel
  exact ⟨⟨r, id, read, decoded, named⟩, ⟨by decide +kernel, by decide +kernel⟩,
    by decide +kernel, by decide +kernel⟩

end Service
end Pipeline
end QueryWarden
