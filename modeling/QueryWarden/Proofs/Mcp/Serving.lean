import QueryWarden.Proofs.Mcp.Answers
import QueryWarden.Proofs.Pipeline.InService

/-! A session before a pipeline in service. If the guard can judge every text that it is shown, the
session answers each line that asks for an answer, once and in order, and ends with the input. -/
namespace QueryWarden
namespace Pipeline
namespace Service
open Clock Mcp

/-- The texts that the guard judges when a request is met: the one that is to be checked, or the
candidate that the generator replies. -/
inductive Judges (rules : Rules) (c : Collaborators) (s : Service) (r : Mcp.Request) : String → Prop where
  | check {sql : String} (method : r.method = "tools/call")
      (call : ToolCall.ofParams r.params = .ok (.check sql)) : Judges rules c s r sql
  | ask {text candidate : String} {t : TaskId} (method : r.method = "tools/call")
      (call : ToolCall.ofParams r.params = .ok (.ask text))
      (replied : .replied t (.ok candidate) ∈ (s.handle rules c text).1.notes.drop s.notes.length)
      (clean : Generator.isViolation candidate = false) : Judges rules c s r candidate

/-- What a request comes to: nothing is under way again, and if it crashed, it was over a text that the
guard cannot judge, or over the clock. -/
structure ComesTo (rules : Rules) (c : Collaborators) (s : Service) (r : Mcp.Request)
    (m : Service × Except String Reply) : Prop where
  idle : m.1.Idle
  life : m.1.run.cache.life = s.run.cache.life
  blame : ∀ message, m.2 = .error message →
    (∃ sql, Judges rules c s r sql ∧ Guard.inspect rules.dialect sql = .error message) ∨
    message = Cache.clockOverflow ∧ Cache.expiry? m.1.run.now s.run.cache.life = none

variable {rules : Rules} {c : Collaborators} {s : Service} {r : Mcp.Request}

theorem ComesTo.ofReply (idle : s.Idle) (reply : Reply) : ComesTo rules c s r (s, .ok reply) :=
  ⟨idle, rfl, nofun⟩

theorem callTool_check {params : Option Json} {sql : String}
    (call : ToolCall.ofParams params = .ok (.check sql)) :
    callTool (backend rules c) s params =
      (s, (Guard.inspect rules.dialect sql).map fun v => .result (toolResult v.toJson false)) := by
  rw [callTool, call]
  rfl

theorem callTool_ask {params : Option Json} {text : String}
    (call : ToolCall.ofParams params = .ok (.ask text)) :
    callTool (backend rules c) s params = ((s.handle rules c text).1,
      ((s.handle rules c text).2.map Outcome.response).map fun r =>
        .result (toolResult r.body.toJson (!r.isOk))) := by
  rw [callTool, call]
  rfl

theorem callTool_comesTo (idle : s.Idle) (method : r.method = "tools/call") :
    ComesTo rules c s r (callTool (backend rules c) s r.params) := by
  cases call : ToolCall.ofParams r.params with
  | error message =>
    rw [callTool, call]
    exact .ofReply idle _
  | ok call' =>
    cases call' with
    | check sql =>
      rw [callTool_check call]
      cases judged : Guard.inspect rules.dialect sql with
      | ok v => exact .ofReply idle _
      | error found =>
        refine ⟨idle, rfl, fun message crashed => ?_⟩
        cases crashed
        exact .inl ⟨sql, .check method call, judged⟩
    | ask text =>
      rw [callTool_ask call]
      obtain ⟨idle', life, ⟨o, ended⟩ | ⟨found, ended, blame⟩⟩ := handle_ends rules c idle text
      · rw [ended]
        exact ⟨idle', life, nofun⟩
      · rw [ended]
        refine ⟨idle', life, fun message crashed => ?_⟩
        cases crashed
        obtain ⟨t, candidate, replied, clean, fault⟩ | overflow := blame
        · exact .inl ⟨candidate, .ask method call replied clean, fault⟩
        · exact .inr overflow

theorem meet_comesTo (rules : Rules) (c : Collaborators) {s : Service} (idle : s.Idle)
    (r : Mcp.Request) : ComesTo rules c s r (meet (backend rules c) s r) := by
  unfold meet
  split
  · exact .ofReply idle _
  split
  · exact .ofReply idle _
  split
  · exact .ofReply idle _
  split
  · rename_i method
    exact callTool_comesTo idle method
  · exact .ofReply idle _

/-- If the guard can judge every text that it is shown, a session over a text ends with the input, and
what it has written are lines that answer those of the input; or the clock cannot say how long a snapshot
is good. -/
theorem session_answers (rules : Rules) (c : Collaborators) {s : Service} (idle : s.Idle) (text : String)
    (calm : ∀ s' r sql, (s', r) ∈ met (backend rules c) s (inputLines text) →
      Judges rules c s' r sql → ∃ v, Guard.inspect rules.dialect sql = .ok v) :
    let t := serve (backend rules c) s (Text.Utf8.bytes text)
    (t.ending = .finished ∧
      textLines t.written.toList = t.lines.map (fun line => line.toList ++ ['\n']) ∧
      ∃ place, Answering (inputLines text) t.lines place) ∨
    t.ending = .crashed Cache.clockOverflow ∧
      Cache.expiry? t.state.run.now s.run.cache.life = none := by
  intro t
  have lines_eq : rawLines (Text.Utf8.bytes text) = (textLines text.toList).map Text.Utf8.encode :=
    rawLines_encode text.toList
  have served := serveLines_encode (backend rules c) s (textLines text.toList)
  rw [← lines_eq] at served
  obtain ⟨finished, written, answers, kept⟩ | ⟨s', r, message, among, meets, crashed⟩ := served
  · left
    obtain ⟨place, answering⟩ := answering_of_answers answers
    have lines_kept : t.lines = written.reduceOption := kept
    rw [← lines_kept] at answering
    refine ⟨finished, textLines_join ?_, place, answering⟩
    intro line among
    obtain ⟨i, at_i⟩ := List.getElem?_of_mem among
    obtain ⟨-, id, key, value, -, spells⟩ := answering.responds i line at_i
    exact spells.oneLine
  · right
    have keeps : ∀ (s' : Service) (r : Mcp.Request),
        s'.Idle ∧ s'.run.cache.life = s.run.cache.life →
        (meet (backend rules c) s' r).1.Idle ∧
          (meet (backend rules c) s' r).1.run.cache.life = s.run.cache.life := by
      rintro s' r ⟨idle, life⟩
      have comes := meet_comesTo rules c idle r
      exact ⟨comes.idle, comes.life.trans life⟩
    obtain ⟨idle', life'⟩ := met_keeps keeps ⟨idle, rfl⟩ among
    have comes := meet_comesTo rules c idle' r
    rw [meets] at comes
    obtain ⟨sql, judged, fault⟩ | ⟨rfl, ends⟩ := comes.blame message rfl
    · obtain ⟨v, fine⟩ := calm s' r sql among judged
      cases fault.symm.trans fine
    · rw [life'] at ends
      exact ⟨crashed, ends⟩

/-- Whether the guard can judge what it is shown when a request is met. -/
def canJudge (rules : Rules) (c : Collaborators) (s : Service) (r : Mcp.Request) : Bool :=
  match ToolCall.ofParams r.params with
  | .error _ => true
  | .ok (.check sql) => (Guard.inspect rules.dialect sql).isOk
  | .ok (.ask text) => ((s.handle rules c text).1.notes.drop s.notes.length).all fun
    | .replied _ (.ok candidate) =>
      Generator.isViolation candidate || (Guard.inspect rules.dialect candidate).isOk
    | _ => true

theorem judged_of_canJudge (able : canJudge rules c s r = true) {sql : String}
    (judges : Judges rules c s r sql) : ∃ v, Guard.inspect rules.dialect sql = .ok v := by
  have of_isOk : ∀ {sql}, (Guard.inspect rules.dialect sql).isOk = true →
      ∃ v, Guard.inspect rules.dialect sql = .ok v := by
    intro sql fine
    cases judged : Guard.inspect rules.dialect sql with
    | ok v => exact ⟨v, rfl⟩
    | error message =>
      rw [judged] at fine
      cases fine
  cases judges with
  | check method call =>
    rw [canJudge, call] at able
    exact of_isOk able
  | ask method call replied clean =>
    rw [canJudge, call] at able
    have judged := List.all_eq_true.mp able _ replied
    dsimp only at judged
    rw [clean, Bool.false_or] at judged
    exact of_isOk judged

/-- A line that is no request, a blank one, and a check without a line feed behind it. -/
def threeLines : String :=
  "not json\n\n" ++
  "\x7b\"jsonrpc\":\"2.0\",\"id\":6,\"method\":\"tools/call\",\"params\":\x7b\"name\":\"check\"," ++
  "\"arguments\":\x7b\"sql\":\"SELECT 1\"\x7d\x7d\x7d"

theorem check_session_answers :
    let t := serve (backend ⟨.sqlite, usualLimits⟩ Scenario.silent) (start 10) (Text.Utf8.bytes threeLines)
    (t.ending = .finished ∧ t.lines.length = 2) ∧
      ∃ place, Answering (inputLines threeLines) t.lines place := by
  have ends :
      let t := serve (backend ⟨.sqlite, usualLimits⟩ Scenario.silent) (start 10) (Text.Utf8.bytes threeLines)
      t.ending = .finished ∧ t.lines.length = 2 := by decide +kernel
  have able : ((met (backend ⟨.sqlite, usualLimits⟩ Scenario.silent) (start 10) (inputLines threeLines)).all
      fun m => canJudge ⟨.sqlite, usualLimits⟩ Scenario.silent m.1 m.2) = true := by decide +kernel
  obtain ⟨-, -, answers⟩ | ⟨crashed, -⟩ := session_answers ⟨.sqlite, usualLimits⟩ Scenario.silent
    (idle_start 10) threeLines
    fun s r sql among judges => judged_of_canJudge (List.all_eq_true.mp able _ among) judges
  · exact ⟨ends, answers⟩
  · cases ends.1.symm.trans crashed

end Service
end Pipeline
end QueryWarden
