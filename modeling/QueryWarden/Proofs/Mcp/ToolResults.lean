import QueryWarden.Proofs.Mcp.Endurance
import QueryWarden.Proofs.Pipeline.Discretion
import QueryWarden.Proofs.ResultSet
import QueryWarden.Proofs.Wire.Types
import QueryWarden.Proofs.Wire.Written

/-! What tools give back. The result of a call is one text; the text of `ask` has the value of the response that
handling the question gives, and the text of `check` is read as the guard's verdict. -/
namespace QueryWarden
open Json

namespace Mcp

/-- A result of one item, a text, and whether it reports an error. -/
structure Carries (value : Json) (text : String) (isError : Bool) : Prop where
  content : ∃ item, value.member? "content" = some (.arr [item]) ∧
    item.member? "type" = some (.str "text") ∧ item.member? "text" = some (.str text)
  flag : value.member? "isError" = some (.bool isError)

theorem carries_toolResult (document : Json) (isError : Bool) :
    Carries (toolResult document isError) document.pretty isError :=
  ⟨⟨_, rfl, rfl, rfl⟩, rfl⟩

end Mcp

theorem Guard.Verdict.ofText_pretty (v : Verdict) :
    (Verdict.wire.ofText v.toJson.pretty).map Verdict.ofValue = .ok v := by
  have read : Verdict.wire.ofText (Verdict.wire.encode v.toValue).pretty = .ok v.toValue :=
    Wire.Shape.ofText_pretty rfl (by decide) (Wire.Shape.sound_of_timeless _ rfl _)
  rw [Verdict.toJson, read]
  rfl

namespace Pipeline

def Outcome.isSuccess : Outcome → Bool
  | .success .. => true
  | _ => false

def Outcome.Exact : Outcome → Prop
  | .success _ _ result => result.Exact
  | _ => True

instance : (o : Outcome) → Decidable o.Exact
  | .success _ _ result => inferInstanceAs (Decidable result.Exact)
  | .rejected .. | .inputError _ | .securityAlert _ | .executionError => isTrue trivial

theorem Outcome.isOk_response (o : Outcome) : o.response.isOk = o.isSuccess := by
  cases o <;> rfl

theorem Outcome.Exact.toJson {o : Outcome} (exact : o.Exact) : Json.Exact 3 o.response.body.toJson := by
  have refusal : ∀ details query, Json.Exact 3 (ResponseBody.rejection details query).toJson := fun _ _ =>
    (Wire.Shape.exact_encode rejectionBody rfl _).mono (by decide)
  have failure : ∀ code message, Json.Exact 3 (ResponseBody.error code message).toJson := fun _ _ =>
    (Wire.Shape.exact_encode errorEnvelope rfl _).mono (by decide)
  cases o with
  | success question candidate result =>
    refine .obj fun m among => ?_
    simp only [List.mem_cons, List.not_mem_nil, or_false] at among
    obtain rfl | rfl | rfl := among
    · exact .str question
    · exact .str candidate
    · exact ResultSet.Exact.toJson exact 0
  | rejected | securityAlert => exact refusal _ _
  | inputError | executionError => exact failure _ _

namespace Service
open Clock Mcp

variable {rules : Rules} {c : Collaborators} {s : Service} {r : Mcp.Request}

/-! Whatever is done with a pipeline in service, nothing is left under way. -/

theorem idle_act (idle : s.Idle) (rules : Rules) (c : Collaborators) (a : Act) : (s.act rules c a).1.Idle := by
  cases a with
  | handle requests => exact (Scenario.play_ends rules c idle requests).1
  | invalidate => exact ⟨idle.isOver, idle.fresh, Run.orderly_step idle.orderly rules .invalidate⟩
  | advance time => exact ⟨idle.isOver, idle.fresh, Run.orderly_step idle.orderly rules (.pass time)⟩
  | converse input =>
    exact serveLines_keeps (P := Idle) (fun s r idle => (meet_comesTo rules c idle r).idle) idle (rawLines input)

theorem idle_acts (idle : s.Idle) (rules : Rules) (history : List (Collaborators × Act)) :
    (s.acts rules history).1.Idle := by
  induction history generalizing s with
  | nil => exact idle
  | cons first rest ih =>
    obtain ⟨c, a⟩ := first
    exact ih (idle_act idle rules c a)

/-- What meeting a call of `ask` has come to tells an outcome of handling its question: with the same state, as
one text that has the value of the response, and as an error unless data came back. -/
structure Tells (o : Outcome) (handled : Service × Except String Outcome)
    (met : Service × Except String Reply) : Prop where
  outcome : handled.2 = .ok o
  state : met.1 = handled.1
  result : ∃ value text, met.2 = .ok (.result value) ∧ Carries value text (!o.isSuccess) ∧
    (o.Exact → parse text = .ok (sorted o.response.body.toJson))

theorem tells_of_handled {text : String} {o : Outcome} (method : r.method = "tools/call")
    (call : ToolCall.ofParams r.params = .ok (.ask text)) (handled : (s.handle rules c text).2 = .ok o) :
    Tells o (s.handle rules c text) (meet (backend rules c) s r) := by
  rw [meet_call method, callTool_ask call]
  refine ⟨handled, rfl, toolResult o.response.body.toJson (!o.response.isOk), o.response.body.toJson.pretty,
    ?_, ?_, fun exact => ?_⟩
  · rw [handled]
    rfl
  · rw [← o.isOk_response]
    exact carries_toolResult ..
  · exact parse_pretty (exact.toJson.mono (by decide))

/-- In every state that a pipeline in service can come to: a call of `ask` tells the outcome of handling its
question if the guard can judge whatever it is shown and the clock does not fail, and otherwise it crashes as
handling the question does. A call of `check` tells the guard's verdict, if there is one, and changes nothing. -/
theorem tool_calls_tell (rules : Rules) (life : Duration) (history : List (Collaborators × Act))
    (c : Collaborators) {r : Mcp.Request} (method : r.method = "tools/call") :
    let s := ((start life).acts rules history).1
    let met := meet (backend rules c) s r
    (∀ text, ToolCall.ofParams r.params = .ok (.ask text) →
      (Bearable rules c s r → ∃ o, Tells o (s.handle rules c text) met) ∧
      (¬ Bearable rules c s r →
        ∃ message, (s.handle rules c text).2 = .error message ∧ met.2 = .error message)) ∧
    ∀ sql v, ToolCall.ofParams r.params = .ok (.check sql) → Guard.inspect rules.dialect sql = .ok v →
      ∃ value text, met = (s, .ok (.result value)) ∧ Carries value text false ∧
        (Guard.Verdict.wire.ofText text).map Guard.Verdict.ofValue = .ok v := by
  intro s met
  have idle : s.Idle := idle_acts (idle_start life) rules history
  refine ⟨fun text call => ?_, fun sql v call judged => ?_⟩
  · have bearable : Bearable rules c s r ↔ ∃ reply, met.2 = .ok reply := bearable_iff idle
    have reply : met.2 = ((s.handle rules c text).2.map Outcome.response).map fun r =>
        .result (toolResult r.body.toJson (!r.isOk)) := by
      rw [show met = _ from meet_call method, callTool_ask call]
    -- the call has a reply exactly if its question has an outcome
    cases handled : (s.handle rules c text).2 with
    | ok o =>
      have able : Bearable rules c s r := by
        rw [handled] at reply
        exact bearable.mpr ⟨_, reply⟩
      exact ⟨fun _ => ⟨o, tells_of_handled method call handled⟩, fun not => absurd able not⟩
    | error message =>
      rw [handled] at reply
      refine ⟨fun able => ?_, fun _ => ⟨message, rfl, reply⟩⟩
      obtain ⟨other, there⟩ := bearable.mp able
      cases there.symm.trans reply
  · refine ⟨_, v.toJson.pretty, ?_, carries_toolResult .., v.ofText_pretty⟩
    rw [show met = _ from meet_call method, callTool_check call, judged]
    rfl

def replying (candidate : String) : Collaborators where
  introspect _ := ⟨some 5, .ok ⟨[], ⟨0, 0, 0⟩⟩⟩
  generate _ _ := ⟨some 7, .ok candidate⟩
  execute _ := ⟨some 2, .ok ⟨["a", "a"], [⟨[("a", .text "\"\n\u00e9"), ("a", .binary [255])]⟩]⟩⟩

def toolCall (tool field text : String) : Mcp.Request where
  identity := some .null
  method := "tools/call"
  params := some (.obj [("name", .str tool), ("arguments", .obj [(field, .str text)])])

def hasAnswer (handled : Service × Except String Outcome) : Bool :=
  handled.2.toOption.any fun o => o.isSuccess && decide o.Exact

theorem of_hasAnswer {handled : Service × Except String Outcome} (h : hasAnswer handled = true) :
    ∃ o, handled.2 = .ok o ∧ o.isSuccess = true ∧ o.Exact := by
  unfold hasAnswer at h
  cases came : handled.2 with
  | error message =>
    rw [came] at h
    cases h
  | ok o =>
    rw [came] at h
    obtain ⟨success, exact⟩ := Bool.and_eq_true_iff.mp h
    exact ⟨o, rfl, success, of_decide_eq_true exact⟩

theorem answer_and_verdict_told :
    let rules : Rules := ⟨.sqlite, usualLimits⟩
    let c := replying "SELECT 1"
    let s := ((start 10).acts rules [(failing (.timeout ""), .handle [⟨"One?", none⟩])]).1
    (∃ o, o.Exact ∧ o.isSuccess = true ∧
      Tells o (s.handle rules c "Two?") (meet (backend rules c) s (toolCall "ask" "text" "Two?"))) ∧
    ∃ value text, meet (backend rules c) s (toolCall "check" "sql" "SELECT 1") = (s, .ok (.result value)) ∧
      Carries value text false ∧ (Guard.Verdict.wire.ofText text).map Guard.Verdict.ofValue = .ok .ok := by
  intro rules c s
  have ask : ToolCall.ofParams (toolCall "ask" "text" "Two?").params = .ok (.ask "Two?") := by decide +kernel
  have check : ToolCall.ofParams (toolCall "check" "sql" "SELECT 1").params = .ok (.check "SELECT 1") := by
    decide +kernel
  have judged : Guard.inspect rules.dialect "SELECT 1" = .ok .ok := by decide +kernel
  have answer : hasAnswer (s.handle rules c "Two?") = true := by decide +kernel
  obtain ⟨o, handled, success, exact⟩ := of_hasAnswer answer
  have tell (tool field text : String) := tool_calls_tell rules 10
    [(failing (.timeout ""), .handle [⟨"One?", none⟩])] c
    (show (toolCall tool field text).method = "tools/call" from rfl)
  obtain ⟨tells, crashes⟩ := (tell "ask" "text" "Two?").1 "Two?" ask
  refine ⟨⟨o, exact, success, ?_⟩, (tell "check" "sql" "SELECT 1").2 "SELECT 1" .ok check judged⟩
  by_cases able : Bearable rules c s (toolCall "ask" "text" "Two?")
  · obtain ⟨told, tells⟩ := tells able
    obtain rfl : told = o := Except.ok.inj (tells.outcome.symm.trans handled)
    exact tells
  · obtain ⟨message, crashed, -⟩ := crashes able
    cases handled.symm.trans crashed

/-- A candidate over which the guard crashes takes the call with it. -/
theorem candidate_crashes_call :
    let b := backend ⟨.mysql, usualLimits⟩ (replying "SELECT a DIV")
    ToolCall.ofParams (toolCall "ask" "text" "Two?").params = .ok (.ask "Two?") ∧
      ∀ value, (meet b (start 10) (toolCall "ask" "text" "Two?")).2 ≠ .ok (.result value) := by
  intro b
  have crashed : (meet b (start 10) (toolCall "ask" "text" "Two?")).2.isOk = false := by decide +kernel
  refine ⟨by decide +kernel, fun value result => ?_⟩
  rw [result] at crashed
  cases crashed

end Service
end Pipeline
end QueryWarden
