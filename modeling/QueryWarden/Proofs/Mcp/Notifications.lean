import QueryWarden.Pipeline.Service
import QueryWarden.Proofs.Mcp.Continuation
import QueryWarden.Proofs.Pipeline.Completion

/-! Notifications, which are requests without an identity: nothing is written for one that is understood,
but an error is for one that is not. -/
namespace QueryWarden.Mcp

/-- A request that is met with a result: its method is known, and a call of a tool is complete. -/
def Request.Understood (r : Request) : Prop :=
  r.method = "initialize" ∨ r.method = "notifications/initialized" ∨ r.method = "tools/list" ∨
    r.method = "tools/call" ∧ ∃ call, ToolCall.ofParams r.params = .ok call

section
variable {σ : Type} (b : Backend σ) (s : σ) {r : Request}

theorem callTool_of_call {call : ToolCall} (h : ToolCall.ofParams r.params = .ok call) {s' : σ}
    {reply : Reply} (replied : callTool b s r.params = (s', .ok reply)) : ∃ v, reply = .result v := by
  rw [callTool, h] at replied
  cases call with
  | ask text =>
    obtain ⟨⟨next, result⟩, asked⟩ : ∃ a, b.ask s text = a := ⟨_, rfl⟩
    simp only [asked] at replied
    cases result with
    | error message => cases replied
    | ok response =>
      cases replied
      exact ⟨_, rfl⟩
  | check sql =>
    dsimp only at replied
    cases judged : b.check s sql with
    | error message =>
      rw [judged] at replied
      cases replied
    | ok verdict =>
      rw [judged] at replied
      cases replied
      exact ⟨_, rfl⟩

/-- A request that is understood is met with a result, if it does not crash. -/
theorem meet_understood (h : r.Understood) {s' : σ} {reply : Reply}
    (replied : meet b s r = (s', .ok reply)) : ∃ v, reply = .result v := by
  obtain method | method | method | ⟨method, call, complete⟩ := h
  · simp only [meet, method, String.reduceEq, if_true, if_false] at replied
    cases replied
    exact ⟨_, rfl⟩
  · simp only [meet, method, String.reduceEq, if_true, if_false] at replied
    cases replied
    exact ⟨_, rfl⟩
  · simp only [meet, method, String.reduceEq, if_true, if_false] at replied
    cases replied
    exact ⟨_, rfl⟩
  · simp only [meet, method, String.reduceEq, if_true, if_false] at replied
    exact callTool_of_call b s complete replied

/-- A request that is not understood is met with an error, and nothing else happens. -/
theorem meet_other (h : ¬ r.Understood) :
    ∃ message, meet b s r = (s, .ok (.error internalErrorCode message)) := by
  simp only [Request.Understood, not_or, not_and, not_exists] at h
  obtain ⟨greets, starts, lists, calls⟩ := h
  rw [meet, if_neg greets, if_neg starts, if_neg lists]
  split
  · rename_i method
    cases call : ToolCall.ofParams r.params with
    | error message => exact ⟨message, by rw [callTool, call]⟩
    | ok complete => exact absurd call (calls method complete)
  · exact ⟨_, rfl⟩

/-- A session over a notification writes nothing, or an error without an identity. -/
theorem serveLines_notification {line : List UInt8} {text : String} (read : lineText? line = some text)
    (decoded : Request.ofLine text = .ok r) (anonymous : r.identity = none) :
    (r.Understood → (serveLines b s [line]).lines = []) ∧
    (¬ r.Understood → ∃ message, (serveLines b s [line]).lines =
      [((Reply.error internalErrorCode message).toJson none).compact]) := by
  rw [serveLines_single read, answerLine_request decoded, anonymous]
  constructor
  · intro understood
    obtain ⟨⟨s', result⟩, meets⟩ : ∃ m, meet b s r = m := ⟨_, rfl⟩
    rw [meets]
    cases result with
    | error message => rfl
    | ok reply =>
      obtain ⟨v, rfl⟩ := meet_understood b s understood meets
      rfl
  · intro strange
    obtain ⟨message, meets⟩ := meet_other b s strange
    rw [meets]
    exact ⟨message, rfl⟩

end

/-- What a session has written when it is through with some lines only grows. Nothing is added to it by a
notification that is understood, nor by any line once the session has ended; a notification that is not
understood adds one line, an error without an identity. -/
theorem notification_silent_iff {σ : Type} (b : Backend σ) (s : σ) (input : List UInt8)
    {before after : List (List UInt8)} {line : List UInt8} {text : String} {r : Request}
    (split : rawLines input = before ++ line :: after) (read : lineText? line = some text)
    (decoded : Request.ofLine text = .ok r) (anonymous : r.identity = none) :
    let written := fun lines => (serveLines b s lines).lines
    (written before <+: written (before ++ [line]) ∧
      written (before ++ [line]) <+: (serve b s input).lines) ∧
    (written (before ++ [line]) = written before ↔
      (serveLines b s before).ending ≠ .finished ∨ r.Understood) ∧
    ((serveLines b s before).ending = .finished → ¬ r.Understood → ∃ message,
      written (before ++ [line]) =
        written before ++ [((Reply.error internalErrorCode message).toJson none).compact]) := by
  intro written
  refine ⟨lines_grow b s input split, ?_⟩
  by_cases there : (serveLines b s before).ending = .finished
  · have adds : written (before ++ [line]) =
        written before ++ (serveLines b (serveLines b s before).state [line]).lines := lines_next there
    obtain ⟨silent, loud⟩ := serveLines_notification b (serveLines b s before).state read decoded anonymous
    constructor
    · constructor
      · intro same
        refine .inr (by_contra fun strange => ?_)
        obtain ⟨message, error⟩ := loud strange
        rw [adds, error] at same
        simp at same
      · rintro (early | understood)
        · exact absurd there early
        · rw [adds, silent understood, List.append_nil]
    · intro _ strange
      obtain ⟨message, error⟩ := loud strange
      exact ⟨message, by rw [adds, error]⟩
  · have same : written (before ++ [line]) = written before := lines_early there
    exact ⟨iff_of_true same (.inl there), fun finished => absurd finished there⟩

open Pipeline

def initialized : String := "\x7b\"jsonrpc\":\"2.0\",\"method\":\"notifications/initialized\"\x7d"

def resourcesListed : String := "\x7b\"jsonrpc\":\"2.0\",\"method\":\"resources/list\"\x7d"

theorem initialized_unanswered :
    let input := Text.Utf8.bytes initialized
    (∃ r, Request.ofLine initialized = .ok r ∧ r.identity = none) ∧
    (serve (Service.backend ⟨.sqlite, usualLimits⟩ Scenario.silent) (.start 10) input).lines = [] := by
  intro input
  have one : rawLines input = [input] := by decide +kernel
  have read : lineText? input = some initialized := by decide +kernel
  obtain ⟨r, decoded, kind⟩ := of_decodesAs (show decodesAs initialized
    (fun r => r.identity.isNone && r.method == "notifications/initialized") = true by decide +kernel)
  simp only [Bool.and_eq_true, Option.isNone_iff_eq_none, beq_iff_eq] at kind
  obtain ⟨anonymous, method⟩ := kind
  obtain ⟨-, silent, -⟩ := notification_silent_iff
    (Service.backend ⟨.sqlite, usualLimits⟩ Scenario.silent) (.start 10) input
    (show rawLines input = [] ++ input :: [] from one) read decoded anonymous
  refine ⟨⟨r, decoded, anonymous⟩, ?_⟩
  rw [serve, one]
  exact silent.mpr (.inr (.inr (.inl method)))

/-- Something is written for a notification. -/
theorem unknown_notification_answered :
    let input := Text.Utf8.bytes resourcesListed
    rawLines input = [input] ∧ lineText? input = some resourcesListed ∧
    (∃ r, Request.ofLine resourcesListed = .ok r ∧ r.identity = none) ∧
    (serve (Service.backend ⟨.sqlite, usualLimits⟩ Scenario.silent) (.start 10) input).lines =
      ["\x7b\"jsonrpc\":\"2.0\",\"id\":null,\"error\":\x7b\"code\":-32603,\"message\":\"Unknown method: resources/list\"\x7d\x7d"] := by
  intro input
  obtain ⟨r, decoded, anonymous⟩ := of_decodesAs
    (show decodesAs resourcesListed (·.identity.isNone) = true by decide +kernel)
  exact ⟨by decide +kernel, by decide +kernel,
    ⟨r, decoded, Option.isNone_iff_eq_none.mp anonymous⟩, by decide +kernel⟩

end QueryWarden.Mcp
