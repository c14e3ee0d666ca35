import QueryWarden.Generator.Chat
import QueryWarden.Proofs.Generator.Cleaning
import QueryWarden.Proofs.Pipeline.Outcomes

/-! The sentinel is never lost on its way: wherever it stands in what a chat server says, it reaches the
pipeline, which raises the alarm and runs nothing. -/
namespace QueryWarden

namespace Generator

/-- What an answer of a chat server holds; one without a body holds nothing. -/
def Holds (status : Nat) (body : List UInt8) (v : Chat.answer.Value) : Prop :=
  Chat.answer.ofDocument (.ofGlyphs (Text.Utf8.glyphs (if isBodiless status then [] else body))) = .ok v

/-- The status codes from 400 to 599 refuse a request, and no others. -/
theorem refusal?_eq_none {status : Nat} : refusal? status = none ↔ status < 400 ∨ 600 ≤ status := by
  simp only [refusal?, Bool.and_eq_true, decide_eq_true_eq]
  split_ifs <;> simp <;> omega

theorem reply_of_holds {request : Request} {status : Nat} {body : List UInt8} {v : Chat.answer.Value}
    (accepted : refusal? status = none) (holds : Holds status body v) :
    Chat.reply request (.answered status body) = .ok (clean (Text.trim (Chat.firstChoice v))) := by
  rw [Holds] at holds
  simp only [Chat.reply, accepted, holds]

end Generator

namespace Pipeline
open Clock

namespace Run

/-- The sentinel survives cleaning, wherever it stands in a text. If it stands in the first choice of an
answer whose status is below 400 or from 600 on, the generator's reply reports destructive intent; and a request that this reply
reaches in time ends in a security alert, in every run, and has nothing executed. -/
theorem sentinel_raises_alert :
    (∀ text : String, Generator.sentinel.toList <:+: text.toList →
      Generator.sentinel.toList <:+: (Generator.clean text).toList) ∧
    ∀ (request : Generator.Request) (status : Nat) (body : List UInt8)
      (v : Generator.Chat.answer.Value), status < 400 ∨ 600 ≤ status →
      Generator.Holds status body v → Generator.sentinel.toList <:+: (Generator.Chat.firstChoice v).toList →
      let reply := Generator.Chat.reply request (.answered status body)
      (∃ candidate, reply = .ok candidate ∧ Generator.isViolation candidate = true) ∧
      ∀ (rules : Rules) (life : Duration) (now : Moment) (es : List Event) (t : TaskId) (text : String),
        Asked es t text → Replied rules (start life now) es t text reply →
        ((start life now).after rules es).1.requests t =
          some (.ended (.securityAlert securityAlertMessage)) ∧
        ∀ sql, .executing t sql ∉ told rules (start life now) es := by
  refine ⟨fun text => Generator.sentinel_clean, ?_⟩
  intro request status body v accepted holds within reply
  have reply_eq : reply = .ok (Generator.clean (Text.trim (Generator.Chat.firstChoice v))) :=
    Generator.reply_of_holds (Generator.refusal?_eq_none.mpr accepted) holds
  have violation : Generator.isViolation
      (Generator.clean (Text.trim (Generator.Chat.firstChoice v))) = true :=
    Generator.isViolation_iff.mpr (Generator.sentinel_clean (Generator.sentinel_trim within))
  refine ⟨⟨_, reply_eq, violation⟩, ?_⟩
  intro rules life now es t text asked replied
  rw [reply_eq] at replied
  obtain ⟨schema, ended, calls⟩ := alert_ends asked replied violation
  refine ⟨ended, fun sql executed => ?_⟩
  have among : Note.executing t sql ∈ callsOf t (told rules (start life now) es) :=
    List.mem_filter.mpr ⟨executed, by simp [Note.isCall]⟩
  rw [calls] at among
  simp at among

def fencedRefusal : List UInt8 := Text.Utf8.bytes
  "\x7b\"choices\":[\x7b\"message\":\x7b\"content\":\"\x60\x60\x60sql\\nSELECT 1; VIOLATION_REQUEST\\n\x60\x60\x60\"\x7d\x7d]\x7d"

def bareRequest : Generator.Request :=
  ⟨⟨"http", "", "", none, none, "/chat/completions", none, none⟩, none, .null⟩

def askedRun : List Event := [.ask 1 "Drop it", .introspected 1 (.ok ⟨[], ⟨0, 0, 0⟩⟩), .store 1]

def isAsking (text : String) : Option Phase → Bool
  | some (.generating question _ _) => question == text
  | _ => false

theorem of_isAsking {text : String} {p : Option Phase} (h : isAsking text p = true) :
    ∃ schema since, p = some (.generating text schema since) := by
  unfold isAsking at h
  split at h
  · rename_i question schema since
    obtain rfl : question = text := by simpa using h
    exact ⟨schema, since, rfl⟩
  · cases h

/-- Whether an answer has the sentinel in its first choice. -/
def refuses (status : Nat) (body : List UInt8) : Bool :=
  match Generator.Chat.answer.ofDocument
      (.ofGlyphs (Text.Utf8.glyphs (if Generator.isBodiless status then [] else body))) with
  | .ok v => Generator.occursIn Generator.sentinel.toList (Generator.Chat.firstChoice v).toList
  | .error _ => false

theorem of_refuses {status : Nat} {body : List UInt8} (h : refuses status body = true) :
    ∃ v, Generator.Holds status body v ∧
      Generator.sentinel.toList <:+: (Generator.Chat.firstChoice v).toList := by
  unfold refuses at h
  split at h
  · rename_i v decoded
    exact ⟨v, decoded, Generator.occursIn_iff.mp h⟩
  · cases h

theorem fenced_refusal_raises_alert :
    (∃ v, Generator.Holds 200 fencedRefusal v ∧
      Generator.sentinel.toList <:+: (Generator.Chat.firstChoice v).toList) ∧
    let reply := Generator.Chat.reply bareRequest (.answered 200 fencedRefusal)
    ((start 10 0).after ⟨.sqlite, usualLimits⟩ (askedRun ++ [.generated 1 reply])).1.requests 1 =
      some (.ended (.securityAlert securityAlertMessage)) := by
  obtain ⟨v, holds, within⟩ := of_refuses (show refuses 200 fencedRefusal = true by decide +kernel)
  have asking : isAsking "Drop it"
      (((start 10 0).after ⟨.sqlite, usualLimits⟩ askedRun).1.requests 1) = true := by decide +kernel
  obtain ⟨schema, since, stands⟩ := of_isAsking asking
  refine ⟨⟨v, holds, within⟩, ?_⟩
  intro reply
  have asked : Asked (askedRun ++ [.generated 1 reply]) 1 "Drop it" := ⟨[], _, rfl, nofun⟩
  have replied : Replied ⟨.sqlite, usualLimits⟩ (start 10 0) (askedRun ++ [.generated 1 reply]) 1
      "Drop it" reply := ⟨schema, since, askedRun, [], rfl, stands⟩
  obtain ⟨-, alarm⟩ := sentinel_raises_alert.2 bareRequest 200 fencedRefusal v (by decide) holds within
  exact (alarm _ 10 0 _ 1 "Drop it" asked replied).1

end Run
end Pipeline
end QueryWarden
