import Mathlib.Data.List.Basic
import QueryWarden.Config.Settings
import QueryWarden.Guard.Verdict
import QueryWarden.Proofs.Wire.Sound
import QueryWarden.Response
import QueryWarden.Schema.Basic

/-! Everything that is sent or stored is read again as it was written: verdicts, dialects, requests, answers
that are no data, snapshots and settings. -/
namespace QueryWarden.Wire
open Json

/-- How values of a type are written: what has a shape stands for values. -/
structure Codec (α : Type) where
  shape : Shape
  ofValue : shape.Value → α
  toValue : α → shape.Value
  plain : shape.isPlain = true
  low : shape.height ≤ depthLimit
  ofValue_toValue : ∀ a, ofValue (toValue a) = a
  sound : ∀ v, shape.Sound v → shape.Sound (toValue (ofValue v))

namespace Codec
variable {α : Type}

def read (c : Codec α) (text : String) : Except Fault α := (c.shape.ofText text).map c.ofValue

def print (c : Codec α) (a : α) : String := (c.shape.encode (c.toValue a)).compact

/-- What is written for a value that was read is read as this value. -/
theorem read_print (c : Codec α) {text : String} {a : α} (h : c.read text = .ok a) :
    c.read (c.print a) = .ok a := by
  obtain ⟨v, decoded, rfl⟩ := map_eq_ok.mp h
  have sound := c.sound v (Shape.sound_of_ofText decoded)
  rw [read, print, Shape.ofText_compact c.plain c.low sound]
  exact congrArg Except.ok (c.ofValue_toValue _)

def ofShape (shape : Shape) (plain : shape.isPlain = true) (low : shape.height ≤ depthLimit) :
    Codec shape.Value :=
  ⟨shape, id, id, plain, low, fun _ => rfl, fun _ sound => sound⟩

end Codec

mutual
def Shape.isTimeless : Shape → Bool
  | .instant => false
  | .option of | .list of => of.isTimeless
  | .record _ _ fields => fields.isTimeless
  | _ => true
def Fields.isTimeless : Fields → Bool
  | .nil => true
  | .required _ shape rest | .optional _ shape rest | .lenient _ shape rest =>
    shape.isTimeless && rest.isTimeless
end

mutual
theorem Shape.sound_of_timeless : ∀ (shape : Shape), shape.isTimeless = true → ∀ v : shape.Value, shape.Sound v
  | .text _, _, _ | .flag, _, _ | .natural _, _, _ | .variant _, _, _ | .any, _, _ => trivial
  | .instant, timeless, _ => by cases timeless
  | .option of, timeless, _ => fun w _ => Shape.sound_of_timeless of timeless w
  | .list of, timeless, _ => fun w _ => Shape.sound_of_timeless of timeless w
  | .record _ _ fields, timeless, vs => Fields.sound_of_timeless fields timeless vs
theorem Fields.sound_of_timeless : ∀ (fields : Fields), fields.isTimeless = true → ∀ vs : fields.Values,
    fields.Sound vs
  | .nil, _, _ => trivial
  | .required _ shape rest, timeless, (v, vs) => by
    obtain ⟨first, later⟩ := Bool.and_eq_true_iff.mp timeless
    exact ⟨Shape.sound_of_timeless shape first v, Fields.sound_of_timeless rest later vs⟩
  | .optional _ shape rest, timeless, (v, vs) | .lenient _ shape rest, timeless, (v, vs) => by
    obtain ⟨first, later⟩ := Bool.and_eq_true_iff.mp timeless
    exact ⟨fun w _ => Shape.sound_of_timeless shape first w, Fields.sound_of_timeless rest later vs⟩
end

/-! Tables and snapshots. -/

section
open Schema

theorem Column.ofValue_toValue : Function.LeftInverse Column.ofValue Column.toValue := fun _ => rfl

theorem Table.ofValue_toValue : Function.LeftInverse Table.ofValue Table.toValue :=
  fun t => congrArg (Table.mk t.name) (Column.ofValue_toValue.list_map t.columns)

theorem Snapshot.ofValue_toValue : Function.LeftInverse Snapshot.ofValue Snapshot.toValue :=
  fun s => congrArg (Snapshot.mk · s.capturedAt) (Table.ofValue_toValue.list_map s.tables)

/-- The only instant of a snapshot is that of its look-up. -/
theorem snapshot_sound {v : Snapshot.wire.Value} (sound : Snapshot.wire.Sound v) :
    Snapshot.wire.Sound (Snapshot.ofValue v).toValue :=
  ⟨fun t _ => Table.wire.sound_of_timeless rfl t, sound.2⟩

end

inductive WireType where
  | verdict
  | dialect
  | askRequest
  | checkRequest
  | rejectionBody
  | errorInfo
  | errorEnvelope
  | column
  | table
  | snapshot
  | settings

namespace WireType

def Carrier : WireType → Type
  | verdict => Guard.Verdict
  | dialect => Sql.Dialect
  | askRequest => QueryWarden.askRequest.Value
  | checkRequest => QueryWarden.checkRequest.Value
  | rejectionBody => QueryWarden.rejectionBody.Value
  | errorInfo => QueryWarden.errorInfo.Value
  | errorEnvelope => QueryWarden.errorEnvelope.Value
  | column => Schema.Column
  | table => Schema.Table
  | snapshot => Schema.Snapshot
  | settings => Config.Settings

def codec : (w : WireType) → Codec w.Carrier
  | verdict => ⟨Guard.Verdict.wire, Guard.Verdict.ofValue, Guard.Verdict.toValue, rfl, by decide,
      fun _ => rfl, fun _ sound => sound⟩
  | dialect => ⟨Config.dialectShape, Config.dialectAt, Config.dialectIndex, rfl, by decide,
      Config.dialectAt_dialectIndex, fun _ _ => trivial⟩
  | askRequest => .ofShape QueryWarden.askRequest rfl (by decide)
  | checkRequest => .ofShape QueryWarden.checkRequest rfl (by decide)
  | rejectionBody => .ofShape QueryWarden.rejectionBody rfl (by decide)
  | errorInfo => .ofShape QueryWarden.errorInfo rfl (by decide)
  | errorEnvelope => .ofShape QueryWarden.errorEnvelope rfl (by decide)
  | column => ⟨Schema.Column.wire, Schema.Column.ofValue, Schema.Column.toValue, rfl, by decide,
      Column.ofValue_toValue, fun _ sound => sound⟩
  | table => ⟨Schema.Table.wire, Schema.Table.ofValue, Schema.Table.toValue, rfl, by decide,
      Table.ofValue_toValue, fun _ _ => Shape.sound_of_timeless _ rfl _⟩
  | snapshot => ⟨Schema.Snapshot.wire, Schema.Snapshot.ofValue, Schema.Snapshot.toValue, rfl, by decide,
      Snapshot.ofValue_toValue, fun _ => snapshot_sound⟩
  | settings => ⟨Config.Settings.wire, Config.Settings.ofValue, Config.Settings.toValue, rfl, by decide,
      Config.Settings.ofValue_toValue, fun _ _ => Shape.sound_of_timeless _ rfl _⟩

end WireType

/-- Whatever value of whatever type a text is read as, what is written for the value is read as the same
value, so that it is written the same way again. -/
theorem written_is_read_again (w : WireType) {text : String} {a : w.Carrier} (h : w.codec.read text = .ok a) :
    w.codec.read (w.codec.print a) = .ok a ∧
    (w.codec.read (w.codec.print a)).map w.codec.print = .ok (w.codec.print a) := by
  have back := w.codec.read_print h
  rw [back]
  exact ⟨rfl, rfl⟩

/-- A snapshot as lists, with a member that nobody asks for and a leap second west of Greenwich. -/
def listedSnapshot : String :=
  "[[\x7b\"x\":[null],\"columns\":[[\"\\u0069d\",\"\"]],\"name\":\"t\"\x7d],\"2016-12-31t23:59:60.5 -0130\"]"

theorem listed_snapshot_is_read_again : ∃ a : Schema.Snapshot,
    WireType.snapshot.codec.read listedSnapshot = .ok a ∧
    a.capturedAt.text = "2017-01-01T01:29:60.500Z" ∧
    WireType.snapshot.codec.read (WireType.snapshot.codec.print a) = .ok a ∧
    (WireType.snapshot.codec.read (WireType.snapshot.codec.print a)).map WireType.snapshot.codec.print =
      .ok (WireType.snapshot.codec.print a) := by
  have captured : (WireType.snapshot.codec.read listedSnapshot).toOption.map
      (fun a : Schema.Snapshot => a.capturedAt.text) = some "2017-01-01T01:29:60.500Z" := by
    decide +kernel
  obtain ⟨a, read, captured⟩ := Option.map_eq_some_iff.mp captured
  have read := toOption_eq_some.mp read
  exact ⟨a, read, captured, written_is_read_again .snapshot read⟩

end QueryWarden.Wire
