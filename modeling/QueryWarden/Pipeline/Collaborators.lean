import QueryWarden.Clock.Moment
import QueryWarden.Failure
import QueryWarden.ResultSet
import QueryWarden.Schema.Basic
import QueryWarden.Text.Blank

/-! Questions, which are texts that are more than white space, and the two collaborators of a pipeline: the generator,
which turns questions into candidates, and the executor, which knows the schema and runs candidates. -/
namespace QueryWarden.Pipeline
open Clock

def emptyQuestionMessage : String := "Please ask a question."

/-- A text that is not blank, kept as it was written. -/
structure Question where
  text : String
  notBlank : text.toList.all Text.isBlank = false

namespace Question

def ofText? (text : String) : Option Question :=
  match h : text.toList.all Text.isBlank with
  | true => none
  | false => some ⟨text, h⟩

def ofText (text : String) : Except Failure Question :=
  match ofText? text with
  | some q => .ok q
  | none => .error (.invalidInput emptyQuestionMessage)

theorem ofText?_text {text : String} {q : Question} (h : ofText? text = some q) : q.text = text := by
  unfold ofText? at h
  split at h
  · cases h
  · cases h; rfl

end Question

/-- What the collaborators answer, and how long they take for it. -/
structure Collaborators where
  /-- The schema, as it is the n-th time that someone asks for it. -/
  introspect : Nat → Paced (Except Failure Schema.Snapshot)
  /-- The candidate for a question about a schema text. -/
  generate : String → String → Paced (Except Failure String)
  /-- What comes of running a candidate. -/
  execute : String → Paced (Except Failure ResultSet)

/-- How long each collaborator may take. -/
structure Limits where
  generation : Duration
  execution : Duration
deriving Repr, DecidableEq

def usualLimits : Limits := ⟨60 * second, 30 * second⟩

end QueryWarden.Pipeline
