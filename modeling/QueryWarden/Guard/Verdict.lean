import QueryWarden.Wire.Shape

/-! What the guard says about a candidate. -/
namespace QueryWarden.Guard
open Wire

/-- The guard's answer: whether the candidate may run, and if not, why, with the kind of the
offending statement where that is the reason. -/
structure Verdict where
  safe : Bool
  reason : Option String
  kind : Option String
deriving Repr, DecidableEq

namespace Verdict

def ok : Verdict := ⟨true, none, none⟩

def rejected (reason : String) : Verdict := ⟨false, some reason, none⟩

def onlySelectReason : String := "Only SELECT statements are allowed."

def multipleReason : String := "Multiple statements or empty batches are not allowed."

def violation (kind : String) : Verdict := ⟨false, some onlySelectReason, some kind⟩

def wire : Shape :=
  .record "Verdict" false <|
    .required "is_safe" .flag <|
    .optional "reason" .plainText <|
    .optional "detected_statement_kind" .plainText .nil

def ofValue : wire.Value → Verdict
  | (safe, reason, kind, ()) => ⟨safe, reason, kind⟩

def toValue (v : Verdict) : wire.Value := (v.safe, v.reason, v.kind, ())

def toJson (v : Verdict) : Json := wire.encode v.toValue

end Verdict
end QueryWarden.Guard
