import QueryWarden.Text.Blank

/-! From a generator's reply to candidate SQL: code fences are removed wherever they stand, then the
text is trimmed. The word by which a generator reports destructive intent is looked for anywhere. -/
namespace QueryWarden.Generator

/-- The word by which a generator refuses a request that wants to change data. -/
def sentinel : String := "VIOLATION_REQUEST"

def occursIn (part : List Char) : List Char → Bool
  | [] => part.isEmpty
  | c :: cs => part.isPrefixOf (c :: cs) || occursIn part cs

theorem occursIn_iff {part text : List Char} : occursIn part text = true ↔ part <:+: text := by
  induction text with
  | nil => simp [occursIn, List.isEmpty_iff]
  | cons c cs ih =>
    rw [occursIn, Bool.or_eq_true, List.isPrefixOf_iff_prefix, ih, List.infix_cons_iff]

/-- Whether a reply reports destructive intent. -/
def isViolation (reply : String) : Bool := occursIn sentinel.toList reply.toList

theorem isViolation_iff {reply : String} :
    isViolation reply = true ↔ sentinel.toList <:+: reply.toList := occursIn_iff

def dropSqlFences : List Char → List Char
  | '\x60' :: '\x60' :: '\x60' :: 's' :: 'q' :: 'l' :: rest => dropSqlFences rest
  | c :: rest => c :: dropSqlFences rest
  | [] => []

def dropFences : List Char → List Char
  | '\x60' :: '\x60' :: '\x60' :: rest => dropFences rest
  | c :: rest => c :: dropFences rest
  | [] => []

/-- A reply without code fences and without the blanks at its ends. -/
def clean (reply : String) : String :=
  String.ofList (Text.trimRight (Text.trimLeft (dropFences (dropSqlFences reply.toList))))

end QueryWarden.Generator
