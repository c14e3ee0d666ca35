import QueryWarden.Sql.Token
import QueryWarden.Text.Digit

/-! The bodies of literals and quoted words. Each reader gets the characters behind the opening mark
and gives the value and the number of characters that it takes, the closing mark included. Main
statement: a text whose quotes are doubled reads back as itself, up to the first single quote. -/
namespace QueryWarden.Sql.Quotation
open Text

abbrev Body := List Char × Nat

def Body.push (c : Char) (n : Nat) (b : Body) : Body := (c :: b.1, b.2 + n)

def escaped (c : Char) : Char :=
  match c with
  | '0' => '\x00'
  | 'a' => '\x07'
  | 'b' => '\x08'
  | 'f' => '\x0c'
  | 'n' => '\n'
  | 'r' => '\r'
  | 't' => '\t'
  | 'Z' => '\x1a'
  | c => c

/-- A body that ends at the first quote that is not doubled. With `backslash`, a backslash escapes the
character behind it. `none` if there is no such quote. -/
def read? (quote : Char) (backslash : Bool) : List Char → Option Body
  | [] => none
  | [c] => if c == quote then some ([], 1) else none
  | c :: e :: rest =>
    if c == quote then
      if e == quote then (read? quote backslash rest).map (Body.push c 2) else some ([], 1)
    else if backslash && c == '\\' then
      (read? quote backslash rest).map (Body.push (escaped e) 2)
    else (read? quote backslash (e :: rest)).map (Body.push c 1)

def readTriple? (quote : Char) (seen : Nat) : List Char → Option Body
  | [] => none
  | c :: rest =>
    if c == quote then
      if seen == 2 then some ([], 1)
      else (readTriple? quote (seen + 1) rest).map (Body.push c 1)
    else (readTriple? quote 0 rest).map (Body.push c 1)

def dropMarks (value : List Char) : List Char := value.take (value.length - 2)

def signedHex? (digits : List Char) : Option Nat :=
  match digits with
  | '+' :: rest => if rest.isEmpty then none else hexNumber? rest
  | digits => hexNumber? digits

def byteChar? (n : Nat) : Option Char :=
  if n % 256 < 128 then some (Char.ofNat (n % 256)) else none

def escape? : List Char → Option (Char × Nat)
  | [] => none
  | 'b' :: _ => some ('\x08', 1)
  | 'f' :: _ => some ('\x0c', 1)
  | 'n' :: _ => some ('\n', 1)
  | 'r' :: _ => some ('\r', 1)
  | 't' :: _ => some ('\t', 1)
  | 'u' :: rest => codePoint? 4 rest
  | 'U' :: rest => codePoint? 8 rest
  | 'x' :: rest =>
    let digits := (rest.take 2).takeWhile isHexDigit
    if digits.isEmpty then some ('x', 1)
    else do return (← byteChar? (← hexNumber? digits), digits.length + 1)
  | c :: rest =>
    match octalValue? c with
    | none => some (c, 1)
    | some n =>
      let digits := ((rest.take 2).takeWhile fun c => (octalValue? c).isSome).filterMap octalValue?
      (byteChar? (digits.foldl (8 * · + ·) n)).map (·, digits.length + 1)
where
  codePoint? (width : Nat) (rest : List Char) : Option (Char × Nat) :=
    if rest.length < width then none
    else do return (← charOf? (← signedHex? (rest.take width)), width + 1)

def readEscaped? : List Char → Option Body
  | [] => none
  | '\'' :: '\'' :: rest => (readEscaped? rest).map (Body.push '\'' 2)
  | '\'' :: _ => some ([], 1)
  | '\\' :: rest =>
    match escape? rest with
    | none => none
    | some (c, n) =>
      if c == '\x00' then none else (readEscaped? (rest.drop n)).map (Body.push c (n + 1))
  | c :: rest => (readEscaped? rest).map (Body.push c 1)
termination_by cs => cs.length

structure CodePointFault where
  message : String
  width : Nat

def codePoint (count : Nat) (cs : List Char) (seen : Nat := 0) (n : Nat := 0) :
    Except CodePointFault Char :=
  match count, cs with
  | 0, _ =>
    match charOf? n with
    | some c => .ok c
    | none => .error ⟨"Invalid unicode character: " ++ hexText n, seen⟩
  | _ + 1, [] =>
    .error ⟨"Unexpected EOF while parsing hex digit in escaped unicode string.", seen⟩
  | count + 1, c :: rest =>
    match hexValue? c with
    | none => .error ⟨"Invalid hex digit in escaped unicode string: " ++ c.toString, seen + 1⟩
    | some digit => codePoint count rest (seen + 1) (16 * n + digit)

def readUnicode (seen : Nat := 0) : List Char → Except CodePointFault Body
  | [] => .error ⟨"Unterminated unicode encoded string literal", seen⟩
  | '\'' :: '\'' :: rest => return (← readUnicode (seen + 2) rest).push '\'' 2
  | '\'' :: _ => .ok ([], 1)
  | '\\' :: '\\' :: rest => return (← readUnicode (seen + 2) rest).push '\\' 2
  | '\\' :: '+' :: rest =>
    match codePoint 6 rest (seen + 2) with
    | .error e => .error e
    | .ok c => return (← readUnicode (seen + 8) (rest.drop 6)).push c 8
  | '\\' :: rest =>
    match codePoint 4 rest (seen + 1) with
    | .error e => .error e
    | .ok c => return (← readUnicode (seen + 5) (rest.drop 4)).push c 5
  | c :: rest => return (← readUnicode (seen + 1) rest).push c 1
termination_by cs => cs.length

def readUntil? (mark : List Char) : List Char → Option Body
  | [] => none
  | c :: rest =>
    if mark.isPrefixOf (c :: rest) then some ([], mark.length)
    else (readUntil? mark rest).map (Body.push c 1)

def common : List Char → List Char → Nat
  | a :: as, b :: bs => if a == b then common as bs + 1 else 0
  | _, _ => 0

def readTagged? (tag : List Char) : List Char → Option Body
  | [] => none
  | c :: rest =>
    if c != '$' then (readTagged? tag rest).map (Body.push c 1)
    else
      let k := common tag rest
      match rest.drop k with
      | [] => none
      | e :: more =>
        if k == tag.length then
          if e == '$' then some ([], k + 2)
          else (readTagged? tag (rest.drop k)).map fun b => ('$' :: tag ++ b.1, b.2 + k + 1)
        else
          (readTagged? tag (rest.drop (k + 1))).map fun b => ('$' :: tag.take k ++ e :: b.1, b.2 + k + 2)
termination_by cs => cs.length

/-- A comment that has been opened `depth + 1` times, with the last character read; the number of
characters up to its end. A mark may share a character with the one before it. -/
def comment? (depth : Nat) (last : Char) : List Char → Option Nat
  | [] => none
  | c :: rest =>
    if last == '/' && c == '*' then (comment? (depth + 1) c rest).map (· + 1)
    else if last == '*' && c == '/' then
      match depth with
      | 0 => some 1
      | depth + 1 => (comment? depth c rest).map (· + 1)
    else (comment? depth c rest).map (· + 1)

def double (quote : Char) : List Char → List Char
  | [] => []
  | c :: rest => if c == quote then c :: c :: double quote rest else c :: double quote rest

/-- A text whose quotes are doubled reads back up to the first single quote. -/
theorem read?_double (quote : Char) (text rest : List Char) (h : rest.head? ≠ some quote) :
    read? quote false (double quote text ++ quote :: rest) =
      some (text, (double quote text).length + 1) := by
  induction text with
  | nil =>
    cases rest with
    | nil => simp [double, read?]
    | cons c rest =>
      have hc : c ≠ quote := by simpa using h
      simp [double, read?, hc]
  | cons c text ih =>
    by_cases hc : c = quote
    · subst hc
      simp [double, read?, ih, Body.push]
    · cases hd : double quote text with
      | nil =>
        rw [hd] at ih
        simp only [List.nil_append] at ih
        simp [double, hc, hd, read?, ih, Body.push]
      | cons e more =>
        rw [hd] at ih
        simp only [List.cons_append] at ih
        simp [double, hc, hd, read?, ih, Body.push]

end QueryWarden.Sql.Quotation
