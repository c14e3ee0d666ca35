import QueryWarden.Json.Printer
import QueryWarden.Text.Utf8

/-! Why a text is no JSON document, or a document no value of a wanted type, and where that shows. -/
namespace QueryWarden.Json
open Text.Utf8 (Glyph)

structure Place where
  line : Nat
  column : Nat
deriving Repr, DecidableEq

def Place.start : Place := ⟨1, 0⟩

def Place.pass (p : Place) : Glyph → Place
  | .char '\n' => ⟨p.line + 1, 0⟩
  | g => ⟨p.line, p.column + g.width⟩

def Place.peek (p : Place) : List Glyph → Place
  | [] => p
  | .char '\n' :: _ => ⟨p.line + 1, 0⟩
  | _ => ⟨p.line, p.column + 1⟩

inductive Found where
  | null
  | bool (value : Bool)
  | number (value : Number)
  | text (value : String)
  | list
  | object

inductive Cause where
  | endInList
  | endInObject
  | endInString
  | endInValue
  | expectedColon
  | expectedListComma
  | expectedObjectComma
  | expectedIdent
  | expectedValue
  | invalidEscape
  | invalidNumber
  | numberOutOfRange
  | invalidCharacter
  | controlCharacter
  | keyNotText
  | loneSurrogate
  | trailingComma
  | trailingCharacters
  | endOfHexEscape
  | tooDeep
  | missingField (name : String)
  | duplicateField (name : String)
  | wrongType (found : Found) (wanted : String)
  | wrongValue (found : String) (wanted : String)
  | wrongLength (length : Nat) (wanted : String)
  | unknownVariant (found : String) (names : List String)
  | custom (message : String)

structure Fault where
  cause : Cause
  place : Option Place

def Fault.at (cause : Cause) (place : Place) : Fault := ⟨cause, some place⟩

def Found.message : Found → String
  | .null => "null"
  | .bool b => "boolean `" ++ (if b then "true" else "false") ++ "`"
  | .number (.int n) => "integer `" ++ String.ofList (intText n) ++ "`"
  | .number (.real x) => "floating point `" ++ String.ofList ((realText? x).getD []) ++ "`"
  | .text s => "string " ++ String.ofList (quote s)
  | .list => "sequence"
  | .object => "map"

def listNames (names : List String) : String :=
  ", ".intercalate (names.map fun n => "`" ++ n ++ "`")

def oneOf : List String → String
  | [] => "there are no variants"
  | [a] => "expected `" ++ a ++ "`"
  | [a, b] => "expected `" ++ a ++ "` or `" ++ b ++ "`"
  | names => "expected one of " ++ listNames names

def Cause.message : Cause → String
  | .endInList => "EOF while parsing a list"
  | .endInObject => "EOF while parsing an object"
  | .endInString => "EOF while parsing a string"
  | .endInValue => "EOF while parsing a value"
  | .expectedColon => "expected `:`"
  | .expectedListComma => "expected `,` or `]`"
  | .expectedObjectComma => "expected `,` or `\x7d`"
  | .expectedIdent => "expected ident"
  | .expectedValue => "expected value"
  | .invalidEscape => "invalid escape"
  | .invalidNumber => "invalid number"
  | .numberOutOfRange => "number out of range"
  | .invalidCharacter => "invalid unicode code point"
  | .controlCharacter => "control character (\\u0000-\\u001F) found while parsing a string"
  | .keyNotText => "key must be a string"
  | .loneSurrogate => "lone leading surrogate in hex escape"
  | .trailingComma => "trailing comma"
  | .trailingCharacters => "trailing characters"
  | .endOfHexEscape => "unexpected end of hex escape"
  | .tooDeep => "recursion limit exceeded"
  | .missingField name => "missing field `" ++ name ++ "`"
  | .duplicateField name => "duplicate field `" ++ name ++ "`"
  | .wrongType found wanted => "invalid type: " ++ found.message ++ ", expected " ++ wanted
  | .wrongValue found wanted => "invalid value: " ++ found ++ ", expected " ++ wanted
  | .wrongLength n wanted => "invalid length " ++ toString n ++ ", expected " ++ wanted
  | .unknownVariant found names => "unknown variant `" ++ found ++ "`, " ++ oneOf names
  | .custom message => message

def Fault.message (f : Fault) : String :=
  match f.place with
  | none => f.cause.message
  | some p =>
    f.cause.message ++ " at line " ++ toString p.line ++ " column " ++ toString p.column

end QueryWarden.Json
