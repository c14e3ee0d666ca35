import QueryWarden.Json.Scalar

/-! A JSON document as a tree that remembers where its parts stand and where it breaks. Reading a
document never fails; a fault stands in the tree at the part that has it, so that a decoder which
walks the tree in the order of the text meets the first fault that concerns it. A part that nobody
asks for is only passed over, which `Node.skipFault?` decides. -/
namespace QueryWarden.Json
open Text.Utf8 (Glyph)

structure Span where
  start : Place
  stop : Place

def Span.peek (s : Span) : Place := ⟨s.start.line, s.start.column + 1⟩

inductive Opening where
  | nothing
  | quoted
  | other
deriving DecidableEq

/-- The places around a member of an object: behind its name, where reading would go on if the
object ended behind the name, and behind its value. -/
structure MemberPlaces where
  nameStop : Place
  afterName : Place
  afterValue : Place

mutual
inductive Node where
  | null (span : Span)
  | bool (value : Bool) (span : Span)
  | number (value : Except Fault Number) (span : Span)
  | text (value : Except Fault String) (span : Span)
  | list (start : Place) (items : List Item) (close : Close)
  | object (start : Place) (members : List Member) (close : Close)
  | broken (opening : Opening) (peek : Place) (read skip : Fault)
inductive Item where
  | mk (peek : Place) (value : Node)
inductive Member where
  | mk (name : Except Fault String) (places : MemberPlaces) (value : Node)
inductive Close where
  /-- The closing bracket, and the place behind it. -/
  | shut (stop : Place)
  /-- A closing bracket directly behind a comma. -/
  | trailing (peek : Place)
  /-- The text ends where a comma or the closing bracket should stand. -/
  | cut (place : Place)
  /-- The text ends behind a comma. -/
  | cutAfterComma (place : Place)
  /-- Something else stands where a comma or the closing bracket should. -/
  | junk (peek : Place)
  /-- Something that is no text stands where a name should. -/
  | nameless (peek : Place) (found : Node)
  /-- A name that breaks, for a decoder and for a reader that passes over it. -/
  | brokenName (read skip : Fault)
  /-- The last part breaks. -/
  | lost
end

def Span.none : Span := ⟨.start, .start⟩

instance : Inhabited Node := ⟨.null .none⟩

def Close.listFault? : Close → Option Fault
  | .shut _ | .lost => none
  | .trailing p => some (.at .trailingComma p)
  | .cut p => some (.at .endInList p)
  | .cutAfterComma p => some (.at .endInValue p)
  | .junk p | .nameless p _ => some (.at .expectedListComma p)
  | .brokenName f _ => some f

def Close.objectFault? : Close → Option Fault
  | .shut _ | .lost => none
  | .trailing p => some (.at .trailingComma p)
  | .cut p => some (.at .endInObject p)
  | .cutAfterComma p => some (.at .endInValue p)
  | .junk p => some (.at .expectedObjectComma p)
  | .nameless p _ => some (.at .keyNotText p)
  | .brokenName f _ => some f

def Close.listSkipFault? : Close → Option Fault
  | .trailing p => some (.at .expectedValue p)
  | .brokenName _ f => some f
  | other => other.listFault?

def Close.objectSkipFault? : Close → Option Fault
  | .trailing p => some (.at .keyNotText p)
  | .cutAfterComma p => some (.at .endInObject p)
  | .brokenName _ f => some f
  | other => other.objectFault?

mutual
def Node.skipFault? : Node → Option Fault
  | .broken _ _ _ skip => some skip
  | .list _ items close => (skipItems? items).or close.listSkipFault?
  | .object _ members close => (skipMembers? members).or close.objectSkipFault?
  | _ => none
def skipItems? : List Item → Option Fault
  | [] => none
  | .mk _ value :: rest => value.skipFault?.or (skipItems? rest)
def skipMembers? : List Member → Option Fault
  | [] => none
  | .mk _ _ value :: rest => value.skipFault?.or (skipMembers? rest)
end

def Close.stop : Close → Place
  | .shut p | .trailing p | .cut p | .cutAfterComma p | .junk p | .nameless p _ => p
  | .brokenName f _ => f.place.getD .start
  | .lost => .start

abbrev Read := Node × Option Cursor

def Scalar.node {α : Type} (opening : Opening) (make : Except Fault α → Span → Node) (c : Cursor)
    (s : Scalar α) : Read :=
  match s.after with
  | .ok after => (make s.value ⟨c.place, after.place⟩, some after)
  | .error skip =>
    let read := match s.value with
      | .error f => f
      | .ok _ => skip
    (.broken opening c.peek read skip, none)

def brokenNode (opening : Opening) (peek : Place) (f : Fault) : Read :=
  (.broken opening peek f f, none)

def wordNode (letters : List Char) (make : Span → Node) (c : Cursor) : Read :=
  match Cursor.word letters c.next with
  | .ok after => (make ⟨c.place, after.place⟩, some after)
  | .error f => brokenNode .other c.peek f

def afterName (c : Cursor) : Place :=
  let c := c.skipSpace
  match c.rest with
  | .char '}' :: _ => c.next.place
  | _ => c.place

mutual
def readValue : Nat → Cursor → Read
  | 0, c => brokenNode .nothing c.peek (.at .endInValue c.peek)
  | budget + 1, c =>
    let c := c.skipSpace
    match c.rest with
    | [] => brokenNode .nothing c.peek (.at .endInValue c.peek)
    | .char 'n' :: _ => wordNode ['u', 'l', 'l'] .null c
    | .char 't' :: _ => wordNode ['r', 'u', 'e'] (.bool true) c
    | .char 'f' :: _ => wordNode ['a', 'l', 's', 'e'] (.bool false) c
    | .char '-' :: _ => (readNumber true c.next).node .other .number c
    | .char '"' :: _ => c.next.text.node .quoted .text c
    | .char '[' :: _ =>
      let (items, close, after) := readItems budget true c.next
      (.list c.place items close, after)
    | .char '{' :: _ =>
      let (members, close, after) := readMembers budget true c.next
      (.object c.place members close, after)
    | .char x :: _ =>
      if x.isDigit then (readNumber false c).node .other .number c
      else brokenNode .other c.peek (.at .expectedValue c.peek)
    | _ => brokenNode .other c.peek (.at .expectedValue c.peek)
def readItems : Nat → Bool → Cursor → List Item × Close × Option Cursor
  | 0, _, c => ([], .cut c.peek, none)
  | budget + 1, first, c =>
    let c := c.skipSpace
    match c.rest with
    | [] => ([], .cut c.peek, none)
    | .char ']' :: _ => ([], .shut c.next.place, some c.next)
    | g :: _ =>
      if !first && g ≠ .char ',' then ([], .junk c.peek, none) else
      let c := if first then c else c.next.skipSpace
      match first, c.rest with
      | false, [] => ([], .cutAfterComma c.peek, none)
      | false, .char ']' :: _ => ([], .trailing c.peek, none)
      | _, _ =>
        match readValue budget c with
        | (value, none) => ([.mk c.peek value], .lost, none)
        | (value, some after) =>
          let (items, close, after) := readItems budget false after
          (.mk c.peek value :: items, close, after)
def readMembers : Nat → Bool → Cursor → List Member × Close × Option Cursor
  | 0, _, c => ([], .cut c.peek, none)
  | budget + 1, first, c =>
    let c := c.skipSpace
    match c.rest with
    | [] => ([], .cut c.peek, none)
    | .char '}' :: _ => ([], .shut c.next.place, some c.next)
    | g :: _ =>
      if !first && g ≠ .char ',' then ([], .junk c.peek, none) else
      let c := if first then c else c.next.skipSpace
      match c.rest with
      | [] => ([], .cutAfterComma c.peek, none)
      | .char '"' :: _ =>
        let name := c.next.text
        match name.after with
        | .error skip =>
          ([], .brokenName (match name.value with | .error f => f | .ok _ => skip) skip, none)
        | .ok behind =>
          let after := afterName behind
          let c := behind.skipSpace
          let make (value : Node) (afterValue : Place) : Member :=
            .mk name.value ⟨behind.place, after, afterValue⟩ value
          match c.rest with
          | .char ':' :: _ =>
            match readValue budget c.next with
            | (value, none) => ([make value c.place], .lost, none)
            | (value, some next) =>
              let (members, close, after) := readMembers budget false next
              (make value next.skipSpace.place :: members, close, after)
          | [] =>
            ([make (brokenNode .nothing c.peek (.at .endInObject c.peek)).1 c.place], .lost, none)
          | _ =>
            ([make (brokenNode .other c.peek (.at .expectedColon c.peek)).1 c.place], .lost, none)
      | .char '}' :: _ => ([], .trailing c.peek, none)
      | _ => ([], .nameless c.peek (readValue budget c).1, none)
end

structure Document where
  root : Node
  extra : Option Fault

/-- Reads a document. The budget is above the number of nested and following parts, since each
takes at least one glyph. -/
def Document.ofGlyphs (gs : List Glyph) : Document :=
  match readValue (2 * gs.length + 2) ⟨gs, .start⟩ with
  | (root, none) => ⟨root, none⟩
  | (root, some c) =>
    let c := c.skipSpace
    ⟨root, if c.rest.isEmpty then none else some (.at .trailingCharacters c.peek)⟩

def Document.ofText (s : String) : Document := .ofGlyphs (s.toList.map .char)

def depthLimit : Nat := 127

mutual
def Node.value : Nat → Node → Except Fault Json
  | _, .null _ => .ok .null
  | _, .bool b _ => .ok (.bool b)
  | _, .number n _ => n.map .num
  | _, .text s _ => s.map .str
  | 0, .list start _ _ => .error (.at .tooDeep ⟨start.line, start.column + 1⟩)
  | depth + 1, .list _ items close => do
    let values ← itemValues depth items
    match close.listFault? with
    | some f => throw f
    | none => return .arr values
  | 0, .object start _ _ => .error (.at .tooDeep ⟨start.line, start.column + 1⟩)
  | depth + 1, .object _ members close => do
    let values ← memberValues depth members
    match close.objectFault? with
    | some f => throw f
    | none => return .obj (sortMembers values)
  | _, .broken _ _ f _ => .error f
def itemValues : Nat → List Item → Except Fault (List Json)
  | _, [] => .ok []
  | depth, .mk _ value :: rest => do
    let v ← value.value depth
    let vs ← itemValues depth rest
    return v :: vs
def memberValues : Nat → List Member → Except Fault (List (String × Json))
  | _, [] => .ok []
  | depth, .mk name _ value :: rest => do
    let name ← name
    let v ← value.value depth
    let vs ← memberValues depth rest
    return (name, v) :: vs
end

def Document.value (d : Document) : Except Fault Json := do
  let v ← d.root.value depthLimit
  match d.extra with
  | some f => throw f
  | none => return v

/-- The value that a text is the document of. -/
def parse (s : String) : Except Fault Json := (Document.ofText s).value

mutual
def toNode : Json → Node
  | .null => .null .none
  | .bool b => .bool b .none
  | .num n => .number (.ok n) .none
  | .str s => .text (.ok s) .none
  | .arr items => .list .start (toItems items) (.shut .start)
  | .obj members => .object .start (toMembers members) (.shut .start)
def toItems : List Json → List Item
  | [] => []
  | v :: rest => .mk .start (toNode v) :: toItems rest
def toMembers : List (String × Json) → List Member
  | [] => []
  | (name, v) :: rest => .mk (.ok name) ⟨.start, .start, .start⟩ (toNode v) :: toMembers rest
end

end QueryWarden.Json
