import QueryWarden.Json.Node
import QueryWarden.Wire.Instant

/-! Wire types as data. A `Shape` says which JSON a type accepts and `Shape.Value` is what it holds;
`decode` walks a document in the order of its text and reports the first fault that concerns the
shape, `encode` writes a value back. Members nobody asks for are passed over, a known member may not
be repeated, and a record may also be written as the list of its fields in order. -/
namespace QueryWarden.Wire
open Json

mutual
/-- The shape of a wire type. -/
inductive Shape where
  /-- A text; `wanted` is what a fault calls it. -/
  | text (wanted : String)
  | flag
  /-- An integer from 0 to 2^64 - 1; `kind` is what a fault calls it. -/
  | natural (kind : String)
  | instant
  /-- `null` stands for nothing. -/
  | option (of : Shape)
  | list (of : Shape)
  /-- A record; a `short` one may be written as a list that lacks its last fields. -/
  | record (name : String) (short : Bool) (fields : Fields)
  /-- One of some names, alone or as the only member of an object with the value `null`. -/
  | variant (names : List String)
  | any
inductive Fields where
  | nil
  | required (name : String) (shape : Shape) (rest : Fields)
  /-- May be absent or `null`; not written if it is. -/
  | optional (name : String) (shape : Shape) (rest : Fields)
  /-- May be absent, and stands for a default then. -/
  | lenient (name : String) (shape : Shape) (rest : Fields)
end

abbrev Shape.plainText : Shape := .text "a string"

mutual
def Shape.Value : Shape → Type
  | .text _ => String
  | .flag => Bool
  | .natural _ => UInt64
  | .instant => Instant
  | .option of => Option of.Value
  | .list of => List of.Value
  | .record _ _ fields => fields.Values
  | .variant names => Fin names.length
  | .any => Json
def Fields.Values : Fields → Type
  | .nil => Unit
  | .required _ shape rest => shape.Value × rest.Values
  | .optional _ shape rest => Option shape.Value × rest.Values
  | .lenient _ shape rest => Option shape.Value × rest.Values
end

def Fields.Slots : Fields → Type
  | .nil => Unit
  | .required _ shape rest => Option shape.Value × rest.Slots
  | .optional _ shape rest => Option (Option shape.Value) × rest.Slots
  | .lenient _ shape rest => Option shape.Value × rest.Slots

def Fields.vacant : (fields : Fields) → fields.Slots
  | .nil => ()
  | .required _ _ rest => (none, rest.vacant)
  | .optional _ _ rest => (none, rest.vacant)
  | .lenient _ _ rest => (none, rest.vacant)

def Fields.complete : (fields : Fields) → fields.Slots → Except String fields.Values
  | .nil, _ => .ok ()
  | .required name _ rest, (slot, slots) =>
    match slot with
    | none => .error name
    | some v => (rest.complete slots).map (v, ·)
  | .optional _ _ rest, (slot, slots) => (rest.complete slots).map (slot.join, ·)
  | .lenient _ _ rest, (slot, slots) => (rest.complete slots).map (slot, ·)

def Fields.count : Fields → Nat
  | .nil => 0
  | .required _ _ rest | .optional _ _ rest | .lenient _ _ rest => rest.count + 1

inductive Source where
  | text
  | value
deriving DecidableEq

def wrongType (wanted : String) : Node → Fault
  | .null s => .at (.wrongType .null wanted) s.stop
  | .bool b s => .at (.wrongType (.bool b) wanted) s.stop
  | .number n s =>
    match n with
    | .ok n => .at (.wrongType (.number n) wanted) s.stop
    | .error f => f
  | .text t s =>
    match t with
    | .ok t => .at (.wrongType (.text t) wanted) s.stop
    | .error f => f
  | .list start _ _ => .at (.wrongType .list wanted) start
  | .object start _ _ => .at (.wrongType .object wanted) start
  | .broken _ _ read _ => read

def tooDeep (start : Place) : Fault := .at .tooDeep ⟨start.line, start.column + 1⟩

def elements : Nat → String
  | 1 => "1 element"
  | n => toString n ++ " elements"

def indexOf? (name : String) : (names : List String) → Option (Fin names.length)
  | [] => none
  | n :: rest => if n = name then some ⟨0, Nat.zero_lt_succ _⟩ else (indexOf? name rest).map Fin.succ

def chooseVariant (names : List String) (name : String) (place : Place) :
    Except Fault (Fin names.length) :=
  match indexOf? name names with
  | some i => .ok i
  | none => .error (.at (.unknownVariant name names) place)

def decodeVariant (names : List String) (depth : Nat) : Node → Except Fault (Fin names.length)
  | .text t s => do chooseVariant names (← t) s.stop
  | .object start members close => do
    if depth = 0 then throw (tooDeep start)
    match members with
    | [] =>
      match close with
      | .nameless _ found => throw (wrongType "variant identifier" found)
      | .brokenName f _ => throw f
      | .shut p => throw (.at .expectedValue p)
      | other => throw (.at .endInValue other.stop)
    | .mk name places value :: rest =>
      let i ← chooseVariant names (← name) places.nameStop
      match value with
      | .null _ => pure ()
      | other => throw (wrongType "unit" other)
      match rest, close with
      | [], .shut _ => return i
      | [], .cut _ => throw (.at .endInObject places.afterValue)
      | _, _ => throw (.at .expectedValue places.afterValue)
  | .null s | .bool _ s | .number _ s => .error (.at .expectedValue s.peek)
  | .list start _ _ => .error (.at .expectedValue ⟨start.line, start.column + 1⟩)
  | .broken opening peek read _ =>
    match opening with
    | .other => .error (.at .expectedValue peek)
    | _ => .error read

def decodeVariantValue (names : List String) : Node → Except Fault (Fin names.length)
  | .text t s => do chooseVariant names (← t) s.stop
  | .object start members _ => do
    match members with
    | [.mk name places value] =>
      let i ← chooseVariant names (← name) places.nameStop
      match value with
      | .null _ => return i
      | other => throw (wrongType "unit" other)
    | _ => throw (.at (.wrongValue "map" "map with a single key") start)
  | other => .error (wrongType "string or map" other)

def closeFixed (source : Source) (total : Nat) (left : List Item) (close : Close) :
    Except Fault Unit :=
  match source, left with
  | .value, [] => .ok ()
  | .value, _ => .error (.at (.wrongLength total "fewer elements in array") .start)
  | .text, .mk peek _ :: _ => .error (.at .trailingCharacters peek)
  | .text, [] =>
    match close with
    | .shut _ | .lost => .ok ()
    | .trailing p => .error (.at .trailingComma p)
    | .cut p => .error (.at .endInList p)
    | other => .error (.at .trailingCharacters other.stop)

mutual
/-- Reads a node as a value of the shape; `depth` is how many more levels may be opened. -/
def Shape.decode (source : Source) : (shape : Shape) → Nat → Node → Except Fault shape.Value
  | .text wanted, _, node =>
    match node with
    | .text t _ => t
    | other => .error (wrongType wanted other)
  | .flag, _, node =>
    match node with
    | .bool b _ => .ok b
    | other => .error (wrongType "a boolean" other)
  | .natural kind, _, node =>
    match node with
    | .number (.ok (.int n)) s =>
      if n < 0 then
        .error (.at (.wrongValue ("integer `" ++ String.ofList (intText n) ++ "`") kind) s.stop)
      else .ok n.toNat.toUInt64
    | other => .error (wrongType kind other)
  | .instant, _, node =>
    match node with
    | .text (.ok t) s => (Instant.ofText t).mapError fun f => .at (.custom f.message) s.stop
    | other => .error (wrongType "an RFC 3339 formatted date and time string" other)
  | .option of, depth, node =>
    match node with
    | .null _ => .ok none
    | other => (of.decode source depth other).map some
  | .list of, depth, node =>
    match node with
    | .list start items close =>
      match depth with
      | 0 => .error (tooDeep start)
      | depth + 1 => do
        let vs ← items.mapM fun | .mk _ item => of.decode source depth item
        match close.listFault? with
        | some f => throw f
        | none => return vs
    | other => .error (wrongType "a sequence" other)
  | .record name short fields, depth, node =>
    match node with
    | .list start items close =>
      match depth with
      | 0 => .error (tooDeep start)
      | depth + 1 =>
        fields.ofItems source depth
          ⟨name, short, fields.count, items.length, close⟩ 0 items
    | .object start members close =>
      match depth with
      | 0 => .error (tooDeep start)
      | depth + 1 => do
        let slots ← members.foldlM (fun slots => fun
          | .mk name places value => do
            let name ← name
            match ← fields.put source depth name places.afterName value slots with
            | some slots => return slots
            | none =>
              match value.skipFault? with
              | some f => throw f
              | none => return slots) fields.vacant
        match close.objectFault? with
        | some f => throw f
        | none =>
          match fields.complete slots with
          | .ok vs => return vs
          | .error missing => throw (.at (.missingField missing) close.stop)
    | other => .error (wrongType ("struct " ++ name) other)
  | .variant names, depth, node =>
    match source with
    | .text => decodeVariant names depth node
    | .value => decodeVariantValue names node
  | .any, depth, node => node.value depth
def Fields.put (source : Source) : (fields : Fields) → Nat → String → Place → Node →
    fields.Slots → Except Fault (Option fields.Slots)
  | .nil, _, _, _, _, _ => .ok none
  | .required name shape rest, depth, key, after, value, (slot, slots) =>
    if name = key then
      if slot.isSome then .error (.at (.duplicateField name) after)
      else (shape.decode source depth value).map fun v => some (some v, slots)
    else (rest.put source depth key after value slots).map (·.map fun slots => (slot, slots))
  | .optional name shape rest, depth, key, after, value, (slot, slots) =>
    if name = key then
      if slot.isSome then .error (.at (.duplicateField name) after)
      else
        match value with
        | .null _ => .ok (some (some none, slots))
        | other => (shape.decode source depth other).map fun v => some (some (some v), slots)
    else (rest.put source depth key after value slots).map (·.map fun slots => (slot, slots))
  | .lenient name shape rest, depth, key, after, value, (slot, slots) =>
    if name = key then
      if slot.isSome then .error (.at (.duplicateField name) after)
      else (shape.decode source depth value).map fun v => some (some v, slots)
    else (rest.put source depth key after value slots).map (·.map fun slots => (slot, slots))
def Fields.ofItems (source : Source) : (fields : Fields) → Nat →
    String × Bool × Nat × Nat × Close → Nat → List Item → Except Fault fields.Values
  | .nil, _, (_, _, _, total, close), _, items => closeFixed source total items close
  | .required _ shape rest, depth, list, index, items =>
    match items with
    | [] =>
      let (name, _, count, _, close) := list
      match close.listFault? with
      | some f => .error f
      | none => .error (.at (.wrongLength index ("struct " ++ name ++ " with " ++ elements count)) close.stop)
    | .mk _ item :: items => do
      let v ← shape.decode source depth item
      let vs ← rest.ofItems source depth list (index + 1) items
      return (v, vs)
  | .optional _ shape rest, depth, list, index, items =>
    match items with
    | [] =>
      let (name, short, count, _, close) := list
      match close.listFault? with
      | some f => .error f
      | none =>
        if short then (rest.ofItems source depth list (index + 1) []).map (none, ·)
        else .error (.at (.wrongLength index ("struct " ++ name ++ " with " ++ elements count)) close.stop)
    | .mk _ item :: items => do
      let v ← match item with
        | .null _ => pure none
        | other => (shape.decode source depth other).map some
      let vs ← rest.ofItems source depth list (index + 1) items
      return (v, vs)
  | .lenient _ shape rest, depth, list, index, items =>
    match items with
    | [] =>
      let (_, _, _, _, close) := list
      match close.listFault? with
      | some f => .error f
      | none => (rest.ofItems source depth list (index + 1) []).map (none, ·)
    | .mk _ item :: items => do
      let v ← shape.decode source depth item
      let vs ← rest.ofItems source depth list (index + 1) items
      return (some v, vs)
end

mutual
/-- Writes a value as JSON; an optional field that holds nothing is left out. -/
def Shape.encode : (shape : Shape) → shape.Value → Json
  | .text _, s => .str s
  | .flag, b => .bool b
  | .natural _, n => .nat n.toNat
  | .instant, t => .str (Instant.text t)
  | .option of, v =>
    match v with
    | none => .null
    | some v => of.encode v
  | .list of, vs => .arr (vs.map of.encode)
  | .record _ _ fields, vs => .obj (fields.encode vs)
  | .variant names, i => .str (names.get i)
  | .any, j => j
def Fields.encode : (fields : Fields) → fields.Values → List (String × Json)
  | .nil, _ => []
  | .required name shape rest, (v, vs) => (name, shape.encode v) :: rest.encode vs
  | .optional name shape rest, (v, vs) =>
    match v with
    | none => rest.encode vs
    | some v => (name, shape.encode v) :: rest.encode vs
  | .lenient name shape rest, (v, vs) =>
    match v with
    | none => rest.encode vs
    | some v => (name, shape.encode v) :: rest.encode vs
end

def Shape.ofDocument (shape : Shape) (d : Document) : Except Fault shape.Value := do
  let v ← shape.decode .text depthLimit d.root
  match d.extra with
  | some f => throw f
  | none => return v

def Shape.ofText (shape : Shape) (text : String) : Except Fault shape.Value :=
  shape.ofDocument (.ofText text)

/-- The value of a shape that a JSON value in its unordered reading stands for; its faults have no
places. -/
def Shape.ofJson (shape : Shape) (j : Json) : Except Fault shape.Value :=
  (shape.decode .value depthLimit j.toNode).mapError fun f => ⟨f.cause, none⟩

end QueryWarden.Wire
