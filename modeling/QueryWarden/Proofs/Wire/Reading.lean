import QueryWarden.Proofs.Json.Members
import QueryWarden.Wire.Shape

/-! What a record is read as from a value whose members have different names: each field from the member
of its name, and whatever other members there are, they change nothing. -/
namespace QueryWarden.Wire
open Json

theorem decode_record_broken (source : Source) (name : String) (short : Bool) (fields : Fields)
    (depth : Nat) (opening : Opening) (peek : Place) (read skip : Fault) :
    (Shape.record name short fields).decode source depth (.broken opening peek read skip) =
      .error read := by
  rfl

theorem decode_option (source : Source) (shape : Shape) (depth : Nat) {node : Node}
    (full : ∀ s, node ≠ .null s) :
    (Shape.option shape).decode source depth node = (shape.decode source depth node).map some := by
  cases node with
  | null s => exact absurd rfl (full s)
  | _ => rfl

/-! Nothing is wrong with a value that is passed over. -/

mutual
theorem skipFault?_toNode : ∀ j : Json, (toNode j).skipFault? = none
  | .null | .bool _ | .num _ | .str _ => by simp [toNode, Node.skipFault?]
  | .arr items => by
    rw [toNode, Node.skipFault?, skipItems?_toItems items]
    rfl
  | .obj members => by
    rw [toNode, Node.skipFault?, skipMembers?_toMembers members]
    rfl
theorem skipItems?_toItems : ∀ items : List Json, skipItems? (toItems items) = none
  | [] => by simp [toItems, skipItems?]
  | item :: rest => by
    rw [toItems, skipItems?, skipFault?_toNode item, Option.none_or]
    exact skipItems?_toItems rest
theorem skipMembers?_toMembers : ∀ members : List (String × Json), skipMembers? (toMembers members) = none
  | [] => by simp [toMembers, skipMembers?]
  | (_, value) :: rest => by
    rw [toMembers, skipMembers?, skipFault?_toNode value, Option.none_or]
    exact skipMembers?_toMembers rest
end

def Shape.fields : Shape → Fields
  | .record _ _ fields => fields
  | _ => .nil

def Fields.names : Fields → List String
  | .nil => []
  | .required name _ rest | .optional name _ rest | .lenient name _ rest => name :: rest.names

section
variable (depth : Nat)

def Shape.Slot (shape : Shape) (found : Option Json) (slot : Option shape.Value) : Prop :=
  match found with
  | none => slot = none
  | some j => ∃ v, shape.decode .value depth (toNode j) = .ok v ∧ slot = some v

def Fields.Filled (find : String → Option Json) : (fields : Fields) → fields.Slots → Prop
  | .nil, _ => True
  | .required name shape rest, (slot, slots) =>
    shape.Slot depth (find name) slot ∧ rest.Filled find slots
  | .optional name shape rest, (slot, slots) =>
    (Shape.option shape).Slot depth (find name) slot ∧ rest.Filled find slots
  | .lenient name shape rest, (slot, slots) =>
    shape.Slot depth (find name) slot ∧ rest.Filled find slots

def Fields.putMember (fields : Fields) (slots : fields.Slots) (m : String × Json) :
    Except Fault fields.Slots :=
  (fields.put .value depth m.1 .start (toNode m.2) slots).map (·.getD slots)

end

section
variable {depth : Nat} {find find' : String → Option Json} {key : String} {j : Json}

theorem Shape.Slot.unique {shape : Shape} {found : Option Json} {slot slot' : Option shape.Value}
    (h : shape.Slot depth found slot) (h' : shape.Slot depth found slot') : slot = slot' := by
  cases found with
  | none => exact h.trans h'.symm
  | some j =>
    obtain ⟨v, read, rfl⟩ := h
    obtain ⟨v', read', rfl⟩ := h'
    cases read.symm.trans read'
    rfl

theorem Fields.Filled.unique : ∀ {fields : Fields} {slots slots' : fields.Slots},
    fields.Filled depth find slots → fields.Filled depth find slots' → slots = slots'
  | .nil, _, _, _, _ => rfl
  | .required .., (_, _), (_, _), h, h' | .optional .., (_, _), (_, _), h, h'
  | .lenient .., (_, _), (_, _), h, h' => Prod.ext (h.1.unique h'.1) (h.2.unique h'.2)

theorem Fields.filled_vacant : ∀ fields : Fields, fields.Filled depth (fun _ => none) fields.vacant
  | .nil => trivial
  | .required _ _ rest | .optional _ _ rest | .lenient _ _ rest => ⟨rfl, filled_vacant rest⟩

theorem Fields.Filled.congr : ∀ {fields : Fields} {slots : fields.Slots},
    fields.Filled depth find slots → (∀ name ∈ fields.names, find name = find' name) →
    fields.Filled depth find' slots
  | .nil, _, _, _ => trivial
  | .required name _ _, (_, _), h, same | .optional name _ _, (_, _), h, same
  | .lenient name _ _, (_, _), h, same =>
    ⟨same name (List.mem_cons_self ..) ▸ h.1,
      h.2.congr fun other among => same other (List.mem_cons_of_mem _ among)⟩

/-- If a record can be read from more members, it can be read from fewer. -/
theorem Fields.Filled.fewer (fewer : ∀ name, find' name = none ∨ find' name = find name) :
    ∀ {fields : Fields} {slots : fields.Slots}, fields.Filled depth find slots →
    ∃ slots', fields.Filled depth find' slots'
  | .nil, _, _ => ⟨(), trivial⟩
  | .required name _ _, (_, _), h | .optional name _ _, (_, _), h | .lenient name _ _, (_, _), h => by
    obtain ⟨slots', rest⟩ := h.2.fewer fewer
    obtain absent | same := fewer name
    · exact ⟨(none, slots'), absent ▸ rfl, rest⟩
    · exact ⟨(_, slots'), same ▸ h.1, rest⟩

/-! A member goes to the slot of its name. -/

def takeOrPass {shape : Shape} {rest : Fields} (name key : String) (read : Except Fault shape.Value)
    (passed : Except Fault (Option rest.Slots)) (slot : Option shape.Value) (slots : rest.Slots) :
    Except Fault (Option (Option shape.Value × rest.Slots)) :=
  if name = key then
    if slot.isSome then .error (.at (.duplicateField name) .start)
    else read.map fun v => some (some v, slots)
  else passed.map (·.map fun slots => (slot, slots))

variable {shape : Shape} {rest : Fields} {name : String} {value : Node}

theorem put_optional {slot : Option (Option shape.Value)} {slots : rest.Slots} :
    (Fields.optional name shape rest).put .value depth key .start value (slot, slots) =
      takeOrPass name key ((Shape.option shape).decode .value depth value)
        (rest.put .value depth key .start value slots) slot slots := by
  by_cases h : ∃ s, value = .null s
  · obtain ⟨s, rfl⟩ := h
    rfl
  · have full : ∀ s, value ≠ .null s := not_exists.mp h
    have put_full : (Fields.optional name shape rest).put .value depth key .start value (slot, slots) =
        if name = key then
          if slot.isSome then .error (.at (.duplicateField name) .start)
          else (shape.decode .value depth value).map fun v => some (some (some v), slots)
        else (rest.put .value depth key .start value slots).map (·.map fun slots => (slot, slots)) := by
      cases value with
      | null s => exact absurd rfl (full s)
      | _ => rfl
    rw [put_full, decode_option _ _ _ full]
    cases shape.decode .value depth value <;> rfl

theorem takeOrPass_iff (fresh : name ∉ rest.names) (new : find key = none) (here : find' key = some j)
    (others : ∀ other, other ≠ key → find' other = find other) {slot slot' : Option shape.Value}
    {slots slots' : rest.Slots} (stands : shape.Slot depth (find name) slot)
    (filled : rest.Filled depth find slots)
    (passes : rest.putMember depth slots (key, j) = .ok slots' ↔ rest.Filled depth find' slots') :
    (takeOrPass name key (shape.decode .value depth (toNode j))
        (rest.put .value depth key .start (toNode j) slots) slot slots).map (·.getD (slot, slots)) =
      .ok (slot', slots') ↔ shape.Slot depth (find' name) slot' ∧ rest.Filled depth find' slots' := by
  unfold takeOrPass
  by_cases mine : name = key
  · subst mine
    have vacant : slot = none := by
      rw [new] at stands
      exact stands
    have same : rest.Filled depth find' slots := filled.congr fun other among =>
      (others other fun h => fresh (h ▸ among)).symm
    subst vacant
    rw [if_pos rfl, if_neg nofun, here, map_map, map_eq_ok]
    constructor
    · rintro ⟨v, read, taken⟩
      cases taken
      exact ⟨⟨v, read, rfl⟩, same⟩
    · rintro ⟨⟨v, read, rfl⟩, rest_filled⟩
      exact ⟨v, read, Prod.ext rfl (same.unique rest_filled)⟩
  · have same : find' name = find name := others name mine
    rw [if_neg mine, same, ← passes, Fields.putMember, map_map, map_eq_ok, map_eq_ok]
    constructor
    · rintro ⟨found, passed, kept⟩
      cases found with
      | none =>
        cases kept
        exact ⟨stands, none, passed, rfl⟩
      | some changed =>
        cases kept
        exact ⟨stands, some slots', passed, rfl⟩
    · rintro ⟨slot_eq, found, passed, kept⟩
      refine ⟨found, passed, ?_⟩
      rw [stands.unique slot_eq, ← kept]
      cases found <;> rfl

theorem Fields.putMember_iff (new : find key = none) (here : find' key = some j)
    (others : ∀ other, other ≠ key → find' other = find other) :
    ∀ {fields : Fields} {slots slots' : fields.Slots}, fields.names.Nodup →
    fields.Filled depth find slots →
    (fields.putMember depth slots (key, j) = .ok slots' ↔ fields.Filled depth find' slots')
  | .nil, _, _, _, _ => ⟨fun _ => trivial, fun _ => rfl⟩
  | .required name shape rest, (slot, slots), (slot', slots'), nodup, h => by
    obtain ⟨fresh, nodup⟩ := List.nodup_cons.mp nodup
    exact takeOrPass_iff fresh new here others h.1 h.2 (rest.putMember_iff new here others nodup h.2)
  | .optional name shape rest, (slot, slots), (slot', slots'), nodup, h => by
    obtain ⟨fresh, nodup⟩ := List.nodup_cons.mp nodup
    change ((Fields.optional name shape rest).put .value depth key .start (toNode j) (slot, slots)).map _ = _ ↔ _
    rw [put_optional]
    exact takeOrPass_iff fresh new here others h.1 h.2 (rest.putMember_iff new here others nodup h.2)
  | .lenient name shape rest, (slot, slots), (slot', slots'), nodup, h => by
    obtain ⟨fresh, nodup⟩ := List.nodup_cons.mp nodup
    exact takeOrPass_iff fresh new here others h.1 h.2 (rest.putMember_iff new here others nodup h.2)

theorem Fields.putMembers_iff {fields : Fields} (nodup : fields.names.Nodup)
    {members : List (String × Json)} (ascending : Ascending members)
    (new : ∀ m ∈ members, find m.1 = none) {slots slots' : fields.Slots}
    (filled : fields.Filled depth find slots) :
    members.foldlM (fields.putMember depth) slots = .ok slots' ↔
      fields.Filled depth (fun name => (lookup name members).or (find name)) slots' := by
  induction members generalizing find slots with
  | nil =>
    constructor
    · intro h
      cases h
      exact filled
    · intro h
      cases filled.unique h
      rfl
  | cons m rest ih =>
    obtain ⟨key, j⟩ := m
    -- what the names have once this member is read too
    let find' name := if name = key then some j else find name
    have put : ∀ mid, fields.putMember depth slots (key, j) = .ok mid ↔ fields.Filled depth find' mid :=
      fun mid => Fields.putMember_iff (new _ (List.mem_cons_self ..)) (if_pos rfl)
        (fun other ne => if_neg ne) nodup filled
    have new' : ∀ m ∈ rest, find' m.1 = none := fun m later =>
      (if_neg (ascending.below later).ne').trans (new m (List.mem_cons_of_mem _ later))
    have find_eq : (fun name => (lookup name ((key, j) :: rest)).or (find name)) =
        fun name => (lookup name rest).or (find' name) := by
      funext name
      rw [lookup_cons, Option.or_assoc]
      by_cases same : key = name
      · rw [if_pos same, Option.some_or, show find' name = some j from if_pos same.symm]
      · rw [if_neg same, Option.none_or, show find' name = find name from if_neg (Ne.symm same)]
    rw [List.foldlM_cons, bind_eq_ok, find_eq]
    constructor
    · rintro ⟨mid, first, later⟩
      exact (ih ascending.rest new' ((put mid).mp first)).mp later
    · intro h
      -- what can be read with the later members can be read without them
      obtain ⟨mid, first⟩ : ∃ mid, fields.Filled depth find' mid := h.fewer fun name => by
        cases found : lookup name rest with
        | none => exact .inr (Option.none_or ..).symm
        | some other => exact .inl (new' _ (mem_of_lookup found))
      exact ⟨mid, (put mid).mpr first, (ih ascending.rest new' first).mpr h⟩

def Fields.Reads (depth : Nat) (find : String → Option Json) : (fields : Fields) → fields.Values → Prop
  | .nil, _ => True
  | .required name shape rest, (v, vs) =>
    shape.Slot depth (find name) (some v) ∧ rest.Reads depth find vs
  | .optional name shape rest, (v, vs) =>
    (∃ slot, (Shape.option shape).Slot depth (find name) slot ∧ slot.join = v) ∧ rest.Reads depth find vs
  | .lenient name shape rest, (v, vs) =>
    shape.Slot depth (find name) v ∧ rest.Reads depth find vs

theorem Fields.complete_iff : ∀ {fields : Fields} {vs : fields.Values},
    (∃ slots, fields.Filled depth find slots ∧ fields.complete slots = .ok vs) ↔ fields.Reads depth find vs
  | .nil, () => ⟨fun _ => trivial, fun _ => ⟨(), trivial, rfl⟩⟩
  | .required name shape rest, (v, vs) => by
    rw [Reads, ← complete_iff]
    constructor
    · rintro ⟨⟨_ | w, slots⟩, ⟨slot, filled⟩, done⟩
      · cases done
      · obtain ⟨vs, completed, same⟩ := map_eq_ok.mp done
        cases same
        exact ⟨slot, slots, filled, completed⟩
    · rintro ⟨slot, slots, filled, completed⟩
      exact ⟨(some v, slots), ⟨slot, filled⟩, map_eq_ok.mpr ⟨vs, completed, rfl⟩⟩
  | .optional name shape rest, (v, vs) => by
    rw [Reads, ← complete_iff]
    constructor
    · rintro ⟨⟨slot, slots⟩, ⟨found, filled⟩, done⟩
      obtain ⟨vs, completed, same⟩ := map_eq_ok.mp done
      cases same
      exact ⟨⟨slot, found, rfl⟩, slots, filled, completed⟩
    · rintro ⟨⟨slot, found, rfl⟩, slots, filled, completed⟩
      exact ⟨(slot, slots), ⟨found, filled⟩, map_eq_ok.mpr ⟨vs, completed, rfl⟩⟩
  | .lenient name shape rest, (v, vs) => by
    rw [Reads, ← complete_iff]
    constructor
    · rintro ⟨⟨slot, slots⟩, ⟨found, filled⟩, done⟩
      obtain ⟨vs, completed, same⟩ := map_eq_ok.mp done
      cases same
      exact ⟨found, slots, filled, completed⟩
    · rintro ⟨found, slots, filled, completed⟩
      exact ⟨(v, slots), ⟨found, filled⟩, map_eq_ok.mpr ⟨vs, completed, rfl⟩⟩

theorem Fields.reads_vacant {fields : Fields} {vs : fields.Values} :
    fields.Reads depth (fun _ => none) vs ↔ fields.complete fields.vacant = .ok vs := by
  rw [← Fields.complete_iff]
  constructor
  · rintro ⟨slots, filled, completed⟩
    rwa [filled.unique (Fields.filled_vacant fields)] at completed
  · exact fun completed => ⟨_, Fields.filled_vacant fields, completed⟩

theorem decode_record_object (name : String) (short : Bool) (fields : Fields) (depth : Nat)
    (members : List Member) :
    (Shape.record name short fields).decode .value (depth + 1) (.object .start members (.shut .start)) = (do
      let slots ← members.foldlM (fun slots => fun
        | .mk name places value => do
          let name ← name
          match ← fields.put .value depth name places.afterName value slots with
          | some slots => return slots
          | none =>
            match value.skipFault? with
            | some f => throw f
            | none => return slots) fields.vacant
      match fields.complete slots with
      | .ok vs => return vs
      | .error missing => throw (.at (.missingField missing) .start)) := by
  rfl

theorem decode_record_obj (name : String) (short : Bool) (fields : Fields) (depth : Nat)
    (members : List (String × Json)) :
    (Shape.record name short fields).decode .value (depth + 1) (toNode (.obj members)) = (do
      let slots ← members.foldlM (fields.putMember depth) fields.vacant
      match fields.complete slots with
      | .ok vs => return vs
      | .error missing => throw (.at (.missingField missing) .start)) := by
  rw [toNode, decode_record_object]
  congr 1
  generalize fields.vacant = slots
  induction members generalizing slots with
  | nil => simp [toMembers]
  | cons m rest ih =>
    obtain ⟨key, j⟩ := m
    have puts : (do
        match ← fields.put .value depth key .start (toNode j) slots with
        | some slots => return slots
        | none =>
          match (toNode j).skipFault? with
          | some f => throw f
          | none => return slots) = fields.putMember depth slots (key, j) := by
      rw [Fields.putMember, skipFault?_toNode]
      cases fields.put .value depth key .start (toNode j) slots with
      | error f => rfl
      | ok found => cases found <;> rfl
    rw [toMembers, List.foldlM_cons, List.foldlM_cons, ← puts]
    exact bind_congr ih

/-- A record is read from a value with different names as each field is from what its name has. -/
theorem record_reads_iff {fields : Fields} (nodup : fields.names.Nodup) (name : String) (short : Bool)
    {members : List (String × Json)} (ascending : Ascending members) {vs : fields.Values} :
    (Shape.record name short fields).decode .value (depth + 1) (toNode (.obj members)) = .ok vs ↔
      fields.Reads depth (lookup · members) vs := by
  rw [decode_record_obj, ← Fields.complete_iff]
  refine bind_eq_ok.trans (exists_congr fun slots => and_congr ?_ ?_)
  · rw [Fields.putMembers_iff nodup ascending (fun _ _ => rfl) (Fields.filled_vacant fields)]
    simp only [Option.or_none]
  · cases fields.complete slots with
    | error missing => exact ⟨nofun, nofun⟩
    | ok completed =>
      constructor <;>
        · intro h
          cases h
          rfl

end
end QueryWarden.Wire
