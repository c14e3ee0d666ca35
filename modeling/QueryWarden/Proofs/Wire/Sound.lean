import QueryWarden.Proofs.Wire.Written

/-! Whatever text a value is read from, every instant in it is sound: as an item or a member, in a field that
may be absent, and however the record is spelled. -/
namespace QueryWarden.Wire
open Json

variable {depth : Nat}

def Fields.SlotsSound : (fields : Fields) → fields.Slots → Prop
  | .nil, _ => True
  | .required _ shape rest, (slot, slots) | .lenient _ shape rest, (slot, slots) =>
    (∀ v ∈ slot, shape.Sound v) ∧ rest.SlotsSound slots
  | .optional _ shape rest, (slot, slots) => (∀ v ∈ slot.join, shape.Sound v) ∧ rest.SlotsSound slots

theorem Fields.sound_vacant : ∀ fields : Fields, fields.SlotsSound fields.vacant
  | .nil => trivial
  | .required _ _ rest | .optional _ _ rest | .lenient _ _ rest => ⟨nofun, rest.sound_vacant⟩

theorem Fields.sound_of_complete : ∀ {fields : Fields} {slots : fields.Slots} {vs : fields.Values},
    fields.SlotsSound slots → fields.complete slots = .ok vs → fields.Sound vs
  | .nil, _, _, _, _ => trivial
  | .required _ _ _, (none, _), _, _, h => nomatch h
  | .required _ _ rest, (some v, slots), _, sound, h => by
    obtain ⟨vs, completed, rfl⟩ := map_eq_ok.mp h
    exact ⟨sound.1 v rfl, sound_of_complete sound.2 completed⟩
  | .optional _ _ rest, (slot, slots), _, sound, h | .lenient _ _ rest, (slot, slots), _, sound, h => by
    obtain ⟨vs, completed, rfl⟩ := map_eq_ok.mp h
    exact ⟨sound.1, sound_of_complete sound.2 completed⟩

theorem sound_of_decode_instant {node : Node} {t : Instant}
    (h : Shape.instant.decode .text depth node = .ok t) : t.Sound := by
  cases node with
  | text s span =>
    cases s with
    | error f => cases h
    | ok s =>
      rw [decode_instant] at h
      cases read : Instant.ofText s with
      | error f =>
        rw [read] at h
        cases h
      | ok t' =>
        rw [read] at h
        cases h
        exact Instant.sound_of_ofText read
  | _ => cases h

/-- A member that is put into the slots of a record has been read for the first field, or it has been put
into the slots of the others. -/
theorem taken_or_passed {τ σ γ : Type} {mine : Prop} [Decidable mine] {repeated : Bool} {fault : Fault}
    {read : Except Fault τ} {make : τ → σ} {passed : Except Fault (Option γ)} {slot slot' : σ} {slots slots' : γ}
    (h : (if mine then if repeated then .error fault else read.map fun v => some (make v, slots)
      else passed.map (·.map fun slots => (slot, slots))) = .ok (some (slot', slots'))) :
    (∃ v, read = .ok v ∧ slot' = make v ∧ slots' = slots) ∨ slot' = slot ∧ passed = .ok (some slots') := by
  split_ifs at h
  · obtain ⟨v, taken, same⟩ := map_eq_ok.mp h
    cases same
    exact .inl ⟨v, taken, rfl, rfl⟩
  · obtain ⟨found, rfl, kept⟩ := map_eq_ok.mp h
    obtain ⟨slots, rfl, same⟩ := Option.map_eq_some_iff.mp kept
    cases same
    exact .inr ⟨rfl, rfl⟩

/-- The items of a list that is read are read. -/
theorem decode_list {of : Shape} {start : Place} {items : List Item} {close : Close} {vs : List of.Value}
    (h : (Shape.list of).decode .text (depth + 1) (.list start items close) = .ok vs) :
    items.mapM (fun | .mk _ item => of.decode .text depth item) = .ok vs := by
  obtain ⟨ws, read, h⟩ := bind_eq_ok.mp h
  cases fault : close.listFault? with
  | some f =>
    rw [fault] at h
    cases h
  | none =>
    rw [fault] at h
    cases h
    exact read

theorem exists_of_mapM {of : Shape} {items : List Item} {vs : List of.Value}
    (h : items.mapM (fun | .mk _ item => of.decode .text depth item) = .ok vs) :
    ∀ v ∈ vs, ∃ node, of.decode .text depth node = .ok v := by
  induction items generalizing vs with
  | nil =>
    cases h
    nofun
  | cons item items ih =>
    obtain ⟨peek, node⟩ := item
    obtain ⟨v, first, h⟩ := bind_eq_ok.mp ((List.mapM_cons ..).symm.trans h)
    obtain ⟨vs, later, h⟩ := bind_eq_ok.mp h
    cases h
    intro w among
    obtain rfl | among := List.mem_cons.mp among
    · exact ⟨node, first⟩
    · exact ih later w among

/-- An object that is read fills slots that give the values. -/
theorem decode_object_ok {name : String} {short : Bool} {fields : Fields} {start : Place}
    {members : List Member} {close : Close} {vs : fields.Values}
    (h : (Shape.record name short fields).decode .text (depth + 1) (.object start members close) = .ok vs) :
    ∃ slots, members.foldlM (fields.take depth) fields.vacant = .ok slots ∧ fields.complete slots = .ok vs := by
  rw [decode_object] at h
  obtain ⟨slots, read, h⟩ := bind_eq_ok.mp h
  refine ⟨slots, read, ?_⟩
  cases fault : close.objectFault? with
  | some f =>
    rw [fault] at h
    cases h
  | none =>
    rw [fault] at h
    cases completed : fields.complete slots with
    | error missing =>
      rw [completed] at h
      cases h
    | ok ws =>
      rw [completed] at h
      cases h
      rfl

/-- A member is put into a slot, or leaves the slots as they are. -/
theorem take_keeps {fields : Fields} {slots slots' : fields.Slots} {m : Member} {P : fields.Slots → Prop}
    (h : fields.take depth slots m = .ok slots') (before : P slots)
    (puts : ∀ {key after value slots'}, fields.put .text depth key after value slots = .ok (some slots') →
      P slots') : P slots' := by
  obtain ⟨name, places, value⟩ := m
  cases name with
  | error f => cases h
  | ok key =>
    rw [take_eq_settle] at h
    obtain ⟨found, read, h⟩ := bind_eq_ok.mp h
    cases found with
    | some slots =>
      cases h
      exact puts read
    | none =>
      cases fault : value.skipFault? with
      | some f =>
        rw [fault] at h
        cases h
      | none =>
        rw [fault] at h
        cases h
        exact before

/-! A field that may be absent is read as a value that may be nothing. -/

section
variable {shape : Shape} {rest : Fields} {name key : String} {after : Place}

theorem put_option (value : Node) (slot : Option (Option shape.Value)) (slots : rest.Slots) :
    (Fields.optional name shape rest).put .text depth key after value (slot, slots) =
      if name = key then
        if slot.isSome then .error (.at (.duplicateField name) after)
        else ((Shape.option shape).decode .text depth value).map fun v => some (some v, slots)
      else (rest.put .text depth key after value slots).map (·.map fun slots => (slot, slots)) := by
  by_cases null : ∃ span, value = .null span
  · obtain ⟨span, rfl⟩ := null
    rfl
  · have full := not_exists.mp null
    have mapped : ((Shape.option shape).decode .text depth value).map
        (fun v => (some (some v, slots) : Option (Fields.optional name shape rest).Slots)) =
        (shape.decode .text depth value).map fun v => some (some (some v), slots) := by
      rw [decode_option _ _ _ full, map_map]
      rfl
    refine Eq.trans ?_ (congrArg (fun read => if name = key then
      if slot.isSome then .error (.at (.duplicateField name) after) else read else _) mapped.symm)
    cases value with
    | null span => exact absurd rfl (full span)
    | _ => rfl

theorem ofItems_option (list : String × Bool × Nat × Nat × Close) (index : Nat) (peek : Place) (item : Node)
    (items : List Item) :
    (Fields.optional name shape rest).ofItems .text depth list index (.mk peek item :: items) = (do
      let v ← (Shape.option shape).decode .text depth item
      let vs ← rest.ofItems .text depth list (index + 1) items
      return (v, vs)) := by
  cases item <;> rfl

theorem sound_of_option (reads : ∀ {node : Node} {v : shape.Value}, shape.decode .text depth node = .ok v →
    shape.Sound v) {node : Node} {v : Option shape.Value}
    (h : (Shape.option shape).decode .text depth node = .ok v) : ∀ w ∈ v, shape.Sound w := by
  by_cases null : ∃ span, node = .null span
  · obtain ⟨span, rfl⟩ := null
    cases h
    exact nofun
  · rw [decode_option .text shape depth (not_exists.mp null)] at h
    obtain ⟨w, read, rfl⟩ := map_eq_ok.mp h
    rintro _ ⟨⟩
    exact reads read

end

mutual
/-- What is read is sound. -/
theorem Shape.sound_of_decode : ∀ (shape : Shape) {depth : Nat} {node : Node} {v : shape.Value},
    shape.decode .text depth node = .ok v → shape.Sound v
  | .text _, _, _, _, _ | .flag, _, _, _, _ | .natural _, _, _, _, _ | .variant _, _, _, _, _
  | .any, _, _, _, _ => trivial
  | .instant, _, _, _, h => sound_of_decode_instant h
  | .option of, _, _, _, h => sound_of_option (fun read => Shape.sound_of_decode of read) h
  | .list of, 0, node, v, h => by
    cases node <;> cases h
  | .list of, depth + 1, node, v, h => by
    cases node with
    | list start items close =>
      intro w among
      obtain ⟨item, read⟩ := exists_of_mapM (decode_list h) w among
      exact Shape.sound_of_decode of read
    | _ => cases h
  | .record name short fields, 0, node, v, h => by
    cases node <;> cases h
  | .record name short fields, depth + 1, node, v, h => by
    cases node with
    | list start items close => exact Fields.sound_of_ofItems fields h
    | object start members close =>
      obtain ⟨slots, read, completed⟩ := decode_object_ok h
      have kept : ∀ (members : List Member) {slots slots' : fields.Slots}, fields.SlotsSound slots →
          members.foldlM (fields.take depth) slots = .ok slots' → fields.SlotsSound slots' := by
        intro members
        induction members with
        | nil =>
          rintro slots _ sound ⟨⟩
          exact sound
        | cons m members ih =>
          intro slots slots' sound read
          obtain ⟨mid, first, later⟩ := bind_eq_ok.mp ((List.foldlM_cons ..).symm.trans read)
          exact ih (take_keeps first sound (Fields.sound_of_put fields sound)) later
      exact Fields.sound_of_complete (kept members fields.sound_vacant read) completed
    | _ => cases h
/-- A member that is read keeps the slots sound. -/
theorem Fields.sound_of_put : ∀ (fields : Fields) {depth : Nat} {key : String} {after : Place} {value : Node}
    {slots slots' : fields.Slots}, fields.SlotsSound slots →
    fields.put .text depth key after value slots = .ok (some slots') → fields.SlotsSound slots'
  | .nil, _, _, _, _, _, _, _, h => by
    trivial
  | .optional name shape rest, depth, key, after, value, (slot, slots), (slot', slots'), sound, h => by
    rw [put_option] at h
    obtain ⟨v, read, rfl, rfl⟩ | ⟨rfl, passed⟩ := taken_or_passed h
    · exact ⟨sound_of_option (fun read => Shape.sound_of_decode shape read) read, sound.2⟩
    · exact ⟨sound.1, Fields.sound_of_put rest sound.2 passed⟩
  | .required name shape rest, depth, key, after, value, (slot, slots), (slot', slots'), sound, h
  | .lenient name shape rest, depth, key, after, value, (slot, slots), (slot', slots'), sound, h => by
    obtain ⟨v, read, rfl, rfl⟩ | ⟨rfl, passed⟩ := taken_or_passed h
    · refine ⟨?_, sound.2⟩
      rintro _ ⟨⟩
      exact Shape.sound_of_decode shape read
    · exact ⟨sound.1, Fields.sound_of_put rest sound.2 passed⟩
/-- Items that are read as the fields of a record are sound. -/
theorem Fields.sound_of_ofItems : ∀ (fields : Fields) {depth : Nat} {list : String × Bool × Nat × Nat × Close}
    {index : Nat} {items : List Item} {vs : fields.Values},
    fields.ofItems .text depth list index items = .ok vs → fields.Sound vs
  | .nil, _, _, _, _, _, _ => trivial
  | .required _ shape rest, depth, (name, short, count, total, close), index, [], vs, h => by
    change (match close.listFault? with
      | some f => Except.error f
      | none => .error _) = _ at h
    split at h <;> cases h
  | .required _ shape rest, depth, list, index, .mk _ item :: items, vs, h => by
    obtain ⟨v, first, h⟩ := bind_eq_ok.mp h
    obtain ⟨vs, later, h⟩ := bind_eq_ok.mp h
    cases h
    exact ⟨Shape.sound_of_decode shape first, Fields.sound_of_ofItems rest later⟩
  | .optional _ shape rest, depth, (name, short, count, total, close), index, [], vs, h => by
    change (match close.listFault? with
      | some f => Except.error f
      | none => if short then (rest.ofItems .text depth (name, short, count, total, close) (index + 1) []).map
        (none, ·) else .error _) = _ at h
    split at h
    · cases h
    · split_ifs at h
      obtain ⟨vs, later, rfl⟩ := map_eq_ok.mp h
      exact ⟨nofun, Fields.sound_of_ofItems rest later⟩
  | .optional _ shape rest, depth, list, index, .mk _ item :: items, vs, h => by
    rw [ofItems_option] at h
    obtain ⟨v, first, h⟩ := bind_eq_ok.mp h
    obtain ⟨vs, later, h⟩ := bind_eq_ok.mp h
    cases h
    exact ⟨sound_of_option (fun read => Shape.sound_of_decode shape read) first,
      Fields.sound_of_ofItems rest later⟩
  | .lenient _ shape rest, depth, (name, short, count, total, close), index, [], vs, h => by
    change (match close.listFault? with
      | some f => Except.error f
      | none => (rest.ofItems .text depth (name, short, count, total, close) (index + 1) []).map
        (none, ·)) = _ at h
    split at h
    · cases h
    · obtain ⟨vs, later, rfl⟩ := map_eq_ok.mp h
      exact ⟨nofun, Fields.sound_of_ofItems rest later⟩
  | .lenient _ shape rest, depth, list, index, .mk _ item :: items, vs, h => by
    obtain ⟨v, first, h⟩ := bind_eq_ok.mp h
    obtain ⟨vs, later, h⟩ := bind_eq_ok.mp h
    cases h
    refine ⟨?_, Fields.sound_of_ofItems rest later⟩
    rintro w ⟨⟩
    exact Shape.sound_of_decode shape first
end

/-- Every instant in a value that is read from a text is sound. -/
theorem Shape.sound_of_ofText {shape : Shape} {text : String} {v : shape.Value}
    (h : shape.ofText text = .ok v) : shape.Sound v := by
  obtain ⟨w, read, h⟩ := bind_eq_ok.mp h
  cases fault : (Document.ofText text).extra with
  | some f =>
    rw [fault] at h
    cases h
  | none =>
    rw [fault] at h
    cases h
    exact sound_of_decode shape read

end QueryWarden.Wire
