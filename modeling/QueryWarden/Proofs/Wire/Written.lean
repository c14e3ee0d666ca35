import QueryWarden.Proofs.Json.Ordered
import QueryWarden.Proofs.Json.ReadBack
import QueryWarden.Proofs.Wire.Instants
import QueryWarden.Proofs.Wire.Reading

/-! A value that is written is read back. A shape is plain if what is written tells its values apart: no
value but nothing is `null`, and no two fields of a record and no two variants have one name. -/
namespace QueryWarden.Wire
open Json

mutual
/-- Whether what is written in a shape tells its values apart. -/
def Shape.isPlain : Shape → Bool
  | .text _ | .flag | .natural _ | .instant => true
  | .list of => of.isPlain
  | .record _ _ fields => fields.isPlain && decide fields.names.Nodup
  | .variant names => decide names.Nodup
  | .option _ | .any => false
def Fields.isPlain : Fields → Bool
  | .nil => true
  | .required _ shape rest | .optional _ shape rest | .lenient _ shape rest => shape.isPlain && rest.isPlain
end

mutual
def Shape.height : Shape → Nat
  | .option of => of.height
  | .list of => of.height + 1
  | .record _ _ fields => fields.height + 1
  | _ => 0
def Fields.height : Fields → Nat
  | .nil => 0
  | .required _ shape rest | .optional _ shape rest | .lenient _ shape rest => max shape.height rest.height
end

mutual
def Shape.Sound : (shape : Shape) → shape.Value → Prop
  | .instant, t => Instant.Sound t
  | .option of, v =>
    let v : Option of.Value := v
    ∀ w ∈ v, of.Sound w
  | .list of, vs =>
    let vs : List of.Value := vs
    ∀ v ∈ vs, of.Sound v
  | .record _ _ fields, vs => fields.Sound vs
  | _, _ => True
def Fields.Sound : (fields : Fields) → fields.Values → Prop
  | .nil, _ => True
  | .required _ shape rest, (v, vs) => shape.Sound v ∧ rest.Sound vs
  | .optional _ shape rest, (v, vs) | .lenient _ shape rest, (v, vs) => (∀ w ∈ v, shape.Sound w) ∧ rest.Sound vs
end

/-! Members are put into the slots of their fields. -/

def settle {α : Type} (put : Except Fault (Option α)) (skip : Option Fault) (kept : α) : Except Fault α := do
  match ← put with
  | some slots => return slots
  | none =>
    match skip with
    | some f => throw f
    | none => return kept

theorem settle_map {α β : Type} (f : α → β) (put : Except Fault (Option α)) (skip : Option Fault) (kept : α) :
    settle (put.map (·.map f)) skip (f kept) = (settle put skip kept).map f := by
  cases put with
  | error fault => rfl
  | ok found =>
    cases found with
    | some slots => rfl
    | none => cases skip <;> rfl

section
variable {depth : Nat}

/-- Puts a member into the slot of its name; a member of no field is passed over. -/
def Fields.take (depth : Nat) (fields : Fields) (slots : fields.Slots) : Member → Except Fault fields.Slots
  | .mk name places value => do
    let name ← name
    match ← fields.put .text depth name places.afterName value slots with
    | some slots => return slots
    | none =>
      match value.skipFault? with
      | some f => throw f
      | none => return slots

theorem decode_object (name : String) (short : Bool) (fields : Fields) (start : Place) (members : List Member)
    (close : Close) :
    (Shape.record name short fields).decode .text (depth + 1) (.object start members close) = (do
      let slots ← members.foldlM (fields.take depth) fields.vacant
      match close.objectFault? with
      | some f => throw f
      | none =>
        match fields.complete slots with
        | .ok vs => return vs
        | .error missing => throw (.at (.missingField missing) close.stop)) :=
  rfl

theorem take_eq_settle (fields : Fields) (slots : fields.Slots) (key : String) (places : MemberPlaces)
    (value : Node) :
    fields.take depth slots (.mk (.ok key) places value) =
      settle (fields.put .text depth key places.afterName value slots) value.skipFault? slots := by
  show (fields.put .text depth key places.afterName value slots >>= _) = _
  cases fields.put .text depth key places.afterName value slots with
  | error f => rfl
  | ok found => cases found <;> rfl

def Fields.slots : (fields : Fields) → fields.Values → fields.Slots
  | .nil, _ => ()
  | .required _ _ rest, (v, vs) => (some v, rest.slots vs)
  | .optional _ _ rest, (v, vs) => (v.map some, rest.slots vs)
  | .lenient _ _ rest, (v, vs) => (v, rest.slots vs)

theorem Fields.complete_slots : ∀ (fields : Fields) (vs : fields.Values),
    fields.complete (fields.slots vs) = .ok vs
  | .nil, _ => rfl
  | .required _ _ rest, (v, vs) | .lenient _ _ rest, (v, vs) => by
    simp only [slots, complete, complete_slots rest vs]
    rfl
  | .optional _ _ rest, (v, vs) => by
    simp only [slots, complete, complete_slots rest vs]
    cases v <;> rfl

def Named (names : List String) : Member → Prop
  | .mk name _ _ => ∃ key ∈ names, name = .ok key

theorem named_of_shows {names : List String} {members : List Member} {values : List (String × Json)}
    (shows : ShowsMembers members values) (known : ∀ m ∈ values, m.1 ∈ names) :
    ∀ m ∈ members, Named names m := by
  induction members generalizing values with
  | nil => simp
  | cons m members ih =>
    cases shows with
    | cons name places first rest =>
      intro m among
      obtain rfl | later := List.mem_cons.mp among
      · exact ⟨name, known _ (List.mem_cons_self ..), rfl⟩
      · exact ih rest (fun m among => known m (List.mem_cons_of_mem _ among)) m later

theorem Fields.encode_names : ∀ (fields : Fields) (vs : fields.Values), ∀ m ∈ fields.encode vs, m.1 ∈ fields.names
  | .nil, _, _, among => by cases among
  | .required name _ rest, (v, vs), m, among => by
    obtain rfl | later := List.mem_cons.mp among
    · exact List.mem_cons_self ..
    · exact List.mem_cons_of_mem _ (encode_names rest vs m later)
  | .optional name _ rest, (v, vs), m, among | .lenient name _ rest, (v, vs), m, among => by
    cases v with
    | none => exact List.mem_cons_of_mem _ (encode_names rest vs m among)
    | some v =>
      obtain rfl | later := List.mem_cons.mp among
      · exact List.mem_cons_self ..
      · exact List.mem_cons_of_mem _ (encode_names rest vs m later)

/-- Members that pass the first field by are put into the slots of the others. -/
theorem foldlM_passing {fields rest : Fields} (whole : rest.Slots → fields.Slots)
    {members : List Member}
    (passes : ∀ m ∈ members, ∀ slots, fields.take depth (whole slots) m = (rest.take depth slots m).map whole)
    {slots slots' : rest.Slots} (read : members.foldlM (rest.take depth) slots = .ok slots') :
    members.foldlM (fields.take depth) (whole slots) = .ok (whole slots') := by
  induction members generalizing slots with
  | nil =>
    cases read
    rfl
  | cons m members ih =>
    obtain ⟨mid, first, later⟩ := bind_eq_ok.mp ((List.foldlM_cons ..).symm.trans read)
    rw [List.foldlM_cons, passes m (List.mem_cons_self ..), first]
    exact ih (fun m among => passes m (List.mem_cons_of_mem _ among)) later

/-- A field puts a member of another name into the slots of the others. -/
theorem take_passes {fields rest : Fields} {whole : rest.Slots → fields.Slots} {m : Member}
    (named : Named rest.names m)
    (passes : ∀ key ∈ rest.names, ∀ after value slots,
      fields.put .text depth key after value (whole slots) =
        (rest.put .text depth key after value slots).map (·.map whole)) (slots : rest.Slots) :
    fields.take depth (whole slots) m = (rest.take depth slots m).map whole := by
  obtain ⟨_, places, value⟩ := m
  obtain ⟨key, among, rfl⟩ := named
  rw [take_eq_settle, take_eq_settle, passes key among]
  exact settle_map ..

/-- Behind the member of the first field, its slot stays as it is. -/
theorem foldlM_rest (fields : Fields) {rest : Fields} (whole : rest.Slots → fields.Slots) {members : List Member}
    {vs : rest.Values} (shows : ShowsMembers members (rest.encode vs))
    (passes : ∀ key ∈ rest.names, ∀ after value slots,
      fields.put .text depth key after value (whole slots) =
        (rest.put .text depth key after value slots).map (·.map whole))
    (read : members.foldlM (rest.take depth) rest.vacant = .ok (rest.slots vs)) :
    members.foldlM (fields.take depth) (whole rest.vacant) = .ok (whole (rest.slots vs)) :=
  foldlM_passing whole (fun m among =>
    take_passes (named_of_shows shows (rest.encode_names vs) m among) passes) read

/-- A member that is read goes into the slot of its field. -/
theorem foldlM_first {fields : Fields} {name : String} {places : MemberPlaces} {value : Node}
    {members : List Member} {slots slots' : fields.Slots}
    (put : fields.put .text depth name places.afterName value slots = .ok (some slots')) :
    (.mk (.ok name) places value :: members).foldlM (fields.take depth) slots =
      members.foldlM (fields.take depth) slots' := by
  rw [List.foldlM_cons, take_eq_settle, put]
  rfl

/-! Values. -/

theorem indexOf?_get : ∀ {names : List String}, names.Nodup → ∀ i : Fin names.length,
    indexOf? (names.get i) names = some i
  | n :: rest, nodup, ⟨0, _⟩ => if_pos rfl
  | n :: rest, nodup, ⟨i + 1, bound⟩ => by
    obtain ⟨fresh, nodup⟩ := List.nodup_cons.mp nodup
    have within : i < rest.length := Nat.lt_of_succ_lt_succ bound
    have other : ¬ n = (n :: rest).get ⟨i + 1, bound⟩ := fun same =>
      fresh (same ▸ rest.get_mem ⟨i, within⟩)
    have later := indexOf?_get nodup ⟨i, within⟩
    rw [indexOf?, if_neg other]
    exact congrArg (Option.map Fin.succ) later

/-- A value that is read in a plain shape is written as something else than `null`. -/
theorem full_of_decode {shape : Shape} (plain : shape.isPlain = true) {node : Node} {v : shape.Value}
    (read : shape.decode .text depth node = .ok v) (span : Span) : node ≠ .null span := by
  rintro rfl
  cases shape with
  | option _ | any => cases plain
  | _ => cases read

theorem fits_natural (n : UInt64) : Fits n.toNat := by
  have below := n.toNat_lt
  have greatest : greatestNatural = 18446744073709551615 := rfl
  constructor
  · exact Int.le_trans (by decide) (Int.natCast_nonneg _)
  · rw [greatest]
    omega

theorem decode_natural_shown (kind : String) (n : UInt64) {node : Node} (shows : Shows node (.nat n.toNat)) :
    (Shape.natural kind).decode .text depth node = .ok n := by
  cases shows with
  | int span fits =>
    obtain rfl := fits (fits_natural n)
    have nonneg : ¬ (n.toNat : Int) < 0 := by omega
    have read : (Shape.natural kind).decode .text depth (.number (.ok (.int n.toNat)) span) =
        if (n.toNat : Int) < 0 then
          .error (.at (.wrongValue ("integer `" ++ String.ofList (intText n.toNat) ++ "`") kind) span.stop)
        else .ok (n.toNat : Int).toNat.toUInt64 := rfl
    rw [read, if_neg nonneg]
    exact congrArg Except.ok UInt64.ofNat_toNat

theorem decode_instant (source : Source) (s : String) (span : Span) :
    Shape.instant.decode source depth (.text (.ok s) span) =
      (Instant.ofText s).mapError fun f => .at (.custom f.message) span.stop :=
  rfl

theorem decode_instant_shown {t : Instant} (sound : t.Sound) {node : Node}
    (shows : Shows node (.str (Instant.text t))) : Shape.instant.decode .text depth node = .ok t := by
  cases shows with
  | text _ span =>
    rw [decode_instant, Instant.ofText_text sound]
    rfl

theorem decode_list_shut (of : Shape) (start stop : Place) (items : List Item) :
    (Shape.list of).decode .text (depth + 1) (.list start items (.shut stop)) =
      items.mapM fun | .mk _ item => of.decode .text depth item :=
  bind_pure _

/-- A list is read, if its items are. -/
theorem decode_items {of : Shape} {vs : List of.Value}
    (reads : ∀ v ∈ vs, ∀ {node : Node}, Shows node (of.encode v) → of.decode .text depth node = .ok v)
    {items : List Item} (shows : ShowsItems items (vs.map of.encode)) :
    items.mapM (fun | .mk _ item => of.decode .text depth item) = .ok vs := by
  induction vs generalizing items with
  | nil =>
    cases shows
    rfl
  | cons v vs ih =>
    cases shows with
    | cons peek first rest =>
      have later := ih (fun w among => reads w (List.mem_cons_of_mem _ among)) rest
      refine (List.mapM_cons ..).trans (bind_eq_ok.mpr ⟨v, reads v (List.mem_cons_self ..) first, ?_⟩)
      exact bind_eq_ok.mpr ⟨vs, later, rfl⟩

section
variable {shape : Shape} {rest : Fields} {name key : String} {after : Place} {value : Node} {v : shape.Value}
  {slots : rest.Slots}

theorem put_required (read : shape.decode .text depth value = .ok v) :
    (Fields.required name shape rest).put .text depth name after value (none, slots) =
      .ok (some (some v, slots)) :=
  (if_pos rfl).trans (map_eq_ok.mpr ⟨v, read, rfl⟩)

theorem put_lenient (read : shape.decode .text depth value = .ok v) :
    (Fields.lenient name shape rest).put .text depth name after value (none, slots) =
      .ok (some (some v, slots)) :=
  (if_pos rfl).trans (map_eq_ok.mpr ⟨v, read, rfl⟩)

theorem put_full (full : ∀ span, value ≠ .null span) (read : shape.decode .text depth value = .ok v) :
    (Fields.optional name shape rest).put .text depth name after value (none, slots) =
      .ok (some (some (some v), slots)) := by
  refine (if_pos rfl).trans ?_
  cases value with
  | null span => exact absurd rfl (full span)
  | _ => exact map_eq_ok.mpr ⟨v, read, rfl⟩

end

mutual
/-- What is written in a plain shape is read as the value that it was written for. -/
theorem Shape.decode_shown : ∀ (shape : Shape), shape.isPlain = true → ∀ {v : shape.Value}, shape.Sound v →
    ∀ {depth : Nat}, shape.height ≤ depth → ∀ {node : Node}, Shows node (shape.encode v) →
    shape.decode .text depth node = .ok v
  | .text wanted, _, v, _, depth, _, node, shows => by
    cases shows
    rfl
  | .flag, _, v, _, depth, _, node, shows => by
    cases shows
    rfl
  | .natural kind, _, v, _, depth, _, node, shows => decode_natural_shown kind v shows
  | .instant, _, v, sound, depth, _, node, shows => decode_instant_shown sound shows
  | .list of, plain, v, sound, 0, deep, node, shows => absurd deep (Nat.not_succ_le_zero _)
  | .list of, plain, v, sound, depth + 1, deep, node, shows => by
    cases shows with
    | list start stop items_shown =>
      rw [decode_list_shut]
      exact decode_items (fun w among _ first => Shape.decode_shown of plain (sound w among)
        (Nat.le_of_succ_le_succ deep) first) items_shown
  | .record .., plain, v, sound, 0, deep, node, shows => absurd deep (Nat.not_succ_le_zero _)
  | .record name short fields, plain, v, sound, depth + 1, deep, node, shows => by
    obtain ⟨plain_fields, distinct⟩ := Bool.and_eq_true_iff.mp plain
    cases shows with
    | object start stop members_shown =>
      have filled := Fields.take_shown fields plain_fields (of_decide_eq_true distinct) sound
        (Nat.le_of_succ_le_succ deep) members_shown
      have completed := Fields.complete_slots fields v
      rw [decode_object, filled]
      show (match fields.complete (fields.slots v) with
        | .ok vs => Except.ok vs
        | .error missing => .error (Fault.at (.missingField missing) stop)) = _
      rw [completed]
      rfl
  | .variant names, plain, v, sound, depth, deep, node, shows => by
    cases shows with
    | text _ span =>
      have found := indexOf?_get (of_decide_eq_true plain) v
      show chooseVariant names (names.get v) span.stop = _
      rw [chooseVariant, found]
      rfl
  | .option of, plain, _, _, _, _, _, _ => by cases plain
  | .any, plain, _, _, _, _, _, _ => by cases plain
/-- What is written for the fields of a record fills their slots. -/
theorem Fields.take_shown : ∀ (fields : Fields), fields.isPlain = true → fields.names.Nodup →
    ∀ {vs : fields.Values}, fields.Sound vs → ∀ {depth : Nat}, fields.height ≤ depth →
    ∀ {members : List Member}, ShowsMembers members (fields.encode vs) →
    members.foldlM (fields.take depth) fields.vacant = .ok (fields.slots vs)
  | .nil, _, _, _, _, depth, _, members, shows => by
    cases shows
    rfl
  | .required name shape rest, plain, nodup, (v, vs), sound, depth, deep, members, shows => by
    obtain ⟨plain_first, plain_rest⟩ := Bool.and_eq_true_iff.mp plain
    obtain ⟨fresh, nodup⟩ := List.nodup_cons.mp nodup
    obtain ⟨deep_first, deep_rest⟩ := Nat.max_le.mp deep
    have behind {members : List Member} (slot : Option shape.Value)
        (later : ShowsMembers members (rest.encode vs)) :
        members.foldlM ((Fields.required name shape rest).take depth) (slot, rest.vacant) =
          .ok (slot, rest.slots vs) :=
      foldlM_rest (.required name shape rest) (fun slots => (slot, slots)) later
        (fun key among _ _ _ => if_neg fun same : name = key => fresh (same ▸ among))
        (Fields.take_shown rest plain_rest nodup sound.2 deep_rest later)
    cases shows with
    | cons _ places first later =>
      have read := Shape.decode_shown shape plain_first sound.1 deep_first first
      exact (foldlM_first (put_required read)).trans (behind (some v) later)
  | .optional name shape rest, plain, nodup, (v, vs), sound, depth, deep, members, shows => by
    obtain ⟨plain_first, plain_rest⟩ := Bool.and_eq_true_iff.mp plain
    obtain ⟨fresh, nodup⟩ := List.nodup_cons.mp nodup
    obtain ⟨deep_first, deep_rest⟩ := Nat.max_le.mp deep
    have behind {members : List Member} (slot : Option (Option shape.Value))
        (later : ShowsMembers members (rest.encode vs)) :
        members.foldlM ((Fields.optional name shape rest).take depth) (slot, rest.vacant) =
          .ok (slot, rest.slots vs) :=
      foldlM_rest (.optional name shape rest) (fun slots => (slot, slots)) later
        (fun key among _ _ _ => if_neg fun same : name = key => fresh (same ▸ among))
        (Fields.take_shown rest plain_rest nodup sound.2 deep_rest later)
    cases v with
    | none => exact behind none shows
    | some v =>
      cases shows with
      | cons _ places first later =>
        have read := Shape.decode_shown shape plain_first (sound.1 v rfl) deep_first first
        have full := full_of_decode plain_first read
        exact (foldlM_first (put_full full read)).trans (behind (some (some v)) later)
  | .lenient name shape rest, plain, nodup, (v, vs), sound, depth, deep, members, shows => by
    obtain ⟨plain_first, plain_rest⟩ := Bool.and_eq_true_iff.mp plain
    obtain ⟨fresh, nodup⟩ := List.nodup_cons.mp nodup
    obtain ⟨deep_first, deep_rest⟩ := Nat.max_le.mp deep
    have behind {members : List Member} (slot : Option shape.Value)
        (later : ShowsMembers members (rest.encode vs)) :
        members.foldlM ((Fields.lenient name shape rest).take depth) (slot, rest.vacant) =
          .ok (slot, rest.slots vs) :=
      foldlM_rest (.lenient name shape rest) (fun slots => (slot, slots)) later
        (fun key among _ _ _ => if_neg fun same : name = key => fresh (same ▸ among))
        (Fields.take_shown rest plain_rest nodup sound.2 deep_rest later)
    cases v with
    | none => exact behind none shows
    | some v =>
      cases shows with
      | cons _ places first later =>
        have read := Shape.decode_shown shape plain_first (sound.1 v rfl) deep_first first
        exact (foldlM_first (put_lenient read)).trans (behind (some v) later)
end

end

/-- The compact text of a value is read as the value. -/
theorem Shape.ofText_compact {shape : Shape} (plain : shape.isPlain = true) (low : shape.height ≤ depthLimit)
    {v : shape.Value} (sound : shape.Sound v) : shape.ofText (shape.encode v).compact = .ok v := by
  obtain ⟨node, read, shows⟩ := Json.ofText_compact (shape.encode v)
  rw [ofText, read, ofDocument, decode_shown shape plain sound low shows]
  rfl

/-! Values of plain shapes in indented documents: what is written is exact and opens no more levels than the
shape says, and the shape reads the value back. -/

mutual
/-- What is written in a plain shape is exact. -/
theorem Shape.exact_encode : ∀ (shape : Shape), shape.isPlain = true → ∀ v : shape.Value,
    Exact shape.height (shape.encode v)
  | .text _, _, _ | .instant, _, _ | .variant _, _, _ => by
    rw [Shape.encode]
    exact .str _
  | .flag, _, b => by
    rw [Shape.encode]
    exact .bool b
  | .natural _, _, n => by
    rw [Shape.encode]
    exact .int (fits_natural n)
  | .list of, plain, vs => by
    rw [Shape.encode, Shape.height]
    refine .arr fun item among => ?_
    obtain ⟨v, -, rfl⟩ := List.mem_map.mp among
    exact Shape.exact_encode of plain v
  | .record _ _ fields, plain, vs => by
    rw [Shape.encode, Shape.height]
    exact .obj (Fields.exact_encode fields (Bool.and_eq_true_iff.mp plain).1 vs)
theorem Fields.exact_encode : ∀ (fields : Fields), fields.isPlain = true → ∀ vs : fields.Values,
    ∀ m ∈ fields.encode vs, Exact fields.height m.2
  | .nil, _, _, _, among => by cases among
  | .required _ shape rest, plain, (v, vs), m, among => by
    obtain ⟨plain_first, plain_rest⟩ := Bool.and_eq_true_iff.mp plain
    obtain rfl | later := List.mem_cons.mp among
    · exact (Shape.exact_encode shape plain_first v).mono (Nat.le_max_left ..)
    · exact (Fields.exact_encode rest plain_rest vs m later).mono (Nat.le_max_right ..)
  | .optional _ shape rest, plain, (v, vs), m, among | .lenient _ shape rest, plain, (v, vs), m, among => by
    obtain ⟨plain_first, plain_rest⟩ := Bool.and_eq_true_iff.mp plain
    cases v with
    | none => exact (Fields.exact_encode rest plain_rest vs m among).mono (Nat.le_max_right ..)
    | some v =>
      obtain rfl | later := List.mem_cons.mp among
      · exact (Shape.exact_encode shape plain_first v).mono (Nat.le_max_left ..)
      · exact (Fields.exact_encode rest plain_rest vs m later).mono (Nat.le_max_right ..)
end

/-- The indented text of a value is read as the value. -/
theorem Shape.ofText_pretty {shape : Shape} (plain : shape.isPlain = true) (low : shape.height ≤ depthLimit)
    {v : shape.Value} (sound : shape.Sound v) : shape.ofText (shape.encode v).pretty = .ok v := by
  obtain ⟨node, read, shows⟩ := Json.reads_pretty (shape.encode v)
  rw [ofText, read, ofDocument, decode_shown shape plain sound low shows]
  rfl

end QueryWarden.Wire
