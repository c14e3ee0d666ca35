import QueryWarden.Config.Store
import QueryWarden.Proofs.Wire.Reading

/-! Which settings a value gives. Each setting has a place in it: a section, and a name there. The settings
that a value stands for are those that it gives, and the defaults for the others; what else the value
holds does not matter. -/
namespace QueryWarden.Config
open Wire Sql Json

inductive Setting where
  | file
  | modelId
  | endpoint
  | apiKey
  | apiKeyVariable
  | dialect
  | ttlSeconds
  | generationTimeoutMs
  | executionTimeoutMs
  | maxRows
  | busyTimeoutMs
deriving Repr, DecidableEq

def natural? : Json → Option UInt64
  | .num (.int n) => if n < 0 then none else some n.toNat.toUInt64
  | _ => none

def dialect? : Json → Option Dialect
  | .str name | .obj [(name, .null)] => Dialect.all.find? (·.name == name)
  | _ => none

def orNull {α : Type} (read : Json → Option α) : Json → Option (Option α)
  | .null => some none
  | j => (read j).map some

namespace Setting

def all : List Setting :=
  [file, modelId, endpoint, apiKey, apiKeyVariable, dialect, ttlSeconds, generationTimeoutMs,
    executionTimeoutMs, maxRows, busyTimeoutMs]

theorem mem_all (k : Setting) : k ∈ all := by cases k <;> decide

def place : Setting → String
  | file => "database"
  | modelId | endpoint | apiKey | apiKeyVariable => "ai"
  | dialect => "guard"
  | ttlSeconds => "cache"
  | generationTimeoutMs | executionTimeoutMs | maxRows | busyTimeoutMs => "limits"

def key : Setting → String
  | file => "file"
  | modelId => "model_id"
  | endpoint => "endpoint"
  | apiKey => "api_key"
  | apiKeyVariable => "api_key_env"
  | dialect => "dialect"
  | ttlSeconds => "ttl_seconds"
  | generationTimeoutMs => "generation_timeout_ms"
  | executionTimeoutMs => "execution_timeout_ms"
  | maxRows => "max_rows"
  | busyTimeoutMs => "busy_timeout_ms"

def Value : Setting → Type
  | file | modelId | endpoint => String
  | apiKey | apiKeyVariable => Option String
  | dialect => Dialect
  | ttlSeconds | generationTimeoutMs | executionTimeoutMs => UInt64
  | maxRows | busyTimeoutMs => Option UInt64

def get (s : Settings) : (k : Setting) → k.Value
  | file => s.database.file
  | modelId => s.ai.modelId
  | endpoint => s.ai.endpoint
  | apiKey => s.ai.apiKey
  | apiKeyVariable => s.ai.apiKeyVariable
  | dialect => s.guarding.dialect
  | ttlSeconds => s.cache.ttlSeconds
  | generationTimeoutMs => s.limits.generationTimeoutMs
  | executionTimeoutMs => s.limits.executionTimeoutMs
  | maxRows => s.limits.maxRows
  | busyTimeoutMs => s.limits.busyTimeoutMs

def ofJson : (k : Setting) → Json → Option k.Value
  | file | modelId | endpoint => text?
  | apiKey | apiKeyVariable => orNull text?
  | dialect => dialect?
  | ttlSeconds | generationTimeoutMs | executionTimeoutMs => natural?
  | maxRows | busyTimeoutMs => orNull natural?

def at? (k : Setting) (raw : Json) : Option Json := (raw.member? k.place).bind (member? k.key)

/-- A setting has the value that is given for it, or its default if none is. -/
def Given (k : Setting) (found : Option Json) (v : k.Value) : Prop :=
  match found with
  | none => v = get {} k
  | some j => k.ofJson j = some v

theorem Given.unique {k : Setting} {found : Option Json} {v w : k.Value} (hv : k.Given found v)
    (hw : k.Given found w) : v = w := by
  cases found with
  | none => exact Eq.trans hv (Eq.symm hw)
  | some j => exact Option.some.inj ((show k.ofJson j = some v from hv).symm.trans hw)

def assemble (f : (k : Setting) → k.Value) : Settings :=
  ⟨⟨f file⟩, ⟨f modelId, f endpoint, f apiKey, f apiKeyVariable⟩, ⟨f dialect⟩, ⟨f ttlSeconds⟩,
    ⟨f generationTimeoutMs, f executionTimeoutMs, f maxRows, f busyTimeoutMs⟩⟩

theorem get_assemble (f : (k : Setting) → k.Value) (k : Setting) : get (assemble f) k = f k := by
  cases k <;> rfl

theorem ext {s s' : Settings} (same : ∀ k, get s k = get s' k) : s = s' := by
  have rebuilt : ∀ s, assemble (get s) = s := fun _ => rfl
  rw [← rebuilt s, ← rebuilt s', funext same]

end Setting

/-! What is read into a slot is what is given. -/

section
variable {depth : Nat} {shape : Shape} {found : Option Json}

/-- If a shape reads what a setting does, its slot with a default holds the setting as it is given. -/
theorem slot_given {α : Type} {make : shape.Value → α} {read : Json → Option α}
    (agrees : ∀ j, ((shape.decode .value depth (toNode j)).toOption.map make) = read j)
    {usual v : α} : (∃ slot, shape.Slot depth found slot ∧ (slot.map make).getD usual = v) ↔
      match found with
      | none => v = usual
      | some j => read j = some v := by
  cases found with
  | none =>
    constructor
    · rintro ⟨slot, rfl, rfl⟩
      rfl
    · rintro rfl
      exact ⟨none, rfl, rfl⟩
  | some j =>
    dsimp only
    rw [← agrees j, Option.map_eq_some_iff]
    constructor
    · rintro ⟨slot, ⟨w, decoded, rfl⟩, rfl⟩
      exact ⟨w, toOption_eq_some.mpr decoded, rfl⟩
    · rintro ⟨w, decoded, rfl⟩
      exact ⟨some w, ⟨w, toOption_eq_some.mp decoded, rfl⟩, rfl⟩

theorem lenient_given {read : Json → Option shape.Value}
    (agrees : ∀ j, (shape.decode .value depth (toNode j)).toOption = read j) {usual v : shape.Value} :
    (∃ slot, shape.Slot depth found slot ∧ slot.getD usual = v) ↔
      match found with
      | none => v = usual
      | some j => read j = some v := by
  have agrees' : ∀ j, ((shape.decode .value depth (toNode j)).toOption.map fun v => v) = read j := by
    intro j
    rw [Option.map_id', agrees j]
  rw [← slot_given agrees']
  simp only [Option.map_id']

theorem decode_text (wanted : String) (depth : Nat) (j : Json) :
    ((Shape.text wanted).decode .value depth (toNode j)).toOption = j.text? := by
  cases j <;> rfl

theorem decode_natural (kind : String) (depth : Nat) (j : Json) :
    ((Shape.natural kind).decode .value depth (toNode j)).toOption = natural? j := by
  cases j with
  | num n =>
    cases n with
    | int n =>
      rw [natural?]
      change (if n < 0 then Except.error _ else .ok n.toNat.toUInt64).toOption = _
      split_ifs <;> rfl
    | real x => rfl
  | _ => rfl

theorem indexOf?_map {α : Type} (name : String) (f : α → String) (l : List α) :
    (indexOf? name (l.map f)).bind (fun i => l[i.val]?) = l.find? (f · == name) := by
  induction l with
  | nil => rfl
  | cons x l ih =>
    rw [List.find?_cons, ← ih, List.map_cons, indexOf?]
    split_ifs with same
    · simp [same]
    · rw [Option.bind_map, beq_false_of_ne same]
      rfl

/-- A dialect is chosen by its name. -/
theorem chooseVariant_dialect (name : String) (place : Json.Place) :
    (chooseVariant (Dialect.all.map Dialect.name) name place).toOption.map dialectAt =
      Dialect.all.find? (·.name == name) := by
  rw [← indexOf?_map, chooseVariant]
  cases indexOf? name (Dialect.all.map Dialect.name) with
  | none => rfl
  | some i =>
    have bound : i.val < Dialect.all.length := by simpa using i.isLt
    exact (List.getElem?_eq_getElem bound).symm

theorem decode_dialect (depth : Nat) (j : Json) :
    (dialectShape.decode .value depth (toNode j)).toOption.map dialectAt = dialect? j := by
  cases j with
  | str name => exact chooseVariant_dialect name _
  | obj members =>
    match members with
    | [] => rfl
    | [(name, .null)] =>
      refine Eq.trans ?_ (chooseVariant_dialect name .start)
      change ((chooseVariant _ name .start) >>= fun i => .ok i).toOption.map dialectAt = _
      cases chooseVariant (Dialect.all.map Dialect.name) name .start <;> rfl
    | [(name, .bool _)] | [(name, .num _)] | [(name, .str _)] | [(name, .arr _)] | [(name, .obj _)] =>
      change ((chooseVariant _ name .start) >>= fun i => .error _).toOption.map dialectAt = none
      cases chooseVariant (Dialect.all.map Dialect.name) name .start <;> rfl
    | (_, value) :: (_, _) :: _ => cases value <;> rfl
  | _ => rfl

theorem decode_orNull {read : Json → Option shape.Value} {j : Json}
    (agrees : (shape.decode .value depth (toNode j)).toOption = read j) :
    ((Shape.option shape).decode .value depth (toNode j)).toOption = orNull read j := by
  have full : (∀ s, toNode j ≠ .null s) → ((Shape.option shape).decode .value depth (toNode j)).toOption =
      (read j).map some := by
    intro full
    rw [decode_option _ _ _ full, ← agrees]
    exact toOption_map ..
  cases j with
  | null => rfl
  | _ => exact full (by simp [toNode])

theorem optional_given {read : Json → Option shape.Value}
    (agrees : ∀ j, (shape.decode .value depth (toNode j)).toOption = read j) {v : Option shape.Value} :
    (∃ slot, (Shape.option shape).Slot depth found slot ∧ slot.join = v) ↔
      match found with
      | none => v = none
      | some j => orNull read j = some v := by
  have agrees' : ∀ j, ((Shape.option shape).decode .value depth (toNode j)).toOption = orNull read j :=
    fun j => decode_orNull (agrees j)
  refine Iff.trans ?_ (lenient_given agrees')
  refine exists_congr fun slot => and_congr_right fun _ => ?_
  cases slot <;> exact Iff.rfl

/-! A section gives its settings. -/

def within (found : Option Json) (name : String) : Option Json := found.bind (member? name)

/-- A section that is an object or absent is read by its fields; none of them is given if it is absent. -/
theorem section_reads {fields : Fields} (nodup : fields.names.Nodup) (name : String) {α : Type}
    {make : fields.Values → α} {usual : α} (absent : (fields.complete fields.vacant).map make = .ok usual)
    (sound : ∀ j, found = some j → ∃ members, j = .obj members ∧ Ascending members) {x : α} :
    (∃ slot, (Shape.record name true fields).Slot (depth + 1) found slot ∧
      (slot.map make).getD usual = x) ↔
    ∃ vs, fields.Reads depth (within found) vs ∧ make vs = x := by
  cases found with
  | none =>
    obtain ⟨vacant, completed, rfl⟩ := map_eq_ok.mp absent
    have blank : ∀ vs, fields.Reads depth (within none) vs ↔ vacant = vs := fun vs => by
      refine Fields.reads_vacant.trans ?_
      rw [completed, Except.ok.injEq]
    constructor
    · rintro ⟨slot, rfl, rfl⟩
      exact ⟨vacant, (blank vacant).mpr rfl, rfl⟩
    · rintro ⟨vs, reads, rfl⟩
      obtain rfl := (blank vs).mp reads
      exact ⟨none, rfl, rfl⟩
  | some j =>
    obtain ⟨members, rfl, ascending⟩ := sound j rfl
    constructor
    · rintro ⟨slot, ⟨vs, decoded, rfl⟩, rfl⟩
      exact ⟨vs, (record_reads_iff nodup name true ascending).mp decoded, rfl⟩
    · rintro ⟨vs, reads, rfl⟩
      exact ⟨some vs, ⟨vs, (record_reads_iff nodup name true ascending).mpr reads, rfl⟩, rfl⟩

variable {find : String → Option Json}

theorem database_reads {x : DatabaseSettings} :
    (∃ vs, DatabaseSettings.wire.fields.Reads depth find vs ∧ DatabaseSettings.ofValue vs = x) ↔
      Setting.file.Given (find "file") x.file := by
  refine Iff.trans ?_ (lenient_given (decode_text "path string" depth))
  constructor
  · rintro ⟨⟨file, ⟨⟩⟩, ⟨read, -⟩, rfl⟩
    exact ⟨file, read, rfl⟩
  · rintro ⟨file, read, given⟩
    exact ⟨(file, ()), ⟨read, trivial⟩, congrArg DatabaseSettings.mk given⟩

theorem ai_reads {x : AiSettings} :
    (∃ vs, AiSettings.wire.fields.Reads depth find vs ∧ AiSettings.ofValue vs = x) ↔
      Setting.modelId.Given (find "model_id") x.modelId ∧
      Setting.endpoint.Given (find "endpoint") x.endpoint ∧
      Setting.apiKey.Given (find "api_key") x.apiKey ∧
      Setting.apiKeyVariable.Given (find "api_key_env") x.apiKeyVariable := by
  have text := decode_text "a string" depth
  constructor
  · rintro ⟨⟨model, endpoint, key, keyVar, ⟨⟩⟩, ⟨model_read, endpoint_read, key_read, keyVar_read, -⟩, rfl⟩
    exact ⟨(lenient_given text).mp ⟨model, model_read, rfl⟩,
      (lenient_given text).mp ⟨endpoint, endpoint_read, rfl⟩,
      (optional_given text).mp key_read,
      (optional_given text).mp keyVar_read⟩
  · rintro ⟨model_given, endpoint_given, key_given, keyVar_given⟩
    obtain ⟨model, model_read, model_eq⟩ := (lenient_given text).mpr model_given
    obtain ⟨endpoint, endpoint_read, endpoint_eq⟩ := (lenient_given text).mpr endpoint_given
    have key_read := (optional_given text).mpr key_given
    have keyVar_read := (optional_given text).mpr keyVar_given
    refine ⟨(model, endpoint, x.apiKey, x.apiKeyVariable, ()),
      ⟨model_read, endpoint_read, key_read, keyVar_read, trivial⟩, ?_⟩
    exact congrArg₂ (AiSettings.mk · · x.apiKey x.apiKeyVariable) model_eq endpoint_eq

theorem guarding_reads {x : GuardSettings} :
    (∃ vs, GuardSettings.wire.fields.Reads depth find vs ∧ GuardSettings.ofValue vs = x) ↔
      Setting.dialect.Given (find "dialect") x.dialect := by
  have chosen := @slot_given depth dialectShape (find "dialect") _ _ _ (decode_dialect depth) .sqlite x.dialect
  refine Iff.trans ?_ chosen
  constructor
  · rintro ⟨⟨dialect, ⟨⟩⟩, ⟨read, -⟩, rfl⟩
    exact ⟨dialect, read, rfl⟩
  · rintro ⟨dialect, read, given⟩
    exact ⟨(dialect, ()), ⟨read, trivial⟩, congrArg GuardSettings.mk given⟩

theorem cache_reads {x : CacheSettings} :
    (∃ vs, CacheSettings.wire.fields.Reads depth find vs ∧ CacheSettings.ofValue vs = x) ↔
      Setting.ttlSeconds.Given (find "ttl_seconds") x.ttlSeconds := by
  refine Iff.trans ?_ (lenient_given (decode_natural "u64" depth))
  constructor
  · rintro ⟨⟨ttl, ⟨⟩⟩, ⟨read, -⟩, rfl⟩
    exact ⟨ttl, read, rfl⟩
  · rintro ⟨ttl, read, given⟩
    exact ⟨(ttl, ()), ⟨read, trivial⟩, congrArg CacheSettings.mk given⟩

theorem limits_reads {x : LimitSettings} :
    (∃ vs, LimitSettings.wire.fields.Reads depth find vs ∧ LimitSettings.ofValue vs = x) ↔
      Setting.generationTimeoutMs.Given (find "generation_timeout_ms") x.generationTimeoutMs ∧
      Setting.executionTimeoutMs.Given (find "execution_timeout_ms") x.executionTimeoutMs ∧
      Setting.maxRows.Given (find "max_rows") x.maxRows ∧
      Setting.busyTimeoutMs.Given (find "busy_timeout_ms") x.busyTimeoutMs := by
  have u64 := decode_natural "u64" depth
  constructor
  · rintro ⟨⟨generation, execution, rows, busy, ⟨⟩⟩,
      ⟨generation_read, execution_read, rows_read, busy_read, -⟩, rfl⟩
    exact ⟨(lenient_given u64).mp ⟨generation, generation_read, rfl⟩,
      (lenient_given u64).mp ⟨execution, execution_read, rfl⟩,
      (optional_given (decode_natural "usize" depth)).mp rows_read,
      (optional_given u64).mp busy_read⟩
  · rintro ⟨generation_given, execution_given, rows_given, busy_given⟩
    obtain ⟨generation, generation_read, generation_eq⟩ :=
      (lenient_given u64).mpr generation_given
    obtain ⟨execution, execution_read, execution_eq⟩ :=
      (lenient_given u64).mpr execution_given
    have rows_read := (optional_given (decode_natural "usize" depth)).mpr rows_given
    have busy_read := (optional_given u64).mpr busy_given
    refine ⟨(generation, execution, x.maxRows, x.busyTimeoutMs, ()),
      ⟨generation_read, execution_read, rows_read, busy_read, trivial⟩, ?_⟩
    exact congrArg₂ (LimitSettings.mk · · x.maxRows x.busyTimeoutMs) generation_eq execution_eq

/-! What stands at the place of a section is read as its settings, if it is an object or absent. -/

variable (sound : ∀ j, found = some j → ∃ members, j = .obj members ∧ Ascending members)
include sound

theorem database_given {x : DatabaseSettings} :
    (∃ slot, DatabaseSettings.wire.Slot (depth + 1) found slot ∧
      (slot.map DatabaseSettings.ofValue).getD {} = x) ↔ Setting.file.Given (within found "file") x.file :=
  (section_reads (by decide) "DatabaseSettings" rfl sound).trans database_reads

theorem ai_given {x : AiSettings} :
    (∃ slot, AiSettings.wire.Slot (depth + 1) found slot ∧ (slot.map AiSettings.ofValue).getD {} = x) ↔
      Setting.modelId.Given (within found "model_id") x.modelId ∧
      Setting.endpoint.Given (within found "endpoint") x.endpoint ∧
      Setting.apiKey.Given (within found "api_key") x.apiKey ∧
      Setting.apiKeyVariable.Given (within found "api_key_env") x.apiKeyVariable :=
  (section_reads (by decide) "AiSettings" rfl sound).trans ai_reads

theorem guarding_given {x : GuardSettings} :
    (∃ slot, GuardSettings.wire.Slot (depth + 1) found slot ∧ (slot.map GuardSettings.ofValue).getD {} = x) ↔
      Setting.dialect.Given (within found "dialect") x.dialect :=
  (section_reads (by decide) "GuardSettings" rfl sound).trans guarding_reads

theorem cache_given {x : CacheSettings} :
    (∃ slot, CacheSettings.wire.Slot (depth + 1) found slot ∧ (slot.map CacheSettings.ofValue).getD {} = x) ↔
      Setting.ttlSeconds.Given (within found "ttl_seconds") x.ttlSeconds :=
  (section_reads (by decide) "CacheSettings" rfl sound).trans cache_reads

theorem limits_given {x : LimitSettings} :
    (∃ slot, LimitSettings.wire.Slot (depth + 1) found slot ∧ (slot.map LimitSettings.ofValue).getD {} = x) ↔
      Setting.generationTimeoutMs.Given (within found "generation_timeout_ms") x.generationTimeoutMs ∧
      Setting.executionTimeoutMs.Given (within found "execution_timeout_ms") x.executionTimeoutMs ∧
      Setting.maxRows.Given (within found "max_rows") x.maxRows ∧
      Setting.busyTimeoutMs.Given (within found "busy_timeout_ms") x.busyTimeoutMs :=
  (section_reads (by decide) "LimitSettings" rfl sound).trans limits_reads

end

structure Sectioned (raw : Json) : Prop where
  tidy : Tidy raw
  object : ∃ members, raw = .obj members
  sections : ∀ (k : Setting) (j : Json), raw.member? k.place = some j → ∃ members, j = .obj members

theorem Sectioned.members {raw : Json} (h : Sectioned raw) (k : Setting) :
    ∀ j, raw.member? k.place = some j → ∃ members, j = .obj members ∧ Ascending members := by
  intro j found
  obtain ⟨members, rfl⟩ := h.sections k j found
  obtain ⟨all, rfl⟩ := h.object
  exact ⟨members, rfl, (h.tidy.lookup found).ascending⟩

theorem ofRaw_eq_ok {raw : Json} {s : Settings} :
    ofRaw raw = .ok s ↔ ∃ vs, Settings.wire.decode .value depthLimit (toNode raw) = .ok vs ∧
      Settings.ofValue vs = s := by
  rw [ofRaw, Shape.ofJson]
  cases Settings.wire.decode .value depthLimit (toNode raw) with
  | error f => simp [Except.mapError]
  | ok vs => simp [Except.mapError]

/-- Settings are read section by section. -/
theorem ofRaw_sections {members : List (String × Json)} (ascending : Ascending members) {s : Settings} :
    ofRaw (.obj members) = .ok s ↔
      (∃ slot, DatabaseSettings.wire.Slot 126 (lookup "database" members) slot ∧
        (slot.map DatabaseSettings.ofValue).getD {} = s.database) ∧
      (∃ slot, AiSettings.wire.Slot 126 (lookup "ai" members) slot ∧
        (slot.map AiSettings.ofValue).getD {} = s.ai) ∧
      (∃ slot, GuardSettings.wire.Slot 126 (lookup "guard" members) slot ∧
        (slot.map GuardSettings.ofValue).getD {} = s.guarding) ∧
      (∃ slot, CacheSettings.wire.Slot 126 (lookup "cache" members) slot ∧
        (slot.map CacheSettings.ofValue).getD {} = s.cache) ∧
      (∃ slot, LimitSettings.wire.Slot 126 (lookup "limits" members) slot ∧
        (slot.map LimitSettings.ofValue).getD {} = s.limits) := by
  have names : Settings.wire.fields.names.Nodup := by decide
  rw [ofRaw_eq_ok]
  constructor
  · rintro ⟨vs, decoded, rfl⟩
    obtain ⟨database, ai, guarding, cache, limits, ⟨⟩⟩ := vs
    obtain ⟨d, a, g, c, l, -⟩ := (record_reads_iff names "AppConfig" true ascending).mp decoded
    exact ⟨⟨database, d, rfl⟩, ⟨ai, a, rfl⟩, ⟨guarding, g, rfl⟩, ⟨cache, c, rfl⟩, ⟨limits, l, rfl⟩⟩
  · rintro ⟨⟨database, d, hd⟩, ⟨ai, a, ha⟩, ⟨guarding, g, hg⟩, ⟨cache, c, hc⟩, ⟨limits, l, hl⟩⟩
    refine ⟨(database, ai, guarding, cache, limits, ()),
      (record_reads_iff names "AppConfig" true ascending).mpr ⟨d, a, g, c, l, trivial⟩, ?_⟩
    change (⟨(database.map DatabaseSettings.ofValue).getD {}, (ai.map AiSettings.ofValue).getD {},
      (guarding.map GuardSettings.ofValue).getD {}, (cache.map CacheSettings.ofValue).getD {},
      (limits.map LimitSettings.ofValue).getD {}⟩ : Settings) = s
    rw [hd, ha, hg, hc, hl]

/-- A value stands for the settings that it gives, with the defaults for the others. -/
theorem ofRaw_iff {raw : Json} (h : Sectioned raw) {s : Settings} :
    ofRaw raw = .ok s ↔ ∀ k : Setting, k.Given (k.at? raw) (k.get s) := by
  obtain ⟨members, rfl⟩ := h.object
  refine (ofRaw_sections h.tidy.ascending).trans (Iff.trans (and_congr
    (database_given (h.members .file)) (and_congr (ai_given (h.members .modelId)) (and_congr
    (guarding_given (h.members .dialect)) (and_congr (cache_given (h.members .ttlSeconds))
    (limits_given (h.members .maxRows)))))) ?_)
  constructor
  · rintro ⟨file, ⟨model, endpoint, apiKey, apiKeyVariable⟩, dialect, ttl,
      ⟨generation, execution, rows, busy⟩⟩ k
    cases k with
    | file => exact file
    | modelId => exact model
    | endpoint => exact endpoint
    | apiKey => exact apiKey
    | apiKeyVariable => exact apiKeyVariable
    | dialect => exact dialect
    | ttlSeconds => exact ttl
    | generationTimeoutMs => exact generation
    | executionTimeoutMs => exact execution
    | maxRows => exact rows
    | busyTimeoutMs => exact busy
  · intro given
    exact ⟨given .file, ⟨given .modelId, given .endpoint, given .apiKey, given .apiKeyVariable⟩,
      given .dialect, given .ttlSeconds, ⟨given .generationTimeoutMs, given .executionTimeoutMs,
      given .maxRows, given .busyTimeoutMs⟩⟩

end QueryWarden.Config
