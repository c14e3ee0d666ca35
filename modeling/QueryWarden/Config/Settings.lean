import QueryWarden.Failure
import QueryWarden.Json.Printer
import QueryWarden.Sql.Dialect
import QueryWarden.Wire.Shape

/-! Settings: every section and every setting may be absent and then stands for its default. -/
namespace QueryWarden.Config
open Wire Sql

structure DatabaseSettings where
  file : String := "sqlsentry.db"
deriving Repr, DecidableEq

structure AiSettings where
  modelId : String := ""
  endpoint : String := "http://localhost:11434/v1"
  apiKey : Option String := none
  apiKeyVariable : Option String := none
deriving Repr, DecidableEq

structure GuardSettings where
  dialect : Dialect := .sqlite
deriving Repr, DecidableEq

structure CacheSettings where
  ttlSeconds : UInt64 := 3600
deriving Repr, DecidableEq

structure LimitSettings where
  generationTimeoutMs : UInt64 := 60000
  executionTimeoutMs : UInt64 := 30000
  maxRows : Option UInt64 := none
  busyTimeoutMs : Option UInt64 := none
deriving Repr, DecidableEq

structure Settings where
  database : DatabaseSettings := {}
  ai : AiSettings := {}
  guarding : GuardSettings := {}
  cache : CacheSettings := {}
  limits : LimitSettings := {}
deriving Repr, DecidableEq

def CacheSettings.ttl (c : CacheSettings) : Nat := 1000 * c.ttlSeconds.toNat

abbrev dialectShape : Shape := .variant (Dialect.all.map Dialect.name)

abbrev DatabaseSettings.wire : Shape :=
  .record "DatabaseSettings" true <| .lenient "file" (.text "path string") .nil

abbrev AiSettings.wire : Shape :=
  .record "AiSettings" true <|
    .lenient "model_id" .plainText <|
    .lenient "endpoint" .plainText <|
    .optional "api_key" .plainText <|
    .optional "api_key_env" .plainText .nil

abbrev GuardSettings.wire : Shape :=
  .record "GuardSettings" true <| .lenient "dialect" dialectShape .nil

abbrev CacheSettings.wire : Shape :=
  .record "CacheSettings" true <| .lenient "ttl_seconds" (.natural "u64") .nil

abbrev LimitSettings.wire : Shape :=
  .record "LimitSettings" true <|
    .lenient "generation_timeout_ms" (.natural "u64") <|
    .lenient "execution_timeout_ms" (.natural "u64") <|
    .optional "max_rows" (.natural "usize") <|
    .optional "busy_timeout_ms" (.natural "u64") .nil

abbrev Settings.wire : Shape :=
  .record "AppConfig" true <|
    .lenient "database" DatabaseSettings.wire <|
    .lenient "ai" AiSettings.wire <|
    .lenient "guard" GuardSettings.wire <|
    .lenient "cache" CacheSettings.wire <|
    .lenient "limits" LimitSettings.wire .nil

def dialectIndex (d : Dialect) : Fin (Dialect.all.map Dialect.name).length :=
  match d with
  | .sqlite => ⟨0, by decide⟩
  | .postgres => ⟨1, by decide⟩
  | .mysql => ⟨2, by decide⟩
  | .mssql => ⟨3, by decide⟩
  | .generic => ⟨4, by decide⟩

def dialectAt (i : Fin (Dialect.all.map Dialect.name).length) : Dialect :=
  Dialect.all.get ⟨i.val, by simpa using i.isLt⟩

theorem dialectAt_dialectIndex (d : Dialect) : dialectAt (dialectIndex d) = d := by
  cases d <;> rfl

def DatabaseSettings.ofValue : DatabaseSettings.wire.Value → DatabaseSettings
  | (file, ()) =>
    let usual : DatabaseSettings := {}
    ⟨file.getD usual.file⟩

def AiSettings.ofValue : AiSettings.wire.Value → AiSettings
  | (model, endpoint, key, keyVariable, ()) =>
    let usual : AiSettings := {}
    ⟨model.getD usual.modelId, endpoint.getD usual.endpoint, key, keyVariable⟩

def GuardSettings.ofValue : GuardSettings.wire.Value → GuardSettings
  | (dialect, ()) =>
    let usual : GuardSettings := {}
    ⟨(dialect.map dialectAt).getD usual.dialect⟩

def CacheSettings.ofValue : CacheSettings.wire.Value → CacheSettings
  | (ttl, ()) =>
    let usual : CacheSettings := {}
    ⟨ttl.getD usual.ttlSeconds⟩

def LimitSettings.ofValue : LimitSettings.wire.Value → LimitSettings
  | (generation, execution, rows, busy, ()) =>
    let usual : LimitSettings := {}
    ⟨generation.getD usual.generationTimeoutMs, execution.getD usual.executionTimeoutMs, rows, busy⟩

namespace Settings

def ofValue : wire.Value → Settings
  | (database, ai, guarding, cache, limits, ()) =>
    ⟨(database.map DatabaseSettings.ofValue).getD {}, (ai.map AiSettings.ofValue).getD {},
      (guarding.map GuardSettings.ofValue).getD {}, (cache.map CacheSettings.ofValue).getD {},
      (limits.map LimitSettings.ofValue).getD {}⟩

/-- The fields of settings as they are written: all of them, except limits and keys that are absent. -/
def toValue (s : Settings) : wire.Value :=
  (some (some s.database.file, ()),
    some (some s.ai.modelId, some s.ai.endpoint, s.ai.apiKey, s.ai.apiKeyVariable, ()),
    some (some (dialectIndex s.guarding.dialect), ()),
    some (some s.cache.ttlSeconds, ()),
    some (some s.limits.generationTimeoutMs, some s.limits.executionTimeoutMs, s.limits.maxRows,
      s.limits.busyTimeoutMs, ()), ())

theorem ofValue_toValue (s : Settings) : ofValue s.toValue = s := by
  have h : (⟨dialectAt (dialectIndex s.guarding.dialect)⟩ : GuardSettings) = s.guarding := by
    rw [dialectAt_dialectIndex]
  show (⟨_, _, ⟨dialectAt (dialectIndex s.guarding.dialect)⟩, _, _⟩ : Settings) = s
  rw [h]
  rfl

def toJson (s : Settings) : Json := wire.encode s.toValue

end Settings

/-- The key for the generator: that of the variable where one is named, which then has to be set. -/
def AiSettings.resolveKey (ai : AiSettings) (readVariable : String → Option String) :
    Except Failure (Option String) :=
  match ai.apiKeyVariable with
  | none => .ok ai.apiKey
  | some name =>
    match readVariable name with
    | some key => .ok (some key)
    | none =>
      .error (.configuration ("Environment variable " ++ name ++ " not found for API key"))

end QueryWarden.Config
