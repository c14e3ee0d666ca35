import Mathlib.Tactic.Choose
import QueryWarden.Proofs.Config.Layering
import QueryWarden.Proofs.Files.Writing
import QueryWarden.Proofs.Text.Utf8
import QueryWarden.Proofs.Wire.Written

/-! Settings that are saved and loaded again. A file holds every setting but the options that are absent, so
that alone it gives the settings back. Laid over another file it does not: what the lower file gives for an
absent option shows through. -/
namespace QueryWarden.Config
open Files Json Wire Sql

namespace Setting

/-- What is written for the value of a setting: nothing for an option that is absent. -/
def toJson? : (k : Setting) → k.Value → Option Json
  | file, (v : String) | modelId, (v : String) | endpoint, (v : String) => some (.str v)
  | apiKey, (v : Option String) | apiKeyVariable, (v : Option String) => v.map .str
  | dialect, (d : Dialect) => some (.str d.name)
  | ttlSeconds, (n : UInt64) | generationTimeoutMs, (n : UInt64) | executionTimeoutMs, (n : UInt64) =>
    some (.nat n.toNat)
  | maxRows, (v : Option UInt64) | busyTimeoutMs, (v : Option UInt64) => v.map fun n => .nat n.toNat

variable {k : Setting} {v : k.Value} {j : Json}

/-- What is written for a setting is a text or a number. -/
theorem toJson?_scalar (written : k.toJson? v = some j) : (∃ s, j = .str s) ∨ ∃ n, j = .nat n := by
  cases k with
  | file | modelId | endpoint | dialect =>
    cases written
    exact .inl ⟨_, rfl⟩
  | ttlSeconds | generationTimeoutMs | executionTimeoutMs =>
    cases written
    exact .inr ⟨_, rfl⟩
  | apiKey | apiKeyVariable =>
    obtain ⟨s, -, rfl⟩ := Option.map_eq_some_iff.mp written
    exact .inl ⟨s, rfl⟩
  | maxRows | busyTimeoutMs =>
    obtain ⟨n, -, rfl⟩ := Option.map_eq_some_iff.mp written
    exact .inr ⟨n.toNat, rfl⟩

theorem sorted_of_toJson? (written : k.toJson? v = some j) : sorted j = j := by
  obtain ⟨s, rfl⟩ | ⟨n, rfl⟩ := toJson?_scalar written
  · simp [sorted]
  · simp [sorted, Json.nat]

theorem leaf_of_toJson? (written : k.toJson? v = some j) (members : List (String × Json)) :
    j ≠ .obj members := by
  obtain ⟨s, rfl⟩ | ⟨n, rfl⟩ := toJson?_scalar written <;> exact nofun

theorem natural?_nat (n : UInt64) : natural? (.nat n.toNat) = some n := by
  have nonneg : ¬ (n.toNat : Int) < 0 := by omega
  simp [natural?, Json.nat]

theorem ofJson_toJson? (written : k.toJson? v = some j) : k.ofJson j = some v := by
  cases k with
  | file | modelId | endpoint =>
    cases written
    rfl
  | dialect =>
    cases written
    cases v <;> rfl
  | ttlSeconds | generationTimeoutMs | executionTimeoutMs =>
    cases written
    exact natural?_nat v
  | apiKey | apiKeyVariable =>
    obtain ⟨s, rfl, rfl⟩ := Option.map_eq_some_iff.mp written
    rfl
  | maxRows | busyTimeoutMs =>
    obtain ⟨n, rfl, rfl⟩ := Option.map_eq_some_iff.mp written
    exact congrArg (Option.map some) (natural?_nat n)

theorem default_of_toJson? (silent : k.toJson? v = none) : v = get {} k := by
  cases k with
  | apiKey | apiKeyVariable | maxRows | busyTimeoutMs => exact Option.map_eq_none_iff.mp silent
  | _ => cases silent

theorem ofJson_absent_iff (silent : k.toJson? v = none) : k.ofJson j = some v ↔ j = .null := by
  have unread : ∀ {α : Type} {read : Json → Option α}, read .null = none →
      (orNull read j = some none ↔ j = .null) := by
    intro α read blank
    cases j with
    | null => simp [orNull]
    | _ => simp [orNull]
  cases k with
  | apiKey | apiKeyVariable | maxRows | busyTimeoutMs =>
    obtain rfl := Option.map_eq_none_iff.mp silent
    exact unread rfl
  | _ => cases silent

/-- A value is given by what is written for it. -/
theorem given_toJson? (k : Setting) (v : k.Value) : k.Given (k.toJson? v) v := by
  cases written : k.toJson? v with
  | none => exact default_of_toJson? written
  | some j => exact ofJson_toJson? written

theorem at?_toJson (k : Setting) (s : Settings) : k.at? s.toJson = k.toJson? (k.get s) := by
  obtain ⟨⟨file⟩, ⟨model, endpoint, key, keyVar⟩, ⟨dialect⟩, ⟨ttl⟩, ⟨generation, execution, rows, busy⟩⟩ := s
  cases k with
  | file | ttlSeconds => rfl
  | dialect => cases dialect <;> rfl
  | modelId | endpoint | apiKey | apiKeyVariable => cases key <;> cases keyVar <;> rfl
  | generationTimeoutMs | executionTimeoutMs | maxRows | busyTimeoutMs => cases rows <;> cases busy <;> rfl

/-- In the unordered value a setting has what is written for it. -/
theorem at?_sorted (k : Setting) (s : Settings) : k.at? (sorted s.toJson) = k.toJson? (k.get s) := by
  have unsorted : k.at? (sorted s.toJson) = (k.at? s.toJson).map sorted := by
    rw [at?, at?, member?_sorted, Option.bind_map, Option.map_bind]
    exact congrArg _ (funext fun inner => member?_sorted k.key inner)
  rw [unsorted, at?_toJson]
  cases written : k.toJson? (k.get s) with
  | none => rfl
  | some j => rw [Option.map_some, sorted_of_toJson? written]

end Setting

variable {files files' : Tree} {path globalPath localPath : String} {s sg : Settings} {base : Json}

theorem section_sorted (s : Settings) (k : Setting) :
    ∃ members, (sorted s.toJson).member? k.place = some (.obj members) := by
  have written : ∃ members, s.toJson.member? k.place = some (.obj members) := by
    cases k <;> exact ⟨_, rfl⟩
  obtain ⟨members, found⟩ := written
  refine ⟨sortMembers (sortedMembers members), ?_⟩
  rw [member?_sorted, found, Option.map_some, sorted]

theorem sorted_object (s : Settings) : ∃ members, sorted s.toJson = .obj members :=
  ⟨_, by rw [show s.toJson = .obj (Settings.wire.fields.encode s.toValue) from rfl, sorted]⟩

theorem save_eq_ok : save files path s = .ok files' ↔
    ∃ made, files.makeParent path = .ok made ∧ made.write path (document s) = .ok files' := by
  unfold save
  cases files.makeParent path with
  | error e => simp
  | ok made =>
    cases wrote : made.write path (document s) with
    | error e => simp [wrote]
    | ok there => simp [wrote]

theorem readText_of_write {text : String} (wrote : files.write path (Text.Utf8.bytes text) = .ok files') :
    readText files' path = .ok text := by
  rw [readText, Tree.read_of_write wrote]
  simp only [Text.Utf8.bytes, Text.Utf8.decode_encode, String.ofList_toList]

/-- A saved file is read as the settings that were saved. -/
theorem readRaw_of_save (saved : save files path s = .ok files') :
    readRaw files' path = .ok (sorted s.toJson) := by
  obtain ⟨made, -, wrote⟩ := save_eq_ok.mp saved
  have text : readText files' path = .ok s.toJson.pretty := readText_of_write wrote
  -- settings open two levels, so that a document of them is never too deep to be read
  have low : Exact depthLimit s.toJson := (Shape.exact_encode Settings.wire rfl s.toValue).mono (by decide)
  have read : parse s.toJson.pretty = .ok (sorted s.toJson) := parse_pretty low
  obtain ⟨members, object⟩ := sorted_object s
  rw [object] at read ⊢
  rw [readRaw, Tree.exists?_of_write wrote, text]
  simp only [read, Bool.not_true, Bool.false_eq_true, if_false]

theorem plain_sorted (s : Settings) : Plain (sorted s.toJson) where
  sections k j found := by
    obtain ⟨members, there⟩ := section_sorted s k
    exact ⟨members, Option.some.inj (found.symm.trans there)⟩
  leaves k j given := by
    rw [Setting.at?_sorted] at given
    exact Setting.leaf_of_toJson? given

/-- Settings that are saved to a file are loaded from it, each with its value. -/
theorem saved_settings_load (saved : save files path s = .ok files') : load files' path = .ok s := by
  refine (load_iff (readRaw_of_save saved) (plain_sorted s)).mpr fun k => ?_
  rw [Setting.at?_sorted]
  exact Setting.given_toJson? k _

def keyedFile : Tree where
  entries := [(["g"], .file (Text.Utf8.bytes "\x7b\"ai\":\x7b\"api_key_env\":\"EXAMPLE_KEY\"\x7d\x7d"))]
  current := []

def keyedSettings : Settings := { ai := { apiKeyVariable := some "EXAMPLE_KEY" } }

def keptKeyed (kept : Except Failure Tree) : Bool :=
  kept.toOption.any fun files =>
    readsOnly files "g" [.apiKeyVariable] && decide (load files "g" = .ok keyedSettings)

theorem keyed_of_save {kept : Except Failure Tree} (h : keptKeyed kept = true) :
    ∃ files, kept = .ok files ∧ readsOnly files "g" [.apiKeyVariable] = true ∧
      load files "g" = .ok keyedSettings := by
  cases kept with
  | error e => cases h
  | ok files =>
    obtain ⟨gives, accepted⟩ := Bool.and_eq_true_iff.mp h
    exact ⟨files, rfl, gives, of_decide_eq_true accepted⟩

def fullSettings : Settings where
  database := { file := "a \"b\"\t\u00e9.db" }
  ai := { apiKeyVariable := some "" }
  guarding := { dialect := .mssql }
  limits := { maxRows := some 18446744073709551615 }

theorem full_settings_load :
    ∃ files', save keyedFile "a/b.json" fullSettings = .ok files' ∧ load files' "a/b.json" = .ok fullSettings := by
  have kept : (save keyedFile "a/b.json" fullSettings).toOption.isSome = true := by decide +kernel
  obtain ⟨files', there⟩ := Option.isSome_iff_exists.mp kept
  have saved := toOption_eq_some.mp there
  exact ⟨files', saved, saved_settings_load saved⟩

/-! A saved file over another one. -/

/-- Of a value that is accepted, a section that is an object gives its settings. -/
theorem given_of_accepted {members : List (String × Json)} (ascending : Ascending members)
    (accepted : ofRaw (.obj members) = .ok sg) (k : Setting)
    (sound : ∀ j, lookup k.place members = some j → ∃ inner, j = .obj inner ∧ Ascending inner) :
    k.Given (k.at? (.obj members)) (k.get sg) := by
  obtain ⟨database, ai, guarding, cache, limits⟩ := (ofRaw_sections ascending).mp accepted
  cases k with
  | file => exact (database_given sound).mp database
  | modelId => exact ((ai_given sound).mp ai).1
  | endpoint => exact ((ai_given sound).mp ai).2.1
  | apiKey => exact ((ai_given sound).mp ai).2.2.1
  | apiKeyVariable => exact ((ai_given sound).mp ai).2.2.2
  | dialect => exact (guarding_given sound).mp guarding
  | ttlSeconds => exact (cache_given sound).mp cache
  | generationTimeoutMs => exact ((limits_given sound).mp limits).1
  | executionTimeoutMs => exact ((limits_given sound).mp limits).2.1
  | maxRows => exact ((limits_given sound).mp limits).2.2.1
  | busyTimeoutMs => exact ((limits_given sound).mp limits).2.2.2

theorem ofJson_of_accepted {members : List (String × Json)} (tidy : Tidy (.obj members))
    (accepted : ofRaw (.obj members) = .ok sg) {k : Setting} {j : Json}
    (given : k.at? (.obj members) = some j) : k.ofJson j = some (k.get sg) := by
  obtain ⟨value, there, inside⟩ := Option.bind_eq_some_iff.mp given
  cases value with
  | obj inner =>
    have sound : ∀ j', lookup k.place members = some j' → ∃ inner, j' = .obj inner ∧ Ascending inner := by
      intro j' found
      obtain rfl := Option.some.inj (there.symm.trans found)
      exact ⟨inner, rfl, (tidy.lookup there).ascending⟩
    have read := given_of_accepted tidy.ascending accepted k sound
    rw [given] at read
    exact read
  -- a section may be written as a list, which gives nothing by name
  | _ => cases inside

/-- Saved settings laid over any object have objects for sections. -/
theorem sectioned_overlay_sorted {below : List (String × Json)} (tidy : Tidy (.obj below))
    (reads : readRaw files path = .ok (sorted s.toJson)) : Sectioned (overlay (.obj below) (sorted s.toJson)) := by
  obtain ⟨higher, members, same⟩ := readRaw_spec reads
  refine ⟨tidy_overlay tidy higher, ⟨_, by rw [same, overlay_obj]⟩, fun k j found => ?_⟩
  obtain ⟨inner, there⟩ := section_sorted s k
  rw [same] at higher there
  rw [same, overlay_obj, member?, lookup_overlayMembers tidy.ascending higher.ascending,
    show lookup k.place members = some (.obj inner) from there, Option.map_some, Option.some_or] at found
  cases found
  -- over an object the saved section is merged into it, and anything else it replaces
  cases lookup k.place below with
  | none => exact ⟨inner, rfl⟩
  | some old =>
    cases old with
    | obj outer => exact ⟨_, overlay_obj ..⟩
    | _ => exact ⟨inner, rfl⟩

/-- Each layered setting is the one that was saved, if it was written, else as the global file gives it. -/
theorem loadLayered_saved_iff (saved : save files localPath s = .ok files')
    (reads : readRaw files' globalPath = .ok base) {t : Settings} :
    loadLayered files' globalPath localPath = .ok t ↔
      ∀ k : Setting, k.Given ((k.toJson? (k.get s)).or (k.at? base)) (k.get t) := by
  obtain ⟨tidy, below, rfl⟩ := readRaw_spec reads
  have upper := readRaw_of_save saved
  have plain := plain_sorted s
  have loads : loadLayered files' globalPath localPath = ofRaw (overlay (.obj below) (sorted s.toJson)) := by
    rw [loadLayered, reads, upper]
    simp only [bind, Except.bind]
  rw [loads, ofRaw_iff (sectioned_overlay_sorted tidy upper)]
  refine forall_congr' fun k => ?_
  rw [at?_overlay tidy (plain.sectioned upper) plain.leaves, Setting.at?_sorted]

/-- Settings saved to the local file have their values in the layered ones, but for the options that are absent
in them: those are as the global file gives them. So the layered settings are the saved ones exactly if the
global file has nothing but `null` for the absent options. -/
theorem saved_settings_hold_iff (saved : save files localPath s = .ok files')
    (reads : readRaw files' globalPath = .ok base) (accepted : load files' globalPath = .ok sg) :
    ∃ t, loadLayered files' globalPath localPath = .ok t ∧
      (∀ k : Setting, k.toJson? (k.get s) ≠ none → k.get t = k.get s) ∧
      (∀ k : Setting, k.toJson? (k.get s) = none → k.Given (k.at? base) (k.get t)) ∧
      (t = s ↔ ∀ (k : Setting) (j : Json), k.toJson? (k.get s) = none → k.at? base = some j → j = .null) := by
  have accepts : ofRaw base = .ok sg := by
    rw [load, reads] at accepted
    exact accepted
  have each (k : Setting) : ∃ v, k.Given ((k.toJson? (k.get s)).or (k.at? base)) v := by
    cases written : k.toJson? (k.get s) with
    | some j => exact ⟨k.get s, Setting.ofJson_toJson? written⟩
    | none =>
      cases below : k.at? base with
      | some j =>
        obtain ⟨tidy, members, rfl⟩ := readRaw_spec reads
        exact ⟨k.get sg, ofJson_of_accepted tidy accepts below⟩
      | none => exact ⟨k.get {}, rfl⟩
  choose chosen chosen_given using each
  have given (k : Setting) :
      k.Given ((k.toJson? (k.get s)).or (k.at? base)) (k.get (Setting.assemble chosen)) := by
    rw [Setting.get_assemble]
    exact chosen_given k
  have loads := (loadLayered_saved_iff saved reads).mpr given
  refine ⟨Setting.assemble chosen, loads, fun k written => ?_, fun k silent => ?_, ?_⟩
  · obtain ⟨j, some_j⟩ := Option.ne_none_iff_exists'.mp written
    have here := given k
    rw [some_j] at here
    exact Setting.Given.unique here (Setting.ofJson_toJson? some_j)
  · have here := given k
    rw [silent] at here
    exact here
  · -- both are settings that the same value stands for, so they agree exactly if the saved ones fit it too
    have same_iff : Setting.assemble chosen = s ↔ loadLayered files' globalPath localPath = .ok s := by
      rw [loads, Except.ok.injEq]
    rw [same_iff, loadLayered_saved_iff saved reads]
    refine forall_congr' fun k => ?_
    cases written : k.toJson? (k.get s) with
    | some j => simpa [Setting.Given] using Setting.ofJson_toJson? written
    | none =>
      cases below : k.at? base with
      | none => simpa [Setting.Given] using Setting.default_of_toJson? written
      | some j => simpa [Setting.Given] using Setting.ofJson_absent_iff written

/-- Settings that name a variable hold over a file that names another one. -/
theorem full_settings_hold :
    ∃ files', save keyedFile "l" fullSettings = .ok files' ∧
      loadLayered files' "g" "l" = .ok fullSettings := by
  obtain ⟨files', saved, gives, accepted⟩ := keyed_of_save
    (show keptKeyed (save keyedFile "l" fullSettings) = true by decide +kernel)
  obtain ⟨base, reads, -, only⟩ := of_readsOnly gives
  obtain ⟨t, loads, -, -, same⟩ := saved_settings_hold_iff saved reads accepted
  obtain rfl := same.mpr fun k j silent given => by
    obtain rfl := List.mem_singleton.mp ((only k).mpr ⟨j, given⟩)
    cases silent
  exact ⟨files', saved, loads⟩

/-- Without a variable in them, saved settings are laid over a file that names one, and the variable is back. -/
theorem blanked_variable_back :
    ∃ files', save keyedFile "l" {} = .ok files' ∧ load files' "g" = .ok keyedSettings ∧
      loadLayered files' "g" "l" = .ok keyedSettings ∧ loadLayered files' "g" "l" ≠ .ok {} := by
  obtain ⟨files', saved, gives, accepted⟩ := keyed_of_save
    (show keptKeyed (save keyedFile "l" {}) = true by decide +kernel)
  obtain ⟨base, reads, plain, -⟩ := of_readsOnly gives
  have layered : loadLayered files' "g" "l" = .ok keyedSettings := by
    refine (loadLayered_saved_iff saved reads).mpr fun k => ?_
    have given := (load_iff reads plain).mp accepted k
    cases k with
    | apiKey | apiKeyVariable | maxRows | busyTimeoutMs => exact given
    | _ => rfl
  refine ⟨files', saved, accepted, layered, ?_⟩
  rw [layered]
  decide

end QueryWarden.Config
