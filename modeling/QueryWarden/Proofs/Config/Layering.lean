import QueryWarden.Proofs.Config.Given
import QueryWarden.Proofs.Config.Overlay

/-! Two files of settings, one laid over the other: each setting is the upper file's if that gives it,
else the lower one's if that does, else the default. -/
namespace QueryWarden.Config
open Files Json

variable {files : Tree} {path globalPath localPath : String} {raw base upper : Json}

/-- Sections are objects, and what stands at the place of a setting is none. -/
structure Plain (raw : Json) : Prop where
  sections : ∀ (k : Setting) (j : Json), raw.member? k.place = some j → ∃ members, j = .obj members
  leaves : ∀ (k : Setting) (j : Json), k.at? raw = some j → ∀ members, j ≠ .obj members

theorem readRaw_spec (h : readRaw files path = .ok raw) : Tidy raw ∧ ∃ members, raw = .obj members := by
  unfold readRaw at h
  split at h
  · cases h
    exact ⟨.obj ascending_nil (by simp), [], rfl⟩
  · split at h
    · cases h
    · split at h
      · cases h
      · rename_i parsed
        cases h
        exact ⟨tidy_parse parsed, _, rfl⟩
      · cases h

theorem Plain.sectioned (h : Plain raw) (reads : readRaw files path = .ok raw) : Sectioned raw :=
  ⟨(readRaw_spec reads).1, (readRaw_spec reads).2, h.sections⟩

/-- What a section has of its names, once another is laid over it. -/
theorem member?_atop_leaf {below : Option Json} {members : List (String × Json)}
    (sound : ∀ old, below = some (.obj old) → Ascending old) (ascending : Ascending members)
    {name : String} (leaf : ∀ j, lookup name members = some j → ∀ inner, j ≠ .obj inner) :
    (atop below (.obj members)).member? name = (lookup name members).or (below.bind (member? name)) := by
  rw [member?_atop sound ascending]
  cases found : lookup name members with
  | none => rfl
  | some v =>
    rw [Option.map_some, atop_leaf _ (leaf v found)]

/-- A setting is given by the upper value, if that gives it, else by the lower one. -/
theorem at?_overlay {below : List (String × Json)} (lower : Tidy (.obj below)) (higher : Sectioned upper)
    (leaves : ∀ (k : Setting) (j : Json), k.at? upper = some j → ∀ members, j ≠ .obj members)
    (k : Setting) : k.at? (overlay (.obj below) upper) = (k.at? upper).or (k.at? (.obj below)) := by
  obtain ⟨members, rfl⟩ := higher.object
  have merged : (overlay (.obj below) (.obj members)).member? k.place =
      ((lookup k.place members).map (atop (lookup k.place below))).or (lookup k.place below) := by
    rw [overlay_obj]
    exact lookup_overlayMembers lower.ascending higher.tidy.ascending k.place
  cases found : lookup k.place members with
  | none =>
    have silent : k.at? (.obj members) = none := by
      rw [Setting.at?, member?, found]
      rfl
    rw [silent, Option.none_or, Setting.at?, merged, found]
    rfl
  | some value =>
    obtain ⟨inner, rfl, ascending⟩ := higher.members k value found
    have speaks : k.at? (.obj members) = lookup k.key inner := by
      rw [Setting.at?, member?, found]
      rfl
    rw [speaks, Setting.at?, merged, found]
    refine member?_atop_leaf (fun old there => (lower.lookup there).ascending) ascending fun j given => leaves k j ?_
    rw [speaks, given]

theorem Sectioned.overlay (lower : Sectioned base) (higher : Sectioned upper) :
    Sectioned (overlay base upper) := by
  obtain ⟨below, rfl⟩ := lower.object
  obtain ⟨members, rfl⟩ := higher.object
  refine ⟨tidy_overlay lower.tidy higher.tidy, ⟨_, overlay_obj ..⟩, fun k j found => ?_⟩
  rw [overlay_obj, member?, lookup_overlayMembers lower.tidy.ascending higher.tidy.ascending] at found
  cases there : lookup k.place members with
  | none =>
    rw [there] at found
    exact lower.sections k j found
  | some value =>
    obtain ⟨inner, rfl⟩ := higher.sections k value there
    rw [there] at found
    cases found
    cases old : lookup k.place below with
    | none => exact ⟨inner, rfl⟩
    | some value =>
      obtain ⟨outer, rfl⟩ := lower.sections k value old
      exact ⟨_, overlay_obj ..⟩

/-- The settings of two files are those that each gives. -/
theorem loadLayered_iff (lower : readRaw files globalPath = .ok base)
    (higher : readRaw files localPath = .ok upper) (plain : Plain base) (plain' : Plain upper)
    {s : Settings} : loadLayered files globalPath localPath = .ok s ↔
      ∀ k : Setting, k.Given ((k.at? upper).or (k.at? base)) (k.get s) := by
  have below := plain.sectioned lower
  have above := plain'.sectioned higher
  have loads : loadLayered files globalPath localPath = ofRaw (overlay base upper) := by
    rw [loadLayered, lower, higher]
    simp only [bind, Except.bind]
  rw [loads, ofRaw_iff (below.overlay above)]
  obtain ⟨members, rfl⟩ := below.object
  exact forall_congr' fun k => by rw [at?_overlay below.tidy above plain'.leaves]

theorem load_iff (reads : readRaw files path = .ok raw) (plain : Plain raw) {s : Settings} :
    load files path = .ok s ↔ ∀ k : Setting, k.Given (k.at? raw) (k.get s) := by
  rw [load, reads]
  exact ofRaw_iff (plain.sectioned reads)

/-- A setting among those of a global and a local file, which alone have the settings `sg` and `sl`. -/
structure Layered (base upper : Json) (sg sl s : Settings) (k : Setting) : Prop where
  locally : ∀ j, k.at? upper = some j → k.ofJson j = some (k.get s) ∧ k.get s = k.get sl
  globally : ∀ j, k.at? upper = none → k.at? base = some j →
    k.ofJson j = some (k.get s) ∧ k.get s = k.get sg
  nowhere : k.at? upper = none → k.at? base = none → k.get s = k.get {}

/-- If two files with plain settings are accepted alone, they are accepted together: each setting is the
one that the local file stands for if it gives it, else the one of the global file if that gives it, else
the default. What else the files hold, at any level, does not matter. -/
theorem layered_settings {sg sl : Settings} (readsGlobal : readRaw files globalPath = .ok base)
    (readsLocal : readRaw files localPath = .ok upper) (plainGlobal : Plain base)
    (plainLocal : Plain upper) (acceptsGlobal : load files globalPath = .ok sg)
    (acceptsLocal : load files localPath = .ok sl) :
    ∃ s, loadLayered files globalPath localPath = .ok s ∧
      (∀ k : Setting, Layered base upper sg sl s k) ∧
      ∀ (files' : Tree) (globalPath' localPath' : String) (base' upper' : Json),
        readRaw files' globalPath' = .ok base' → readRaw files' localPath' = .ok upper' →
        Plain base' → Plain upper' → (∀ k : Setting, k.at? base' = k.at? base ∧ k.at? upper' = k.at? upper) →
        loadLayered files' globalPath' localPath' = .ok s := by
  have givenGlobal := (load_iff readsGlobal plainGlobal).mp acceptsGlobal
  have givenLocal := (load_iff readsLocal plainLocal).mp acceptsLocal
  let chosen (k : Setting) : k.Value :=
    match k.at? upper, k.at? base with
    | some _, _ => k.get sl
    | none, some _ => k.get sg
    | none, none => k.get {}
  have given : ∀ k : Setting, k.Given ((k.at? upper).or (k.at? base)) (k.get (Setting.assemble chosen)) := by
    intro k
    have fromLocal := givenLocal k
    have fromGlobal := givenGlobal k
    rw [Setting.get_assemble]
    dsimp only [chosen]
    cases above : k.at? upper with
    | some j =>
      rw [above] at fromLocal
      exact fromLocal
    | none =>
      cases below : k.at? base with
      | some j =>
        rw [below] at fromGlobal
        exact fromGlobal
      | none => rfl
  refine ⟨Setting.assemble chosen,
    (loadLayered_iff readsGlobal readsLocal plainGlobal plainLocal).mpr given, fun k => ⟨?_, ?_, ?_⟩, ?_⟩
  · intro j above
    have here := given k
    have fromLocal := givenLocal k
    rw [above] at here fromLocal
    exact ⟨here, here.unique fromLocal⟩
  · intro j above below
    have here := given k
    have fromGlobal := givenGlobal k
    rw [above, below] at here
    rw [below] at fromGlobal
    exact ⟨here, here.unique fromGlobal⟩
  · intro above below
    have here := given k
    rw [above, below] at here
    exact here
  · intro files' globalPath' localPath' base' upper' reads reads' plain plain' same
    refine (loadLayered_iff reads reads' plain plain').mpr fun k => ?_
    rw [(same k).1, (same k).2]
    exact given k

def givesOnly (given : List Setting) (raw : Json) : Bool :=
  Setting.all.all fun k =>
    (match raw.member? k.place with
      | none | some (.obj _) => true
      | _ => false) &&
    match k.at? raw with
      | none => !given.contains k
      | some (.obj _) => false
      | some _ => given.contains k

theorem of_givesOnly {given : List Setting} (h : givesOnly given raw = true) :
    Plain raw ∧ ∀ k, k ∈ given ↔ ∃ j, k.at? raw = some j := by
  have each := fun k => List.all_eq_true.mp h k k.mem_all
  simp only [Bool.and_eq_true] at each
  refine ⟨⟨fun k j found => ?_, fun k j found members same => ?_⟩, fun k => ?_⟩
  · have shaped := (each k).1
    rw [found] at shaped
    cases j with
    | obj members => exact ⟨members, rfl⟩
    | _ => cases shaped
  · have leaf := (each k).2
    rw [found, same] at leaf
    cases leaf
  · have told := (each k).2
    cases found : k.at? raw with
    | none => simpa [found] using told
    | some j => cases j <;> simp_all

def readsOnly (files : Tree) (path : String) (given : List Setting) : Bool :=
  match readRaw files path with
  | .ok raw => givesOnly given raw
  | .error _ => false

theorem of_readsOnly {given : List Setting} (h : readsOnly files path given = true) :
    ∃ raw, readRaw files path = .ok raw ∧ Plain raw ∧ ∀ k, k ∈ given ↔ ∃ j, k.at? raw = some j := by
  unfold readsOnly at h
  split at h
  · rename_i raw reads
    exact ⟨raw, reads, of_givesOnly h⟩
  · cases h

/-- A file for the user and a local one, each with names that mean nothing. -/
def twoFiles : Tree where
  entries := [
    (["g"], .file (Text.Utf8.bytes
      "\x7b\"ai\":\x7b\"model_id\":\"g\",\"api_key\":\"k\",\"x\":1\x7d,\"limits\":\x7b\"max_rows\":5\x7d,\"y\":2\x7d")),
    (["l"], .file (Text.Utf8.bytes
      "\x7b\"ai\":\x7b\"api_key\":null,\"model_id\":\"l\",\"x\":[]\x7d,\"cache\":\x7b\x7d\x7d"))]
  current := []

theorem local_model_wins :
    ∃ s, loadLayered twoFiles "g" "l" = .ok s ∧ s.ai.modelId = "l" ∧ s.ai.apiKey = none ∧
      s.limits.maxRows = some 5 ∧ s.cache.ttlSeconds = 3600 := by
  obtain ⟨base, readsGlobal, plainGlobal, globally⟩ :=
    of_readsOnly (show readsOnly twoFiles "g" [.modelId, .apiKey, .maxRows] = true by decide +kernel)
  obtain ⟨upper, readsLocal, plainLocal, locally⟩ :=
    of_readsOnly (show readsOnly twoFiles "l" [.modelId, .apiKey] = true by decide +kernel)
  have acceptsGlobal : load twoFiles "g" =
      .ok { ai := { modelId := "g", apiKey := some "k" }, limits := { maxRows := some 5 } } := by
    decide +kernel
  have acceptsLocal : load twoFiles "l" = .ok { ai := { modelId := "l" } } := by decide +kernel
  obtain ⟨s, loads, each, -⟩ := layered_settings readsGlobal readsLocal plainGlobal plainLocal
    acceptsGlobal acceptsLocal
  have silent : ∀ k, k ∉ [Setting.modelId, .apiKey] → k.at? upper = none := fun k absent =>
    Option.eq_none_iff_forall_ne_some.mpr fun j found => absent ((locally k).mpr ⟨j, found⟩)
  obtain ⟨model, hasModel⟩ := (locally .modelId).mp (by decide)
  obtain ⟨key, hasKey⟩ := (locally .apiKey).mp (by decide)
  obtain ⟨rows, hasRows⟩ := (globally .maxRows).mp (by decide)
  have defaulted : Setting.ttlSeconds.at? base = none :=
    Option.eq_none_iff_forall_ne_some.mpr fun j found =>
      absurd ((globally .ttlSeconds).mpr ⟨j, found⟩) (by decide)
  exact ⟨s, loads, ((each .modelId).locally model hasModel).2,
    ((each .apiKey).locally key hasKey).2,
    ((each .maxRows).globally rows (silent _ (by decide)) hasRows).2,
    (each .ttlSeconds).nowhere (silent _ (by decide)) defaulted⟩

end QueryWarden.Config
