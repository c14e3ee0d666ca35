import Mathlib.Data.List.Nodup
import QueryWarden.Proofs.Config.Overlay
import QueryWarden.Proofs.Json.Ordered

/-! Merging, path by path: what stands at the end of a path of names once one object is laid over another.
What the upper object has there decides, unless it has nothing or an object; then what lies below shows. So
merging anything a second time, or onto itself, changes nothing. -/
namespace QueryWarden.Json

def atPath? : List String → Json → Option Json
  | [], j => some j
  | name :: path, j => (j.member? name).bind (atPath? path)

/-- Before the end of a path stands no value but objects. -/
def Unblocked (path : List String) (j : Json) : Prop :=
  ∀ p v, p <+: path → p ≠ path → atPath? p j = some v → ∃ members, v = .obj members

variable {members others : List (String × Json)} {name : String} {j v : Json}

theorem member?_eq_some (found : j.member? name = some v) :
    ∃ members, j = .obj members ∧ lookup name members = some v := by
  cases j with
  | obj members => exact ⟨members, rfl, found⟩
  | _ => cases found

theorem Tidy.member? (tidy : Tidy j) (found : j.member? name = some v) : Tidy v := by
  obtain ⟨members, rfl, found⟩ := member?_eq_some found
  exact tidy.lookup found

theorem Tidy.atPath? {path : List String} (tidy : Tidy j) (found : atPath? path j = some v) : Tidy v := by
  induction path generalizing j with
  | nil =>
    cases found
    exact tidy
  | cons name path ih =>
    obtain ⟨inner, there, found⟩ := Option.bind_eq_some_iff.mp found
    exact ih (tidy.member? there) found

/-- Members in the order of their names are determined by what each name has. -/
theorem Ascending.ext (h : Ascending members) (h' : Ascending others)
    (same : ∀ name, lookup name members = lookup name others) : members = others := by
  have perm : members.Perm others := by
    refine (List.perm_ext_iff_of_nodup (List.Nodup.of_map _ h.nodup) (List.Nodup.of_map _ h'.nodup)).mpr fun m => ?_
    rw [mem_iff_lookup h.nodup, mem_iff_lookup h'.nodup, same]
  exact perm.eq_of_pairwise (fun a b _ _ before after => absurd (before.trans after) (lt_irrefl _)) h h'

theorem unblocked_nil (j : Json) : Unblocked [] j := fun _ _ front apart _ =>
  absurd (List.prefix_nil.mp front) apart

theorem unblocked_cons_iff {path : List String} : Unblocked (name :: path) j ↔
    (∃ members, j = .obj members) ∧ ∀ inner, j.member? name = some inner → Unblocked path inner := by
  constructor
  · intro way
    refine ⟨way [] j List.nil_prefix nofun rfl, fun inner there p v front apart found => ?_⟩
    refine way (name :: p) v ((List.prefix_cons_inj name).mpr front) (by simpa using apart) ?_
    rw [atPath?, there]
    exact found
  · rintro ⟨object, way⟩ p v front apart found
    obtain rfl | ⟨p, rfl, behind⟩ := List.prefix_cons_iff.mp front
    · cases found
      exact object
    · obtain ⟨inner, there, found⟩ := Option.bind_eq_some_iff.mp found
      exact way inner there p v behind (by simpa using apart) found

theorem mem_names_iff : name ∈ members.map (·.1) ↔ ∃ v, lookup name members = some v := by
  rw [← Option.ne_none_iff_exists', ne_eq, lookup_eq_none_iff, not_not]

end QueryWarden.Json

namespace QueryWarden.Config
open Json

variable {below : Option Json} {base upper v : Json} {members : List (String × Json)}

/-- What lies below is tidy, if anything does. -/
theorem tidy_bind_member? (lower : ∀ j ∈ below, Tidy j) (name : String) :
    ∀ j ∈ below.bind (member? name), Tidy j := by
  intro j found
  obtain ⟨old, there, found⟩ := Option.bind_eq_some_iff.mp found
  exact (lower old there).member? found

theorem member?_atop_tidy (lower : ∀ j ∈ below, Tidy j) (tidy : Tidy (.obj members)) (name : String) :
    (atop below (.obj members)).member? name =
      ((lookup name members).map (atop (below.bind (member? name)))).or (below.bind (member? name)) :=
  member?_atop (fun _ there => (lower _ there).ascending) tidy.ascending name

theorem tidy_atop (lower : ∀ j ∈ below, Tidy j) (tidy : Tidy upper) : Tidy (atop below upper) := by
  cases below with
  | none => exact tidy
  | some old => exact tidy_overlay (lower old rfl) tidy

/-- An object that lies on something stays an object. -/
theorem atop_obj (below : Option Json) (members : List (String × Json)) :
    ∃ both, atop below (.obj members) = .obj both := by
  cases below with
  | none => exact ⟨members, rfl⟩
  | some old =>
    cases old with
    | obj under => exact ⟨_, overlay_obj under members⟩
    | _ => exact ⟨members, rfl⟩

/-- Where the upper value has something, this lies on what is there below. -/
theorem atPath?_atop {path : List String} (lower : ∀ j ∈ below, Tidy j) (tidy : Tidy upper)
    (found : atPath? path upper = some v) :
    atPath? path (atop below upper) = some (atop (below.bind (atPath? path)) v) := by
  induction path generalizing below upper with
  | nil =>
    cases found
    cases below <;> rfl
  | cons name path ih =>
    obtain ⟨inner, there, behind⟩ := Option.bind_eq_some_iff.mp found
    obtain ⟨members, rfl, here⟩ := member?_eq_some there
    have step : (atop below (.obj members)).member? name = some (atop (below.bind (member? name)) inner) := by
      rw [member?_atop_tidy lower tidy, here]
      rfl
    rw [atPath?, step, Option.bind_some, ih (tidy_bind_member? lower name) (tidy.member? there) behind,
      Option.bind_assoc]
    rfl

/-- Where the upper value has nothing, but objects all the way, what is there below shows. -/
theorem atPath?_atop_none {path : List String} (lower : ∀ j ∈ below, Tidy j) (tidy : Tidy upper)
    (absent : atPath? path upper = none) (way : Unblocked path upper) :
    atPath? path (atop below upper) = below.bind (atPath? path) := by
  induction path generalizing below upper with
  | nil => cases absent
  | cons name path ih =>
    obtain ⟨⟨members, rfl⟩, way⟩ := unblocked_cons_iff.mp way
    have below_path : below.bind (atPath? (name :: path)) = (below.bind (member? name)).bind (atPath? path) :=
      (Option.bind_assoc ..).symm
    rw [atPath?, member?_atop_tidy lower tidy, below_path]
    cases here : lookup name members with
    | none => rfl
    | some inner =>
      have there : (Json.obj members).member? name = some inner := here
      rw [atPath?, there] at absent
      exact ih (tidy_bind_member? lower name) (tidy.member? there) absent (way inner there)

/-- The names of an object that lies on something are its own and those of an object below. -/
theorem names_atop (lower : ∀ j ∈ below, Tidy j) (tidy : Tidy (.obj members)) {both : List (String × Json)}
    (merged : atop below (.obj members) = .obj both) (name : String) :
    name ∈ both.map (·.1) ↔
      name ∈ members.map (·.1) ∨ ∃ old, below = some (.obj old) ∧ name ∈ old.map (·.1) := by
  have looked : lookup name both =
      ((lookup name members).map (atop (below.bind (member? name)))).or (below.bind (member? name)) := by
    rw [← member?_atop_tidy lower tidy, merged]
    rfl
  have under : (∃ old, below = some (.obj old) ∧ name ∈ old.map (·.1)) ↔
      ∃ v, below.bind (member? name) = some v := by
    constructor
    · rintro ⟨old, rfl, among⟩
      exact mem_names_iff.mp among
    · rintro ⟨v, found⟩
      obtain ⟨j, there, found⟩ := Option.bind_eq_some_iff.mp found
      obtain ⟨old, rfl, found⟩ := member?_eq_some found
      exact ⟨old, there, mem_names_iff.mpr ⟨v, found⟩⟩
  rw [under, mem_names_iff, mem_names_iff, looked]
  cases lookup name members <;> simp

/-- What has been laid on something is not changed by laying it there again. -/
theorem overlay_atop (tidy : Tidy upper) :
    ∀ {below : Option Json}, (∀ j ∈ below, Tidy j) → overlay (atop below upper) upper = atop below upper := by
  induction tidy with
  | @obj members ascending all ih =>
    intro below lower
    have tidy : Tidy (.obj members) := .obj ascending all
    obtain ⟨both, merged⟩ := atop_obj below members
    have sorted : Ascending both := (merged ▸ tidy_atop lower tidy).ascending
    have looked : ∀ name, lookup name both =
        ((lookup name members).map (atop (below.bind (member? name)))).or (below.bind (member? name)) := by
      intro name
      rw [← member?_atop_tidy lower tidy, merged]
      rfl
    rw [merged, overlay_obj]
    refine congrArg Json.obj (Ascending.ext ?_ sorted fun name => ?_)
    · exact (overlay_obj both members ▸ tidy_overlay (merged ▸ tidy_atop lower tidy) tidy).ascending
    · rw [lookup_overlayMembers sorted ascending]
      cases found : lookup name members with
      | none => rfl
      | some v =>
        have again := ih (name, v) (mem_of_lookup found) (tidy_bind_member? lower name)
        have here := looked name
        rw [found] at here
        rw [here]
        exact congrArg some again
  | null | bool | num | str | arr =>
    intro below _
    cases below <;> rfl

/-- One object laid over another, path by path: a value of the upper one that is no object stands where it
stood; where the upper one has nothing, but objects all the way, the lower one shows; and an object of the
upper one has its own names there and those of an object below it. Laying an object on itself, the empty one
on another, or one on another a second time changes nothing. -/
theorem overlay_path_by_path {below members : List (String × Json)} (lower : Tidy (.obj below))
    (higher : Tidy (.obj members)) :
    let merged := overlay (.obj below) (.obj members)
    (∀ path,
      (∀ v, atPath? path (.obj members) = some v → (∀ inner, v ≠ .obj inner) → atPath? path merged = some v) ∧
      (atPath? path (.obj members) = none → Unblocked path (.obj members) →
        atPath? path merged = atPath? path (.obj below)) ∧
      (∀ inner, atPath? path (.obj members) = some (.obj inner) →
        ∃ both, atPath? path merged = some (.obj both) ∧
          ∀ name, name ∈ both.map (·.1) ↔ name ∈ inner.map (·.1) ∨
            ∃ old, atPath? path (.obj below) = some (.obj old) ∧ name ∈ old.map (·.1))) ∧
    overlay (.obj members) (.obj members) = .obj members ∧
    overlay (.obj below) (.obj []) = .obj below ∧
    overlay merged (.obj members) = merged := by
  intro merged
  have under : ∀ j ∈ some (Json.obj below), Tidy j := by
    rintro j ⟨⟩
    exact lower
  refine ⟨fun path => ⟨fun v found leaf => ?_, fun absent way => ?_, fun inner found => ?_⟩, ?_, ?_, ?_⟩
  · have there := atPath?_atop under higher found
    rwa [atop_leaf _ leaf] at there
  · exact atPath?_atop_none under higher absent way
  · obtain ⟨both, lies⟩ := atop_obj (atPath? path (.obj below)) inner
    have there := atPath?_atop under higher found
    rw [Option.bind_some, lies] at there
    exact ⟨both, there, names_atop (fun j old => lower.atPath? old) (higher.atPath? found) lies⟩
  · have nothing : ∀ j ∈ (none : Option Json), Tidy j := nofun
    exact overlay_atop higher nothing
  · rw [overlay_obj, overlayMembers]
  · exact overlay_atop higher under

/-- A section of which the upper object has one name, beside a section that only the upper one has. -/
theorem sections_merged :
    let below := [("ai", Json.obj [("key", .str "k"), ("model", .obj [("id", .null)])]), ("x", .bool true)]
    let members := [("ai", Json.obj [("model", .str "m")]), ("limits", .obj [])]
    let merged := overlay (.obj below) (.obj members)
    Tidy (.obj below) ∧ Tidy (.obj members) ∧ atPath? ["ai", "model"] merged = some (.str "m") ∧
      atPath? ["ai", "key"] merged = some (.str "k") ∧
      (∃ both, atPath? ["ai"] merged = some (.obj both) ∧
        ∀ name, name ∈ both.map (·.1) ↔ name = "model" ∨ name = "key") ∧
      overlay merged (.obj members) = merged := by
  intro below members merged
  have single : ∀ {name : String} {j : Json}, Tidy j → Tidy (.obj [(name, j)]) := fun tidy =>
    .obj (List.pairwise_singleton ..) (List.forall_mem_singleton.mpr tidy)
  have pair : ∀ {name name' : String} {j j' : Json}, name < name' → Tidy j → Tidy j' →
      Tidy (.obj [(name, j), (name', j')]) := fun before tidy tidy' =>
    .obj (List.pairwise_pair.mpr before) (by simp [tidy, tidy'])
  have lower : Tidy (.obj below) := pair (by decide) (pair (by decide) (.str _) (single .null)) (.bool _)
  have empty : Tidy (.obj []) := .obj ascending_nil fun m among => absurd among List.not_mem_nil
  have higher : Tidy (.obj members) := pair (by decide) (single (.str _)) empty
  obtain ⟨along, -, -, again⟩ := overlay_path_by_path lower higher
  have way : Unblocked ["ai", "key"] (.obj members) := by
    refine unblocked_cons_iff.mpr ⟨⟨_, rfl⟩, fun inner found => unblocked_cons_iff.mpr ⟨?_, fun j _ => unblocked_nil j⟩⟩
    cases found
    exact ⟨_, rfl⟩
  have leaf : ∀ inner, Json.str "m" ≠ .obj inner := fun inner same => Json.noConfusion same
  refine ⟨lower, higher, (along _).1 _ rfl leaf, (along ["ai", "key"]).2.1 rfl way, ?_, again⟩
  obtain ⟨both, there, names⟩ := (along ["ai"]).2.2 _ rfl
  have under : atPath? ["ai"] (.obj below) = some (.obj [("key", .str "k"), ("model", .obj [("id", .null)])]) := rfl
  refine ⟨both, there, fun name => (names name).trans ⟨?_, ?_⟩⟩
  · rintro (own | ⟨old, found, among⟩)
    · exact .inl (by simpa using own)
    · cases under.symm.trans found
      exact Or.symm (by simpa using among)
  · rintro (rfl | rfl)
    · exact .inl (by simp)
    · exact .inr ⟨_, under, by simp⟩

end QueryWarden.Config
