import QueryWarden.Config.Store
import QueryWarden.Proofs.Json.Members

/-! One value laid over another: what a name has then, and that tidy values stay tidy. -/
namespace QueryWarden.Config
open Json

variable {below members : List (String × Json)}

def atop (below : Option Json) (upper : Json) : Json :=
  match below with
  | some old => overlay old upper
  | none => upper

theorem overlay_obj (below members : List (String × Json)) :
    overlay (.obj below) (.obj members) = .obj (overlayMembers below members) := by
  rw [overlay]

/-- What is no object is laid over a value as it is. -/
theorem overlay_leaf (base : Json) {upper : Json} (leaf : ∀ members, upper ≠ .obj members) :
    overlay base upper = upper := by
  cases upper with
  | obj members => exact absurd rfl (leaf members)
  | _ => rfl

theorem atop_leaf (below : Option Json) {upper : Json} (leaf : ∀ members, upper ≠ .obj members) :
    atop below upper = upper := by
  cases below with
  | none => rfl
  | some old => exact overlay_leaf old leaf

theorem overlayMembers_cons (below : List (String × Json)) (name : String) (value : Json)
    (rest : List (String × Json)) :
    overlayMembers below ((name, value) :: rest) =
      overlayMembers (insertMember name (atop (lookup name below) value) below) rest := by
  rw [overlayMembers]
  cases lookup name below <;> rfl

/-- A name has what is laid over its value below, or what it has below if nothing is. -/
theorem lookup_overlayMembers (sorted : Ascending below) (upper : Ascending members) (name : String) :
    lookup name (overlayMembers below members) =
      ((lookup name members).map (atop (lookup name below))).or (lookup name below) := by
  induction members generalizing below with
  | nil => rw [overlayMembers, lookup_nil, Option.map_none, Option.none_or]
  | cons m rest ih =>
    obtain ⟨other, value⟩ := m
    rw [overlayMembers_cons, ih (sorted.insertMember ..) upper.rest, sorted.lookup_insertMember, lookup_cons]
    by_cases same : other = name
    · subst same
      have once : lookup other rest = none := lookup_eq_none fun m later => (upper.below later).ne'
      rw [once, if_pos rfl, if_pos rfl]
      rfl
    · rw [if_neg same, if_neg same, Option.or_none]

/-- What a name has in an object that lies on something, once the two are merged. -/
theorem member?_atop {below : Option Json} (sound : ∀ old, below = some (.obj old) → Ascending old)
    (ascending : Ascending members) (name : String) :
    (atop below (.obj members)).member? name =
      ((lookup name members).map (atop (below.bind (member? name)))).or (below.bind (member? name)) := by
  have alone : lookup name members = ((lookup name members).map (atop none)).or none := by
    cases lookup name members <;> rfl
  cases below with
  | none => exact alone
  | some j =>
    cases j with
    | obj old =>
      rw [atop, overlay_obj]
      exact lookup_overlayMembers (sound old rfl) ascending name
    | _ => exact alone

mutual
theorem tidy_overlay : ∀ {base upper : Json}, Tidy base → Tidy upper → Tidy (overlay base upper)
  | .obj below, .obj members, h, h' => by
    rw [overlay_obj]
    cases h with
    | obj sorted all =>
      cases h' with
      | obj sorted' all' =>
        obtain ⟨ascending, tidy⟩ := tidy_overlayMembers sorted all all'
        exact .obj ascending tidy
  | .null, .obj members, _, h' | .bool _, .obj members, _, h' | .num _, .obj members, _, h'
  | .str _, .obj members, _, h' | .arr _, .obj members, _, h' => by
    exact h'
  | _, .null, _, h' | _, .bool _, _, h' | _, .num _, _, h' | _, .str _, _, h' | _, .arr _, _, h' => by
    exact h'
theorem tidy_overlayMembers : ∀ {below members : List (String × Json)}, Ascending below →
    (∀ m ∈ below, Tidy m.2) → (∀ m ∈ members, Tidy m.2) →
    Ascending (overlayMembers below members) ∧ ∀ m ∈ overlayMembers below members, Tidy m.2
  | below, [], sorted, all, _ => by
    rw [overlayMembers]
    exact ⟨sorted, all⟩
  | below, (name, value) :: rest, sorted, all, all' => by
    obtain ⟨first, later⟩ := List.forall_mem_cons.mp all'
    rw [overlayMembers_cons]
    refine tidy_overlayMembers (sorted.insertMember ..) (fun m among => ?_) later
    obtain rfl | there := mem_insertMember among
    · cases found : lookup name below with
      | none => exact first
      | some old => exact tidy_overlay (all _ (mem_of_lookup found)) first
    · exact all m there
end

end QueryWarden.Config
