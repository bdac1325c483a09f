import MarkupTemplate.Scope.Basic

/-!
What a name means. The layers of a scope, from the outermost to the innermost, make up one list of
bindings. Look-up, which goes through each layer from its end and through the layers from the inside
out, finds what is bound last in this list, and without a binding the member of the root value.
-/

namespace MarkupTemplate
namespace Scope

section Layers

variable (name : String)

theorem latest?_append (earlier later : Bindings) :
    latest? name (earlier ++ later) = (latest? name later).or (latest? name earlier) := by
  simp only [latest?, List.reverse_append, List.lookup_append]

theorem latest?_single (bound : String) (value : Json) :
    latest? name [(bound, value)] = if name = bound then some value else none := by
  by_cases same : name = bound
  · simp [latest?, same]
  · have different : (name == bound) = false := beq_eq_false_iff_ne.2 same
    simp [latest?, List.lookup_cons, same, different]

theorem latest?_eq_none_iff (bindings : Bindings) :
    latest? name bindings = none ↔ ∀ value, (name, value) ∉ bindings := by
  simp only [latest?, List.lookup_eq_none_iff, List.mem_reverse]
  constructor
  · intro others value member
    simpa using others _ member
  · intro absent entry member
    apply bne_iff_ne.2
    rintro rfl
    exact absent entry.2 member

theorem latest?_last {value : Json} (before : Bindings) {after : Bindings}
    (last : ∀ other, (name, other) ∉ after) :
    latest? name (before ++ (name, value) :: after) = some value := by
  have unbound := (latest?_eq_none_iff name after).2 last
  rw [List.append_cons, latest?_append, unbound, latest?_append, latest?_single, if_pos rfl]
  rfl

/-- The binding that is found, in its place: nothing behind it binds the name. -/
theorem last_of_latest? {bindings : Bindings} {value : Json}
    (found : latest? name bindings = some value) :
    ∃ before after, bindings = before ++ (name, value) :: after ∧
      ∀ other, (name, other) ∉ after := by
  obtain ⟨later, earlier, backwards, different⟩ := List.lookup_eq_some_iff.1 found
  refine ⟨earlier.reverse, later.reverse, ?_, ?_⟩
  · rw [← List.reverse_reverse bindings, backwards]
    simp
  · intro other member
    simpa using different _ (List.mem_reverse.1 member)

/-- Going through the layers from the inside out is going through their bindings from the end. -/
theorem latest?_flatten (layers : List Bindings) :
    latest? name layers.reverse.flatten = layers.findSome? (latest? name) := by
  induction layers with
  | nil => rfl
  | cons layer enclosing ih =>
      rw [List.reverse_cons, List.flatten_append, List.flatten_singleton, latest?_append, ih,
        List.findSome?_cons]
      cases latest? name layer <;> rfl

end Layers

/-- All bindings of a scope, from the outermost layer to the innermost, and in the order in which
they were made. -/
def made (scope : Scope) : Bindings :=
  (scope.bindings :: scope.enclosing).reverse.flatten

@[simp] theorem data_root (data : Json) : (root data).data = data := rfl
@[simp] theorem data_child (scope : Scope) : scope.child.data = scope.data := rfl
@[simp] theorem data_bind (scope : Scope) (name : String) (value : Json) :
    (scope.bind name value).data = scope.data := rfl

@[simp] theorem made_root (data : Json) : (root data).made = [] := rfl

@[simp] theorem made_child (scope : Scope) : scope.child.made = scope.made := by
  simp [made, child]

@[simp] theorem made_bind (scope : Scope) (name : String) (value : Json) :
    (scope.bind name value).made = scope.made ++ [(name, value)] := by
  simp [made, bind]

/-- The two searches of a look-up are one. -/
theorem lookup?_eq (scope : Scope) (name : String) :
    scope.lookup? name = (latest? name scope.made).or (scope.data.member? name) := by
  rw [made, latest?_flatten, lookup?]

theorem lookup?_child (scope : Scope) (name : String) :
    scope.child.lookup? name = scope.lookup? name := by
  rw [lookup?_eq, made_child, data_child, ← lookup?_eq]

theorem lookup?_bind (scope : Scope) (bound : String) (value : Json) (name : String) :
    (scope.bind bound value).lookup? name =
      if name = bound then some value else scope.lookup? name := by
  rw [lookup?_eq, made_bind, data_bind, latest?_append, latest?_single, Option.or_assoc,
    ← lookup?_eq]
  split <;> rfl

/-- What a name means over a root value, after bindings made in order: the value bound to it last,
and without a binding the member of the root value, which only an object has. -/
inductive Means (data : Json) (bindings : Bindings) (name : String) : Option Json → Prop
  | bound (before after : Bindings) (value : Json)
      (placed : bindings = before ++ (name, value) :: after)
      (last : ∀ other, (name, other) ∉ after) :
      Means data bindings name (some value)
  | member (members : List (String × Json)) (object : data = .object members)
      (unbound : ∀ value, (name, value) ∉ bindings) :
      Means data bindings name (members.lookup name)
  | nothing (noObject : data.kind ≠ .object) (unbound : ∀ value, (name, value) ∉ bindings) :
      Means data bindings name none

theorem means_unbound (data : Json) {bindings : Bindings} {name : String}
    (unbound : ∀ value, (name, value) ∉ bindings) :
    Means data bindings name (data.member? name) := by
  cases data with
  | object members => exact .member members rfl unbound
  | _ => exact .nothing (by simp [Json.kind]) unbound

theorem member?_of_kind {data : Json} (noObject : data.kind ≠ .object) (name : String) :
    data.member? name = none := by
  cases data with
  | object => contradiction
  | _ => rfl

/-- A look-up finds what the name means, and nothing else is meant. -/
theorem lookup?_eq_iff_means (scope : Scope) (name : String) (found : Option Json) :
    scope.lookup? name = found ↔ Means scope.data scope.made name found := by
  rw [lookup?_eq]
  constructor
  · rintro rfl
    cases latest : latest? name scope.made with
    | some value =>
        obtain ⟨before, after, placed, last⟩ := last_of_latest? name latest
        exact .bound before after value placed last
    | none => exact means_unbound scope.data ((latest?_eq_none_iff name scope.made).1 latest)
  · intro means
    cases means with
    | bound before after value placed last =>
        rw [placed, latest?_last name before last]
        rfl
    | member members object unbound =>
        rw [(latest?_eq_none_iff name scope.made).2 unbound, object]
        rfl
    | nothing noObject unbound =>
        rw [(latest?_eq_none_iff name scope.made).2 unbound, member?_of_kind noObject]
        rfl

end Scope
end MarkupTemplate
