import MarkupTemplate.Proofs.Scope.Lookup

/-!
Chains and families of scopes. A chain is a root scope with children derived one from another, each
with bindings of its own; a name means in it what was bound to it last, from the root to the
innermost child. In a family scopes refer to the scopes that they were derived from; whatever is
done on a child, its parent stays as it was.
-/

namespace MarkupTemplate
namespace Scope

def bindAll (scope : Scope) (bindings : Bindings) : Scope :=
  bindings.foldl (fun scope binding => scope.bind binding.1 binding.2) scope

def derive (scope : Scope) (bindings : Bindings) : Scope :=
  scope.child.bindAll bindings

/-- The innermost scope of a chain: a root scope with bindings made in it, and for each further list
a child of the scope before with these bindings. -/
def chain (data : Json) (outermost : Bindings) (inner : List Bindings) : Scope :=
  inner.foldl derive ((root data).bindAll outermost)

section Chains

variable (scope : Scope) (bindings : Bindings)

theorem bindAll_snoc (name : String) (value : Json) :
    scope.bindAll (bindings ++ [(name, value)]) = (scope.bindAll bindings).bind name value := by
  simp [bindAll]

@[simp] theorem data_bindAll : (scope.bindAll bindings).data = scope.data := by
  induction bindings generalizing scope with
  | nil => rfl
  | cons binding bindings ih => exact ih (scope.bind binding.1 binding.2)

@[simp] theorem made_bindAll : (scope.bindAll bindings).made = scope.made ++ bindings := by
  induction bindings generalizing scope with
  | nil => exact (List.append_nil _).symm
  | cons binding bindings ih =>
      calc (scope.bindAll (binding :: bindings)).made
          = (scope.bind binding.1 binding.2).made ++ bindings := ih _
        _ = scope.made ++ binding :: bindings := by simp

@[simp] theorem data_derive : (scope.derive bindings).data = scope.data := by
  simp [derive]

@[simp] theorem made_derive : (scope.derive bindings).made = scope.made ++ bindings := by
  simp [derive]

theorem data_foldl_derive (inner : List Bindings) :
    (inner.foldl derive scope).data = scope.data := by
  induction inner generalizing scope with
  | nil => rfl
  | cons bindings inner ih => rw [List.foldl_cons, ih, data_derive]

theorem made_foldl_derive (inner : List Bindings) :
    (inner.foldl derive scope).made = scope.made ++ inner.flatten := by
  induction inner generalizing scope with
  | nil => simp
  | cons bindings inner ih =>
      rw [List.foldl_cons, ih, made_derive, List.flatten_cons, List.append_assoc]

theorem data_chain (data : Json) (outermost : Bindings) (inner : List Bindings) :
    (chain data outermost inner).data = data := by
  rw [chain, data_foldl_derive, data_bindAll, data_root]

theorem made_chain (data : Json) (outermost : Bindings) (inner : List Bindings) :
    (chain data outermost inner).made = outermost ++ inner.flatten := by
  rw [chain, made_foldl_derive, made_bindAll, made_root, List.nil_append]

/-- Bindings of other names hide nothing. -/
theorem lookup?_derive {name : String} (others : ∀ value, (name, value) ∉ bindings) :
    (scope.derive bindings).lookup? name = scope.lookup? name := by
  have unbound := (latest?_eq_none_iff name bindings).2 others
  rw [lookup?_eq, made_derive, data_derive, latest?_append, unbound, Option.none_or, ← lookup?_eq]

end Chains

/-- A scope as it stands in a family: the number of the scope that it was derived from, if it is no
root, and what was bound in it. -/
structure Held where
  parent : Option Nat
  bindings : Bindings

/-- Scopes that refer to each other, the one made last in front. They are numbered from zero in the
order in which they were made. -/
abbrev Family := List Held

namespace Family

def scope? (data : Json) : Family → Nat → Option Scope
  | [], _ => none
  | held :: earlier, number =>
      if number = earlier.length then
        match held.parent with
        | none => some ((root data).bindAll held.bindings)
        | some parent => (scope? data earlier parent).map fun around => around.derive held.bindings
      else scope? data earlier number

def parent? : Family → Nat → Option Nat
  | [], _ => none
  | held :: earlier, number =>
      if number = earlier.length then held.parent else parent? earlier number

/-- The family after a binding made in the scope of a number. The scopes that were derived from it
have the binding as well. -/
def bindIn (name : String) (value : Json) : Family → Nat → Family
  | [], _ => []
  | held :: earlier, number =>
      if number = earlier.length then
        { held with bindings := held.bindings ++ [(name, value)] } :: earlier
      else held :: bindIn name value earlier number

/-- What can be done on the scope of a number. -/
inductive Operation
  | child (number : Nat)
  | bind (number : Nat) (name : String) (value : Json)

def Operation.number : Operation → Nat
  | .child number => number
  | .bind number _ _ => number

/-- A child of a scope is a further scope of the family; a binding is made in the scope itself. -/
def perform (family : Family) : Operation → Family
  | .child number => ⟨some number, []⟩ :: family
  | .bind number name value => family.bindIn name value number

def performAll (family : Family) (operations : List Operation) : Family :=
  operations.foldl perform family

section Reading

variable {data : Json} {family : Family} {number : Nat}

theorem scope?_newest (held : Held) :
    scope? data (held :: family) family.length =
      match held.parent with
      | none => some ((root data).bindAll held.bindings)
      | some parent =>
          (family.scope? data parent).map fun around => around.derive held.bindings := by
  rw [scope?, if_pos rfl]

theorem scope?_older (held : Held) (older : number ≠ family.length) :
    scope? data (held :: family) number = family.scope? data number := by
  rw [scope?, if_neg older]

theorem lt_of_scope? {scope : Scope} (found : family.scope? data number = some scope) :
    number < family.length := by
  induction family with
  | nil => simp [scope?] at found
  | cons held earlier ih =>
      by_cases newest : number = earlier.length
      · simp [newest]
      · rw [scope?_older held newest] at found
        exact Nat.lt_succ_of_lt (ih found)

/-- A scope that was derived from another is a child of it, made after it. -/
theorem around_of_parent? {parent : Nat} {below : Scope}
    (found : family.scope? data number = some below)
    (derived : family.parent? number = some parent) :
    parent < number ∧ ∃ around bindings, family.scope? data parent = some around ∧
      below = around.derive bindings := by
  induction family with
  | nil => simp [parent?] at derived
  | cons held earlier ih =>
      by_cases newest : number = earlier.length
      · subst newest
        rw [parent?, if_pos rfl] at derived
        rw [scope?_newest, derived] at found
        obtain ⟨around, known, rfl⟩ := Option.map_eq_some_iff.1 found
        have before := lt_of_scope? known
        have older : parent ≠ earlier.length := Nat.ne_of_lt before
        exact ⟨before, around, held.bindings, by rw [scope?_older held older, known], rfl⟩
      · rw [parent?, if_neg newest] at derived
        rw [scope?_older held newest] at found
        obtain ⟨before, around, bindings, known, made⟩ := ih found derived
        have older : parent ≠ earlier.length :=
          Nat.ne_of_lt (Nat.lt_trans before (lt_of_scope? found))
        exact ⟨before, around, bindings, by rw [scope?_older held older, known], made⟩

end Reading

section Binding

variable (name : String) (value : Json)

theorem length_bindIn (family : Family) (number : Nat) :
    (family.bindIn name value number).length = family.length := by
  induction family with
  | nil => rfl
  | cons held earlier ih =>
      rw [bindIn]
      split
      · rfl
      · rw [List.length_cons, ih, List.length_cons]

theorem bindIn_absent {family : Family} {number : Nat} (absent : family.length ≤ number) :
    family.bindIn name value number = family := by
  induction family with
  | nil => rfl
  | cons held earlier ih =>
      rw [List.length_cons] at absent
      rw [bindIn, if_neg (by omega), ih (by omega)]

theorem scope?_bindIn_self (data : Json) (family : Family) (number : Nat) :
    (family.bindIn name value number).scope? data number =
      (family.scope? data number).map fun scope => scope.bind name value := by
  induction family with
  | nil => rfl
  | cons held earlier ih =>
      by_cases newest : number = earlier.length
      · subst newest
        rw [bindIn, if_pos rfl, scope?_newest, scope?_newest]
        cases held.parent with
        | none => simp [bindAll_snoc]
        | some parent =>
            simp only [derive, bindAll_snoc, Option.map_map]
            rfl
      · have older : number ≠ (bindIn name value earlier number).length := by
          rwa [length_bindIn]
        rw [bindIn, if_neg newest, scope?_older held older, scope?_older held newest, ih]

/-- A binding reaches no scope that was made before the one it is made in. -/
theorem scope?_bindIn_before (data : Json) (family : Family) {earlierNumber number : Nat}
    (before : earlierNumber < number) :
    (family.bindIn name value number).scope? data earlierNumber =
      family.scope? data earlierNumber := by
  induction family with
  | nil => rfl
  | cons held earlier ih =>
      rw [bindIn]
      split
      · next newest => rw [scope?_older _ (by omega), scope?_older _ (by omega)]
      · next older =>
          by_cases newest : earlierNumber = earlier.length
          · rw [bindIn_absent name value (by omega)]
          · rw [scope?_older held (by rwa [length_bindIn]), scope?_older held newest, ih]

end Binding

/-- An operation leaves every scope as it was that was made before the one it is done on. -/
theorem scope?_perform (data : Json) {family : Family} {number : Nat} {operation : Operation}
    (inside : number < family.length) (before : number < operation.number) :
    (family.perform operation).scope? data number = family.scope? data number ∧
      number < (family.perform operation).length := by
  cases operation with
  | child parent =>
      exact ⟨scope?_older _ (Nat.ne_of_lt inside), Nat.lt_succ_of_lt inside⟩
  | bind changed name value =>
      constructor
      · exact scope?_bindIn_before name value data family before
      · rw [perform, length_bindIn]
        exact inside

theorem scope?_performAll {data : Json} {family : Family} {number : Nat}
    {operations : List Operation} (inside : number < family.length)
    (before : ∀ operation ∈ operations, number < operation.number) :
    (family.performAll operations).scope? data number = family.scope? data number := by
  induction operations generalizing family with
  | nil => rfl
  | cons operation operations ih =>
      obtain ⟨same, still⟩ := scope?_perform data inside (before _ List.mem_cons_self)
      calc ((family.perform operation).performAll operations).scope? data number
          = (family.perform operation).scope? data number :=
            ih still fun _ member => before _ (List.mem_cons_of_mem _ member)
        _ = family.scope? data number := same

theorem scope?_child (data : Json) (family : Family) (number : Nat) :
    (family.perform (.child number)).scope? data family.length =
      (family.scope? data number).map child :=
  scope?_newest ⟨some number, []⟩

/-- What is done on a child is done there, and its parent stays as it was, so that every name means
in it what it meant before. -/
structure Confined (data : Json) (family : Family) (parent child : Nat) (around below : Scope) :
    Prop where
  bound : ∀ name value,
    (family.perform (.bind child name value)).scope? data child = some (below.bind name value)
  derived : (family.perform (.child child)).scope? data family.length = some below.child
  /-- Not only what is done on the child, but also on every scope made after it, such as its own
  children. -/
  parent_kept : ∀ operations : List Operation,
    (∀ operation ∈ operations, child ≤ operation.number) →
      (family.performAll operations).scope? data parent = some around

theorem confined_of_parent {data : Json} {family : Family} {parent child : Nat}
    {around below : Scope} (held : family.scope? data parent = some around)
    (found : family.scope? data child = some below) (before : parent < child) :
    family.Confined data parent child around below := by
  constructor
  · intro name value
    rw [perform, scope?_bindIn_self, found, Option.map_some]
  · rw [scope?_child, found, Option.map_some]
  · intro operations later
    rw [scope?_performAll (lt_of_scope? held), held]
    intro operation member
    exact Nat.lt_of_lt_of_le before (later operation member)

end Family

/-- In a chain of scopes a name means what was bound to it last, in the order from the root to the
innermost child; without a binding it means the member of the root value, if that is an object. So a
further child in which other names are bound changes nothing, and in a family of scopes nothing that
is done on a child changes its parent. -/
theorem lookup_finds_last_binding (data : Json) (outermost : Bindings) (inner : List Bindings)
    (name : String) :
    (∀ found, (chain data outermost inner).lookup? name = found ↔
      Means data (outermost ++ inner.flatten) name found) ∧
    (∀ others : Bindings, (∀ value, (name, value) ∉ others) →
      ((chain data outermost inner).derive others).lookup? name =
        (chain data outermost inner).lookup? name) ∧
    ∀ (family : Family) (parent child : Nat) (below : Scope),
      family.scope? data child = some below → family.parent? child = some parent →
        ∃ around bindings, family.scope? data parent = some around ∧
          below = around.derive bindings ∧ family.Confined data parent child around below := by
  refine ⟨?_, ?_, ?_⟩
  · intro found
    rw [lookup?_eq_iff_means, data_chain, made_chain]
  · intro others unbound
    exact lookup?_derive _ others unbound
  · intro family parent child below found derived
    obtain ⟨before, around, bindings, held, made⟩ := Family.around_of_parent? found derived
    exact ⟨around, bindings, held, made, Family.confined_of_parent held found before⟩

def placeNames : Json :=
  .object [("x", .string "root"), ("y", .string "root-y")]

def nestedBindings : List Bindings :=
  [[("x", .string "outer")], [("x", .string "first"), ("z", .null), ("x", .string "inner")]]

def nestedScopes : Family :=
  Family.performAll [⟨none, []⟩]
    [.child 0, .bind 1 "x" (.string "outer"), .child 1, .bind 2 "x" (.string "inner")]

theorem lookup_finds_last_binding_nested :
    (chain placeNames [] nestedBindings).lookup? "x" = some (.string "inner") ∧
    (chain placeNames [] nestedBindings).lookup? "y" = some (.string "root-y") ∧
    ((chain placeNames [] nestedBindings).derive [("x", .null)]).lookup? "y" =
      some (.string "root-y") ∧
    ∃ around, nestedScopes.scope? placeNames 1 = some around ∧
      around.lookup? "x" = some (.string "outer") ∧
      (nestedScopes.performAll [.bind 2 "x" .null, .child 2, .bind 3 "x" (.bool true)]).scope?
        placeNames 1 = some around := by
  have ofX := lookup_finds_last_binding placeNames [] nestedBindings "x"
  obtain ⟨found, undisturbed, confined⟩ :=
    lookup_finds_last_binding placeNames [] nestedBindings "y"
  have member : (chain placeNames [] nestedBindings).lookup? "y" = some (.string "root-y") :=
    (found _).2 (.member _ rfl (by simp [nestedBindings]))
  refine ⟨?_, member, ?_, ?_⟩
  · exact (ofX.1 _).2 (.bound [("x", .string "outer"), ("x", .string "first"), ("z", .null)] []
      (.string "inner") rfl (by simp))
  · rw [undisturbed _ (by simp), member]
  · obtain ⟨around, bindings, held, -, apart⟩ := confined nestedScopes 1 2 _ rfl rfl
    refine ⟨around, held, ?_, apart.parent_kept _ (by simp [Family.Operation.number])⟩
    obtain rfl := Option.some.inj held
    rfl

end Scope
end MarkupTemplate
