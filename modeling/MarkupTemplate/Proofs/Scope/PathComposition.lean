import MarkupTemplate.Proofs.Compiler.Unrolling
import MarkupTemplate.Proofs.Directive.RepeatReading

/-!
A path goes on from what its beginning leads to. So a name that is bound to the value of a path
stands for this path, whatever segments follow; in a repetition the item stands for its place in
the array, unless the index takes its name.
-/

namespace MarkupTemplate

namespace Text

theorem splitOn_absent {mark : Char} {text : List Char} (absent : mark ∉ text) :
    splitOn mark text = [text] := by
  induction text with
  | nil => rfl
  | cons c text ih =>
      simp only [List.mem_cons, not_or] at absent
      simp [splitOn, ih absent.2, Ne.symm absent.1]

end Text

namespace Layout

theorem natText_digits (n : Nat) : ∀ c ∈ natText n, c.isDigit = true := by
  intro c member
  exact Nat.isDigit_of_mem_toDigits (by decide) (by decide) member

theorem natOfDigits_natText (n : Nat) : Decimal.natOfDigits (natText n) = n :=
  Nat.ofDigitChars_toDigits (by decide) (by decide)

end Layout

namespace Scope

inductive IsTail : List Char → Prop
  | none : IsTail []
  | more (segments : List Char) : IsTail ('.' :: segments)

/-- Whether two paths, each in a scope, have the same value, or both none, and show the same. -/
structure SameAt (scope : Scope) (path : List Char) (other : Scope) (otherPath : List Char) :
    Prop where
  resolved : scope.resolve? path = other.resolve? otherPath
  displayed : scope.display path = other.display otherPath

theorem resolve?_point (scope : Scope) (path rest : List Char) :
    scope.resolve? (path ++ '.' :: rest) =
      (scope.resolve? path).bind fun value => walk? value (Text.splitOn '.' rest) := by
  obtain ⟨name, segments, pieces⟩ := List.exists_cons_of_ne_nil (Text.splitOn_ne_nil '.' path)
  simp only [resolve?, Text.splitOn_append, pieces, List.cons_append]
  split
  · rfl
  · rw [Option.bind_assoc]
    congr 1
    funext value
    exact List.foldlM_append

theorem resolve?_name (scope : Scope) {name : List Char} (nonempty : name ≠ [])
    (undotted : '.' ∉ name) :
    scope.resolve? name = scope.lookup? (String.ofList name) := by
  have visible : name.isEmpty = false := by simpa using nonempty
  rw [resolve?, Text.splitOn_absent undotted]
  simp only [visible]
  exact Option.bind_fun_some _

/-- A path that leads where another one leads does so with the same segments behind both. -/
theorem SameAt.of_tail {scope other : Scope} {path otherPath tail : List Char}
    (same : scope.resolve? path = other.resolve? otherPath) (isTail : IsTail tail) :
    SameAt scope (path ++ tail) other (otherPath ++ tail) := by
  have resolved : scope.resolve? (path ++ tail) = other.resolve? (otherPath ++ tail) := by
    cases isTail with
    | none => simpa using same
    | more segments => rw [resolve?_point, resolve?_point, same]
  constructor
  · exact resolved
  · rw [display, display, resolved]

theorem position?_digits {digits : List Char} (nonempty : digits ≠ [])
    (inside : ∀ c ∈ digits, c.isDigit = true) :
    position? digits = some (Decimal.natOfDigits digits) := by
  have all : digits.all Char.isDigit = true := List.all_eq_true.2 inside
  cases digits with
  | nil => contradiction
  | cons c more =>
      have noPlus : c ≠ '+' := by
        rintro rfl
        exact absurd (inside '+' List.mem_cons_self) (by decide)
      simp only [position?]
      split
      · next same => exact absurd (List.cons.inj same).1 noPlus
      · rw [all]
        rfl

theorem position?_natText (n : Nat) : position? (Layout.natText n) = some n := by
  have nonempty : Layout.natText n ≠ [] := Nat.toDigits_ne_nil
  rw [position?_digits nonempty (Layout.natText_digits n), Layout.natOfDigits_natText]

theorem step?_natText {items : List Json} {index : Nat} {item : Json}
    (found : items[index]? = some item) :
    step? (.array items) (Layout.natText index) = some item := by
  simp [step?, index?, position?_natText, found]

/-- The path of an item: the path of its array and its position. -/
theorem resolve?_item {scope : Scope} {path : List Char} {items : List Json} {index : Nat}
    {item : Json} (source : scope.resolve? path = some (.array items))
    (found : items[index]? = some item) :
    scope.resolve? (path ++ '.' :: Layout.natText index) = some item := by
  have noPoint : '.' ∉ Layout.natText index := by
    intro member
    exact absurd (Layout.natText_digits index '.' member) (by decide)
  rw [resolve?_point, source, Text.splitOn_absent noPoint]
  change (step? (.array items) (Layout.natText index)).bind (fun value => walk? value []) =
    some item
  rw [step?_natText found]
  rfl

/-- A name that is bound to what a path leads to stands for this path. -/
theorem bound_name_sameAt {scope : Scope} {path name tail : List Char} {value : Json}
    (resolved : scope.resolve? path = some value) (nonempty : name ≠ []) (undotted : '.' ∉ name)
    (isTail : IsTail tail) :
    SameAt (scope.child.bind (String.ofList name) value) (name ++ tail) scope (path ++ tail) := by
  apply SameAt.of_tail _ isTail
  rw [resolve?_name _ nonempty undotted, lookup?_bind, if_pos rfl, resolved]

end Scope

namespace Repeat

theorem name_nonempty {name : List Char} (named : Text.IsName isNamePart name) : name ≠ [] := by
  cases named
  exact List.cons_ne_nil _ _

theorem name_undotted {name : List Char} (named : Text.IsName isNamePart name) : '.' ∉ name := by
  intro member
  exact absurd (name_inside named '.' member) (by decide)

end Repeat

namespace Compiler

section Repetition

variable {directive : List Char} {spec : Repeat} {scope inner : Scope} {scopes : List Scope}
  {position : Nat}

/-- The scope of one repetition, from the item in its place. -/
theorem repetition_of_repetitions (parsed : Repeat.parse? directive = some spec)
    (repeated : repetitions directive scope = .ok scopes) (found : scopes[position]? = some inner) :
    ∃ items item, scope.resolve? spec.source = some (.array items) ∧
      items[position]? = some item ∧ inner = repetition spec scope item position := by
  simp only [repetitions, parsed] at repeated
  split at repeated
  · next items source =>
      cases repeated
      rw [List.getElem?_map, List.getElem?_zipIdx] at found
      cases placed : items[position]? with
      | none => simp [placed] at found
      | some item =>
          rw [placed] at found
          simp only [Option.map_some, Option.some.injEq, Nat.zero_add] at found
          exact ⟨items, item, source, placed, found.symm⟩
  · contradiction

/-- The item of a repetition stands for its place in the array. -/
theorem item_sameAt (parsed : Repeat.parse? directive = some spec)
    (repeated : repetitions directive scope = .ok scopes) (found : scopes[position]? = some inner)
    (distinct : spec.index ≠ some spec.item) {tail : List Char} (isTail : Scope.IsTail tail) :
    Scope.SameAt inner (spec.item ++ tail) scope
      (spec.source ++ '.' :: Layout.natText position ++ tail) := by
  obtain ⟨items, item, source, placed, rfl⟩ := repetition_of_repetitions parsed repeated found
  have named := Repeat.item_named parsed
  have notIndex : spec.index.map String.ofList ≠ some (String.ofList spec.item) := by
    cases index_eq : spec.index with
    | none => simp
    | some index =>
        intro same
        apply distinct
        rw [index_eq, String.ofList_injective (Option.some.inj same)]
  apply Scope.SameAt.of_tail _ isTail
  rw [Scope.resolve?_item source placed, Scope.resolve?_name _ (Repeat.name_nonempty named)
    (Repeat.name_undotted named), lookup?_repetition, if_neg notIndex, if_pos rfl]

/-- An index with the name of the item hides it. -/
theorem shadowed_item (parsed : Repeat.parse? directive = some spec)
    (repeated : repetitions directive scope = .ok scopes) (found : scopes[position]? = some inner)
    (shadowed : spec.index = some spec.item) :
    inner.resolve? spec.item = some (.number (.ofNat position)) := by
  obtain ⟨items, item, source, placed, rfl⟩ := repetition_of_repetitions parsed repeated found
  have named := Repeat.item_named parsed
  rw [Scope.resolve?_name _ (Repeat.name_nonempty named) (Repeat.name_undotted named),
    lookup?_repetition, if_pos (by rw [shadowed, Option.map_some])]

end Repetition

/-- A name that is bound to the value of a path stands for this path in front of any segments. In a
repetition the item stands for its position in the array, unless the index bears its name and so
hides it. -/
theorem path_resolution_composes (scope : Scope) :
    (∀ path value name tail, scope.resolve? path = some value → name ≠ [] → '.' ∉ name →
      Scope.IsTail tail →
        Scope.SameAt (scope.child.bind (String.ofList name) value) (name ++ tail) scope
          (path ++ tail)) ∧
    ∀ directive spec scopes position inner, Repeat.parse? directive = some spec →
      repetitions directive scope = .ok scopes → scopes[position]? = some inner →
        (spec.index ≠ some spec.item → ∀ tail, Scope.IsTail tail →
          Scope.SameAt inner (spec.item ++ tail) scope
            (spec.source ++ '.' :: Layout.natText position ++ tail)) ∧
        (spec.index = some spec.item →
          inner.resolve? spec.item = some (.number (.ofNat position))) := by
  constructor
  · intro path value name tail resolved nonempty undotted isTail
    exact Scope.bound_name_sameAt resolved nonempty undotted isTail
  · intro directive spec scopes position inner parsed repeated found
    constructor
    · intro distinct tail isTail
      exact item_sameAt parsed repeated found distinct isTail
    · intro shadowed
      exact shadowed_item parsed repeated found shadowed

def letterRows : Scope :=
  .root (.object [("rows", .array [.array [.string "a"], .array [.string "b", .string "cd"]])])

theorem path_resolution_composes_rows :
    Scope.SameAt (letterRows.child.bind "in" (.array [.string "b", .string "cd"]))
      "in.1.length".toList letterRows "rows.1.1.length".toList ∧
    ∃ first second, repetitions "(row, i) in rows".toList letterRows = .ok [first, second] ∧
      Scope.SameAt second "row.length".toList letterRows "rows.1.length".toList := by
  have composes := path_resolution_composes letterRows
  constructor
  · exact composes.1 "rows.1".toList _ ['i', 'n'] ".1.length".toList rfl (by decide) (by decide)
      (.more "1.length".toList)
  · have read : Repeat.parse? "(row, i) in rows".toList =
        some ⟨"row".toList, some ['i'], "rows".toList⟩ := by decide +kernel
    have repeated : ∃ first second,
        repetitions "(row, i) in rows".toList letterRows = .ok [first, second] := by
      rw [repetitions, read]
      exact ⟨_, _, rfl⟩
    obtain ⟨first, second, whole⟩ := repeated
    have meant := composes.2 _ _ _ 1 second read whole rfl
    exact ⟨first, second, whole, meant.1 (by decide) ".length".toList (.more "length".toList)⟩

def oneRow : Scope :=
  .root (.object [("rows", .array [.string "a"])])

/-- An index with the name of its item hides it: the name is zero in the first repetition, and not
the first row. -/
theorem item_not_always_in_place :
    ¬∀ (scope : Scope) directive spec scopes position inner,
      Repeat.parse? directive = some spec → repetitions directive scope = .ok scopes →
        scopes[position]? = some inner → ∀ tail, Scope.IsTail tail →
          Scope.SameAt inner (spec.item ++ tail) scope
            (spec.source ++ '.' :: Layout.natText position ++ tail) := by
  intro always
  have read : Repeat.parse? "(x, x) in rows".toList =
      some ⟨['x'], some ['x'], "rows".toList⟩ := by decide +kernel
  have repeated : repetitions "(x, x) in rows".toList oneRow =
      .ok [repetition ⟨['x'], some ['x'], "rows".toList⟩ oneRow (.string "a") 0] := by
    rw [repetitions, read]
    rfl
  have same := (always oneRow _ _ _ 0 _ read repeated rfl [] .none).displayed
  revert same
  decide +kernel

end Compiler
end MarkupTemplate
