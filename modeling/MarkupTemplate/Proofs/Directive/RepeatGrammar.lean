import MarkupTemplate.Directive.Repeat
import MarkupTemplate.Proofs.Text.Cutting
import MarkupTemplate.Proofs.Text.Names

/-!
The grammar of repeat values, told without the reader. What can be written as the grammar says can
be written so in one way only: a name ends where no name can go on, and blanks end where something
visible begins.
-/

namespace MarkupTemplate
namespace Repeat

/-- The names that a value binds, with the blanks between them. -/
inductive Names
  | alone (item : List Char)
  | pair (beforeItem item afterItem beforeIndex index afterIndex : List Char)

namespace Names

def text : Names → List Char
  | .alone item => item
  | .pair beforeItem item afterItem beforeIndex index afterIndex =>
      '(' :: (beforeItem ++ (item ++ (afterItem ++
        ',' :: (beforeIndex ++ (index ++ (afterIndex ++ [')']))))))

def item : Names → List Char
  | .alone item => item
  | .pair _ item _ _ _ _ => item

def index? : Names → Option (List Char)
  | .alone _ => none
  | .pair _ _ _ _ index _ => some index

def Spelled : Names → Prop
  | .alone item => Text.IsName isNamePart item
  | .pair beforeItem item afterItem beforeIndex index afterIndex =>
      (Text.IsBlanks beforeItem ∧ Text.IsName isNamePart item ∧ Text.IsBlanks afterItem) ∧
        Text.IsBlanks beforeIndex ∧ Text.IsName isNamePart index ∧ Text.IsBlanks afterIndex

end Names

/-- A repeat value in its parts. -/
structure Written where
  lead : List Char
  names : Names
  beforeIn : List Char
  afterIn : List Char
  /-- The path of the array: a name, and the segments behind it. -/
  name : List Char
  segments : List (List Char)
  trail : List Char

namespace Written

def path (written : Written) : List Char :=
  written.name ++ Text.dotted written.segments

def text (written : Written) : List Char :=
  written.lead ++ (written.names.text ++ (written.beforeIn ++
    ("in".toList ++ (written.afterIn ++ (written.path ++ written.trail)))))

def spec (written : Written) : Repeat :=
  ⟨written.names.item, written.names.index?, written.path⟩

structure Spelled (written : Written) : Prop where
  lead : Text.IsBlanks written.lead
  names : written.names.Spelled
  beforeIn : Text.IsGap written.beforeIn
  afterIn : Text.IsGap written.afterIn
  name : Text.IsName isNamePart written.name
  segments : ∀ segment ∈ written.segments, Text.IsSegment isNamePart segment
  trail : Text.IsBlanks written.trail

structure Of (text : List Char) (written : Written) : Prop where
  text_eq : written.text = text
  spelled : written.Spelled

end Written

theorem namePart_of_nameStart {c : Char} (start : Text.isNameStart c = true) :
    isNamePart c = true := by
  by_cases dollar : c = '$'
  · simp [isNamePart, dollar]
  · simp [isNamePart, Text.word_of_nameStart start dollar]

theorem not_namePart_of_blank {c : Char} (blank : Text.isBlank c = true) :
    isNamePart c = false := by
  have other : c ≠ '$' := by
    intro same
    subst same
    revert blank
    decide
  simp [isNamePart, Text.not_word_of_blank blank, other]

theorem name_inside {name : List Char} (named : Text.IsName isNamePart name) :
    ∀ c ∈ name, isNamePart c = true :=
  named.inside namePart_of_nameStart

theorem blanks_stop {blanks rest : List Char} (blank : Text.IsBlanks blanks)
    (stops : Text.Stops isNamePart rest) :
    Text.Stops isNamePart (blanks ++ rest) := by
  cases blanks with
  | nil => exact stops
  | cons c blanks => exact Text.stops_cons (not_namePart_of_blank (blank c List.mem_cons_self)) _

theorem blanks_stop_all {blanks : List Char} (blank : Text.IsBlanks blanks) :
    Text.Stops isNamePart blanks := by
  simpa using blanks_stop blank (Text.stops_nil isNamePart)

theorem gap_stops {gap : List Char} (isGap : Text.IsGap gap) (rest : List Char) :
    Text.Stops isNamePart (gap ++ rest) := by
  obtain ⟨nonempty, blank⟩ := isGap
  cases gap with
  | nil => contradiction
  | cons c gap => exact Text.stops_cons (not_namePart_of_blank (blank c List.mem_cons_self)) _

theorem Names.Spelled.item_named {names : Names} (spelled : names.Spelled) :
    Text.IsName isNamePart names.item := by
  cases names with
  | alone item => exact spelled
  | pair => exact spelled.1.2.1

theorem Names.Spelled.index_named {names : Names} (spelled : names.Spelled) {index : List Char}
    (present : names.index? = some index) :
    Text.IsName isNamePart index := by
  cases names with
  | alone item => contradiction
  | pair =>
      cases present
      exact spelled.2.2.1

theorem Names.Spelled.stops_blank {names : Names} (spelled : names.Spelled) (rest : List Char) :
    Text.Stops Text.isBlank (names.text ++ rest) := by
  cases names with
  | alone item => exact Text.IsName.stops_blank spelled rest
  | pair => exact Text.stops_cons (by decide) _

section Uniqueness

variable {rest otherRest : List Char}

/-- A name with blanks around it, up to a mark, is cut in one way only. -/
theorem padded_name_unique {mark : Char}
    (visible : Text.isBlank mark = false) (outside : isNamePart mark = false)
    {before name after otherBefore otherName otherAfter : List Char}
    (spelled : Text.IsBlanks before ∧ Text.IsName isNamePart name ∧ Text.IsBlanks after)
    (otherSpelled : Text.IsBlanks otherBefore ∧ Text.IsName isNamePart otherName ∧
      Text.IsBlanks otherAfter)
    (same : before ++ (name ++ (after ++ mark :: rest)) =
      otherBefore ++ (otherName ++ (otherAfter ++ mark :: otherRest))) :
    (before = otherBefore ∧ name = otherName ∧ after = otherAfter) ∧ rest = otherRest := by
  obtain ⟨before_blank, named, after_blank⟩ := spelled
  obtain ⟨otherBefore_blank, otherNamed, otherAfter_blank⟩ := otherSpelled
  obtain ⟨before_eq, same⟩ := Text.run_unique before_blank (named.stops_blank _)
    otherBefore_blank (otherNamed.stops_blank _) same
  obtain ⟨name_eq, same⟩ := Text.run_unique (name_inside named)
    (blanks_stop after_blank (Text.stops_cons outside rest)) (name_inside otherNamed)
    (blanks_stop otherAfter_blank (Text.stops_cons outside otherRest)) same
  obtain ⟨after_eq, same⟩ := Text.run_unique after_blank (Text.stops_cons visible rest)
    otherAfter_blank (Text.stops_cons visible otherRest) same
  exact ⟨⟨before_eq, name_eq, after_eq⟩, (List.cons.inj same).2⟩

theorem name_not_paren {name : List Char} (named : Text.IsName isNamePart name)
    (text other : List Char) :
    name ++ text ≠ '(' :: other := by
  cases named with
  | intro start inside =>
      intro same
      cases same
      revert start
      decide

/-- A text that begins with names begins with these only. -/
theorem Names.unique {one other : Names} (spelled : one.Spelled) (otherSpelled : other.Spelled)
    (stops : Text.Stops isNamePart rest) (otherStops : Text.Stops isNamePart otherRest)
    (same : one.text ++ rest = other.text ++ otherRest) :
    one = other ∧ rest = otherRest := by
  cases one with
  | alone item =>
      cases other with
      | alone otherItem =>
          obtain ⟨item_eq, rest_eq⟩ :=
            Text.run_unique (name_inside spelled) stops (name_inside otherSpelled) otherStops same
          exact ⟨congrArg Names.alone item_eq, rest_eq⟩
      | pair => exact absurd same (name_not_paren spelled _ _)
  | pair =>
      cases other with
      | alone otherItem => exact absurd same.symm (name_not_paren otherSpelled _ _)
      | pair =>
          simp only [Names.text, List.cons_append, List.append_assoc, List.cons.injEq, true_and,
            List.nil_append] at same
          obtain ⟨⟨rfl, rfl, rfl⟩, behindItem⟩ :=
            padded_name_unique rfl rfl spelled.1 otherSpelled.1 same
          obtain ⟨⟨rfl, rfl, rfl⟩, behindIndex⟩ :=
            padded_name_unique rfl rfl spelled.2 otherSpelled.2 behindItem
          exact ⟨rfl, behindIndex⟩

theorem dotted_unique {one other : List (List Char)}
    (spelled : ∀ segment ∈ one, Text.IsSegment isNamePart segment)
    (otherSpelled : ∀ segment ∈ other, Text.IsSegment isNamePart segment)
    (blank : Text.IsBlanks rest) (otherBlank : Text.IsBlanks otherRest)
    (same : Text.dotted one ++ rest = Text.dotted other ++ otherRest) :
    one = other ∧ rest = otherRest := by
  induction one generalizing other with
  | nil =>
      cases other with
      | nil => exact ⟨rfl, same⟩
      | cons segment others =>
          rw [show Text.dotted [] ++ rest = rest from rfl] at same
          rw [same] at blank
          exact absurd rfl blank.no_point
  | cons segment one ih =>
      cases other with
      | nil =>
          rw [show Text.dotted [] ++ otherRest = otherRest from rfl] at same
          rw [← same] at otherBlank
          exact absurd rfl otherBlank.no_point
      | cons otherSegment other =>
          obtain ⟨first, others⟩ := List.forall_mem_cons.1 spelled
          obtain ⟨otherFirst, otherOthers⟩ := List.forall_mem_cons.1 otherSpelled
          have behind : segment ++ (Text.dotted one ++ rest) =
              otherSegment ++ (Text.dotted other ++ otherRest) := by
            simpa [Text.dotted] using same
          obtain ⟨rfl, behindSegment⟩ := Text.run_unique first.inside
            (Text.dotted_stops rfl one (blanks_stop_all blank)) otherFirst.inside
            (Text.dotted_stops rfl other (blanks_stop_all otherBlank)) behind
          obtain ⟨rfl, rest_eq⟩ := ih others otherOthers behindSegment
          exact ⟨rfl, rest_eq⟩

end Uniqueness

namespace Written

/-- A text is written in these parts only. -/
theorem Of.unique {text : List Char} {one other : Written} (of : Of text one)
    (otherOf : Of text other) :
    one = other := by
  obtain ⟨text_eq, spelled⟩ := of
  obtain ⟨otherText_eq, otherSpelled⟩ := otherOf
  have same := text_eq.trans otherText_eq.symm
  have word : ∀ rest : List Char, Text.Stops Text.isBlank ("in".toList ++ rest) :=
    fun rest => Text.stops_cons (by decide) _
  simp only [Written.text, path, List.append_assoc] at same
  obtain ⟨lead_eq, same⟩ := Text.run_unique spelled.lead (spelled.names.stops_blank _)
    otherSpelled.lead (otherSpelled.names.stops_blank _) same
  obtain ⟨names_eq, same⟩ := Names.unique spelled.names otherSpelled.names
    (gap_stops spelled.beforeIn _) (gap_stops otherSpelled.beforeIn _) same
  obtain ⟨before_eq, same⟩ := Text.run_unique spelled.beforeIn.blank (word _)
    otherSpelled.beforeIn.blank (word _) same
  obtain ⟨after_eq, same⟩ := Text.run_unique spelled.afterIn.blank (spelled.name.stops_blank _)
    otherSpelled.afterIn.blank (otherSpelled.name.stops_blank _) (List.append_cancel_left same)
  obtain ⟨name_eq, same⟩ := Text.run_unique (name_inside spelled.name)
    (Text.dotted_stops rfl _ (blanks_stop_all spelled.trail)) (name_inside otherSpelled.name)
    (Text.dotted_stops rfl _ (blanks_stop_all otherSpelled.trail)) same
  obtain ⟨segments_eq, trail_eq⟩ := dotted_unique spelled.segments otherSpelled.segments
    spelled.trail otherSpelled.trail same
  cases one
  cases other
  simp_all

end Written

end Repeat
end MarkupTemplate
