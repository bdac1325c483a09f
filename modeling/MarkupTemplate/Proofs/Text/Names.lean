import MarkupTemplate.Proofs.Text.Classes

/-!
What grammars of a template are made of: runs of blanks, names, and paths, which are names with
segments behind them. Names begin alike everywhere; what they go on with is a class of characters.
-/

namespace MarkupTemplate
namespace Text

def IsBlanks (text : List Char) : Prop :=
  ∀ c ∈ text, isBlank c = true

structure IsGap (text : List Char) : Prop where
  nonempty : text ≠ []
  blank : IsBlanks text

/-- An ASCII letter, an underscore or a dollar sign, with characters of a class behind it. -/
inductive IsName (part : Char → Bool) : List Char → Prop
  | intro {c : Char} {more : List Char} (start : isNameStart c = true)
      (inside : ∀ d ∈ more, part d = true) : IsName part (c :: more)

structure IsSegment (part : Char → Bool) (segment : List Char) : Prop where
  nonempty : segment ≠ []
  inside : ∀ c ∈ segment, part c = true

/-- Segments with a point in front of each. -/
def dotted (segments : List (List Char)) : List Char :=
  segments.flatMap fun segment => '.' :: segment

inductive IsPath (part : Char → Bool) : List Char → Prop
  | intro {name : List Char} {segments : List (List Char)} (named : IsName part name)
      (segmented : ∀ segment ∈ segments, IsSegment part segment) :
      IsPath part (name ++ dotted segments)

/-- Whether a text goes on with no character of a class. -/
def Stops (p : Char → Bool) (rest : List Char) : Prop :=
  ∀ c, rest.head? = some c → p c = false

theorem stops_nil (p : Char → Bool) : Stops p [] := by
  rintro c ⟨⟩

theorem stops_cons {p : Char → Bool} {c : Char} (outside : p c = false) (rest : List Char) :
    Stops p (c :: rest) := by
  rintro d ⟨⟩
  exact outside

theorem dotted_cons (segment : List Char) (segments : List (List Char)) :
    dotted (segment :: segments) = '.' :: (segment ++ dotted segments) := rfl

theorem dotted_stops {p : Char → Bool} (outside : p '.' = false) (segments : List (List Char))
    {rest : List Char} (stops : Stops p rest) :
    Stops p (dotted segments ++ rest) := by
  cases segments with
  | nil => exact stops
  | cons segment segments => exact stops_cons outside _

theorem ascii_of_nameStart {c : Char} (start : isNameStart c = true) : c.toNat < 128 := by
  simp only [isNameStart, Bool.or_eq_true, beq_iff_eq] at start
  rcases start with (letter | rfl) | rfl
  · exact ascii_of_alphanum (by simp [Char.isAlphanum, letter])
  · decide
  · decide

theorem word_of_nameStart {c : Char} (start : isNameStart c = true) (noDollar : c ≠ '$') :
    isWord c = true := by
  simp only [isNameStart, Bool.or_eq_true, beq_iff_eq] at start
  rcases start with (letter | rfl) | rfl
  · exact word_of_alphanum (by simp [Char.isAlphanum, letter])
  · decide
  · contradiction

theorem not_blank_of_nameStart {c : Char} (start : isNameStart c = true) : isBlank c = false := by
  apply Bool.eq_false_iff.2
  intro blank
  have noWord := not_word_of_blank blank
  have noDollar : c ≠ '$' := by
    rintro rfl
    revert blank
    decide
  rw [word_of_nameStart start noDollar] at noWord
  contradiction

theorem IsName.inside {part : Char → Bool} {name : List Char} (named : IsName part name)
    (starts : ∀ {c}, isNameStart c = true → part c = true) :
    ∀ c ∈ name, part c = true := by
  cases named with
  | intro start inside => exact List.forall_mem_cons.2 ⟨starts start, inside⟩

theorem IsName.path {part : Char → Bool} {name : List Char} (named : IsName part name) :
    IsPath part name := by
  have whole := IsPath.intro named (List.forall_mem_nil (IsSegment part))
  simpa [dotted] using whole

section Classes

variable {part other : Char → Bool}

theorem IsPath.inside {path : List Char} (spelled : IsPath part path)
    (starts : ∀ {c}, isNameStart c = true → part c = true) :
    ∀ c ∈ path, c = '.' ∨ part c = true := by
  cases spelled with
  | @intro name segments named segmented =>
      intro c member
      rcases List.mem_append.1 member with inName | inSegments
      · exact .inr (named.inside starts c inName)
      · obtain ⟨segment, listed, inSegment⟩ := List.mem_flatMap.1 inSegments
        rcases List.mem_cons.1 inSegment with point | behind
        · exact .inl point
        · exact .inr ((segmented segment listed).inside c behind)

theorem IsPath.begins {path : List Char} (spelled : IsPath part path) :
    ∃ c text, path = c :: text ∧ isNameStart c = true := by
  cases spelled with
  | intro named segmented =>
      cases named with
      | intro start inside => exact ⟨_, _, rfl, start⟩

theorem IsName.narrow {name : List Char} (named : IsName part name)
    (within : ∀ c ∈ name, part c = true → other c = true) :
    IsName other name := by
  cases named with
  | intro start inside =>
      apply IsName.intro start
      intro d member
      exact within d (List.mem_cons_of_mem _ member) (inside d member)

/-- A path over one class is one over another that has all its characters. -/
theorem IsPath.narrow {path : List Char} (spelled : IsPath part path)
    (within : ∀ c ∈ path, part c = true → other c = true) :
    IsPath other path := by
  cases spelled with
  | @intro name segments named segmented =>
      have narrowed : IsName other name :=
        named.narrow fun c member => within c (List.mem_append_left _ member)
      apply IsPath.intro narrowed
      intro segment listed
      have spelled := segmented segment listed
      apply IsSegment.mk spelled.nonempty
      intro c member
      have inSegments : c ∈ dotted segments :=
        List.mem_flatMap.2 ⟨segment, listed, List.mem_cons_of_mem _ member⟩
      exact within c (List.mem_append_right _ inSegments) (spelled.inside c member)

end Classes

theorem IsName.stops_blank {part : Char → Bool} {name : List Char} (named : IsName part name)
    (rest : List Char) :
    Stops isBlank (name ++ rest) := by
  cases named with
  | intro start inside => exact stops_cons (not_blank_of_nameStart start) _

theorem IsBlanks.no_point {blanks : List Char} (blank : IsBlanks blanks) :
    blanks.head? ≠ some '.' := by
  intro point
  have point_blank := blank '.' (List.mem_of_mem_head? point)
  revert point_blank
  decide

end Text
end MarkupTemplate
