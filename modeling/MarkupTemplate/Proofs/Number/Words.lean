import MarkupTemplate.Json.Coercion

/-!
Texts without a digit as numbers. Only words are numbers then: those for infinity and the one for
NaN, in any case of letters and behind a sign or none. Any other such text spells no number, and
NaN is what it counts as.
-/

namespace MarkupTemplate
namespace Decimal

def signs : List (List Char) :=
  [[], ['+'], ['-']]

def infinityWords : List (List Char) :=
  ["inf".toList, "infinity".toList]

def IsInfinity (text : List Char) : Prop :=
  ∃ mark ∈ signs, ∃ written word, word ∈ infinityWords ∧
    Text.sameName written word = true ∧ text = mark ++ written

theorem sign_append (text : List Char) : ∃ mark ∈ signs, text = mark ++ (sign text).2 := by
  unfold sign
  split
  · exact ⟨['-'], by decide, rfl⟩
  · exact ⟨['+'], by decide, rfl⟩
  · exact ⟨[], by decide, rfl⟩

/-- A letter is no sign, so a word behind a sign is all that follows it. -/
theorem sign_word {mark written word : List Char} (marked : mark ∈ signs)
    (listed : word ∈ infinityWords) (same : Text.sameName written word = true) :
    (sign (mark ++ written)).2 = written := by
  have letters : ∀ word ∈ infinityWords, (word.map Char.toLower).head? = some 'i' := by decide
  have starts := letters word listed
  have lowered : written.map Char.toLower = word.map Char.toLower := by
    simpa [Text.sameName] using same
  cases written with
  | nil =>
      rw [← lowered] at starts
      contradiction
  | cons c written =>
      rw [← lowered, List.map_cons, List.head?_cons, Option.some.injEq] at starts
      have unsigned : sign (c :: written) = (false, c :: written) := by
        unfold sign
        split
        · next same_sign =>
            cases same_sign
            contradiction
        · next same_sign =>
            cases same_sign
            contradiction
        · rfl
      simp only [signs, List.mem_cons, List.not_mem_nil, or_false] at marked
      rcases marked with rfl | rfl | rfl
      · rw [List.nil_append, unsigned]
      · rfl
      · rfl

theorem isInfinity_iff (text : List Char) :
    IsInfinity text ↔ ∃ word ∈ infinityWords, Text.sameName (sign text).2 word = true := by
  constructor
  · rintro ⟨mark, marked, written, word, listed, same, rfl⟩
    refine ⟨word, listed, ?_⟩
    rw [sign_word marked listed same]
    exact same
  · rintro ⟨word, listed, same⟩
    obtain ⟨mark, marked, text_eq⟩ := sign_append text
    exact ⟨mark, marked, (sign text).2, word, listed, same, text_eq⟩

instance : DecidablePred IsInfinity :=
  fun text => decidable_of_iff _ (isInfinity_iff text).symm

theorem special?_eq (negative : Bool) (text : List Char) :
    special? negative text =
      if text.map Char.toLower ∈ infinityWords then some (.infinite negative)
      else if text.map Char.toLower = "nan".toList then some .nan else none := by
  simp only [special?, infinityWords, List.mem_cons, List.not_mem_nil, or_false, Bool.or_eq_true,
    decide_eq_true_eq]

theorem mem_infinityWords_iff (text : List Char) :
    text.map Char.toLower ∈ infinityWords ↔
      ∃ word ∈ infinityWords, Text.sameName text word = true := by
  have lowered : ∀ word ∈ infinityWords, word.map Char.toLower = word := by decide
  simp only [Text.sameName, beq_iff_eq]
  constructor
  · intro listed
    exact ⟨_, listed, (lowered _ listed).symm⟩
  · rintro ⟨word, listed, same⟩
    rw [same, lowered word listed]
    exact listed

/-- Without a digit there is neither a whole part nor a fraction. -/
theorem read?_of_no_digit {text : List Char} (digitless : ∀ c ∈ text, c.isDigit = false) :
    read? text = special? (sign text).1 (sign text).2 := by
  have inside : ∀ c ∈ (sign text).2, c.isDigit = false := by
    obtain ⟨mark, _, text_eq⟩ := sign_append text
    intro c member
    apply digitless
    rw [text_eq]
    exact List.mem_append_right _ member
  have run_nil : ∀ {rest : List Char}, (∀ c ∈ rest, c.isDigit = false) →
      digitRun rest = ([], rest) := by
    intro rest stops
    cases rest with
    | nil => rfl
    | cons c rest => simp [digitRun, Text.run, stops c List.mem_cons_self]
  have fraction_nil : ∀ {rest : List Char}, (∀ c ∈ rest, c.isDigit = false) →
      (fraction rest).1 = [] := by
    intro rest stops
    unfold fraction
    split
    · next more => rw [run_nil fun c member => stops c (List.mem_cons_of_mem _ member)]
    · rfl
  rw [read?]
  simp only [run_nil inside, fraction_nil inside]
  split
  · next value special => exact special.symm
  · next special => simp [special]

/-- The number of a text without a digit is NaN, or an infinity if a word for it is spelled. -/
theorem numberless_iff {text : List Char} (digitless : ∀ c ∈ text, c.isDigit = false) :
    (read? text).getD .nan = .nan ↔ ¬IsInfinity text := by
  rw [read?_of_no_digit digitless, special?_eq, isInfinity_iff, ← mem_infinityWords_iff]
  split
  · next word => simp [word]
  · next other => split <;> simp [other]

end Decimal

namespace Text

theorem trim_subset (text : List Char) : ∀ c ∈ trim text, c ∈ text := by
  intro c member
  have inEnd : c ∈ trimStart (trimStart text).reverse := List.mem_reverse.1 member
  have inStart := List.mem_reverse.1 ((List.dropWhile_sublist _).subset inEnd)
  exact (List.dropWhile_sublist _).subset inStart

theorem trimStart_ne_nil {text : List Char} {c : Char} (member : c ∈ text)
    (visible : isBlank c = false) :
    c ∈ trimStart text := by
  induction text with
  | nil => contradiction
  | cons d text ih =>
      rw [trimStart, List.dropWhile_cons]
      split
      · next blank =>
          rcases List.mem_cons.1 member with rfl | behind
          · rw [visible] at blank
            contradiction
          · exact ih behind
      · exact member

/-- What is visible stays when a text is trimmed. -/
theorem mem_trim {text : List Char} {c : Char} (member : c ∈ text) (visible : isBlank c = false) :
    c ∈ trim text := by
  have inStart := trimStart_ne_nil member visible
  exact List.mem_reverse.2 (trimStart_ne_nil (List.mem_reverse.2 inStart) visible)

end Text
end MarkupTemplate
