import MarkupTemplate.Proofs.Markup.FirstNode

/-!
What a start tag says, its spelling aside. Reading a start tag again gives what it says exactly when
its pieces do not run into each other: if they do, the tag that is read differs in its name, or in
the name or the value of some attribute.
-/

namespace MarkupTemplate

structure TagMeaning where
  name : List Char
  /-- The name of each attribute, and its value if it has one. -/
  attrs : List (List Char × Option (List Char))
  selfClosing : Bool
deriving DecidableEq, Repr

namespace Attr

def meaning (attr : Attr) : List Char × Option (List Char) :=
  (attr.name, attr.value.map AttrValue.text)

/-- A hollow value ends only with the tag, so no attribute may stand behind it. -/
def HollowLast (ending : List Char) : List Attr → Prop
  | [] => True
  | attr :: attrs =>
      (∀ value, attr.value = some value → value.Hollow →
        attrs = [] ∧ ending.head? = some '>') ∧ HollowLast ending attrs

end Attr

def StartTag.meaning (tag : StartTag) (selfClosing : Bool) : TagMeaning :=
  ⟨tag.name, tag.attrs.map Attr.meaning, selfClosing⟩

namespace Markup

open Text (run_unique)

def firstMeaning? (text : List Char) : Option TagMeaning :=
  ((parse text).head?.bind Node.opening?).map fun (tag, selfClosing) => tag.meaning selfClosing

theorem attr_source_start
    {attr : Attr} (shaped : attr.Shaped) (following : List Char) :
    ∃ c rest, attr.source ++ following = c :: rest ∧ c ≠ '>' := by
  obtain ⟨leading, name, value⟩ := attr
  cases leading with
  | cons c leading =>
      refine ⟨c, _, rfl, ?_⟩
      rintro rfl
      have blank := shaped.leading_blank '>' (by simp)
      contradiction
  | nil =>
      cases name with
      | nil =>
          have shape := shaped.name_shape
          simp at shape
      | cons c name => exact ⟨c, _, rfl, (shaped.name_inside c (by simp)).2⟩

theorem hollow_last_of_separated
    {attrs : List Attr} {ending : List Char}
    (shaped : ∀ attr ∈ attrs, attr.Shaped)
    (apart : Attr.separated attrs ending = true) :
    Attr.HollowLast ending attrs := by
  induction attrs with
  | nil => trivial
  | cons attr attrs ih =>
      simp only [Attr.separated, Bool.and_eq_true] at apart
      refine ⟨?_, ih (fun other member => shaped other (by simp [member])) apart.2⟩
      intro value value_eq hollow
      have ends : value.endsBefore (attrs.flatMap Attr.source ++ ending) = true := by
        simpa [Attr.endsBefore, value_eq] using apart.1
      have closes := hollow_ends ends hollow
      cases attrs with
      | nil => exact ⟨rfl, closes⟩
      | cons next attrs =>
          obtain ⟨c, rest, text_eq, opened⟩ := attr_source_start (shaped next (by simp))
            (attrs.flatMap Attr.source ++ ending)
          rw [List.flatMap_cons, List.append_assoc, text_eq] at closes
          exact absurd (Option.some.inj closes) opened

theorem bare_start_not_quote
    {value : AttrValue} {following : List Char}
    (shaped : value.Shaped) (bare : value.quoting = .bare)
    (hollow : value.Hollow → following.head? = some '>') :
    (value.text ++ following).head? ≠ some '"' ∧ (value.text ++ following).head? ≠ some '\'' := by
  cases text_eq : value.text with
  | nil => simp [hollow ⟨bare, text_eq⟩]
  | cons c text => simpa [text_eq] using shaped.bare_start bare

/-- Two spellings of one value in one text have the same quotes, so they end at the same place. -/
theorem value_same_end
    {value other : AttrValue} {following otherFollowing : List Char}
    (shaped : value.Shaped) (otherShaped : other.Shaped)
    (hollow : value.Hollow → following.head? = some '>')
    (otherHollow : other.Hollow → otherFollowing.head? = some '>')
    (text_eq : value.text = other.text)
    (source_eq : value.source ++ following = other.source ++ otherFollowing) :
    value.quoting = other.quoting ∧ following = otherFollowing := by
  have signs_eq : value.before ++ '=' :: (value.after ++ (value.quoting.mark ++ value.text ++
        value.quoting.mark ++ following)) =
      other.before ++ '=' :: (other.after ++ (other.quoting.mark ++ other.text ++
        other.quoting.mark ++ otherFollowing)) := by
    simpa [AttrValue.source] using source_eq
  obtain ⟨_, sign_eq⟩ := run_unique shaped.before_blank (by rintro c ⟨⟩; decide)
    otherShaped.before_blank (by rintro c ⟨⟩; decide) signs_eq
  obtain ⟨_, quoted_eq⟩ := run_unique shaped.after_blank
    (value_start_not_blank shaped hollow) otherShaped.after_blank
    (value_start_not_blank otherShaped otherHollow) (List.cons.inj sign_eq).2
  rw [text_eq] at quoted_eq
  cases quoting : value.quoting <;> cases otherQuoting : other.quoting <;>
    simp only [quoting, otherQuoting, Quoting.mark, List.nil_append, List.append_nil,
      List.cons_append, List.append_assoc, List.append_cancel_left_eq, List.cons.injEq, true_and]
      at quoted_eq
  case bare.bare => exact ⟨rfl, quoted_eq⟩
  case single.single => exact ⟨rfl, quoted_eq⟩
  case double.double => exact ⟨rfl, quoted_eq⟩
  case bare.single =>
      have start := bare_start_not_quote shaped quoting hollow
      rw [text_eq, quoted_eq] at start
      exact absurd rfl start.2
  case bare.double =>
      have start := bare_start_not_quote shaped quoting hollow
      rw [text_eq, quoted_eq] at start
      exact absurd rfl start.1
  case single.bare =>
      have start := bare_start_not_quote otherShaped otherQuoting otherHollow
      rw [← quoted_eq] at start
      exact absurd rfl start.2
  case double.bare =>
      have start := bare_start_not_quote otherShaped otherQuoting otherHollow
      rw [← quoted_eq] at start
      exact absurd rfl start.1
  case single.double =>
      exact absurd quoted_eq.1 (by decide)
  case double.single =>
      exact absurd quoted_eq.1 (by decide)

theorem attr_name_start
    {attr : Attr} (shaped : attr.Shaped) (following : List Char) :
    ∀ c, (attr.name ++ following).head? = some c → Text.isMarkupBlank c = false := by
  intro c head
  have shape := shaped.name_shape
  have inside := shaped.name_inside
  cases name_eq : attr.name with
  | nil => simp [name_eq] at shape
  | cons first name =>
      rw [name_eq] at head inside
      cases head
      exact (inside c (by simp)).1

/-- Two spellings of one attribute in one text end at the same place, where both should. -/
theorem attr_same_end
    {attr other : Attr} {following otherFollowing : List Char}
    (shaped : attr.Shaped) (otherShaped : other.Shaped)
    (ends : attr.endsBefore following = true)
    (otherHollow : ∀ value, other.value = some value → value.Hollow →
      otherFollowing.head? = some '>')
    (meaning_eq : attr.meaning = other.meaning)
    (source_eq : attr.source ++ following = other.source ++ otherFollowing) :
    other.endsBefore otherFollowing = true ∧ following = otherFollowing := by
  obtain ⟨name_eq, text_eq⟩ := Prod.mk.inj meaning_eq
  obtain ⟨_, named_eq⟩ := run_unique shaped.leading_blank
    (attr_name_start shaped ((attr.value.map AttrValue.source).getD [] ++ following))
    otherShaped.leading_blank
    (attr_name_start otherShaped ((other.value.map AttrValue.source).getD [] ++ otherFollowing))
    (by simpa [Attr.source] using source_eq)
  rw [name_eq, List.append_cancel_left_eq] at named_eq
  cases value_eq : attr.value with
  | none =>
      cases other_eq : other.value with
      | some value => simp [value_eq, other_eq] at text_eq
      | none =>
          have same : following = otherFollowing := by
            simpa [value_eq, other_eq] using named_eq
          refine ⟨?_, same⟩
          simpa only [Attr.endsBefore, value_eq, other_eq, name_eq, same] using ends
  | some value =>
      cases other_eq : other.value with
      | none => simp [value_eq, other_eq] at text_eq
      | some otherValue =>
          have texts_eq : value.text = otherValue.text := by
            simpa [value_eq, other_eq] using text_eq
          have sources_eq : value.source ++ following = otherValue.source ++ otherFollowing := by
            simpa [value_eq, other_eq] using named_eq
          simp only [Attr.endsBefore, value_eq] at ends
          obtain ⟨quoting_eq, same⟩ := value_same_end (shaped.value_shape value value_eq)
            (otherShaped.value_shape otherValue other_eq) (hollow_ends ends)
            (otherHollow otherValue other_eq) texts_eq sources_eq
          refine ⟨?_, same⟩
          simpa only [Attr.endsBefore, AttrValue.endsBefore, other_eq, quoting_eq, texts_eq, same]
            using ends

theorem separated_of_same_meaning
    {attrs others : List Attr} {ending otherEnding : List Char}
    (shaped : ∀ attr ∈ attrs, attr.Shaped) (otherShaped : ∀ attr ∈ others, attr.Shaped)
    (apart : Attr.separated attrs ending = true)
    (otherHollow : Attr.HollowLast otherEnding others)
    (meaning_eq : attrs.map Attr.meaning = others.map Attr.meaning)
    (source_eq : attrs.flatMap Attr.source ++ ending = others.flatMap Attr.source ++ otherEnding) :
    Attr.separated others otherEnding = true := by
  induction others generalizing attrs with
  | nil => rfl
  | cons other others ih =>
      cases attrs with
      | nil => simp at meaning_eq
      | cons attr attrs =>
          simp only [List.map_cons, List.cons.injEq] at meaning_eq
          simp only [List.flatMap_cons, List.append_assoc] at source_eq
          simp only [Attr.separated, Bool.and_eq_true] at apart ⊢
          have hollow_next : ∀ value, other.value = some value → value.Hollow →
              (others.flatMap Attr.source ++ otherEnding).head? = some '>' := by
            intro value value_eq hollow
            obtain ⟨alone, closes⟩ := otherHollow.1 value value_eq hollow
            rw [alone]
            exact closes
          obtain ⟨otherEnds, same⟩ := attr_same_end (shaped attr (by simp))
            (otherShaped other (by simp)) apart.1 hollow_next meaning_eq.1 source_eq
          refine ⟨otherEnds, ?_⟩
          exact ih (fun attr member => shaped attr (by simp [member]))
            (fun attr member => otherShaped attr (by simp [member])) apart.2 otherHollow.2
            meaning_eq.2 same

theorem source_opens {tag : StartTag} (shaped : tag.Shaped) (ending : List Char) :
    ∃ first name, tag.name = first :: name ∧ first.isAlpha = true ∧
      tag.source ++ ending = '<' :: first :: (name ++ tag.rest ending) := by
  obtain ⟨first, name, name_eq, letter⟩ := shaped.name_start
  refine ⟨first, name, name_eq, letter, ?_⟩
  rw [source_eq_rest, name_eq]
  rfl

/-- The first node of a text that spells a start tag first. -/
theorem first_opening_source {tag : StartTag} (shaped : tag.Shaped) (ending : List Char) :
    (parse (tag.source ++ ending)).head?.bind Node.opening? =
      (elementToken (tag.name ++ tag.rest ending)).1.tag? := by
  obtain ⟨first, name, name_eq, letter, source_eq⟩ := source_opens shaped ending
  rw [source_eq, name_eq, opening_of_parse, token_letter letter]
  rfl

theorem hollow_last_congr
    {ending otherEnding : List Char} (same : ending.head? = otherEnding.head?) (attrs : List Attr) :
    Attr.HollowLast ending attrs ↔ Attr.HollowLast otherEnding attrs := by
  induction attrs with
  | nil => exact Iff.rfl
  | cons attr attrs ih => rw [Attr.HollowLast, Attr.HollowLast, ih, same]

theorem separated_of_first_opening
    {tag found : StartTag} {selfClosing : Bool} {more : List Char}
    (shaped : tag.Shaped)
    (hollow : Attr.HollowLast (tag.trailing ++ Token.tagEnd selfClosing) tag.attrs)
    (read : (elementToken (tag.name ++ tag.rest (Token.tagEnd selfClosing ++ more))).1.tag? =
      some (found, selfClosing))
    (meaning_eq : found.meaning selfClosing = tag.meaning selfClosing) :
    tag.separated (Token.tagEnd selfClosing) = true := by
  obtain ⟨name_eq, attrs_eq, _⟩ := TagMeaning.mk.inj meaning_eq
  obtain ⟨foundMore, source_eq⟩ := source_of_tag read
  have text_eq := elementToken_append (tag.name ++ tag.rest (Token.tagEnd selfClosing ++ more))
  rw [source_eq, List.append_assoc, List.append_assoc, source_eq_rest, List.cons.injEq] at text_eq
  have rest_eq := text_eq.2
  rw [name_eq, List.append_cancel_left_eq] at rest_eq
  obtain ⟨first, name, tag_name_eq, letter⟩ := shaped.name_start
  rw [tag_name_eq] at read
  obtain ⟨foundShaped, foundApart⟩ := elementToken_sound letter read
  rw [← separated_tagEnd found selfClosing (foundMore ++ (elementToken (tag.name ++
    tag.rest (Token.tagEnd selfClosing ++ more))).2)] at foundApart
  rw [← separated_tagEnd tag selfClosing more]
  simp only [StartTag.separated, rest_eq, Bool.and_eq_true] at foundApart ⊢
  refine ⟨foundApart.1, ?_⟩
  apply separated_of_same_meaning foundShaped.attrs_shaped shaped.attrs_shaped foundApart.2 _
    attrs_eq rest_eq
  refine (hollow_last_congr ?_ _).1 hollow
  exact ((same_start_tagEnd selfClosing more).append tag.trailing).head.symm

/-- A start tag is read back, whatever follows it, exactly if its pieces do not run into each
other. -/
theorem first_meaning_iff
    {tag : StartTag} {selfClosing : Bool}
    (shaped : tag.Shaped)
    (hollow : Attr.HollowLast (tag.trailing ++ Token.tagEnd selfClosing) tag.attrs)
    (more : List Char) :
    firstMeaning? (tag.source ++ (Token.tagEnd selfClosing ++ more)) =
        some (tag.meaning selfClosing) ↔
      tag.separated (Token.tagEnd selfClosing) = true := by
  rw [firstMeaning?, first_opening_source shaped, Option.map_eq_some_iff]
  constructor
  · rintro ⟨⟨found, foundSelfClosing⟩, read, meaning_eq⟩
    have same : foundSelfClosing = selfClosing := (TagMeaning.mk.inj meaning_eq).2.2
    subst same
    exact separated_of_first_opening shaped hollow read meaning_eq
  · intro apart
    refine ⟨(tag, selfClosing), ?_, rfl⟩
    rw [elementToken_exact shaped apart]
    split
    · next raw =>
        have opened : selfClosing = false := by simpa using (Bool.and_eq_true_iff.1 raw).1
        rw [tag_of_rawElement, opened]
    · rfl

end Markup
end MarkupTemplate
