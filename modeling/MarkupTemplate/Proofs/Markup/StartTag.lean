import MarkupTemplate.Markup.Tree
import MarkupTemplate.Proofs.Markup.AttrReading
import MarkupTemplate.Proofs.Markup.Nesting
import MarkupTemplate.Proofs.Markup.Tokens

/-!
Start tags as the scanner reads them, and where the start tags of a tree come from. A start tag is
read back from its spelling exactly when its pieces do not run into each other; those of a tree are
all read from its text.
-/

namespace MarkupTemplate
namespace StartTag

structure Shaped (tag : StartTag) : Prop where
  name_start : ∃ first rest, tag.name = first :: rest ∧ first.isAlpha = true
  name_inside : ∀ c ∈ tag.name, Markup.isTagName c = true
  attrs_shaped : ∀ attr ∈ tag.attrs, attr.Shaped
  trailing_blank : ∀ c ∈ tag.trailing, Text.isMarkupBlank c = true

def rest (tag : StartTag) (ending : List Char) : List Char :=
  tag.attrs.flatMap Attr.source ++ (tag.trailing ++ ending)

/-- Whether the name and every attribute of a tag end where they should, the tag in front of
`ending`. -/
def separated (tag : StartTag) (ending : List Char) : Bool :=
  (tag.rest ending).head?.all (fun c => !Markup.isTagName c) &&
    Attr.separated tag.attrs (tag.trailing ++ ending)

end StartTag

namespace Markup

open Text (run run_append run_exact run_inside run_stops)

theorem separated_tagEnd (tag : StartTag) (selfClosing : Bool) (more : List Char) :
    tag.separated (Token.tagEnd selfClosing ++ more) =
      tag.separated (Token.tagEnd selfClosing) := by
  have same := (same_start_tagEnd selfClosing more).append tag.trailing
  rw [StartTag.separated, StartTag.separated, StartTag.rest, StartTag.rest,
    (same.append (tag.attrs.flatMap Attr.source)).head, same.separated_eq]

theorem source_eq_rest (tag : StartTag) (ending : List Char) :
    tag.source ++ ending = '<' :: (tag.name ++ tag.rest ending) := by
  simp [StartTag.source, StartTag.rest]

theorem run_name_exact
    {tag : StartTag} {ending : List Char}
    (shaped : tag.Shaped) (apart : tag.separated ending = true) :
    run isTagName (tag.name ++ tag.rest ending) = (tag.name, tag.rest ending) := by
  simp only [StartTag.separated, Bool.and_eq_true, Option.all_eq_true, Bool.not_eq_true'] at apart
  exact run_exact shaped.name_inside apart.1

/-- A start tag whose pieces do not run into each other is read back, whatever follows it. -/
theorem elementToken_exact
    {tag : StartTag} {selfClosing : Bool}
    (shaped : tag.Shaped) (apart : tag.separated (Token.tagEnd selfClosing) = true)
    (more : List Char) :
    elementToken (tag.name ++ tag.rest (Token.tagEnd selfClosing ++ more)) =
      if !selfClosing && Vocabulary.isRawText tag.name then rawElement tag more
      else (.startTag tag selfClosing, more) := by
  rw [← separated_tagEnd tag selfClosing more] at apart
  have name_run := run_name_exact shaped apart
  simp only [StartTag.separated, Bool.and_eq_true] at apart
  have read := tagRest?_exact selfClosing shaped.attrs_shaped shaped.trailing_blank apart.2
  rw [elementToken, name_run]
  simp only [StartTag.rest, read]

def Token.tag? : Token → Option (StartTag × Bool)
  | .startTag tag selfClosing => some (tag, selfClosing)
  | .rawElement tag _ _ => some (tag, false)
  | _ => none

theorem tag_of_rawElement (tag : StartTag) (text : List Char) :
    (rawElement tag text).1.tag? = some (tag, false) := by
  unfold rawElement
  split <;> rfl

theorem source_of_tag
    {found : Token} {tag : StartTag} {selfClosing : Bool}
    (read : found.tag? = some (tag, selfClosing)) :
    ∃ more, found.source = tag.source ++ (Token.tagEnd selfClosing ++ more) := by
  cases found with
  | startTag tag selfClosing =>
      cases read
      exact ⟨[], by simp [Token.source]⟩
  | rawElement tag body closing =>
      cases read
      exact ⟨body ++ closing.getD [], by simp [Token.source, Token.tagEnd]⟩
  | _ => contradiction

theorem isTagName_of_alpha {c : Char} (letter : c.isAlpha = true) : isTagName c = true := by
  have other : ∀ d : Char, d.isAlpha = false → (c == d) = false := by
    intro d noLetter
    apply beq_false_of_ne
    rintro rfl
    rw [letter] at noLetter
    contradiction
  simp [isTagName, Text.isMarkupBlank, other ' ' rfl, other '\t' rfl, other '\n' rfl,
    other '\x0c' rfl, other '\r' rfl, other '>' rfl, other '/' rfl]

theorem elementToken_sound
    {c : Char} {text : List Char} {tag : StartTag} {selfClosing : Bool}
    (letter : c.isAlpha = true)
    (read : (elementToken (c :: text)).1.tag? = some (tag, selfClosing)) :
    tag.Shaped ∧ tag.separated (Token.tagEnd selfClosing) = true := by
  simp only [elementToken] at read
  split at read
  · contradiction
  · next found tag_read =>
      have pair_eq : (StartTag.mk (run isTagName (c :: text)).1 found.attrs found.trailing,
          found.selfClosing) = (tag, selfClosing) := by
        split at read
        · next raw =>
            rw [tag_of_rawElement] at read
            simp only [Bool.and_eq_true, Bool.not_eq_true'] at raw
            simpa [raw.1] using read
        · simpa [Token.tag?] using read
      cases pair_eq
      obtain ⟨shaped, blank, apart⟩ := tagRest?_sound tag_read
      have rest_eq := append_of_tagRest? tag_read
      constructor
      · exact
          { name_start := by
              refine ⟨c, text.takeWhile isTagName, ?_, letter⟩
              simp [run, isTagName_of_alpha letter]
            name_inside := run_inside isTagName (c :: text)
            attrs_shaped := shaped
            trailing_blank := blank }
      · rw [← separated_tagEnd _ _ found.rest]
        simp only [StartTag.separated, StartTag.rest, apart, Bool.and_true, Option.all_eq_true,
          Bool.not_eq_true']
        intro d head
        apply run_stops isTagName (c :: text)
        rw [rest_eq, ← head]
        simp [Token.tagEnd]

theorem token_tag_sound
    {c : Char} {text : List Char} {tag : StartTag} {selfClosing : Bool}
    (read : (token c text).1.tag? = some (tag, selfClosing)) :
    tag.Shaped ∧ tag.separated (Token.tagEnd selfClosing) = true := by
  cases token_kind c text with
  | plain _ token_eq =>
      rw [token_eq] at read
      contradiction
  | endTag _ token_eq =>
      rw [token_eq, endTagToken] at read
      split at read <;> contradiction
  | comment _ token_eq =>
      rw [token_eq, commentToken] at read
      split at read <;> contradiction
  | declaration _ _ _ _ token_eq =>
      rw [token_eq, declarationToken] at read
      split at read <;> contradiction
  | element _ _ alpha token_eq =>
      rw [token_eq] at read
      exact elementToken_sound alpha read

theorem scan_tag_sound
    {text : List Char} {found : Token} {tag : StartTag} {selfClosing : Bool}
    (member : found ∈ scan text) (read : found.tag? = some (tag, selfClosing)) :
    tag.Shaped ∧ tag.separated (Token.tagEnd selfClosing) = true := by
  fun_induction scan text with
  | case1 => contradiction
  | case2 c text ih =>
      rcases List.mem_cons.1 member with rfl | member
      · exact token_tag_sound read
      · exact ih member

/-- A property of the start tag of a node, if it has one, and of what ends that tag. -/
def OfTag (property : StartTag → List Char → Prop) : Node → Prop
  | .element tag _ closing => property tag closing.tagEnd
  | _ => True

theorem gives_of_tag
    {property : StartTag → List Char → Prop} {found : Token}
    (read : ∀ tag selfClosing, found.tag? = some (tag, selfClosing) →
      property tag (Token.tagEnd selfClosing)) :
    Gives (OfTag property) (fun _ _ => True) found := by
  cases found with
  | startTag tag selfClosing =>
      have here := read tag selfClosing rfl
      cases selfClosing with
      | true => exact here
      | false =>
          simp only [Gives, Bool.false_eq_true, if_false]
          split
          · exact here
          · rintro children _ (_ | _)
            · exact here
            · exact here
  | rawElement tag body closing =>
      have here := read tag false rfl
      cases closing with
      | none => exact here
      | some source => exact here
  | _ => trivial

/-- What holds of the start tags of all tokens holds of the start tags of all elements. -/
theorem tags_parse
    {property : StartTag → List Char → Prop} {text : List Char}
    (read : ∀ found ∈ scan text, ∀ tag selfClosing, found.tag? = some (tag, selfClosing) →
      property tag (Token.tagEnd selfClosing))
    {tag : StartTag} {children : List Node} {closing : Closing}
    (inside : .element tag children closing ∈ Node.preorders (parse text)) :
    property tag closing.tagEnd := by
  have holds : Holds (OfTag property) (parse text) :=
    holds_parse (fun _ => trivial) fun found member => gives_of_tag (read found member)
  exact holds _ inside

/-- Every start tag in a tree is read from its text: it has the shape of one, and its pieces do not
run into each other. -/
theorem parsed_tag_sound
    {text : List Char} {tag : StartTag} {children : List Node} {closing : Closing}
    (inside : .element tag children closing ∈ Node.preorders (parse text)) :
    tag.Shaped ∧ tag.separated closing.tagEnd = true := by
  let sound (tag : StartTag) (ending : List Char) : Prop :=
    tag.Shaped ∧ tag.separated ending = true
  have read : ∀ found ∈ scan text, ∀ tag selfClosing, found.tag? = some (tag, selfClosing) →
      sound tag (Token.tagEnd selfClosing) :=
    fun found member tag selfClosing tag_eq => scan_tag_sound member tag_eq
  exact tags_parse read inside

end Markup
end MarkupTemplate
