import MarkupTemplate.Proofs.Markup.NodeSpelling
import MarkupTemplate.Proofs.Markup.Occurrences

/-!
What every element of a parsed tree looks like: how it ends, what it holds, and how its attributes
are spelled.
-/

namespace MarkupTemplate

structure AttrValue.Spelled (value : AttrValue) : Prop where
  before_blank : ∀ c ∈ value.before, Text.isMarkupBlank c = true
  after_blank : ∀ c ∈ value.after, Text.isMarkupBlank c = true
  unquoted : value.quoting = .bare →
    ∀ c ∈ value.text, Text.isMarkupBlank c = false ∧ c ≠ '>'
  quoted : ∀ mark ∈ value.quoting.mark, mark ∉ value.text

structure Attr.Spelled (attr : Attr) : Prop where
  leading_blank : ∀ c ∈ attr.leading, Text.isMarkupBlank c = true
  named : attr.name ≠ []
  valued : ∀ value, attr.value = some value → value.Spelled
  source_eq : attr.source = attr.leading ++ attr.name ++
    match attr.value with
    | none => []
    | some value =>
        value.before ++ '=' :: value.after ++ value.quoting.mark ++ value.text ++
          value.quoting.mark

namespace Markup

/-- An end tag that closes the elements of a name: the name in any case, blanks, and the `>`. -/
def IsEndTagOf (name source : List Char) : Prop :=
  ∃ written blanks, Text.sameName written name = true ∧
    (∀ c ∈ blanks, Text.isBlank c = true) ∧ source = endTagText written blanks ++ ['>']

structure Sound (element : Occurrence) : Prop where
  /-- At most 255 elements stand around it. -/
  shallow : element.enclosing.length < 256
  childless : element.closing = .selfClosing ∨ element.closing = .void → element.children = []
  void : Vocabulary.isVoid element.tag.name = true →
    element.closing = .selfClosing ∨ element.closing = .void
  /-- The content of a raw text element is at most one text, in which no end tag closes it. -/
  raw : Vocabulary.isRawText element.tag.name = true →
    element.children = [] ∨ ∃ body, element.children = [.text body] ∧
      ∀ before source after, IsEndTagOf element.tag.name source →
        body ≠ before ++ source ++ after
  closed : ∀ source, element.closing = .explicit source → IsEndTagOf element.tag.name source
  unclosed : element.closing = .missing →
    EndsUnclosed element.enclosing element.tag.name element.following
  attrs : ∀ attr ∈ element.tag.attrs, attr.Spelled

theorem value_spelled {value : AttrValue} {following : List Char}
    (shaped : value.Shaped) (ends : value.endsBefore following = true) : value.Spelled where
  before_blank := shaped.before_blank
  after_blank := shaped.after_blank
  unquoted := by
    intro bare c member
    have inside := shaped.bare_inside bare c member
    simpa [isBareValue] using inside
  quoted := by
    intro mark member
    unfold AttrValue.endsBefore at ends
    cases quoting : value.quoting with
    | bare => simp [quoting, Quoting.mark] at member
    | single =>
        obtain rfl : mark = '\'' := by simpa [quoting, Quoting.mark] using member
        simpa [quoting] using ends
    | double =>
        obtain rfl : mark = '"' := by simpa [quoting, Quoting.mark] using member
        simpa [quoting] using ends

theorem attr_spelled {attr : Attr} {following : List Char}
    (shaped : attr.Shaped) (ends : attr.endsBefore following = true) : attr.Spelled where
  leading_blank := shaped.leading_blank
  named := by
    rcases shaped.name_shape with sign | ⟨nonempty, _⟩
    · simp [sign]
    · exact nonempty
  valued := by
    intro value value_eq
    apply value_spelled (shaped.value_shape value value_eq)
    simpa only [Attr.endsBefore, value_eq] using ends
  source_eq := by
    cases value_eq : attr.value <;> simp [Attr.source, AttrValue.source, value_eq]

theorem attrs_spelled {attrs : List Attr} {ending : List Char}
    (shaped : ∀ attr ∈ attrs, attr.Shaped) (apart : Attr.separated attrs ending = true) :
    ∀ attr ∈ attrs, attr.Spelled := by
  induction attrs with
  | nil => simp
  | cons attr attrs ih =>
      simp only [Attr.separated, Bool.and_eq_true] at apart
      intro other member
      rcases List.mem_cons.1 member with rfl | member
      · exact attr_spelled (shaped other List.mem_cons_self) apart.1
      · exact ih (fun inner inside => shaped inner (List.mem_cons_of_mem _ inside)) apart.2 other
          member

def Closed : Node → Prop
  | .element tag children closing =>
      (closing = .selfClosing ∨ closing = .void → children = []) ∧
        (Vocabulary.isVoid tag.name = true → closing = .selfClosing ∨ closing = .void) ∧
        ∀ source, closing = .explicit source → IsEndTagOf tag.name source
  | _ => True

theorem known_of_isOneOf {names : List String} {name : List Char}
    (known : Vocabulary.isOneOf names name = true) :
    ∃ word ∈ names, Text.sameName name word.toList = true :=
  List.any_eq_true.1 known

theorem void_not_raw {name : List Char} (raw : Vocabulary.isRawText name = true) :
    Vocabulary.isVoid name = false := by
  apply Bool.eq_false_iff.2
  intro void
  obtain ⟨word, raw_word, same⟩ := known_of_isOneOf raw
  obtain ⟨other, void_word, also⟩ := known_of_isOneOf void
  have apart : ∀ word ∈ ["script", "style", "textarea", "title"],
      Vocabulary.isVoid word.toList = false := by decide +kernel
  have void_known : Vocabulary.isVoid word.toList = true := by
    apply List.any_eq_true.2
    refine ⟨other, void_word, ?_⟩
    simp only [Text.sameName, beq_iff_eq] at same also ⊢
    exact same.symm.trans also
  rw [apart word raw_word] at void_known
  contradiction

/-- The name of a raw text element can stand in an end tag. -/
theorem name_of_raw {name : List Char} (raw : Vocabulary.isRawText name = true) :
    name ≠ [] ∧ ∀ c ∈ name, isEndTagName c = true := by
  obtain ⟨word, raw_word, same⟩ := known_of_isOneOf raw
  have plain : ∀ word ∈ ["script", "style", "textarea", "title"],
      word.toList.all isEndTagName = true := by decide +kernel
  constructor
  · rintro rfl
    have spelled : ∀ word ∈ ["script", "style", "textarea", "title"],
        Text.sameName [] word.toList = false := by decide +kernel
    rw [spelled word raw_word] at same
    exact Bool.false_ne_true same
  · rw [Text.sameName_comm] at same
    exact endTagName_of_sameName same (List.all_eq_true.1 (plain word raw_word))

theorem raw_of_token {c : Char} {text body : List Char} {tag : StartTag}
    {closing : Option (List Char)} (read : (token c text).1 = .rawElement tag body closing) :
    Vocabulary.isRawText tag.name = true := by
  cases token_kind c text with
  | plain _ token_eq =>
      rw [token_eq] at read
      contradiction
  | endTag rest token_eq =>
      rw [token_eq, endTagToken] at read
      split at read <;> contradiction
  | comment rest token_eq =>
      rw [token_eq, commentToken] at read
      split at read <;> contradiction
  | declaration mark rest _ _ token_eq =>
      rw [token_eq, declarationToken] at read
      split at read <;> contradiction
  | element letter rest _ token_eq =>
      rw [token_eq] at read
      cases cut : elementToken (letter :: rest) with
      | mk found behind =>
          rw [cut] at read
          rcases elementToken_kind cut with
            ⟨rfl, _⟩ | ⟨_, _, rfl, _⟩ | ⟨other, following, raw, raw_eq⟩
          · contradiction
          · contradiction
          · have same_tag := tag_of_rawElement other following
            rw [raw_eq, read] at same_tag
            cases same_tag
            exact raw

theorem raw_of_scan {text body : List Char} {tag : StartTag} {closing : Option (List Char)}
    (member : .rawElement tag body closing ∈ scan text) :
    Vocabulary.isRawText tag.name = true := by
  obtain ⟨c, behind, read⟩ := token_of_mem_scan member
  exact raw_of_token read

theorem closed_rawNode {tag : StartTag} {body : List Char} {closing : Option (List Char)}
    (raw : Vocabulary.isRawText tag.name = true) (spelled : Spelled (rawNode tag body closing)) :
    Closed (rawNode tag body closing) := by
  have content := spelled.2 raw
  cases closing with
  | none => exact ⟨by simp, by simp [void_not_raw raw], by simp⟩
  | some source =>
      refine ⟨by simp, by simp [void_not_raw raw], ?_⟩
      rintro _ ⟨⟩
      rcases content with selfClosed | content
      · contradiction
      · generalize children_eq : (if body.isEmpty then [] else [Node.text body]) = children
          at content
        cases content with
        | closed shape same _ =>
            rw [Text.sameName_comm] at same
            exact ⟨_, _, same, shape.blank, rfl⟩

theorem gives_closed {text : List Char} {found : Token} (member : found ∈ scan text) :
    Gives Closed WrittenEndTag found := by
  cases found with
  | startTag tag selfClosing =>
      rw [Gives]
      split
      · exact ⟨by simp, by simp, by simp⟩
      · split
        · exact ⟨by simp, by simp, by simp⟩
        · next content =>
            rintro children _ (_ | ⟨same, blanks, shape, rfl⟩)
            · exact ⟨by simp, fun void => absurd void content, by simp⟩
            · refine ⟨by simp, fun void => absurd void content, ?_⟩
              rintro _ ⟨⟩
              exact ⟨_, blanks, same, shape.blank, rfl⟩
  | endTag name source => exact endTag_of_scan member
  | rawElement tag body closing => exact closed_rawNode (raw_of_scan member) (gives_spelled member)
  | _ => trivial

theorem closed_parse (text : List Char) : Holds Closed (parse text) :=
  holds_parse (fun _ => trivial) fun _ member => gives_closed member

/-- A text that a raw text element holds has no end tag of the element in it, as the first one ends
the element. -/
theorem no_end_tag_inside {name rest body : List Char} (raw : Vocabulary.isRawText name = true)
    (clear : Clear (endsRaw name) rest body) (before source after : List Char)
    (ended : IsEndTagOf name source) :
    body ≠ before ++ source ++ after := by
  rintro rfl
  obtain ⟨written, blanks, same, blank, rfl⟩ := ended
  obtain ⟨nonempty, inside⟩ := name_of_raw raw
  have shape : EndTagShape written blanks := by
    refine ⟨?_, ?_, blank⟩
    · rintro rfl
      apply nonempty
      simpa [Text.sameName] using same
    · rw [Text.sameName_comm] at same
      exact endTagName_of_sameName same inside
  have here : endsRaw name (endTagText written blanks ++ '>' :: (after ++ rest)) = true := by
    rw [endsRaw, endTagName?_exact shape, Option.any_some, Text.sameName_comm, same]
  have begins : endTagText written blanks ++ ['>'] ++ after =
      '<' :: ('/' :: (written ++ (blanks ++ '>' :: after))) := by simp [endTagText]
  rw [List.append_assoc before, begins] at clear
  have continues := clear.of_append.1
  simp only [endTagText, List.cons_append, List.append_assoc] at continues here
  rw [continues] at here
  contradiction

theorem raw_content {tag : StartTag} {children : List Node} {closing : Closing}
    (raw : Vocabulary.isRawText tag.name = true) (content : RawContent tag children closing) :
    children = [] ∨ ∃ body, children = [.text body] ∧
      ∀ before source after, IsEndTagOf tag.name source → body ≠ before ++ source ++ after := by
  have held : ∃ body rest, children = (if body.isEmpty then [] else [.text body]) ∧
      Clear (endsRaw tag.name) rest body := by
    cases content with
    | unclosed clear => exact ⟨_, _, rfl, clear⟩
    | closed _ _ clear => exact ⟨_, _, rfl, clear⟩
  obtain ⟨body, rest, children_eq, clear⟩ := held
  cases body with
  | nil => exact .inl children_eq
  | cons c body => exact .inr ⟨_, children_eq, no_end_tag_inside raw clear⟩

/-- Every element that is parsed is a sound one, and stands in the text in front of what follows it;
none is left out. -/
theorem parsed_elements_sound (text : List Char) :
    (Node.allOccurrences [] [] (parse text)).map Occurrence.node =
        (Node.preorders (parse text)).filter Node.isElement ∧
      ∀ element ∈ Node.allOccurrences [] [] (parse text), Sound element ∧
        ∃ before, text = before ++ (element.node.source ++ element.following) := by
  refine ⟨Node.allOccurrences_nodes [] [] (parse text), ?_⟩
  intro element member
  have inside : .element element.tag element.children element.closing ∈
      Node.preorders (parse text) := Node.mem_preorders_of_occurrence member
  obtain ⟨shallow, unclosed⟩ := nested_parse text element member
  obtain ⟨childless, void, closed⟩ := closed_parse text _ inside
  obtain ⟨_, content⟩ := spelled_parse text _ inside
  obtain ⟨shaped, apart⟩ := parsed_tag_sound inside
  simp only [StartTag.separated, Bool.and_eq_true] at apart
  constructor
  · exact
      { shallow := shallow
        childless := childless
        void := void
        raw := by
          intro raw
          rcases content raw with selfClosed | content
          · exact .inl (childless (.inl selfClosed))
          · exact raw_content raw content
        closed := closed
        unclosed := unclosed
        attrs := attrs_spelled shaped.attrs_shaped apart.2 }
  · obtain ⟨before, written⟩ := Node.written_in_all member
    rw [List.append_nil, sources_parse] at written
    exact ⟨before, written⟩

-- the end tag of the outer element stands where the inner one ends unclosed
example : (Node.allOccurrences [] [] (parse "<b><i>x</B >y".toList)).map (fun element =>
      (element.tag.name, element.closing, element.following)) =
    [(['b'], .explicit "</B >".toList, ['y']), (['i'], .missing, "</B >y".toList)] := by
  decide +kernel

end Markup
end MarkupTemplate
