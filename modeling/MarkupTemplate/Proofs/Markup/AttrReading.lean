import MarkupTemplate.Markup.Attribute
import MarkupTemplate.Markup.Token
import MarkupTemplate.Proofs.Text.Cutting

/-!
What the reader of start tags accepts, said without the reader. Attributes are read back from their
spelling exactly when each of them is shaped like one and ends in front of what follows it: a name
runs on into a character of a name, a value without quotes into anything but a blank or the end of
the tag, and a value in quotes into nothing.
-/

namespace MarkupTemplate
namespace Markup

def isAttrNameChar (c : Char) : Bool :=
  !(Text.isMarkupBlank c || c == '=' || c == '>')

/-- Whether a name in front of a text ends where it should. A slash at its end would become part of
the end of the tag. -/
def endsName (name : List Char) : List Char → Bool
  | [] => true
  | c :: following =>
      if c = '>' then name.getLast? != some '/'
      else Text.isMarkupBlank c || c == '=' || c == '/' && following.head? == some '>'

theorem endsName_cons (first c : Char) (name following : List Char) :
    endsName (first :: c :: name) following = endsName (c :: name) following := by
  cases following <;> simp [endsName]

theorem nameRest_inside (text : List Char) : ∀ c ∈ (nameRest text).1, isAttrNameChar c = true := by
  fun_induction nameRest text with
  | case1 => simp
  | case2 => simp
  | case3 => simp
  | case4 c text _ continues ih =>
      intro d member
      rcases List.mem_cons.1 member with rfl | member
      · simpa [isAttrNameChar, not_or, and_assoc] using continues
      · exact ih d member

theorem endsName_nameRest (first : Char) (text : List Char)
    (apart : first = '/' → text.head? ≠ some '>') :
    endsName (first :: (nameRest text).1) (nameRest text).2 = true := by
  fun_induction nameRest text generalizing first with
  | case1 => rfl
  | case2 => rfl
  | case3 c text noEnd stops =>
      by_cases closes : c = '>'
      · subst closes
        have noSlash : first ≠ '/' := fun slash => apart slash rfl
        simpa [endsName] using noSlash
      · simp_all [endsName]
  | case4 c text noEnd continues ih =>
      rw [endsName_cons]
      apply ih
      intro slash head
      cases text with
      | nil => cases head
      | cons d text => exact noEnd text slash (by simp_all)

/-- A name that ends in front of a text is read up to there. -/
theorem nameRest_exact
    {first : Char} {name following : List Char}
    (inside : ∀ c ∈ name, isAttrNameChar c = true)
    (ends : endsName (first :: name) following = true) :
    nameRest (name ++ following) = (name, following) := by
  induction name generalizing first with
  | nil =>
      unfold nameRest
      split
      · simp_all
      · simp_all
      · next c text noEnd text_eq =>
          rw [List.nil_append] at text_eq
          subst text_eq
          have stops : (Text.isMarkupBlank c || c = '=' || c = '>') = true := by
            by_cases closes : c = '>'
            · simp [closes]
            · have noSlash : ¬(c = '/' ∧ text.head? = some '>') := by
                rintro ⟨slash, head⟩
                obtain ⟨rest, text_eq⟩ := List.head?_eq_some_iff.1 head
                exact noEnd rest slash text_eq
              simpa [endsName, closes, noSlash] using ends
          rw [if_pos stops]
  | cons c name ih =>
      rw [endsName_cons] at ends
      have continues := inside c (by simp)
      have rest_eq := ih (fun d member => inside d (List.mem_cons_of_mem _ member)) ends
      have noEnd : ∀ text, c = '/' → name ++ following = '>' :: text → False := by
        intro text slash text_eq
        cases name with
        | nil =>
            rw [List.nil_append] at text_eq
            simp [text_eq, slash, endsName] at ends
        | cons d name =>
            have closes : d = '>' := (List.cons.inj text_eq).1
            have inName := inside d (by simp)
            simp [closes, isAttrNameChar] at inName
      rw [List.cons_append, nameRest.eq_3 _ _ noEnd, rest_eq]
      simp_all [isAttrNameChar]

end Markup

namespace AttrValue

structure Shaped (value : AttrValue) : Prop where
  before_blank : ∀ c ∈ value.before, Text.isMarkupBlank c = true
  after_blank : ∀ c ∈ value.after, Text.isMarkupBlank c = true
  bare_inside : value.quoting = .bare → ∀ c ∈ value.text, Markup.isBareValue c = true
  bare_start : value.quoting = .bare →
    value.text.head? ≠ some '"' ∧ value.text.head? ≠ some '\''

def Hollow (value : AttrValue) : Prop :=
  value.quoting = .bare ∧ value.text = []

/-- Whether a value in front of a text ends where it should. A hollow value would leave blanks
behind it to the equals sign. -/
def endsBefore (value : AttrValue) (following : List Char) : Bool :=
  match value.quoting with
  | .bare =>
      following.head?.all (fun c => !Markup.isBareValue c) &&
        (!value.text.isEmpty || following.head? == some '>')
  | .single => !value.text.contains '\''
  | .double => !value.text.contains '"'

end AttrValue

namespace Markup

open Text (run run_append run_exact run_inside run_stops)

theorem bare_not_blank {c : Char} (bare : isBareValue c = true) : Text.isMarkupBlank c = false := by
  simp_all [isBareValue]

/-- Text that starts with neither quote is read as a bare value. -/
theorem quotedText?_bare
    {c : Char} {text : List Char} (noDouble : c ≠ '"') (noSingle : c ≠ '\'') :
    quotedText? (c :: text) =
      some ((.bare, (run isBareValue (c :: text)).1), (run isBareValue (c :: text)).2) := by
  unfold quotedText?
  split <;> simp_all

theorem quotedText?_exact
    {value : AttrValue} {following : List Char}
    (shaped : value.Shaped)
    (ends : value.endsBefore following = true) :
    quotedText? (value.quoting.mark ++ value.text ++ value.quoting.mark ++ following) =
      some ((value.quoting, value.text), following) := by
  unfold AttrValue.endsBefore at ends
  cases quoting : value.quoting with
  | bare =>
      simp only [quoting, Bool.and_eq_true] at ends
      have inside := shaped.bare_inside quoting
      have start := shaped.bare_start quoting
      have runs : run isBareValue (value.text ++ following) = (value.text, following) := by
        apply run_exact inside
        intro c head
        simpa [head] using ends.1
      simp only [Quoting.mark, List.nil_append, List.append_nil]
      cases text_eq : value.text with
      | nil =>
          cases following with
          | nil => simp [text_eq] at ends
          | cons c following =>
              have closes : c = '>' := by simpa [text_eq] using ends.2
              simp only [text_eq, List.nil_append] at runs
              rw [List.nil_append, quotedText?_bare (by simp [closes]) (by simp [closes]), runs]
      | cons c text =>
          simp only [text_eq, List.head?_cons, ne_eq, Option.some.injEq] at start
          rw [List.cons_append, quotedText?_bare start.1 start.2, ← List.cons_append, ← text_eq,
            runs]
  | single =>
      simp only [quoting, Bool.not_eq_true', List.contains_eq_mem, decide_eq_false_iff_not] at ends
      simp [Quoting.mark, quotedText?, Text.cut?_mark ends]
  | double =>
      simp only [quoting, Bool.not_eq_true', List.contains_eq_mem, decide_eq_false_iff_not] at ends
      simp [Quoting.mark, quotedText?, Text.cut?_mark ends]

theorem quotedText?_sound
    {text body following : List Char} {quoting : Quoting}
    (start : ∀ c, text.head? = some c → Text.isMarkupBlank c = false)
    (read : quotedText? text = some ((quoting, body), following)) :
    (quoting = .bare → ∀ c ∈ body, isBareValue c = true) ∧
    (quoting = .bare → body.head? ≠ some '"' ∧ body.head? ≠ some '\'') ∧
    (AttrValue.mk [] [] quoting body).endsBefore following = true := by
  unfold quotedText? at read
  split at read
  · cases read
  · obtain ⟨⟨inner, tail⟩, found, pair_eq⟩ := Option.map_eq_some_iff.1 read
    cases pair_eq
    simp [AttrValue.endsBefore, Text.not_mem_of_cut? found]
  · obtain ⟨⟨inner, tail⟩, found, pair_eq⟩ := Option.map_eq_some_iff.1 read
    cases pair_eq
    simp [AttrValue.endsBefore, Text.not_mem_of_cut? found]
  · next nonempty noDouble noSingle =>
      cases read
      have stops := run_stops isBareValue text
      refine ⟨fun _ => run_inside isBareValue text, fun _ => ?_, ?_⟩
      · constructor
        · intro head
          obtain ⟨rest, text_eq⟩ := List.head?_eq_some_iff.1 (Text.head_of_takeWhile head)
          exact noDouble rest text_eq
        · intro head
          obtain ⟨rest, text_eq⟩ := List.head?_eq_some_iff.1 (Text.head_of_takeWhile head)
          exact noSingle rest text_eq
      · cases text with
        | nil => exact absurd rfl nonempty
        | cons c text =>
            by_cases bare : isBareValue c = true
            · simp_all [AttrValue.endsBefore, run, Option.all_eq_true]
            · have closes : c = '>' := by
                have noBlank := start c rfl
                simpa [isBareValue, noBlank] using bare
              subst closes
              simp [AttrValue.endsBefore, run, bare]

theorem hollow_ends
    {value : AttrValue} {following : List Char} (ends : value.endsBefore following = true) :
    value.Hollow → following.head? = some '>' := by
  rintro ⟨bare, empty⟩
  simp only [AttrValue.endsBefore, bare, empty, Bool.and_eq_true] at ends
  simpa using ends.2

theorem value_start_not_blank
    {value : AttrValue} {following : List Char}
    (shaped : value.Shaped)
    (hollow : value.Hollow → following.head? = some '>') :
    ∀ c, (value.quoting.mark ++ value.text ++ value.quoting.mark ++ following).head? = some c →
      Text.isMarkupBlank c = false := by
  intro c head
  cases quoting : value.quoting with
  | bare =>
      simp only [quoting, Quoting.mark, List.nil_append, List.append_nil] at head
      cases text_eq : value.text with
      | nil =>
          rw [text_eq, List.nil_append, hollow ⟨quoting, text_eq⟩] at head
          cases head
          decide
      | cons d text =>
          simp only [text_eq, List.cons_append, List.head?_cons, Option.some.injEq] at head
          apply bare_not_blank
          apply shaped.bare_inside quoting
          simp [text_eq, head]
  | single =>
      simp only [quoting, Quoting.mark, List.cons_append, List.head?_cons,
        Option.some.injEq] at head
      rw [← head]
      decide
  | double =>
      simp only [quoting, Quoting.mark, List.cons_append, List.head?_cons,
        Option.some.injEq] at head
      rw [← head]
      decide

theorem attrValue?_exact
    {value : AttrValue} {following : List Char}
    (shaped : value.Shaped)
    (ends : value.endsBefore following = true) :
    attrValue? (value.source ++ following) = some (some value, following) := by
  have beforeRun : run Text.isMarkupBlank (value.source ++ following) =
      (value.before, '=' :: (value.after ++ value.quoting.mark ++ value.text ++
        value.quoting.mark ++ following)) := by
    have source_eq : value.source ++ following = value.before ++ '=' :: (value.after ++
        value.quoting.mark ++ value.text ++ value.quoting.mark ++ following) := by
      simp [AttrValue.source]
    rw [source_eq]
    exact run_exact shaped.before_blank (by intro c head; cases head; decide)
  have afterRun : run Text.isMarkupBlank (value.after ++ value.quoting.mark ++ value.text ++
        value.quoting.mark ++ following) =
      (value.after, value.quoting.mark ++ value.text ++ value.quoting.mark ++ following) := by
    have source_eq : value.after ++ value.quoting.mark ++ value.text ++ value.quoting.mark ++
          following =
        value.after ++ (value.quoting.mark ++ value.text ++ value.quoting.mark ++ following) := by
      simp
    rw [source_eq]
    exact run_exact shaped.after_blank (value_start_not_blank shaped (hollow_ends ends))
  rw [attrValue?, beforeRun]
  simp only [afterRun]
  rw [quotedText?_exact shaped ends]
  rfl

theorem attrValue?_absent
    {text : List Char}
    (noSign : (text.dropWhile Text.isMarkupBlank).head? ≠ some '=') :
    attrValue? text = some (none, text) := by
  unfold attrValue?
  split
  · next sign_eq => simp [run] at sign_eq; simp [sign_eq] at noSign
  · rfl

theorem attrValue?_sound
    {text following : List Char} {value : Option AttrValue}
    (read : attrValue? text = some (value, following)) :
    (value = none ∧ (following.dropWhile Text.isMarkupBlank).head? ≠ some '=') ∨
    ∃ found, value = some found ∧ found.Shaped ∧ found.endsBefore following = true := by
  unfold attrValue? at read
  split at read
  · next afterSign sign_eq =>
      obtain ⟨⟨⟨quoting, body⟩, tail⟩, found, pair_eq⟩ := Option.map_eq_some_iff.1 read
      cases pair_eq
      obtain ⟨inside, start, ends⟩ :=
        quotedText?_sound (run_stops Text.isMarkupBlank afterSign) found
      right
      refine ⟨_, rfl, ?_, ends⟩
      exact
        { before_blank := run_inside Text.isMarkupBlank text
          after_blank := run_inside Text.isMarkupBlank afterSign
          bare_inside := inside
          bare_start := start }
  · next noSign =>
      cases read
      left
      refine ⟨rfl, fun head => ?_⟩
      obtain ⟨rest, text_eq⟩ := List.head?_eq_some_iff.1 head
      exact noSign rest text_eq

end Markup

namespace Attr

structure Shaped (attr : Attr) : Prop where
  leading_blank : ∀ c ∈ attr.leading, Text.isMarkupBlank c = true
  name_shape : attr.name = ['='] ∨
    attr.name ≠ [] ∧ ∀ c ∈ attr.name, Markup.isAttrNameChar c = true
  value_shape : ∀ value, attr.value = some value → value.Shaped

theorem Shaped.name_inside {attr : Attr} (shaped : attr.Shaped) :
    ∀ c ∈ attr.name, Text.isMarkupBlank c = false ∧ c ≠ '>' := by
  intro c member
  rcases shaped.name_shape with sign | ⟨_, inside⟩
  · have same : c = '=' := by simpa [sign] using member
    rw [same]
    decide
  · have inName := inside c member
    simp only [Markup.isAttrNameChar, Bool.not_eq_true', Bool.or_eq_false_iff, beq_eq_false_iff_ne]
      at inName
    exact ⟨inName.1.1, inName.2⟩

/-- Whether an attribute in front of a text ends where it should. Without a value it must not be
given one by an equals sign, and its name must not run on. -/
def endsBefore (attr : Attr) (following : List Char) : Bool :=
  match attr.value with
  | none =>
      (attr.name == ['='] || Markup.endsName attr.name following) &&
        (following.dropWhile Text.isMarkupBlank).head? != some '='
  | some value => value.endsBefore following

/-- Whether each of the attributes ends where it should, the last one in front of `ending`. -/
def separated : List Attr → List Char → Bool
  | [], _ => true
  | attr :: attrs, ending =>
      attr.endsBefore (attrs.flatMap source ++ ending) && separated attrs ending

end Attr

namespace Markup

open Text (run run_append run_exact run_inside run_stops)

theorem attrName_sound
    {first : Char} {named : List Char}
    (noBlank : Text.isMarkupBlank first = false) (opened : first ≠ '>')
    (apart : first = '/' → named.head? ≠ some '>') :
    ((attrName first named).1 = ['='] ∨
      (attrName first named).1 ≠ [] ∧ ∀ c ∈ (attrName first named).1, isAttrNameChar c = true) ∧
    ((attrName first named).1 = ['='] ∨
      endsName (attrName first named).1 (attrName first named).2 = true) := by
  unfold attrName
  split
  · exact ⟨.inl rfl, .inl rfl⟩
  · next noSign =>
      refine ⟨.inr ⟨by simp, ?_⟩, .inr (endsName_nameRest first named apart)⟩
      intro c member
      rcases List.mem_cons.1 member with rfl | member
      · simp [isAttrNameChar, noBlank, noSign, opened]
      · exact nameRest_inside named c member

theorem attrName_exact
    {first : Char} {name following : List Char}
    (shape : first :: name = ['='] ∨ ∀ c ∈ first :: name, isAttrNameChar c = true)
    (ends : first :: name = ['='] ∨ endsName (first :: name) following = true) :
    attrName first (name ++ following) = (first :: name, following) := by
  unfold attrName
  by_cases sign : first :: name = ['=']
  · simp_all
  · have inside := shape.resolve_left sign
    have noSign : first ≠ '=' := by
      intro same
      have inName := inside first (by simp)
      simp [same, isAttrNameChar] at inName
    rw [if_neg noSign, nameRest_exact (fun c member => inside c (List.mem_cons_of_mem _ member))
      (ends.resolve_left sign)]

/-- The blanks before an equals sign, or the sign itself, end every name. -/
theorem endsName_value
    {value : AttrValue} (shaped : value.Shaped) (name following : List Char) :
    endsName name (value.source ++ following) = true := by
  cases before_eq : value.before with
  | nil => simp [AttrValue.source, before_eq, endsName]
  | cons c before =>
      have blank := shaped.before_blank c (by simp [before_eq])
      have opened : c ≠ '>' := by rintro rfl; contradiction
      have noSlash : c ≠ '/' := by rintro rfl; contradiction
      simp only [AttrValue.source, before_eq, List.cons_append]
      unfold endsName
      split <;> simp_all

theorem tagRest?_step
    {text leading named rest : List Char} {first : Char} {value : Option AttrValue}
    (runs : run Text.isMarkupBlank text = (leading, first :: named))
    (opened : first ≠ '>') (apart : first = '/' → named.head? ≠ some '>')
    (valued : attrValue? (attrName first named).2 = some (value, rest)) :
    tagRest? text = (tagRest? rest).map fun following =>
      { following with
        attrs := ⟨leading, (attrName first named).1, value⟩ :: following.attrs } := by
  rw [tagRest?, runs]
  split
  · simp_all
  · simp_all
  · simp_all
  · next d text noTag noEnd text_eq =>
      cases text_eq
      split
      · simp_all
      · next found tail read =>
          rw [valued] at read
          cases read
          rfl

theorem tagRest?_end
    {trailing rest : List Char} (selfClosing : Bool)
    (blank : ∀ c ∈ trailing, Text.isMarkupBlank c = true) :
    tagRest? (trailing ++ (Token.tagEnd selfClosing ++ rest)) =
      some ⟨[], trailing, selfClosing, rest⟩ := by
  have runs : run Text.isMarkupBlank (trailing ++ (Token.tagEnd selfClosing ++ rest)) =
      (trailing, Token.tagEnd selfClosing ++ rest) := by
    apply run_exact blank
    cases selfClosing <;> (intro c head; cases head; decide)
  rw [tagRest?, runs]
  cases selfClosing <;> rfl

theorem attr_name_ends
    {attr : Attr} {following : List Char}
    (shaped : attr.Shaped)
    (ends : attr.endsBefore following = true) :
    attr.name = ['='] ∨
      endsName attr.name ((attr.value.map AttrValue.source).getD [] ++ following) = true := by
  cases value_eq : attr.value with
  | none =>
      simp only [Attr.endsBefore, value_eq, Bool.and_eq_true, Bool.or_eq_true, beq_iff_eq] at ends
      simpa using ends.1
  | some value => exact .inr (endsName_value (shaped.value_shape value value_eq) _ _)

theorem attr_value_read
    {attr : Attr} {following : List Char}
    (shaped : attr.Shaped)
    (ends : attr.endsBefore following = true) :
    attrValue? ((attr.value.map AttrValue.source).getD [] ++ following) =
      some (attr.value, following) := by
  cases value_eq : attr.value with
  | none =>
      simp only [Attr.endsBefore, value_eq, Bool.and_eq_true, bne_iff_ne] at ends
      exact attrValue?_absent ends.2
  | some value =>
      simp only [Attr.endsBefore, value_eq] at ends
      exact attrValue?_exact (shaped.value_shape value value_eq) ends

theorem tagRest?_attr
    {attr : Attr} {following : List Char}
    (shaped : attr.Shaped)
    (ends : attr.endsBefore following = true) :
    tagRest? (attr.source ++ following) =
      (tagRest? following).map fun found => { found with attrs := attr :: found.attrs } := by
  have nameEnds := attr_name_ends shaped ends
  have valued := attr_value_read shaped ends
  have shape := shaped.name_shape
  have inside := shaped.name_inside
  obtain ⟨leading, name, value⟩ := attr
  simp only at nameEnds valued shape inside
  cases name with
  | nil => simp at shape
  | cons first name =>
      obtain ⟨noBlank, opened⟩ := inside first (by simp)
      have named := attrName_exact (shape.imp_right And.right) nameEnds
      have runs : run Text.isMarkupBlank
            (Attr.source ⟨leading, first :: name, value⟩ ++ following) =
          (leading, first :: (name ++ ((value.map AttrValue.source).getD [] ++ following))) := by
        have source_eq : Attr.source ⟨leading, first :: name, value⟩ ++ following =
            leading ++ first :: (name ++ ((value.map AttrValue.source).getD [] ++ following)) := by
          simp [Attr.source]
        rw [source_eq]
        exact run_exact shaped.leading_blank (by intro c head; cases head; exact noBlank)
      have apart : first = '/' →
          (name ++ ((value.map AttrValue.source).getD [] ++ following)).head? ≠ some '>' := by
        intro slash head
        cases name with
        | nil =>
            obtain ⟨rest, text_eq⟩ := List.head?_eq_some_iff.1 head
            rw [List.nil_append] at text_eq
            simp [slash, text_eq, endsName] at nameEnds
        | cons c name => exact (inside c (by simp)).2 (by simpa using head)
      rw [tagRest?_step runs opened apart (by rw [named]; exact valued), named]

theorem tagRest?_exact
    {attrs : List Attr} {trailing : List Char} (selfClosing : Bool) {rest : List Char}
    (shaped : ∀ attr ∈ attrs, attr.Shaped)
    (blank : ∀ c ∈ trailing, Text.isMarkupBlank c = true)
    (apart : Attr.separated attrs (trailing ++ (Token.tagEnd selfClosing ++ rest)) = true) :
    tagRest? (attrs.flatMap Attr.source ++ (trailing ++ (Token.tagEnd selfClosing ++ rest))) =
      some ⟨attrs, trailing, selfClosing, rest⟩ := by
  induction attrs with
  | nil => exact tagRest?_end selfClosing blank
  | cons attr attrs ih =>
      simp only [Attr.separated, Bool.and_eq_true] at apart
      have following_read := ih (fun other member => shaped other (by simp [member])) apart.2
      rw [List.flatMap_cons, List.append_assoc, tagRest?_attr (shaped attr (by simp)) apart.1,
        following_read]
      rfl

theorem attr_sound
    {leading named rest : List Char} {first : Char} {value : Option AttrValue}
    (blank : ∀ c ∈ leading, Text.isMarkupBlank c = true)
    (noBlank : Text.isMarkupBlank first = false) (opened : first ≠ '>')
    (apart : first = '/' → named.head? ≠ some '>')
    (valued : attrValue? (attrName first named).2 = some (value, rest)) :
    (Attr.mk leading (attrName first named).1 value).Shaped ∧
    (Attr.mk leading (attrName first named).1 value).endsBefore rest = true := by
  obtain ⟨shape, ends⟩ := attrName_sound noBlank opened apart
  rcases attrValue?_sound valued with ⟨value_eq, noSign⟩ | ⟨found, value_eq, shaped, foundEnds⟩
  · subst value_eq
    have rest_eq : (attrName first named).2 = rest := by simpa using append_of_attrValue? valued
    rw [rest_eq] at ends
    refine ⟨⟨blank, shape, by simp⟩, ?_⟩
    simpa [Attr.endsBefore, noSign] using ends
  · subst value_eq
    exact ⟨⟨blank, shape, by rintro value ⟨⟩; exact shaped⟩, foundEnds⟩

theorem tagRest?_sound
    {text : List Char} {found : TagRest}
    (read : tagRest? text = some found) :
    (∀ attr ∈ found.attrs, attr.Shaped) ∧
    (∀ c ∈ found.trailing, Text.isMarkupBlank c = true) ∧
    Attr.separated found.attrs
      (found.trailing ++ (Token.tagEnd found.selfClosing ++ found.rest)) = true := by
  fun_induction tagRest? text generalizing found with
  | case1 => contradiction
  | case2 text rest blanks =>
      cases read
      exact ⟨by simp, run_inside Text.isMarkupBlank text, rfl⟩
  | case3 text rest blanks =>
      cases read
      exact ⟨by simp, run_inside Text.isMarkupBlank text, rfl⟩
  | case4 => contradiction
  | case5 text first named noTag noEnd blanks value rest value_read ih =>
      obtain ⟨following, following_read, found_eq⟩ := Option.map_eq_some_iff.1 read
      cases found_eq
      obtain ⟨shaped, blank, apart⟩ := ih following_read
      have rest_eq : rest = following.attrs.flatMap Attr.source ++
          (following.trailing ++ (Token.tagEnd following.selfClosing ++ following.rest)) := by
        simpa [Token.tagEnd] using append_of_tagRest? following_read
      have noBlank := run_stops Text.isMarkupBlank text first (by rw [blanks]; rfl)
      have slashApart : first = '/' → named.head? ≠ some '>' := by
        intro slash head
        obtain ⟨after, named_eq⟩ := List.head?_eq_some_iff.1 head
        exact noEnd after slash named_eq
      obtain ⟨attrShaped, attrEnds⟩ :=
        attr_sound (run_inside Text.isMarkupBlank text) noBlank noTag slashApart value_read
      refine ⟨?_, blank, ?_⟩
      · intro attr member
        rcases List.mem_cons.1 member with rfl | member
        · exact attrShaped
        · exact shaped attr member
      · rw [Attr.separated, ← rest_eq, attrEnds, apart]
        rfl

/-- Texts that an attribute in front of them cannot tell apart. -/
structure SameStart (left right : List Char) : Prop where
  head : left.head? = right.head?
  after_slash : left.head? = some '/' → left.tail.head? = right.tail.head?
  behind : (left.dropWhile Text.isMarkupBlank).head? = (right.dropWhile Text.isMarkupBlank).head?

theorem SameStart.append {left right : List Char} (same : SameStart left right)
    (before : List Char) :
    SameStart (before ++ left) (before ++ right) := by
  induction before with
  | nil => exact same
  | cons c before ih =>
      refine ⟨rfl, fun _ => ih.head, ?_⟩
      by_cases blank : Text.isMarkupBlank c = true
      · simpa [blank] using ih.behind
      · simp [blank]

theorem same_start_tagEnd (selfClosing : Bool) (more : List Char) :
    SameStart (Token.tagEnd selfClosing ++ more) (Token.tagEnd selfClosing) := by
  cases selfClosing
  · exact ⟨rfl, by simp [Token.tagEnd], rfl⟩
  · exact ⟨rfl, fun _ => rfl, rfl⟩

theorem SameStart.endsName_eq {left right : List Char} (same : SameStart left right)
    (name : List Char) :
    endsName name left = endsName name right := by
  obtain ⟨head, afterSlash, _⟩ := same
  cases left with
  | nil =>
      cases right with
      | nil => rfl
      | cons d right => contradiction
  | cons c left =>
      cases right with
      | nil => contradiction
      | cons d right =>
          have same : c = d := by simpa using head
          subst same
          by_cases slash : c = '/'
          · have next : left.head? = right.head? := afterSlash (by simp [slash])
            simp [endsName, next]
          · have noSlash : (c == '/') = false := by simp [slash]
            simp [endsName, noSlash]

theorem SameStart.endsBefore_eq {left right : List Char} (same : SameStart left right)
    (attr : Attr) :
    attr.endsBefore left = attr.endsBefore right := by
  unfold Attr.endsBefore AttrValue.endsBefore
  rw [same.endsName_eq, same.behind, same.head]

theorem SameStart.separated_eq {left right : List Char} (same : SameStart left right)
    (attrs : List Attr) :
    Attr.separated attrs left = Attr.separated attrs right := by
  induction attrs with
  | nil => rfl
  | cons attr attrs ih =>
      rw [Attr.separated, Attr.separated, ih,
        (same.append (attrs.flatMap Attr.source)).endsBefore_eq attr]

end Markup
end MarkupTemplate
