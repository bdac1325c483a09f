import MarkupTemplate.Proofs.Markup.CursorSteps

/-!
Start tags as the cursor reads them. Each reader answers what the reader of the text behind the
cursor answers, and stands in front of what that one leaves. An attribute takes at least one byte,
so the loop over attributes ends with the text at the latest.
-/

namespace MarkupTemplate
namespace Markup
namespace Cursor

open Text (byteLength sees At AsciiClass run)

def Offers {α : Type} (text : List Char) (result : Except Fault (Option (α × Nat))) :
    Option (α × List Char) → Prop
  | none => result = .ok none
  | some (value, rest) => ∃ stop, result = .ok (some (value, stop)) ∧ At text stop rest

section Values

variable {text rest : List Char} {pos steps : Nat}

theorem quotedValue_offers {quoting : Quoting} {mark : Char} (mark_eq : quoting.mark = [mark])
    (ascii : mark.toNat < 128) (here : At text pos rest) :
    Offers text (quotedValue text quoting pos)
      ((Text.cut? [mark] rest).map fun (body, rest) => ((quoting, body), rest)) := by
  cases cut : Text.cut? [mark] rest with
  | none => simp [Offers, quotedValue, sliceFrom_at here, mark_eq, find?_none cut]
  | some parts =>
      obtain ⟨body, after⟩ := parts
      have text_eq := Text.append_of_cut? cut
      rw [List.append_assoc] at text_eq
      rw [text_eq] at here
      have closing : At text (pos + byteLength body) (mark :: after) := here.append
      have sliced : slice text pos (pos + byteLength body) = .ok body := slice_at here closing
      rw [← text_eq] at here
      exact ⟨_, by simp [quotedValue, sliceFrom_at here, mark_eq, find?_some cut, sliced],
        closing.next ascii⟩

theorem value_offers (here : At text pos rest) (enough : byteLength rest < steps) :
    Offers text (value text steps pos) (quotedText? rest) := by
  cases rest with
  | nil => simp [Offers, value, quotedText?, here.length_eq]
  | cons c rest =>
      have inside : ¬byteLength text ≤ pos := Nat.not_le.2 (in_text here)
      have double := Text.sees_at (Text.asciiClass_mark '"' (by decide)) here
      have single := Text.sees_at (Text.asciiClass_mark '\'' (by decide)) here
      simp only [List.head?_cons, Option.any_some] at double single
      rw [value, if_neg inside, double, single]
      by_cases opened : c = '"'
      · subst opened
        exact quotedValue_offers rfl (by decide) (here.next (by decide))
      · by_cases opened_single : c = '\''
        · subst opened_single
          exact quotedValue_offers rfl (by decide) (here.next (by decide))
        · obtain ⟨stop, reached, there⟩ := advanceTo_at bareValueEnd_ascii here enough
          rw [quotedText?.eq_4 _ (by simp) (by simp [opened]) (by simp [opened_single])]
          exact ⟨stop, by simp [opened, opened_single, reached, slice_run here there], there⟩

end Values

section Attributes

variable {text : List Char} {pos steps : Nat}

theorem advanceName_at {first : Char} {named : List Char} (here : At text pos (first :: named))
    (noBlank : Text.isMarkupBlank first = false) (noClose : first ≠ '>')
    (noSelfClose : first = '/' → named.head? ≠ some '>')
    (enough : byteLength (first :: named) < steps) :
    ∃ stop, advanceName text steps pos = .ok stop ∧ At text stop (attrName first named).2 := by
  obtain ⟨stop, reached, there⟩ := stopsAt_attrName.advance here enough
  by_cases sign : first = '='
  · -- nothing is gone over, so the equals sign itself is taken
    subst sign
    rw [show (cutAt endsAttrName ('=' :: named)).2 = '=' :: named from rfl] at there
    rw [here.pos_eq there] at reached
    exact ⟨pos + 1, by simp [advanceName, reached], here.next (by decide)⟩
  · have goes : ¬endsAttrName (first :: named) = true := by
      have noPair : ¬(first = '/' ∧ named.head?.any (· == '>') = true) := by
        rintro ⟨slash, closes⟩
        cases named with
        | nil => contradiction
        | cons c named => exact noSelfClose slash (by simpa using closes)
      simpa [endsAttrName, isNameEnd, noBlank, noClose, sign] using noPair
    rw [cutAt, if_neg goes, cutAt_endsAttrName] at there
    change At text stop (nameRest named).2 at there
    have moved : stop ≠ pos := by
      rintro rfl
      have lengths := here.length_eq
      have rest_eq := congrArg byteLength (nameRest_append named)
      have size_pos := first.utf8Size_pos
      rw [there.length_eq, Text.byteLength_cons] at lengths
      rw [Text.byteLength_append] at rest_eq
      omega
    refine ⟨stop, ?_, by rwa [attrName, if_neg sign]⟩
    rw [advanceName, reached, ok_bind, if_neg moved]
    rfl

/-- What the loop over attributes comes to at an attribute, as the reader of its value answers. -/
def AttrOffered (text : List Char) (leading name : List Char) (result : Except Fault AttrTurn) :
    Option (Option AttrValue × List Char) → Prop
  | none => result = .ok .unfinished
  | some (value, rest) =>
      ∃ stop, result = .ok (.read ⟨leading, name, value⟩ stop) ∧ At text stop rest

theorem attrAt_offers {first : Char} {leading named : List Char} {opening : Nat}
    (behind : At text opening (leading ++ first :: named)) (here : At text pos (first :: named))
    (noBlank : Text.isMarkupBlank first = false) (noClose : first ≠ '>')
    (noSelfClose : first = '/' → named.head? ≠ some '>')
    (enough : byteLength (first :: named) < steps) :
    AttrOffered text leading (attrName first named).1 (attrAt text leading opening steps pos)
      (attrValue? (attrName first named).2) := by
  have name_eq := attrName_append first named
  generalize attrName_eq : attrName first named = parts at name_eq ⊢
  obtain ⟨name, rest⟩ := parts
  dsimp only at name_eq ⊢
  obtain ⟨nameEnd, name_reached, name_there⟩ :=
    advanceName_at here noBlank noClose noSelfClose enough
  rw [attrName_eq] at name_there
  change At text nameEnd rest at name_there
  rw [← name_eq] at here behind
  rw [← name_eq, Text.byteLength_append] at enough
  have name_sliced : slice text pos nameEnd = .ok name := slice_at here name_there
  obtain ⟨sign, sign_reached, sign_there⟩ :=
    advanceOver_at isMarkupBlank_ascii name_there (show byteLength rest < steps by omega)
  have sign_seen := Text.sees_at (Text.asciiClass_mark '=' (by decide)) sign_there
  have before_sliced := slice_run name_there sign_there
  have rest_eq := Text.run_append Text.isMarkupBlank rest
  unfold attrValue?
  split
  · next afterSign sign_eq =>
      rw [sign_eq] at sign_there sign_seen rest_eq
      have rest_length := congrArg byteLength rest_eq
      rw [Text.byteLength_append, Text.byteLength_cons] at rest_length
      have after_there := sign_there.next (by decide)
      obtain ⟨begin, begin_reached, begin_there⟩ :=
        advanceOver_at isMarkupBlank_ascii after_there (show byteLength afterSign < steps by omega)
      have after_sliced := slice_run after_there begin_there
      have after_eq := Text.run_append Text.isMarkupBlank afterSign
      have after_length := congrArg byteLength after_eq
      rw [Text.byteLength_append] at after_length
      have value_enough : byteLength (run Text.isMarkupBlank afterSign).2 < steps := by omega
      have offered := value_offers begin_there value_enough
      cases read : quotedText? (run Text.isMarkupBlank afterSign).2 with
      | none =>
          rw [read] at offered
          change _ = _ at offered
          simp [AttrOffered, attrAt, name_reached, name_sliced, sign_reached, sign_seen,
            begin_reached, offered]
      | some found =>
          obtain ⟨⟨quoting, body⟩, following⟩ := found
          rw [read] at offered
          obtain ⟨stop, value_read, there⟩ := offered
          have source_sliced : ∃ source, slice text opening stop = .ok source := by
            have spelled := append_of_quotedText? read
            rw [← rest_eq, ← after_eq, spelled] at behind
            have whole : At text opening ((leading ++ name ++ (run Text.isMarkupBlank rest).1 ++
                '=' :: ((run Text.isMarkupBlank afterSign).1 ++ quoting.mark ++ body ++
                  quoting.mark)) ++ following) := by
              simpa [List.append_assoc] using behind
            exact ⟨_, slice_at whole there⟩
          obtain ⟨source, source_sliced⟩ := source_sliced
          refine ⟨stop, ?_, there⟩
          simp [attrAt, name_reached, name_sliced, sign_reached, sign_seen, begin_reached,
            value_read, before_sliced, after_sliced, source_sliced]
  · next noSign =>
      have unseen : sees (· == '=') text sign = false := by
        rw [sign_seen]
        cases sign_eq : (run Text.isMarkupBlank rest).2 with
        | nil => rfl
        | cons c after => simpa using fun same => noSign after (by rw [sign_eq, same])
      have source_sliced : slice text opening nameEnd = .ok (leading ++ name) :=
        slice_at (by rwa [List.append_assoc]) name_there
      refine ⟨nameEnd, ?_, name_there⟩
      simp [attrAt, name_reached, name_sliced, sign_reached, unseen, source_sliced]

/-- What is left behind an attribute is shorter by at least one byte. -/
theorem attr_progress {first : Char} {named rest : List Char} {found : Option AttrValue}
    (read : attrValue? (attrName first named).2 = some (found, rest)) :
    byteLength rest < byteLength (first :: named) := by
  have nonempty : (attrName first named).1 ≠ [] := by
    rw [attrName]
    split <;> simp
  have name_pos := Text.byteLength_pos nonempty
  have length_eq := congrArg byteLength (attrName_append first named)
  rw [append_of_attrValue? read] at length_eq
  simp only [Text.byteLength_append] at length_eq
  omega

section Turns

variable {rest : List Char} (here : At text pos rest) (enough : byteLength rest < steps)
include here enough

theorem attrTurn_unfinished (blanks : (run Text.isMarkupBlank rest).2 = []) :
    attrTurn text steps pos = .ok .unfinished := by
  obtain ⟨start, reached, there⟩ := advanceOver_at isMarkupBlank_ascii here enough
  have sliced := slice_run here there
  rw [blanks] at there
  simp [attrTurn, reached, sliced, there.ended_iff.2 rfl]

theorem attrTurn_ended {after : List Char} (ends : (run Text.isMarkupBlank rest).2 = '>' :: after) :
    ∃ stop, attrTurn text steps pos = .ok (.ended (run Text.isMarkupBlank rest).1 false stop) ∧
      At text stop after := by
  obtain ⟨start, reached, there⟩ := advanceOver_at isMarkupBlank_ascii here enough
  have sliced := slice_run here there
  rw [ends] at there
  have inside : ¬byteLength text ≤ start := Nat.not_le.2 (in_text there)
  have seen := Text.sees_at (Text.asciiClass_mark '>' (by decide)) there
  exact ⟨_, by simp [attrTurn, reached, sliced, inside, seen], there.next (by decide)⟩

theorem attrTurn_selfClosing {after : List Char}
    (ends : (run Text.isMarkupBlank rest).2 = '/' :: '>' :: after) :
    ∃ stop, attrTurn text steps pos = .ok (.ended (run Text.isMarkupBlank rest).1 true stop) ∧
      At text stop after := by
  obtain ⟨start, reached, there⟩ := advanceOver_at isMarkupBlank_ascii here enough
  have sliced := slice_run here there
  rw [ends] at there
  have inside : ¬byteLength text ≤ start := Nat.not_le.2 (in_text there)
  have seen := Text.sees_at (Text.asciiClass_mark '>' (by decide)) there
  have closing := atSelfClosing_at there
  exact ⟨_, by simp [attrTurn, reached, sliced, inside, seen, closing],
    (there.next (by decide)).next (by decide)⟩

theorem attrTurn_read {first : Char} {named : List Char}
    (begins : (run Text.isMarkupBlank rest).2 = first :: named) (noClose : first ≠ '>')
    (noSelfClose : ∀ after, first = '/' → named ≠ '>' :: after) :
    AttrOffered text (run Text.isMarkupBlank rest).1 (attrName first named).1
      (attrTurn text steps pos) (attrValue? (attrName first named).2) := by
  obtain ⟨start, reached, there⟩ := advanceOver_at isMarkupBlank_ascii here enough
  have sliced := slice_run here there
  have rest_eq := Text.run_append Text.isMarkupBlank rest
  have noBlank := Text.run_stops Text.isMarkupBlank rest first (by rw [begins]; rfl)
  rw [begins] at there rest_eq
  have apart : first = '/' → named.head? ≠ some '>' := by
    intro slash head
    obtain ⟨after, named_eq⟩ := List.head?_eq_some_iff.1 head
    exact noSelfClose after slash named_eq
  have inside : ¬byteLength text ≤ start := Nat.not_le.2 (in_text there)
  have unseen := Text.sees_at (Text.asciiClass_mark '>' (by decide)) there
  have notClosing : atSelfClosing text start = false := by
    rw [atSelfClosing_at there]
    cases named with
    | nil => simp
    | cons c named => simpa using apart
  have turn_eq : attrTurn text steps pos =
      attrAt text (run Text.isMarkupBlank rest).1 pos steps start := by
    simp [attrTurn, reached, sliced, inside, unseen, noClose, notClosing]
  have length_eq := congrArg byteLength rest_eq
  rw [Text.byteLength_append] at length_eq
  rw [← rest_eq] at here
  rw [turn_eq]
  exact attrAt_offers here there noBlank noClose apart (by omega)

end Turns

def TagOffered (text : List Char) (read : List Attr) (result : Except Fault (Option TagEnd)) :
    Option TagRest → Prop
  | none => result = .ok none
  | some found =>
      ∃ stop, result = .ok (some ⟨read.reverse ++ found.attrs, found.trailing, found.selfClosing,
        stop⟩) ∧ At text stop found.rest

theorem TagOffered.cons {attr : Attr} {read : List Attr} {result : Except Fault (Option TagEnd)}
    {tag : Option TagRest} (behind : TagOffered text (attr :: read) result tag) :
    TagOffered text read result
      (tag.map fun following => { following with attrs := attr :: following.attrs }) := by
  cases tag with
  | none => exact behind
  | some following => simpa [TagOffered] using behind

/-- The loop over attributes ends where the start tag does, or with the text. -/
theorem attrs_offers {rest : List Char} (read : List Attr) (here : At text pos rest)
    (enough : byteLength rest + 1 < steps) :
    TagOffered text read (attrs text steps read pos) (tagRest? rest) := by
  obtain ⟨more, rfl⟩ : ∃ more, steps = more + 1 := ⟨steps - 1, by omega⟩
  have room := Nat.lt_of_add_lt_add_right enough
  clear enough
  fun_induction tagRest? rest generalizing read pos more with
  | case1 rest blanks =>
      have turned := attrTurn_unfinished here room blanks
      simp [TagOffered, attrs, turned]
  | case2 rest after ends =>
      obtain ⟨stop, turned, there⟩ := attrTurn_ended here room ends
      exact ⟨stop, by simp [attrs, turned], there⟩
  | case3 rest after ends =>
      obtain ⟨stop, turned, there⟩ := attrTurn_selfClosing here room ends
      exact ⟨stop, by simp [attrs, turned], there⟩
  | case4 rest first named noClose noSelfClose begins unread =>
      have offered := attrTurn_read here room begins noClose noSelfClose
      rw [unread] at offered
      change _ = _ at offered
      simp [TagOffered, attrs, offered]
  | case5 rest first named noClose noSelfClose begins found following read_eq ih =>
      have offered := attrTurn_read here room begins noClose noSelfClose
      rw [read_eq] at offered
      obtain ⟨stop, turned, there⟩ := offered
      have shorter := attr_progress read_eq
      have rest_length := congrArg byteLength (Text.run_append Text.isMarkupBlank rest)
      rw [begins, Text.byteLength_append] at rest_length
      obtain ⟨fewer, rfl⟩ : ∃ fewer, more = fewer + 1 := ⟨more - 1, by omega⟩
      have attrs_eq : attrs text (fewer + 1 + 1) read pos = attrs text (fewer + 1)
          (⟨(run Text.isMarkupBlank rest).1, (attrName first named).1, found⟩ :: read) stop := by
        rw [attrs, turned]
        rfl
      rw [attrs_eq]
      exact (ih _ there fewer (by omega)).cons

def tagRead? (text : List Char) : Option ((StartTag × Bool) × List Char) :=
  (tagRest? (run isTagName text).2).map fun found =>
    ((⟨(run isTagName text).1, found.attrs, found.trailing⟩, found.selfClosing), found.rest)

theorem elementToken_eq (text : List Char) :
    elementToken text = match tagRead? text with
      | none => (.unfinished ('<' :: text), [])
      | some ((tag, selfClosing), rest) =>
          if !selfClosing && Vocabulary.isRawText tag.name then rawElement tag rest
          else (.startTag tag selfClosing, rest) := by
  rw [elementToken, tagRead?]
  cases tagRest? (run isTagName text).2 <;> rfl

theorem tagRead?_progress {rest following : List Char} {tag : StartTag × Bool}
    (read : tagRead? rest = some (tag, following)) :
    byteLength following < byteLength rest := by
  obtain ⟨found, found_read, pair_eq⟩ := Option.map_eq_some_iff.1 read
  cases pair_eq
  have name_length := congrArg byteLength (Text.run_append isTagName rest)
  have tag_length := congrArg byteLength (append_of_tagRest? found_read)
  have end_pos : 0 < byteLength (if found.selfClosing then ['/', '>'] else ['>']) := by
    apply Text.byteLength_pos
    split <;> simp
  simp only [Text.byteLength_append] at name_length tag_length
  omega

theorem startTag_offers {rest : List Char} (here : At text pos ('<' :: rest))
    (enough : byteLength ('<' :: rest) < steps) :
    Offers text (startTag text steps pos) (tagRead? rest) := by
  have name_here := here.next (by decide)
  have length_eq := congrArg byteLength (Text.run_append isTagName rest)
  rw [Text.byteLength_append] at length_eq
  rw [Text.byteLength_cons, Text.utf8Size_ascii (by decide)] at enough
  obtain ⟨nameEnd, reached, there⟩ :=
    advanceTo_at tagNameEnd_ascii name_here (show byteLength rest < steps by omega)
  have sliced := slice_run name_here there
  have attrs_enough : byteLength (run isTagName rest).2 + 1 < steps := by omega
  have offered := attrs_offers [] there attrs_enough
  rw [tagRead?]
  cases found_eq : tagRest? (run isTagName rest).2 with
  | none =>
      rw [found_eq] at offered
      change _ = _ at offered
      simp [Offers, startTag, reached, sliced, offered]
  | some found =>
      rw [found_eq] at offered
      obtain ⟨stop, attrs_read, tag_there⟩ := offered
      exact ⟨stop, by simp [startTag, reached, sliced, attrs_read], tag_there⟩

end Attributes

end Cursor
end Markup
end MarkupTemplate
