import MarkupTemplate.Proofs.Markup.CursorTags
import MarkupTemplate.Proofs.Markup.ParsedElements

/-!
Raw text as the cursor reads it. The cursor looks for the beginning of the end tag in a lower case
copy of the text, which has the same boundaries, and goes on behind an occurrence that is not of an
end tag. It passes no end tag by, as none begins inside such an occurrence.
-/

namespace MarkupTemplate
namespace Markup
namespace Cursor

open Text (byteLength At)

section RawNames

variable {name : List Char} (nonempty : name ≠ []) (inside : ∀ c ∈ name, isEndTagName c = true)

/-- An end tag of an element, told by the text in lower case. -/
def EndsLowered (name text : List Char) : Prop :=
  ∃ after, Text.dropStart? (rawMark name) (text.map Char.toLower) = some after ∧
    (Text.trimStart after).head? = some '>'

theorem lowered_of_endsRaw {text : List Char} (ended : endsRaw name text = true) :
    EndsLowered name text := by
  obtain ⟨found, read, same⟩ := Option.any_eq_true _ _ |>.1 ended
  obtain ⟨blanks, rest, shape, rfl⟩ := endTagName?_sound read
  have lowered_eq : name.map Char.toLower = found.map Char.toLower := by
    simpa [Text.sameName] using same
  refine ⟨(blanks ++ '>' :: rest).map Char.toLower, ?_, ?_⟩
  · have text_eq : (endTagText found blanks ++ '>' :: rest).map Char.toLower =
        rawMark name ++ (blanks ++ '>' :: rest).map Char.toLower := by
      simp [endTagText, rawMark, lowered_eq, show Char.toLower '<' = '<' from rfl,
        show Char.toLower '/' = '/' from rfl]
    rw [text_eq, Text.dropStart?_append]
  · have blanks_run : Text.run Text.isBlank (blanks ++ '>' :: rest) = (blanks, '>' :: rest) :=
      Text.run_exact shape.blank (by rintro c ⟨⟩; decide)
    have trimmed : Text.trimStart (blanks ++ '>' :: rest) = '>' :: rest :=
      congrArg Prod.snd blanks_run
    rw [Text.trimStart_toLower, trimmed]
    rfl

include nonempty inside

theorem endsRaw_of_lowered {text : List Char} (ended : EndsLowered name text) :
    endsRaw name text = true := by
  obtain ⟨after, dropped, closes⟩ := ended
  obtain ⟨front, rest, rfl, front_eq, rfl⟩ :=
    List.map_eq_append_iff.1 (Text.append_of_dropStart? dropped)
  obtain ⟨c, behind, rfl, opened, behind_eq⟩ := List.map_eq_cons_iff.1 front_eq
  obtain ⟨d, found, rfl, slashed, found_eq⟩ := List.map_eq_cons_iff.1 behind_eq
  obtain rfl := Text.eq_of_toLower (by decide) opened
  obtain rfl := Text.eq_of_toLower (by decide) slashed
  have same : Text.sameName name found = true := by simp [Text.sameName, found_eq]
  have found_shape : EndTagShape found (Text.run Text.isBlank rest).1 := by
    refine ⟨?_, endTagName_of_sameName same inside, Text.run_inside Text.isBlank rest⟩
    rintro rfl
    exact nonempty (by simpa using found_eq.symm)
  rw [Text.trimStart_toLower, List.head?_map, Option.map_eq_some_iff] at closes
  obtain ⟨e, head, closed⟩ := closes
  obtain rfl := Text.eq_of_toLower (by decide) closed
  obtain ⟨following, trimmed⟩ := List.head?_eq_some_iff.1 head
  have rest_eq := Text.run_append Text.isBlank rest
  rw [show (Text.run Text.isBlank rest).2 = '>' :: following from trimmed] at rest_eq
  have read := endTagName?_exact found_shape following
  rw [endTagText, List.cons_append, List.cons_append, List.append_assoc, rest_eq] at read
  rw [endsRaw, List.cons_append, List.cons_append, read, Option.any_some, same]

omit nonempty inside

theorem clear_of_absent {text : List Char}
    (absent : Text.cut? (rawMark name) (text.map Char.toLower) = none) :
    Clear (endsRaw name) [] text := by
  induction text with
  | nil => trivial
  | cons c text ih =>
      rw [List.map_cons, Text.cut?_cons_none] at absent
      refine ⟨?_, ih absent.2⟩
      rw [List.append_nil]
      apply Bool.eq_false_iff.2
      intro ended
      obtain ⟨after, dropped, -⟩ := lowered_of_endsRaw ended
      rw [List.map_cons, absent.1] at dropped
      contradiction

/-- In front of the first occurrence of the mark no end tag of the element begins. -/
theorem clear_of_cut? {text before after : List Char}
    (cut : Text.cut? (rawMark name) (text.map Char.toLower) = some (before, after)) :
    ∃ front rest, text = front ++ rest ∧ front.map Char.toLower = before ∧
      Text.dropStart? (rawMark name) (rest.map Char.toLower) = some after ∧
      Clear (endsRaw name) rest front := by
  induction text generalizing before with
  | nil => simp [Text.cut?, Text.dropStart?, rawMark] at cut
  | cons c text ih =>
      rw [List.map_cons, Text.cut?] at cut
      split at cut
      · next dropped_rest dropped =>
          cases cut
          exact ⟨[], c :: text, rfl, rfl, dropped, trivial⟩
      · next absent =>
          obtain ⟨⟨inner, tail⟩, inner_cut, pair_eq⟩ := Option.map_eq_some_iff.1 cut
          cases pair_eq
          obtain ⟨front, rest, rfl, rfl, dropped, clear⟩ := ih inner_cut
          refine ⟨c :: front, rest, rfl, rfl, dropped, ?_, clear⟩
          apply Bool.eq_false_iff.2
          intro ended
          obtain ⟨other, also_dropped, -⟩ := lowered_of_endsRaw ended
          rw [List.map_cons, absent] at also_dropped
          contradiction

theorem rawBody_clear_append {before text : List Char}
    (clear : Clear (endsRaw name) text before) :
    rawBody name (before ++ text) = (before ++ (rawBody name text).1, (rawBody name text).2) := by
  induction before with
  | nil => rfl
  | cons c before ih =>
      rw [List.cons_append, rawBody_cons_of_not clear.1, ih clear.2]
      rfl

include inside in
/-- An occurrence of the mark has no `<` behind its first character. -/
theorem plain_of_mark {marked : List Char} (marked_eq : marked.map Char.toLower = rawMark name) :
    ∃ inner, marked = '<' :: inner ∧ '<' ∉ inner := by
  obtain ⟨c, inner, rfl, opened, inner_eq⟩ := List.map_eq_cons_iff.1 marked_eq
  obtain rfl := Text.eq_of_toLower (by decide) opened
  refine ⟨inner, rfl, fun member => ?_⟩
  have lowered : '<' ∈ '/' :: name.map Char.toLower := by
    rw [← inner_eq]
    exact List.mem_map_of_mem member
  simp only [List.mem_cons, List.mem_map] at lowered
  rcases lowered with same | ⟨d, in_name, same⟩
  · contradiction
  · obtain rfl := Text.eq_of_toLower (by decide) same
    have nameChar := inside _ in_name
    contradiction

inductive RawTurned (name text : List Char) (search : Nat) : RawTurn → Prop
  | absent (cut : rawBody name text = (text, [])) : RawTurned name text search .absent
  | found {front rest : List Char} (cut : rawBody name text = (front, rest))
      (remains : rest ≠ []) : RawTurned name text search (.found (search + byteLength front))
  | again {front rest : List Char} (text_eq : text = front ++ rest) (progress : front ≠ [])
      (cut : rawBody name text = (front ++ (rawBody name rest).1, (rawBody name rest).2)) :
      RawTurned name text search (.again (search + byteLength front))

include nonempty inside

theorem rawTurn_at {whole text : List Char} {search : Nat} (here : At whole search text) :
    ∃ result, rawTurn (whole.map Char.toLower) (rawMark name) search = .ok result ∧
      RawTurned name text search result := by
  have sliced := sliceFrom_at here.toLower
  cases cut : Text.cut? (rawMark name) (text.map Char.toLower) with
  | none =>
      refine ⟨.absent, by simp [rawTurn, sliced, find?_none cut], .absent ?_⟩
      have body_eq := rawBody_clear_append (clear_of_absent cut)
      rw [List.append_nil] at body_eq
      rw [body_eq, rawBody, List.append_nil]
  | some parts =>
      obtain ⟨before, after⟩ := parts
      obtain ⟨front, rest, rfl, rfl, dropped, clear⟩ := clear_of_cut? cut
      obtain ⟨marked, following, rfl, marked_eq, rfl⟩ :=
        List.map_eq_append_iff.1 (Text.append_of_dropStart? dropped)
      have marked_length : byteLength (rawMark name) = byteLength marked := by
        rw [← marked_eq, Text.byteLength_toLower]
      have behind := sliceFrom_at here.append.append.toLower
      have turn_eq : rawTurn (whole.map Char.toLower) (rawMark name) search =
          if (Text.trimStart (following.map Char.toLower)).head? = some '>' then
            .ok (.found (search + byteLength front))
          else .ok (.again (search + byteLength front + byteLength marked)) := by
        rw [rawTurn, sliced, ok_bind, find?_some cut]
        dsimp only
        rw [Text.byteLength_toLower, marked_length, behind]
        rfl
      have body_eq := rawBody_clear_append clear
      obtain ⟨inner, rfl, plain⟩ := plain_of_mark inside marked_eq
      by_cases closes : (Text.trimStart (following.map Char.toLower)).head? = some '>'
      · rw [if_pos closes] at turn_eq
        have ended := endsRaw_of_lowered nonempty inside ⟨_, dropped, closes⟩
        rw [List.cons_append] at ended
        rw [List.cons_append, rawBody_cons, if_pos ended, List.append_nil] at body_eq
        exact ⟨_, turn_eq, .found body_eq (List.cons_ne_nil _ _)⟩
      · rw [if_neg closes, Nat.add_assoc, ← Text.byteLength_append] at turn_eq
        have passed : endsRaw name ('<' :: (inner ++ following)) = false := by
          apply Bool.eq_false_iff.2
          intro ended
          obtain ⟨other, also_dropped, other_closes⟩ := lowered_of_endsRaw ended
          rw [← List.cons_append, dropped] at also_dropped
          cases also_dropped
          exact closes other_closes
        rw [List.cons_append, rawBody_cons_of_not passed, rawBody_append_plain plain] at body_eq
        have text_eq : front ++ ('<' :: inner ++ following) = front ++ '<' :: inner ++ following :=
          (List.append_assoc front ('<' :: inner) following).symm
        exact ⟨_, turn_eq, .again text_eq (by simp) (by simpa using body_eq)⟩

/-- The search ends where the raw text does, as each turn leaves less of the text. -/
theorem rawSearch_at {whole text : List Char} {search steps : Nat} (here : At whole search text)
    (enough : byteLength text < steps) :
    rawSearch (whole.map Char.toLower) (rawMark name) steps search =
      .ok (if (rawBody name text).2 = [] then none
        else some (search + byteLength (rawBody name text).1)) := by
  induction steps generalizing text search with
  | zero => omega
  | succ steps ih =>
      obtain ⟨result, turn_eq, turned⟩ := rawTurn_at nonempty inside here
      rw [rawSearch, turn_eq, ok_bind]
      cases turned with
      | absent cut => simp [cut]
      | found cut remains => simp [cut, remains]
      | @again front rest text_eq progress cut =>
          subst text_eq
          have front_pos := Text.byteLength_pos progress
          rw [Text.byteLength_append] at enough
          have searched := ih here.append (show byteLength rest < steps by omega)
          simpa [cut, Nat.add_assoc] using searched

end RawNames

theorem rawElement_progress {tag : StartTag} {text body behind : List Char}
    {closing : Option (List Char)}
    (read : rawElement tag text = (.rawElement tag body closing, behind)) :
    byteLength behind ≤ byteLength text := by
  have length_eq := congrArg byteLength (rawElement_append tag text)
  rw [read] at length_eq
  simp only [Token.source, Text.byteLength_append, Text.byteLength_cons] at length_eq
  omega

/-- The node that the cursor makes of a raw text element is that of its token. -/
theorem rawContent_takes {text rest : List Char} {tag : StartTag} {pos steps : Nat}
    (raw : Vocabulary.isRawText tag.name = true) (here : At text pos rest)
    (enough : byteLength rest < steps) :
    ∃ body closing behind, rawElement tag rest = (.rawElement tag body closing, behind) ∧
      Takes text (rawContent text tag steps pos) (rawNode tag body closing) behind := by
  obtain ⟨nonempty, inside⟩ := name_of_raw raw
  have searched := rawSearch_at nonempty inside (Text.at_start rest) enough
  have rest_eq := rawBody_append tag.name rest
  rw [rawElement]
  generalize rawBody tag.name rest = parts at searched rest_eq ⊢
  obtain ⟨body, following⟩ := parts
  cases following with
  | nil =>
      obtain rfl : body = rest := by simpa using rest_eq
      exact ⟨body, none, [], rfl, _, by simp [rawContent, sliceFrom_at here, searched],
        Text.at_end text⟩
  | cons c following =>
      dsimp only at searched rest_eq ⊢
      rw [if_neg (List.cons_ne_nil c following), Nat.zero_add] at searched
      have there : At rest (byteLength body) (c :: following) := ⟨body, rest_eq.symm, rfl⟩
      have sliced : slice rest 0 (byteLength body) = .ok body := by
        rw [← rest_eq] at there ⊢
        exact slice_at (Text.at_start _) there
      rw [← rest_eq] at here
      obtain ⟨stop, taken, behind⟩ := takeThrough_takes here.append
      rw [rest_eq] at here
      refine ⟨body, some _, _, rfl, stop, ?_, behind⟩
      simp [rawContent, sliceFrom_at here, searched, sliced, taken]

end Cursor
end Markup
end MarkupTemplate
