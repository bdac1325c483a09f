import MarkupTemplate.Proofs.Directive.Interpolation
import MarkupTemplate.Proofs.Markup.EndTag
import MarkupTemplate.Proofs.Markup.StartTag
import MarkupTemplate.Proofs.Text.Classes

/-!
Looking for the end of what begins with a `<`, be it an end tag, a comment or a start tag. A reader
goes through a text character by character and finds the `>` that the scanner finds. In a text with
markers it goes on, at each marker, in every state that a text without delimiters leads to, and such
a text is what is shown for a marker.
-/
namespace MarkupTemplate
namespace Markup

open Text (run run_append run_inside run_stops)

/-- The texts that pieces can become, a text without delimiters taking the place of each marker. -/
inductive Fills : List Piece → List Char → Prop
  | nil : Fills [] []
  | literal (c : Char) {pieces : List Piece} {text : List Char} (rest : Fills pieces text) :
      Fills (.literal c :: pieces) (c :: text)
  | marker (marker : Marker) {front text : List Char} {pieces : List Piece}
      (plain : ∀ c ∈ front, c ∉ Text.markupDelimiters) (rest : Fills pieces text) :
      Fills (.marker marker :: pieces) (front ++ text)

theorem fills_written (scope : Scope) (pieces : List Piece) :
    Fills pieces (Piece.written scope pieces) := by
  induction pieces with
  | nil => exact .nil
  | cons piece pieces ih =>
      cases piece with
      | literal c => exact .literal c ih
      | marker marker =>
          exact .marker marker
            (fun c member delimits => Piece.shown_no_delimiter scope delimits marker member) ih

/-- Reads what begins with a `<` and ends with a `>`. -/
structure Reader (State : Type) where
  next : State → Char → Option State
  ends : State → Bool
  /-- Where texts without delimiters lead. -/
  reach : State → List State
  self_mem_reach : ∀ state, state ∈ reach state
  next_mem_reach : ∀ {state reached after c}, c ∉ Text.markupDelimiters → reached ∈ reach state →
    next reached c = some after → after ∈ reach state
  leads_of_mem_reach : ∀ {state reached}, reached ∈ reach state →
    ∃ front : List Char, (∀ c ∈ front, c ∉ Text.markupDelimiters) ∧
      front.foldlM next state = some reached

namespace Reader

variable {State : Type} (reader : Reader State)

def finishes : State → List Char → Bool
  | _, [] => false
  | state, c :: text =>
      c == '>' && reader.ends state ||
        (reader.next state c).any fun after => finishes after text

/-- Whether the end may be found in a text whose markers are replaced. -/
def mayFinish : State → List Piece → Bool
  | _, [] => false
  | state, .literal c :: pieces =>
      c == '>' && reader.ends state ||
        (reader.next state c).any fun after => mayFinish after pieces
  | state, .marker _ :: pieces =>
      (reader.reach state).any fun after => mayFinish after pieces

theorem finishes_close {state : State} (ended : reader.ends state = true) (text : List Char) :
    reader.finishes state ('>' :: text) = true := by
  rw [finishes, ended]
  rfl

theorem finishes_step {state after : State} {c : Char} {text : List Char}
    (next_eq : reader.next state c = some after) (finished : reader.finishes after text = true) :
    reader.finishes state (c :: text) = true := by
  rw [finishes, next_eq, Option.any_some, finished, Bool.or_true]

theorem finishes_front
    {state reached : State} {front text : List Char}
    (plain : ∀ c ∈ front, c ∉ Text.markupDelimiters) (found : reached ∈ reader.reach state)
    (finished : reader.finishes reached (front ++ text) = true) :
    ∃ after ∈ reader.reach state, reader.finishes after text = true := by
  induction front generalizing reached with
  | nil => exact ⟨reached, found, finished⟩
  | cons c front ih =>
      have noDelimiter := plain c (by simp)
      have noClose : (c == '>') = false := by
        apply beq_eq_false_iff_ne.2
        rintro rfl
        exact noDelimiter (by decide)
      rw [List.cons_append, finishes, noClose, Bool.false_and, Bool.false_or] at finished
      obtain ⟨after, next_eq, finished⟩ := (Option.any_eq_true _ _).1 finished
      exact ih (fun d member => plain d (by simp [member]))
        (reader.next_mem_reach noDelimiter found next_eq) finished

theorem finishes_leads
    {state reached : State} {front text : List Char}
    (leads : front.foldlM reader.next state = some reached)
    (finished : reader.finishes reached text = true) :
    reader.finishes state (front ++ text) = true := by
  induction front generalizing state with
  | nil =>
      cases leads
      exact finished
  | cons c front ih =>
      rw [List.foldlM_cons] at leads
      obtain ⟨after, next_eq, leads⟩ := Option.bind_eq_some_iff.1 leads
      exact reader.finishes_step next_eq (ih leads)

theorem mayFinish_of_fills
    {pieces : List Piece} {text : List Char} (fills : Fills pieces text) {state : State}
    (finished : reader.finishes state text = true) :
    reader.mayFinish state pieces = true := by
  induction fills generalizing state with
  | nil => contradiction
  | literal c _ ih =>
      rw [finishes, Bool.or_eq_true] at finished
      rw [mayFinish, Bool.or_eq_true]
      refine finished.imp_right fun later => ?_
      obtain ⟨after, next_eq, finished⟩ := (Option.any_eq_true _ _).1 later
      exact (Option.any_eq_true _ _).2 ⟨after, next_eq, ih finished⟩
  | marker marker plain _ ih =>
      obtain ⟨after, found, finished⟩ :=
        reader.finishes_front plain (reader.self_mem_reach state) finished
      exact List.any_eq_true.2 ⟨after, found, ih finished⟩

/-- The end may be found among pieces exactly if it is found in some text that they can become. -/
theorem mayFinish_iff {pieces : List Piece} {state : State} :
    reader.mayFinish state pieces = true ↔
      ∃ text, Fills pieces text ∧ reader.finishes state text = true := by
  constructor
  · intro foreseen
    induction pieces generalizing state with
    | nil => contradiction
    | cons piece pieces ih =>
        cases piece with
        | literal c =>
            rw [mayFinish, Bool.or_eq_true] at foreseen
            rcases foreseen with ended | later
            · refine ⟨_, .literal c (fills_written (Scope.root .null) pieces), ?_⟩
              rw [finishes, ended, Bool.true_or]
            · obtain ⟨after, next_eq, foreseen⟩ := (Option.any_eq_true _ _).1 later
              obtain ⟨text, fills, finished⟩ := ih foreseen
              exact ⟨_, .literal c fills, reader.finishes_step next_eq finished⟩
        | marker marker =>
            obtain ⟨reached, found, foreseen⟩ := List.any_eq_true.1 foreseen
            obtain ⟨front, plain, leads⟩ := reader.leads_of_mem_reach found
            obtain ⟨text, fills, finished⟩ := ih foreseen
            exact ⟨_, .marker marker plain fills, reader.finishes_leads leads finished⟩
  · rintro ⟨text, fills, finished⟩
    exact reader.mayFinish_of_fills fills finished

def tailsPast : List Char → List (List Char)
  | [] => [[]]
  | c :: text => (c :: text) :: if c ∈ Text.markupDelimiters then [] else tailsPast text

theorem mem_tailsPast_iff {text tail : List Char} :
    tail ∈ tailsPast text ↔
      ∃ front, (∀ c ∈ front, c ∉ Text.markupDelimiters) ∧ text = front ++ tail := by
  induction text with
  | nil => simp [tailsPast]
  | cons c text ih =>
      constructor
      · intro member
        rcases List.mem_cons.1 member with rfl | member
        · exact ⟨[], by simp, rfl⟩
        · split at member
          · contradiction
          · next noDelimiter =>
              obtain ⟨front, plain, rfl⟩ := ih.1 member
              exact ⟨c :: front, by simpa [noDelimiter] using plain, rfl⟩
      · rintro ⟨front, plain, text_eq⟩
        cases front with
        | nil => exact List.mem_cons.2 (.inl text_eq.symm)
        | cons d front =>
            cases text_eq
            have noDelimiter := plain c (by simp)
            have later := ih.2 ⟨front, fun d member => plain d (by simp [member]), rfl⟩
            rw [tailsPast, if_neg noDelimiter]
            exact List.mem_cons_of_mem _ later

theorem plain_of_all {front : List Char}
    (checked : (front.all fun c => decide (c ∉ Text.markupDelimiters)) = true) :
    ∀ c ∈ front, c ∉ Text.markupDelimiters :=
  fun c member => of_decide_eq_true (List.all_eq_true.1 checked c member)

theorem plain_of_toLower {c d : Char} (plain : c ∉ Text.markupDelimiters)
    (same : c.toLower = d.toLower) :
    d ∉ Text.markupDelimiters := by
  intro delimits
  have caseless : (Text.markupDelimiters.all fun mark =>
      mark.toLower == mark && !mark.isAlpha) = true := by decide
  have mark := List.all_eq_true.1 caseless d delimits
  simp only [Bool.and_eq_true, beq_iff_eq, Bool.not_eq_true'] at mark
  obtain ⟨lowered, noLetter⟩ := mark
  rw [lowered] at same
  rw [Text.eq_of_toLower noLetter same] at plain
  exact plain delimits

/-- Where a character of an end tag leads, by what is left of a slash and the name. -/
def endTagNext : List Char → Char → Option (List Char)
  | [], c => if Text.isBlank c then some [] else none
  | d :: left, c => if c.toLower == d.toLower then some left else none

theorem endTagNext_mem
    {state reached after : List Char} {c : Char} (noDelimiter : c ∉ Text.markupDelimiters)
    (found : reached ∈ tailsPast state) (next_eq : endTagNext reached c = some after) :
    after ∈ tailsPast state := by
  cases reached with
  | nil =>
      obtain ⟨_, rfl⟩ := Option.ite_some_none_eq_some.1 next_eq
      exact found
  | cons d left =>
      obtain ⟨same, rfl⟩ := Option.ite_some_none_eq_some.1 next_eq
      obtain ⟨front, plain, rfl⟩ := mem_tailsPast_iff.1 found
      have passed := plain_of_toLower noDelimiter (beq_iff_eq.1 same)
      refine mem_tailsPast_iff.2 ⟨front ++ [d], ?_, by simp⟩
      intro e member
      rcases List.mem_append.1 member with inside | last
      · exact plain e inside
      · rw [List.mem_singleton.1 last]
        exact passed

theorem endTagNext_leads (front left : List Char) :
    front.foldlM endTagNext (front ++ left) = some left := by
  induction front with
  | nil => rfl
  | cons c front ih =>
      have next_eq : endTagNext (c :: (front ++ left)) c = some (front ++ left) := by
        simp [endTagNext]
      rw [List.foldlM_cons, List.cons_append, next_eq]
      exact ih

def endTag : Reader (List Char) where
  next := endTagNext
  ends := List.isEmpty
  reach := tailsPast
  self_mem_reach := fun left => mem_tailsPast_iff.2 ⟨[], by simp, rfl⟩
  next_mem_reach := endTagNext_mem
  leads_of_mem_reach := by
    intro state reached found
    obtain ⟨front, plain, rfl⟩ := mem_tailsPast_iff.1 found
    exact ⟨front, plain, endTagNext_leads front reached⟩

end Reader

/-- Places in a comment, by the hyphens just read; two stand for more. -/
inductive CommentPlace
  | inside
  | behindHyphen
  | behindHyphens
deriving DecidableEq

namespace CommentPlace

def next : CommentPlace → Char → CommentPlace
  | .inside, c => if c == '-' then .behindHyphen else .inside
  | .behindHyphen, c => if c == '-' then .behindHyphens else .inside
  | .behindHyphens, c => if c == '-' then .behindHyphens else .inside

def hyphens : CommentPlace → List Char
  | .inside => []
  | .behindHyphen => ['-']
  | .behindHyphens => ['-', '-']

theorem leads (place reached : CommentPlace) :
    ∃ front : List Char, (∀ c ∈ front, c ∉ Text.markupDelimiters) ∧
      front.foldlM (fun place c => some (next place c)) place = some reached := by
  -- behind a character that is no hyphen, the hyphens alone tell the place
  refine ⟨'a' :: reached.hyphens, Reader.plain_of_all ?_, ?_⟩
  · cases reached <;> decide
  · cases place <;> cases reached <;> rfl

end CommentPlace

def Reader.comment : Reader CommentPlace where
  next place c := some (place.next c)
  ends place := place == .behindHyphens
  reach _ := [.inside, .behindHyphen, .behindHyphens]
  self_mem_reach place := by cases place <;> decide
  next_mem_reach := by
    intro _ _ after _ _ _ _
    cases after <;> decide
  leads_of_mem_reach := fun _ => CommentPlace.leads _ _

inductive TagPlace
  | tagName
  | betweenAttrs
  | attrName
  | behindSign
  | bareValue
  | doubleQuoted
  | singleQuoted
deriving DecidableEq

namespace TagPlace

/-- Where a character leads. Blanks behind an attribute name leave it open whether a value
follows. -/
def next : TagPlace → Char → TagPlace
  | .tagName, c =>
      if Text.isMarkupBlank c then .betweenAttrs else if c == '/' then .attrName else .tagName
  | .betweenAttrs, c => if Text.isMarkupBlank c then .betweenAttrs else .attrName
  | .attrName, c => if c == '=' then .behindSign else .attrName
  | .behindSign, c =>
      if Text.isMarkupBlank c then .behindSign
      else if c == '"' then .doubleQuoted
      else if c == '\'' then .singleQuoted
      else .bareValue
  | .bareValue, c => if Text.isMarkupBlank c then .betweenAttrs else .bareValue
  | .doubleQuoted, c => if c == '"' then .betweenAttrs else .doubleQuoted
  | .singleQuoted, c => if c == '\'' then .betweenAttrs else .singleQuoted

def isQuoted : TagPlace → Bool
  | .doubleQuoted => true
  | .singleQuoted => true
  | _ => false

def unquoted : List TagPlace :=
  [.betweenAttrs, .attrName, .behindSign, .bareValue]

def reach (place : TagPlace) : List TagPlace :=
  if place.isQuoted then [place] else place :: unquoted

theorem not_quote {c : Char} (noDelimiter : c ∉ Text.markupDelimiters) : c ≠ '"' ∧ c ≠ '\'' := by
  constructor
  · rintro rfl
    exact noDelimiter (by decide)
  · rintro rfl
    exact noDelimiter (by decide)

theorem next_quoted {place : TagPlace} {c : Char} (noDelimiter : c ∉ Text.markupDelimiters)
    (quoted : place.isQuoted = true) :
    place.next c = place := by
  cases place with
  | doubleQuoted => simp [next, (not_quote noDelimiter).1]
  | singleQuoted => simp [next, (not_quote noDelimiter).2]
  | _ => contradiction

theorem next_free {place : TagPlace} {c : Char} (noDelimiter : c ∉ Text.markupDelimiters)
    (free : place.isQuoted = false) :
    place.next c ∈ place :: unquoted := by
  cases place with
  | doubleQuoted => contradiction
  | singleQuoted => contradiction
  | behindSign =>
      simp only [next, beq_iff_eq, not_quote noDelimiter, if_false]
      split <;> simp [unquoted]
  | tagName =>
      simp only [next]
      split
      · simp [unquoted]
      · split <;> simp [unquoted]
  | _ =>
      simp only [next]
      split <;> simp [unquoted]

theorem next_mem_reach {place reached : TagPlace} {c : Char}
    (noDelimiter : c ∉ Text.markupDelimiters) (found : reached ∈ place.reach) :
    reached.next c ∈ place.reach := by
  cases quoted : place.isQuoted with
  | true =>
      rw [reach, quoted, if_pos rfl, List.mem_singleton] at found ⊢
      rw [found, next_quoted noDelimiter quoted]
  | false =>
      rw [reach, quoted, if_neg Bool.false_ne_true] at found ⊢
      rcases List.mem_cons.1 found with rfl | behind
      · exact next_free noDelimiter quoted
      · have free : reached.isQuoted = false := by
          revert behind
          cases reached <;> decide
        rcases List.mem_cons.1 (next_free noDelimiter free) with same | inside
        · rw [same]
          exact found
        · exact List.mem_cons_of_mem _ inside

theorem leads_of_mem_reach {place reached : TagPlace} (found : reached ∈ place.reach) :
    ∃ front : List Char, (∀ c ∈ front, c ∉ Text.markupDelimiters) ∧
      front.foldlM (fun place c => some (next place c)) place = some reached := by
  unfold reach at found
  split at found
  · rw [List.mem_singleton.1 found]
    exact ⟨[], by simp, rfl⟩
  · next free =>
      rcases List.mem_cons.1 found with rfl | inside
      · exact ⟨[], by simp, rfl⟩
      · have place_free : place ∈ tagName :: unquoted := by
          revert free
          cases place <;> decide
        -- an attribute, a name behind it and an equals sign lead anywhere outside of quotes
        have words : ∀ reached ∈ unquoted,
            ∃ front ∈ ["a a=a ".toList, "a a".toList, "a a=".toList, "a a=a".toList],
              (front.all fun c => decide (c ∉ Text.markupDelimiters)) = true ∧
                ∀ place ∈ tagName :: unquoted,
                  front.foldlM (fun place c => some (next place c)) place = some reached := by
          decide
        obtain ⟨front, _, plain, leads⟩ := words reached inside
        exact ⟨front, Reader.plain_of_all plain, leads place place_free⟩

end TagPlace

/-- Reads a start tag. No text without delimiters leads into a quoted value or out of one. -/
def Reader.startTag : Reader TagPlace where
  next place c := some (place.next c)
  ends place := !place.isQuoted
  reach := TagPlace.reach
  self_mem_reach := by
    intro place
    unfold TagPlace.reach
    split <;> simp
  next_mem_reach := by
    rintro place reached _ c noDelimiter found ⟨⟩
    exact TagPlace.next_mem_reach noDelimiter found
  leads_of_mem_reach := TagPlace.leads_of_mem_reach

namespace Reader

theorem endTag_finishes_blanks {text : List Char} :
    endTag.finishes [] text = true ↔
      ∃ blanks rest, (∀ c ∈ blanks, Text.isBlank c = true) ∧ text = blanks ++ '>' :: rest := by
  constructor
  · intro finished
    induction text with
    | nil => contradiction
    | cons c text ih =>
        by_cases closes : c = '>'
        · exact ⟨[], text, by simp, by rw [closes]; rfl⟩
        · by_cases blank : Text.isBlank c = true
          · have later : endTag.finishes [] text = true := by
              simpa [finishes, endTag, endTagNext, closes, blank] using finished
            obtain ⟨blanks, rest, all_blank, rfl⟩ := ih later
            exact ⟨c :: blanks, rest, by simpa [blank] using all_blank, rfl⟩
          · simp [finishes, endTag, endTagNext, closes, blank] at finished
  · rintro ⟨blanks, rest, blank, rfl⟩
    induction blanks with
    | nil => rfl
    | cons c blanks ih =>
        have next_eq : endTag.next [] c = some [] := by simp [endTag, endTagNext, blank c (by simp)]
        exact endTag.finishes_step next_eq (ih fun d member => blank d (by simp [member]))

theorem endTag_finishes_name {name text : List Char} :
    endTag.finishes name text = true ↔
      ∃ found tail, Text.sameName found name = true ∧ text = found ++ tail ∧
        endTag.finishes [] tail = true := by
  constructor
  · intro finished
    induction name generalizing text with
    | nil => exact ⟨[], text, rfl, rfl, finished⟩
    | cons d name ih =>
        cases text with
        | nil => contradiction
        | cons c text =>
            have next_eq : endTag.finishes (d :: name) (c :: text) =
                (endTagNext (d :: name) c).any fun after => endTag.finishes after text := by
              simp [finishes, endTag]
            rw [next_eq] at finished
            obtain ⟨after, reached, later⟩ := (Option.any_eq_true _ _).1 finished
            obtain ⟨same, rfl⟩ := Option.ite_some_none_eq_some.1 reached
            obtain ⟨found, tail, same_rest, rfl, ended⟩ := ih later
            refine ⟨c :: found, tail, ?_, rfl, ended⟩
            simp only [Text.sameName, List.map_cons, beq_iff_eq] at same same_rest ⊢
            rw [same, same_rest]
  · rintro ⟨found, tail, same, rfl, ended⟩
    induction found generalizing name with
    | nil =>
        cases name with
        | nil => exact ended
        | cons d name => contradiction
    | cons c found ih =>
        cases name with
        | nil => contradiction
        | cons d name =>
            simp only [Text.sameName, List.map_cons, beq_iff_eq, List.cons.injEq] at same
            have next_eq : endTag.next (d :: name) c = some name := by
              simp [endTag, endTagNext, same.1]
            exact endTag.finishes_step next_eq (ih (beq_iff_eq.2 same.2))

/-- The end of an end tag is where the scanner reads it. -/
theorem endTag_finishes {name : List Char} (nonempty : name ≠ [])
    (inside : ∀ c ∈ name, isEndTagName c = true) (text : List Char) :
    endTag.finishes ('/' :: name) text =
      (endTagName? ('<' :: text)).any fun found => Text.sameName found name := by
  rw [Bool.eq_iff_iff, endTag_finishes_name, Option.any_eq_true]
  constructor
  · rintro ⟨slashed, tail, same, rfl, ended⟩
    obtain ⟨blanks, rest, blank, rfl⟩ := endTag_finishes_blanks.1 ended
    cases slashed with
    | nil => contradiction
    | cons slash found =>
        simp only [Text.sameName, List.map_cons, beq_iff_eq, List.cons.injEq] at same
        obtain ⟨slash_eq, same⟩ := same
        obtain rfl : slash = '/' := Text.eq_of_toLower (by decide) slash_eq
        have same_name : Text.sameName found name = true := beq_iff_eq.2 same
        have shape : EndTagShape found blanks := by
          rw [Text.sameName_comm] at same_name
          refine ⟨?_, endTagName_of_sameName same_name inside, blank⟩
          rintro rfl
          exact nonempty (List.map_eq_nil_iff.1 same.symm)
        have read := endTagName?_exact shape rest
        rw [endTagText, List.cons_append, List.cons_append, List.append_assoc] at read
        exact ⟨found, read, same_name⟩
  · rintro ⟨found, read, same⟩
    obtain ⟨blanks, rest, shape, text_eq⟩ := endTagName?_sound read
    refine ⟨'/' :: found, blanks ++ '>' :: rest, ?_, by simpa [endTagText] using text_eq,
      endTag_finishes_blanks.2 ⟨blanks, rest, shape.blank, rfl⟩⟩
    simpa [Text.sameName] using same

/-- The end of a comment is where the scanner reads it, the hyphens just read being part of what it
reads. -/
theorem comment_finishes (place : CommentPlace) (text : List Char) :
    comment.finishes place text = (Text.cut? "-->".toList (place.hyphens ++ text)).isSome := by
  induction text generalizing place with
  | nil => cases place <;> rfl
  | cons c text ih =>
      have next_eq : comment.finishes place (c :: text) =
          (c == '>' && place == .behindHyphens || comment.finishes (place.next c) text) := rfl
      rw [next_eq, ih]
      by_cases dash : c = '-'
      · subst dash
        cases place with
        | inside => rfl
        | behindHyphen => rfl
        | behindHyphens =>
            simp [CommentPlace.next, CommentPlace.hyphens, Text.cut?_isSome_cons, Text.dropStart?]
      · have back : place.next c = .inside := by
          cases place <;> simp [CommentPlace.next, dash]
        rw [back]
        cases place with
        | inside =>
            simp [CommentPlace.hyphens, Text.cut?_isSome_cons, Text.dropStart?, Ne.symm dash]
        | behindHyphen =>
            simp [CommentPlace.hyphens, Text.cut?_isSome_cons, Text.dropStart?, Ne.symm dash]
        | behindHyphens =>
            by_cases closes : c = '>'
            · simp [CommentPlace.hyphens, Text.cut?_isSome_cons, Text.dropStart?, closes]
            · simp [CommentPlace.hyphens, Text.cut?_isSome_cons, Text.dropStart?, Ne.symm dash,
                closes, Ne.symm closes]

theorem startTag_finishes_cons {c : Char} {place : TagPlace}
    (passes : c ≠ '>' ∨ place.isQuoted = true) (text : List Char) :
    startTag.finishes place (c :: text) = startTag.finishes (place.next c) text := by
  have goes_on : (c == '>' && startTag.ends place) = false := by
    rcases passes with opened | quoted
    · rw [beq_eq_false_iff_ne.2 opened, Bool.false_and]
    · simp [startTag, quoted]
  rw [finishes, goes_on]
  rfl

theorem startTag_finishes_along {place : TagPlace} {front : List Char}
    (stays : ∀ c ∈ front, (c ≠ '>' ∨ place.isQuoted = true) ∧ place.next c = place)
    (text : List Char) :
    startTag.finishes place (front ++ text) = startTag.finishes place text := by
  induction front with
  | nil => rfl
  | cons c front ih =>
      obtain ⟨passes, next_eq⟩ := stays c (by simp)
      rw [List.cons_append, startTag_finishes_cons passes, next_eq]
      exact ih fun d member => stays d (by simp [member])

theorem startTag_finishes_alike {place other : TagPlace} {text : List Char}
    (place_free : place.isQuoted = false) (other_free : other.isQuoted = false)
    (alike : ∀ c, text.head? = some c → c = '>' ∨ place.next c = other.next c) :
    startTag.finishes place text = startTag.finishes other text := by
  cases text with
  | nil => rfl
  | cons c text =>
      by_cases closes : c = '>'
      · rw [closes, startTag.finishes_close (by simp [startTag, place_free]),
          startTag.finishes_close (by simp [startTag, other_free])]
      · rw [startTag_finishes_cons (.inl closes), startTag_finishes_cons (.inl closes),
          (alike c rfl).resolve_left closes]

theorem ne_close_of_blank {c : Char} (blank : Text.isMarkupBlank c = true) : c ≠ '>' := by
  rintro rfl
  contradiction

theorem ne_sign_of_blank {c : Char} (blank : Text.isMarkupBlank c = true) : c ≠ '=' := by
  rintro rfl
  contradiction

theorem startTag_finishes_blanks {place : TagPlace}
    (stays : ∀ c, Text.isMarkupBlank c = true → place.next c = place)
    {text tail : List Char} (tail_eq : (run Text.isMarkupBlank text).2 = tail) :
    startTag.finishes place text = startTag.finishes place tail := by
  rw [← run_append Text.isMarkupBlank text, tail_eq]
  apply startTag_finishes_along
  intro c member
  have blank := run_inside Text.isMarkupBlank text c member
  exact ⟨.inl (ne_close_of_blank blank), stays c blank⟩

theorem between_stays (c : Char) (blank : Text.isMarkupBlank c = true) :
    TagPlace.betweenAttrs.next c = .betweenAttrs := by
  simp [TagPlace.next, blank]

theorem name_stays {c : Char} (noSign : c ≠ '=') : TagPlace.attrName.next c = .attrName := by
  simp [TagPlace.next, noSign]

/-- Without a value, it does not matter whether the reader is in front of a name or behind one. -/
theorem startTag_finishes_unvalued {text : List Char}
    (noSign : ∀ more, (run Text.isMarkupBlank text).2 ≠ '=' :: more) :
    startTag.finishes .attrName text = startTag.finishes .betweenAttrs text := by
  have between : startTag.finishes .betweenAttrs text =
      startTag.finishes .betweenAttrs (run Text.isMarkupBlank text).2 :=
    startTag_finishes_blanks between_stays rfl
  rw [startTag_finishes_blanks (fun c blank => name_stays (ne_sign_of_blank blank)) rfl, between]
  apply startTag_finishes_alike rfl rfl
  intro c head
  have visible := run_stops Text.isMarkupBlank text c head
  have other : c ≠ '=' := by
    rintro rfl
    obtain ⟨more, tail_eq⟩ := List.head?_eq_some_iff.1 head
    exact noSign more tail_eq
  right
  simp [TagPlace.next, visible, other]

theorem startTag_finishes_nameRest (text : List Char) :
    startTag.finishes .attrName text = startTag.finishes .attrName (nameRest text).2 := by
  have inside := nameRest_inside text
  nth_rewrite 1 [← nameRest_append text]
  apply startTag_finishes_along
  intro c member
  have inName := inside c member
  simp only [isAttrNameChar, Bool.not_eq_true', Bool.or_eq_false_iff, beq_eq_false_iff_ne] at inName
  exact ⟨.inl inName.2, name_stays inName.1.2⟩

theorem startTag_finishes_attrName
    {first : Char} (visible : Text.isMarkupBlank first = false) (opened : first ≠ '>')
    (named : List Char) :
    startTag.finishes .betweenAttrs (first :: named) =
      startTag.finishes .attrName (attrName first named).2 := by
  have next_eq : TagPlace.betweenAttrs.next first = .attrName := by simp [TagPlace.next, visible]
  rw [startTag_finishes_cons (.inl opened), next_eq, attrName]
  split
  · rfl
  · exact startTag_finishes_nameRest named

theorem startTag_finishes_bare (text : List Char) :
    startTag.finishes .bareValue text =
      startTag.finishes .betweenAttrs (run isBareValue text).2 := by
  nth_rewrite 1 [← run_append isBareValue text]
  rw [startTag_finishes_along]
  · apply startTag_finishes_alike rfl rfl
    intro c head
    have stop := run_stops isBareValue text c head
    by_cases blank : Text.isMarkupBlank c = true
    · right
      simp [TagPlace.next, blank]
    · left
      simpa [isBareValue, blank] using stop
  · intro c member
    have bare := run_inside isBareValue text c member
    simp only [isBareValue, Bool.not_eq_true', Bool.or_eq_false_iff, beq_eq_false_iff_ne] at bare
    exact ⟨.inl bare.2, by simp [TagPlace.next, bare.1]⟩

theorem startTag_finishes_enclosed {place : TagPlace} {mark : Char}
    (quoted : place.isQuoted = true) (leaves : place.next mark = .betweenAttrs)
    (stays : ∀ c, c ≠ mark → place.next c = place) (text : List Char) :
    startTag.finishes place text =
      (Text.cut? [mark] text).any fun found => startTag.finishes .betweenAttrs found.2 := by
  induction text with
  | nil => rfl
  | cons c text ih =>
      rw [startTag_finishes_cons (.inr quoted)]
      by_cases same : c = mark
      · subst same
        rw [leaves]
        simp [Text.cut?, Text.dropStart?]
      · rw [stays c same, ih]
        simp [Text.cut?, Text.dropStart?, Ne.symm same, Option.any_map]

theorem startTag_finishes_quotedText {text : List Char}
    (visible : ∀ c, text.head? = some c → Text.isMarkupBlank c = false) :
    startTag.finishes .behindSign text =
      (quotedText? text).any fun found => startTag.finishes .betweenAttrs found.2 := by
  unfold quotedText?
  split
  · rfl
  · next text =>
      have stays : ∀ c, c ≠ '"' → TagPlace.doubleQuoted.next c = .doubleQuoted := by
        simp +contextual [TagPlace.next]
      have opened : startTag.finishes .behindSign ('"' :: text) =
          startTag.finishes .doubleQuoted text := rfl
      rw [opened, startTag_finishes_enclosed rfl rfl stays, Option.any_map]
  · next text =>
      have stays : ∀ c, c ≠ '\'' → TagPlace.singleQuoted.next c = .singleQuoted := by
        simp +contextual [TagPlace.next]
      have opened : startTag.finishes .behindSign ('\'' :: text) =
          startTag.finishes .singleQuoted text := rfl
      rw [opened, startTag_finishes_enclosed rfl rfl stays, Option.any_map]
  · next nonempty noDouble noSingle =>
      rw [Option.any_some]
      cases text with
      | nil => exact (nonempty rfl).elim
      | cons c text =>
          by_cases closes : c = '>'
          · subst closes
            rfl
          · have blank := visible c rfl
            have bare : isBareValue c = true := by simp [isBareValue, blank, closes]
            have noQuotes : c ≠ '"' ∧ c ≠ '\'' := by
              constructor
              · rintro rfl
                exact noDouble text rfl
              · rintro rfl
                exact noSingle text rfl
            have opened : TagPlace.behindSign.next c = .bareValue := by
              simp [TagPlace.next, blank, noQuotes]
            rw [startTag_finishes_cons (.inl closes), opened, startTag_finishes_bare]
            simp [run, bare]

theorem startTag_finishes_value (text : List Char) :
    startTag.finishes .attrName text =
      (attrValue? text).any fun found => startTag.finishes .betweenAttrs found.2 := by
  unfold attrValue?
  split
  · next afterSign sign_eq =>
      have stays : ∀ c, Text.isMarkupBlank c = true → TagPlace.behindSign.next c = .behindSign := by
        simp +contextual [TagPlace.next]
      have signed : startTag.finishes .attrName ('=' :: afterSign) =
          startTag.finishes .behindSign afterSign := rfl
      rw [startTag_finishes_blanks (fun c blank => name_stays (ne_sign_of_blank blank)) sign_eq,
        signed, startTag_finishes_blanks stays rfl,
        startTag_finishes_quotedText (run_stops Text.isMarkupBlank afterSign), Option.any_map]
  · next noSign => exact startTag_finishes_unvalued noSign

theorem startTag_finishes_rest (text : List Char) :
    startTag.finishes .betweenAttrs text = (tagRest? text).isSome := by
  fun_induction tagRest? text with
  | case1 text blanks => exact startTag_finishes_blanks between_stays blanks
  | case2 text rest blanks => exact startTag_finishes_blanks between_stays blanks
  | case3 text rest blanks => exact startTag_finishes_blanks between_stays blanks
  | case4 text first named noEnd noSlash blanks unread =>
      have visible := run_stops Text.isMarkupBlank text first (by rw [blanks]; rfl)
      have opened : first ≠ '>' := noEnd
      rw [startTag_finishes_blanks between_stays blanks,
        startTag_finishes_attrName visible opened, startTag_finishes_value, unread]
      rfl
  | case5 text first named noEnd noSlash blanks value rest value_read ih =>
      have visible := run_stops Text.isMarkupBlank text first (by rw [blanks]; rfl)
      have opened : first ≠ '>' := noEnd
      rw [startTag_finishes_blanks between_stays blanks,
        startTag_finishes_attrName visible opened, startTag_finishes_value, value_read,
        Option.any_some, ih, Option.isSome_map]

theorem tag_isSome_elementToken (text : List Char) :
    (elementToken text).1.tag?.isSome = (tagRest? (run isTagName text).2).isSome := by
  rw [elementToken]
  cases tagRest? (run isTagName text).2 with
  | none => rfl
  | some found =>
      simp only
      split
      · rw [tag_of_rawElement]
        rfl
      · rfl

/-- The end of a start tag is where the scanner reads it. -/
theorem startTag_finishes (text : List Char) :
    startTag.finishes .tagName text = (elementToken text).1.tag?.isSome := by
  rw [tag_isSome_elementToken, ← startTag_finishes_rest]
  nth_rewrite 1 [← run_append isTagName text]
  rw [startTag_finishes_along]
  · apply startTag_finishes_alike rfl rfl
    intro c head
    have stop := run_stops isTagName text c head
    by_cases blank : Text.isMarkupBlank c = true
    · right
      simp [TagPlace.next, blank]
    · simp only [isTagName, blank, Bool.false_or, Bool.not_eq_false', Bool.or_eq_true,
        beq_iff_eq] at stop
      refine stop.imp_right ?_
      rintro rfl
      rfl
  · intro c member
    have inside := run_inside isTagName text c member
    simp only [isTagName, Bool.not_eq_true', Bool.or_eq_false_iff, beq_eq_false_iff_ne] at inside
    exact ⟨.inl inside.1.2, by simp [TagPlace.next, inside]⟩

end Reader

end Markup
end MarkupTemplate
