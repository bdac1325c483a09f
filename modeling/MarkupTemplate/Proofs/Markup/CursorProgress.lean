import MarkupTemplate.Proofs.Markup.CursorTree

/-!
The cursor reads every text. It takes no slice that does not exist and needs no more steps than
twice the bytes of the text and two, and what it makes is the tree of the text. Each of its loops
goes forward in every turn; only the loop over nodes also stops where it is, in front of an end tag
that an element around it takes.
-/

namespace MarkupTemplate
namespace Markup
namespace Cursor

open Text (byteLength isBoundary At)

structure Advances (text : List Char) : Prop where
  /-- A turn over nodes ends at a later boundary, or an end tag of an open element is ahead. -/
  node : ∀ {steps opened made pos rest}, At text pos rest → rest ≠ [] →
    2 * byteLength rest + 1 ≤ steps →
      (∃ others stop, turn text (element text steps opened) steps opened made pos =
          .ok (.again others stop) ∧ pos < stop ∧ isBoundary text stop = true) ∨
        turn text (element text steps opened) steps opened made pos = .ok .pending ∧
          Pending opened rest
  /-- An open element takes the end tag that names it. -/
  pending : ∀ {name found pos rest}, At text pos rest → endTagName? rest = some found →
    Text.sameName found name = true →
      ∃ source stop, closing text name pos = .ok (.explicit source, stop) ∧ pos < stop
  /-- An element takes its `<` at least. -/
  element : ∀ {steps opened pos letter rest}, At text pos ('<' :: letter :: rest) →
    letter.isAlpha = true → 2 * byteLength ('<' :: letter :: rest) + 1 ≤ steps →
      ∃ node stop, element text steps opened pos = .ok (node, stop) ∧ pos < stop
  /-- A turn over attributes ends the loop or goes forward. -/
  attr : ∀ {steps pos rest}, At text pos rest → byteLength rest < steps →
    ∃ result, attrTurn text steps pos = .ok result ∧
      ∀ attr stop, result = .read attr stop → pos < stop
  /-- A turn of the search for the end of raw text ends the loop or goes forward. -/
  rawText : ∀ {name search rest}, Vocabulary.isRawText name = true → At text search rest →
    ∃ result, rawTurn (text.map Char.toLower) (rawMark name) search = .ok result ∧
      ∀ next, result = .again next → search < next

section Progress

variable {text rest : List Char} {pos steps : Nat}

/-- Where less of a text is left, the position is a later one. -/
theorem later_of_shorter {behind : List Char} {stop : Nat} (here : At text pos rest)
    (there : At text stop behind) (shorter : byteLength behind < byteLength rest) :
    pos < stop := by
  have lengths := here.length_eq
  rw [there.length_eq] at lengths
  omega

theorem node_advances {opened : List (List Char)} {made : List Node} (here : At text pos rest)
    (remains : rest ≠ []) (enough : 2 * byteLength rest + 1 ≤ steps) :
    (∃ others stop, turn text (element text steps opened) steps opened made pos =
        .ok (.again others stop) ∧ pos < stop ∧ isBoundary text stop = true) ∨
      turn text (element text steps opened) steps opened made pos = .ok .pending ∧
        Pending opened rest := by
  obtain ⟨c, more, rfl⟩ := List.exists_cons_of_ne_nil remains
  have elements : ∀ letter following, c :: more = '<' :: letter :: following →
      letter.isAlpha = true →
      ReadsElement text opened (c :: more) (element text steps opened pos) := by
    intro letter following rest_eq alpha
    rw [rest_eq] at here enough ⊢
    exact (nodes_and_elements text steps).2 here alpha enough
  obtain ⟨result, turn_eq, turned⟩ : ∃ result,
      turn text (element text steps opened) steps opened made pos = .ok result ∧
        Turned text opened made (c :: more) result :=
    turn_at here (by omega) elements
  cases turned with
  | again there progress _ =>
      exact .inl ⟨_, _, turn_eq, later_of_shorter here there progress, there.boundary⟩
  | pending ended => exact .inr ⟨turn_eq, ended⟩

theorem pending_advances {name found : List Char} (here : At text pos rest)
    (read : endTagName? rest = some found) (same : Text.sameName found name = true) :
    ∃ source stop, closing text name pos = .ok (.explicit source, stop) ∧ pos < stop := by
  obtain ⟨stop, closed, there⟩ := closing_named here read same
  obtain ⟨following, rfl⟩ := begins_of_endTagName? read
  have nonempty : (Text.through '>' ('<' :: '/' :: following)).1 ≠ [] := by simp [Text.through]
  have progress := progress_of_append nonempty (Text.through_append '>' _)
  exact ⟨_, stop, closed, later_of_shorter here there progress⟩

theorem attr_advances (here : At text pos rest) (enough : byteLength rest < steps) :
    ∃ result, attrTurn text steps pos = .ok result ∧
      ∀ attr stop, result = .read attr stop → pos < stop := by
  have rest_length := congrArg byteLength (Text.run_append Text.isMarkupBlank rest)
  rw [Text.byteLength_append] at rest_length
  cases begins : (Text.run Text.isMarkupBlank rest).2 with
  | nil => exact ⟨_, attrTurn_unfinished here enough begins, by simp⟩
  | cons first named =>
      by_cases closes : first = '>'
      · subst closes
        obtain ⟨stop, turn_eq, -⟩ := attrTurn_ended here enough begins
        exact ⟨_, turn_eq, by simp⟩
      · by_cases selfCloses : ∃ after, first = '/' ∧ named = '>' :: after
        · obtain ⟨after, rfl, rfl⟩ := selfCloses
          obtain ⟨stop, turn_eq, -⟩ := attrTurn_selfClosing here enough begins
          exact ⟨_, turn_eq, by simp⟩
        · have offered := attrTurn_read here enough begins closes fun after slash named_eq =>
            selfCloses ⟨after, slash, named_eq⟩
          cases read : attrValue? (attrName first named).2 with
          | none =>
              rw [read] at offered
              exact ⟨_, offered, by simp⟩
          | some found =>
              obtain ⟨value, behind⟩ := found
              rw [read] at offered
              obtain ⟨stop, turn_eq, there⟩ := offered
              have progress := attr_progress read
              rw [begins] at rest_length
              refine ⟨_, turn_eq, ?_⟩
              rintro attr next ⟨⟩
              exact later_of_shorter here there (by omega)

theorem rawText_advances {name : List Char} (raw : Vocabulary.isRawText name = true)
    (here : At text pos rest) :
    ∃ result, rawTurn (text.map Char.toLower) (rawMark name) pos = .ok result ∧
      ∀ next, result = .again next → pos < next := by
  obtain ⟨nonempty, inside⟩ := name_of_raw raw
  obtain ⟨result, turn_eq, turned⟩ := rawTurn_at nonempty inside here
  refine ⟨result, turn_eq, ?_⟩
  rintro next rfl
  cases turned with
  | again _ progress _ =>
      have front_pos := Text.byteLength_pos progress
      omega

end Progress

/-- Without a fault and whatever steps it is given beyond those that are enough, the cursor makes
the tree of a text and comes to its end. -/
theorem parse_eq_ok (text : List Char) (extra : Nat) :
    parse text (2 * byteLength text + 2 + extra) = .ok (Markup.parse text, byteLength text) := by
  obtain ⟨others, stop, behind, read, there, -, same, rests⟩ :
      ∃ others stop behind, nodes text (2 * byteLength text + 2 + extra) [] [] 0 =
          .ok (others.reverse, stop) ∧ At text stop behind ∧ byteLength behind ≤ byteLength text ∧
        SameTree [] [] text others behind ∧ Rests [] behind :=
    (nodes_and_elements text _).1 (Text.at_start text) (Nat.le_add_right _ _)
  obtain rfl : behind = [] := by
    rcases rests with ended | ⟨name, -, named⟩
    · exact ended
    · contradiction
  have tree_eq := same [] rfl
  rw [scan, build, finish] at tree_eq
  rw [parse, read, Markup.parse, tree_eq, (Text.at_end text).pos_eq there]

/-- No text makes the cursor fail or keeps it from the end: it takes only slices that exist, and
runs out of no steps. -/
theorem parse_without_fault (text : List Char) :
    (∀ start stop, (∃ piece, slice text start stop = .ok piece) ↔
      isBoundary text start = true ∧ isBoundary text stop = true ∧ start ≤ stop ∧
        stop ≤ byteLength text) ∧
    (∀ extra, parse text (2 * byteLength text + 2 + extra) =
      .ok (Markup.parse text, byteLength text)) ∧
    Advances text := by
  refine ⟨fun _ _ => slice_ok_iff, parse_eq_ok text, ?_⟩
  constructor
  case node => exact node_advances
  case pending => exact pending_advances
  case element =>
    intro steps opened pos letter rest here alpha enough
    obtain ⟨node, stop, behind, read, there, progress, -⟩ :=
      (nodes_and_elements text steps).2 here alpha enough
    exact ⟨node, stop, read, later_of_shorter here there progress⟩
  case attr => exact attr_advances
  case rawText => exact rawText_advances

/-- In front of the end tag `</b>` the loop over the nodes of the inner element stops; the outer
element takes it. -/
theorem parse_without_fault_pending :
    Markup.parse "<b><i>é</b>".toList =
        [.element ⟨['b'], [], []⟩ [.element ⟨['i'], [], []⟩ [.text ['é']] .missing]
          (.explicit "</b>".toList)] ∧
      Pending [['i'], ['b']] "</b>".toList ∧
      ∃ source stop, closing "<b><i>é</b>".toList ['b'] 8 = .ok (.explicit source, stop) ∧
        8 < stop := by
  obtain ⟨-, reads, advances⟩ := parse_without_fault "<b><i>é</b>".toList
  have here : At "<b><i>é</b>".toList 8 "</b>".toList := ⟨"<b><i>é".toList, rfl, rfl⟩
  have evaluated : parse "<b><i>é</b>".toList 26 =
      .ok ([.element ⟨['b'], [], []⟩ [.element ⟨['i'], [], []⟩ [.text ['é']] .missing]
        (.explicit "</b>".toList)], 12) := rfl
  have stopped : turn "<b><i>é</b>".toList (element "<b><i>é</b>".toList 20 [['i'], ['b']]) 20
      [['i'], ['b']] [.text ['é']] 8 = .ok .pending := rfl
  refine ⟨?_, ?_, @Advances.pending _ advances ['b'] ['b'] 8 "</b>".toList here rfl rfl⟩
  · have read : parse "<b><i>é</b>".toList 26 = .ok (Markup.parse "<b><i>é</b>".toList, 12) :=
      reads 0
    rw [evaluated] at read
    exact (Prod.mk.inj (Except.ok.inj read)).1.symm
  · rcases @Advances.node _ advances 20 [['i'], ['b']] [.text ['é']] 8 "</b>".toList here
      (by decide) (by decide) with ⟨others, stop, turned, -⟩ | ⟨-, ahead⟩
    · rw [stopped] at turned
      cases turned
    · exact ahead

end Cursor
end Markup
end MarkupTemplate
