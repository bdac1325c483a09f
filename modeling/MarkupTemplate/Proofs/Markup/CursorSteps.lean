import MarkupTemplate.Proofs.Markup.Cursor
import MarkupTemplate.Proofs.Markup.EndTag
import MarkupTemplate.Proofs.Text.Classes

/-!
Where the cursor comes to rest. A loop over bytes that begins at a boundary ends at one, as it is
not stopped inside a character: what stops it are ASCII characters, which are bytes of their own. So
every piece of text that ends where a loop does is a slice.
-/

namespace MarkupTemplate
namespace Markup
namespace Cursor

open Text (byteLength isBoundary sees At AsciiClass)

@[simp] theorem ok_bind {α β : Type} (value : α) (next : α → Except Fault β) :
    (Except.ok value >>= next) = next value := rfl

@[simp] theorem pure_eq_ok {α : Type} (value : α) : (pure value : Except Fault α) = .ok value := rfl

def Takes {α : Type} (text : List Char) (result : Except Fault (α × Nat)) (value : α)
    (rest : List Char) : Prop :=
  ∃ stop, result = .ok (value, stop) ∧ At text stop rest

/-- A text in front of the first place where it goes on as `stops` says, and from there on. -/
def cutAt (stops : List Char → Bool) : List Char → List Char × List Char
  | [] => ([], [])
  | c :: text =>
      if stops (c :: text) then ([], c :: text)
      else (c :: (cutAt stops text).1, (cutAt stops text).2)

theorem cutAt_opens (text : List Char) : cutAt opens text = plainRun text := by
  induction text with
  | nil => rfl
  | cons c text ih => rw [cutAt, plainRun, ih]

theorem cutAt_run (p : Char → Bool) (text : List Char) :
    cutAt (fun rest => rest.head?.any fun c => !p c) text = Text.run p text := by
  induction text with
  | nil => rfl
  | cons c text ih =>
      rw [cutAt, ih]
      cases member : p c <;> simp [Text.run, member]

/-- Whether a loop over the bytes of a text stops where the text goes on as `stops` says, where it
ends, and nowhere inside of a character. -/
structure StopsAt (text : List Char) (goesOn : Nat → Bool) (stops : List Char → Bool) : Prop where
  ended : ∀ {pos}, At text pos [] → goesOn pos = false
  boundary : ∀ {pos c rest}, At text pos (c :: rest) → goesOn pos = !stops (c :: rest)
  inside : ∀ {pos c rest k}, At text pos (c :: rest) → stops (c :: rest) = false → 0 < k →
    k < c.utf8Size → goesOn (pos + k) = true

theorem advance_through {goesOn : Nat → Bool} {pos count : Nat}
    (inside : ∀ k, k < count → goesOn (pos + k) = true) (steps : Nat) :
    advance goesOn (steps + count) pos = advance goesOn steps (pos + count) := by
  induction count generalizing pos with
  | zero => rfl
  | succ count ih =>
      have here : goesOn pos = true := inside 0 (Nat.succ_pos count)
      have behind : ∀ k, k < count → goesOn (pos + 1 + k) = true := by
        intro k bounded
        rw [Nat.add_right_comm]
        exact inside (k + 1) (by omega)
      rw [← Nat.add_assoc, advance, if_pos here, ih behind, Nat.add_right_comm pos 1, Nat.add_assoc]

/-- A loop goes over the rest of a character whose first byte did not stop it. -/
theorem StopsAt.character {text rest : List Char} {goesOn : Nat → Bool}
    {stops : List Char → Bool} {pos steps : Nat} {c : Char} (loop : StopsAt text goesOn stops)
    (here : At text pos (c :: rest)) (goes : stops (c :: rest) = false)
    (enough : c.utf8Size ≤ steps + 1) :
    advance goesOn steps (pos + 1) =
      advance goesOn (steps + 1 - c.utf8Size) (pos + c.utf8Size) := by
  have size_pos := c.utf8Size_pos
  have inside : ∀ k, k < c.utf8Size - 1 → goesOn (pos + 1 + k) = true := by
    intro k bounded
    rw [Nat.add_assoc]
    exact loop.inside here goes (by omega) (by omega)
  have through := advance_through inside (steps + 1 - c.utf8Size)
  rw [show steps + 1 - c.utf8Size + (c.utf8Size - 1) = steps by omega,
    show pos + 1 + (c.utf8Size - 1) = pos + c.utf8Size by omega] at through
  exact through

/-- A loop that begins at a boundary ends at the boundary where the text is cut. -/
theorem StopsAt.advance {text rest : List Char} {goesOn : Nat → Bool}
    {stops : List Char → Bool} {pos steps : Nat} (loop : StopsAt text goesOn stops)
    (here : At text pos rest) (enough : byteLength rest < steps) :
    ∃ stop, Cursor.advance goesOn steps pos = .ok stop ∧ At text stop (cutAt stops rest).2 := by
  induction rest generalizing pos steps with
  | nil =>
      obtain ⟨more, rfl⟩ := Nat.exists_eq_add_of_lt enough
      exact ⟨pos, by simp [Cursor.advance, loop.ended here], here⟩
  | cons c rest ih =>
      rw [Text.byteLength_cons] at enough
      obtain ⟨more, rfl⟩ : ∃ more, steps = more + 1 := ⟨steps - 1, by omega⟩
      have goesOn_eq := loop.boundary here
      rw [cutAt]
      cases stop_eq : stops (c :: rest) with
      | true =>
          rw [stop_eq, Bool.not_true] at goesOn_eq
          exact ⟨pos, by simp [Cursor.advance, goesOn_eq], here⟩
      | false =>
          rw [stop_eq, Bool.not_false] at goesOn_eq
          have more_eq := loop.character here stop_eq (show c.utf8Size ≤ more + 1 by omega)
          obtain ⟨stop, reached, there⟩ :=
            ih here.cons (show byteLength rest < more + 1 - c.utf8Size by omega)
          refine ⟨stop, ?_, there⟩
          rw [Cursor.advance, if_pos goesOn_eq, more_eq, reached]

section Classes

variable {text : List Char} {p : Char → Bool}

theorem before_end {rest : List Char} {pos k : Nat} {c : Char} (here : At text pos (c :: rest))
    (inside : k < c.utf8Size) :
    pos + k < byteLength text := by
  rw [here.length_eq, Text.byteLength_cons]
  omega

theorem in_text {rest : List Char} {pos : Nat} {c : Char} (here : At text pos (c :: rest)) :
    pos < byteLength text :=
  before_end here c.utf8Size_pos

theorem stopsAt_class (narrow : AsciiClass p) :
    StopsAt text (fun pos => decide (pos < byteLength text) && !sees p text pos)
      (fun rest => rest.head?.any p) where
  ended here := by simp [here.length_eq]
  boundary here := by simp [Text.sees_at narrow here, in_text here]
  inside here _ behind inside := by
    simp [before_end here inside, Text.sees_inside p here behind inside]

/-- A loop over an ASCII class never stands inside of a character. -/
theorem stopsAt_over (narrow : AsciiClass p) :
    StopsAt text (sees p text) (fun rest => rest.head?.any fun c => !p c) where
  ended here := by simp [Text.sees_at narrow here]
  boundary here := by simp [Text.sees_at narrow here]
  inside := by
    intro pos c rest k _ goes behind inside
    have member : p c = true := by simpa using goes
    rw [Text.utf8Size_ascii (narrow c member)] at inside
    omega

theorem isMarkupMark_ascii : AsciiClass isMarkupMark := by
  intro c mark
  simp only [isMarkupMark, Bool.or_eq_true, beq_iff_eq] at mark
  rcases mark with ((letter | rfl) | rfl) | rfl
  · exact Text.ascii_of_alphanum (by simp [Char.isAlphanum, letter])
  · decide
  · decide
  · decide

theorem isMarkupBlank_ascii : AsciiClass Text.isMarkupBlank := by
  intro c blank
  simp only [Text.isMarkupBlank, Bool.or_eq_true, beq_iff_eq] at blank
  rcases blank with (((rfl | rfl) | rfl) | rfl) | rfl <;> decide

theorem isNameEnd_ascii : AsciiClass isNameEnd := by
  intro c ends
  simp only [isNameEnd, Bool.or_eq_true, beq_iff_eq] at ends
  rcases ends with (blank | rfl) | rfl
  · exact isMarkupBlank_ascii c blank
  · decide
  · decide

theorem tagNameEnd_ascii : AsciiClass fun c => !isTagName c := by
  intro c ends
  simp only [isTagName, Bool.not_not, Bool.or_eq_true, beq_iff_eq] at ends
  rcases ends with (blank | rfl) | rfl
  · exact isMarkupBlank_ascii c blank
  · decide
  · decide

theorem bareValueEnd_ascii : AsciiClass fun c => !isBareValue c := by
  intro c ends
  simp only [isBareValue, Bool.not_not, Bool.or_eq_true, beq_iff_eq] at ends
  rcases ends with blank | rfl
  · exact isMarkupBlank_ascii c blank
  · decide

theorem isEndTagName_ascii : AsciiClass isEndTagName := by
  intro c inName
  simp only [isEndTagName, Bool.or_eq_true, beq_iff_eq] at inName
  rcases inName with letter | rfl
  · exact Text.ascii_of_alphanum letter
  · decide

theorem atMarkup_at {rest : List Char} {pos : Nat} (here : At text pos rest) :
    atMarkup text pos = opens rest := by
  rw [atMarkup, Text.sees_two (Text.asciiClass_mark _ (by decide)) isMarkupMark_ascii here]
  match rest with
  | [] => rfl
  | [c] => simp [opens]
  | c :: d :: rest =>
      by_cases opening : c = '<'
      · simp [opens, isMarkupMark, opening]
      · simp [opens, opening]

theorem stopsAt_opens :
    StopsAt text (fun pos => decide (pos < byteLength text) && !atMarkup text pos) opens where
  ended here := by simp [here.length_eq]
  boundary here := by simp [atMarkup_at here, in_text here]
  inside here _ behind inside := by
    simp [before_end here inside, atMarkup, Text.sees_inside _ here behind inside]

theorem atSelfClosing_at {rest : List Char} {pos : Nat} (here : At text pos rest) :
    atSelfClosing text pos = (rest.head?.any (· == '/') && rest.tail.head?.any (· == '>')) :=
  Text.sees_two (Text.asciiClass_mark _ (by decide)) (Text.asciiClass_mark _ (by decide)) here

def endsAttrName (rest : List Char) : Bool :=
  rest.head?.any isNameEnd || rest.head?.any (· == '/') && rest.tail.head?.any (· == '>')

theorem cutAt_endsAttrName (text : List Char) : cutAt endsAttrName text = nameRest text := by
  fun_induction nameRest text with
  | case1 => rfl
  | case2 text => simp [cutAt, endsAttrName]
  | case3 c text noEnd stops =>
      have named : isNameEnd c = true := by simpa [isNameEnd] using stops
      have ends : endsAttrName (c :: text) = true := by simp [endsAttrName, named]
      rw [cutAt, if_pos ends]
  | case4 c text noEnd continues ih =>
      have goes : ¬endsAttrName (c :: text) = true := by
        intro ends
        simp only [endsAttrName, Bool.or_eq_true, Bool.and_eq_true] at ends
        rcases ends with ends | ⟨slash, closes⟩
        · exact continues (by simpa [isNameEnd] using ends)
        · have slash_eq : c = '/' := by simpa using slash
          cases text with
          | nil => contradiction
          | cons d text =>
              have close_eq : d = '>' := by simpa using closes
              exact noEnd text slash_eq (by rw [close_eq])
      rw [cutAt, if_neg goes, ih]

theorem stopsAt_attrName :
    StopsAt text (fun pos => decide (pos < byteLength text) && !sees isNameEnd text pos &&
      !atSelfClosing text pos) endsAttrName where
  ended here := by simp [here.length_eq]
  boundary here := by
    simp [Text.sees_at isNameEnd_ascii here, atSelfClosing_at here, endsAttrName, in_text here]
  inside here _ behind inside := by
    simp [before_end here inside, atSelfClosing, Text.sees_inside _ here behind inside]

end Classes

section Readers

variable {text rest : List Char} {pos steps : Nat}

theorem slice_at {piece : List Char} {stop : Nat} (here : At text pos (piece ++ rest))
    (there : At text stop rest) :
    slice text pos stop = .ok piece := by
  rw [slice, here.slice there]

theorem sliceFrom_at (here : At text pos rest) : sliceFrom text pos = .ok rest := by
  rw [sliceFrom, slice, here.slice_rest]

theorem advanceOver_at {p : Char → Bool} (narrow : AsciiClass p) (here : At text pos rest)
    (enough : byteLength rest < steps) :
    ∃ stop, advanceOver p text steps pos = .ok stop ∧ At text stop (Text.run p rest).2 := by
  have reached := (stopsAt_over narrow).advance here enough
  rwa [cutAt_run] at reached

theorem advanceTo_at {p : Char → Bool} (narrow : AsciiClass fun c => !p c)
    (here : At text pos rest) (enough : byteLength rest < steps) :
    ∃ stop, advanceTo (fun c => !p c) text steps pos = .ok stop ∧
      At text stop (Text.run p rest).2 := by
  have reached := (stopsAt_class narrow).advance here enough
  rwa [cutAt_run] at reached

/-- A slice that goes to the end of a run of characters is the run. -/
theorem slice_run {p : Char → Bool} {stop : Nat} (here : At text pos rest)
    (there : At text stop (Text.run p rest).2) :
    slice text pos stop = .ok (Text.run p rest).1 :=
  slice_at (by rwa [Text.run_append]) there

theorem textRun_takes {c : Char} (here : At text pos (c :: rest))
    (plain : opens (c :: rest) = false) (enough : byteLength (c :: rest) < steps) :
    Takes text (textRun text steps pos) (c :: (plainRun rest).1) (plainRun rest).2 := by
  rw [Text.byteLength_cons] at enough
  have size_pos := c.utf8Size_pos
  obtain ⟨stop, reached, there⟩ :=
    stopsAt_opens.advance here.cons (show byteLength rest < steps + 1 - c.utf8Size by omega)
  rw [← stopsAt_opens.character here plain (by omega)] at reached
  rw [cutAt_opens] at there
  -- the loop to the next boundary has nothing to do
  have settled : advance (fun pos => !isBoundary text pos) steps stop = .ok stop := by
    obtain ⟨more, rfl⟩ : ∃ more, steps = more + 1 := ⟨steps - 1, by omega⟩
    simp [advance, there.boundary]
  have sliced : slice text pos stop = .ok (c :: (plainRun rest).1) :=
    slice_at (by rwa [List.cons_append, plainRun_append]) there
  exact ⟨stop, by simp [textRun, reached, settled, sliced], there⟩

/-- In front of a `</` the cursor reads the name of the end tag there, if it is one. -/
theorem endTagName_at (here : At text pos ('<' :: '/' :: rest)) :
    endTagName text pos = .ok (endTagName? ('<' :: '/' :: rest)) := by
  have behind : At ('<' :: '/' :: rest) 2 rest := ⟨['<', '/'], rfl, rfl⟩
  have length_eq := Text.takeWhile_bytes isEndTagName_ascii rest
  have there : At rest (byteLength (rest.takeWhile isEndTagName)) (rest.dropWhile isEndTagName) :=
    ⟨_, (Text.run_append isEndTagName rest).symm, rfl⟩
  simp only [endTagName, sliceFrom_at here, sliceFrom_at behind, ok_bind, length_eq,
    Text.byteLength_eq_zero, endTagName?, Text.run, List.isEmpty_iff]
  split
  · rfl
  · rw [sliceFrom_at there, ok_bind]
    cases trimmed : Text.trimStart (rest.dropWhile isEndTagName) with
    | nil => simp
    | cons c after =>
        by_cases closes : c = '>'
        · subst closes
          have sliced : slice rest 0 (byteLength (rest.takeWhile isEndTagName)) =
              .ok (rest.takeWhile isEndTagName) := slice_run (Text.at_start rest) there
          simp [sliced]
        · simp [closes]

theorem find?_some {mark before after : List Char}
    (cut : Text.cut? mark rest = some (before, after)) :
    find? mark rest = some (byteLength before) := by
  rw [find?, cut]
  rfl

theorem find?_none {mark : List Char} (cut : Text.cut? mark rest = none) :
    find? mark rest = none := by
  rw [find?, cut]
  rfl

theorem takeThrough_takes (here : At text pos rest) :
    Takes text (takeThrough text pos) (Text.through '>' rest).1 (Text.through '>' rest).2 := by
  rcases Text.through_cases '>' rest with absent | ⟨before, after, absent, rfl⟩
  · have cut : Text.cut? ['>'] rest = none := by
      rw [Option.eq_none_iff_forall_ne_some]
      rintro ⟨before, after⟩ found
      exact absent (by simp [Text.append_of_cut? found])
    rw [Text.through_absent absent]
    have sliced : slice text pos (byteLength text) = .ok rest := sliceFrom_at here
    exact ⟨_, by simp [takeThrough, sliceFrom_at here, find?_none cut, sliced], Text.at_end text⟩
  · have there : At text (pos + byteLength before + 1) after := here.append.next (by decide)
    have sliced : slice text pos (pos + byteLength before + 1) = .ok (before ++ ['>']) :=
      slice_at (by simpa using here) there
    rw [Text.through_exact absent]
    exact ⟨_, by simp [takeThrough, sliceFrom_at here, find?_some (Text.cut?_mark absent after),
      sliced], there⟩

end Readers

end Cursor
end Markup
end MarkupTemplate
