import MarkupTemplate.Proofs.Markup.Parts
import MarkupTemplate.Proofs.Markup.Tokens

/-!
End tags as the scanner reads them. An end tag is read up to its `>`, so what follows it does not
matter, and neither of the two characters that delimit markup stands inside it.
-/

namespace MarkupTemplate
namespace Markup

open Text (run run_append run_exact run_inside)

structure EndTagShape (name blanks : List Char) : Prop where
  nonempty : name ≠ []
  name_inside : ∀ c ∈ name, isEndTagName c = true
  blank : ∀ c ∈ blanks, Text.isBlank c = true

/-- An end tag without its `>`. -/
def endTagText (name blanks : List Char) : List Char :=
  '<' :: '/' :: (name ++ blanks)

theorem endTagName_of_blank {c : Char} (blank : Text.isBlank c = true) :
    isEndTagName c = false := by
  have ranges : c.toNat ≤ 0x20 ∨ 0x85 ≤ c.toNat := by
    simp only [Text.isBlank, Text.Ranges.holds, Text.blankRanges, List.any_cons, List.any_nil,
      Bool.or_false, Bool.or_eq_true, Bool.and_eq_true, decide_eq_true_eq] at blank
    omega
  apply Bool.eq_false_iff.2
  intro inName
  have cases_of_name : (decide (65 ≤ c.val ∧ c.val ≤ 90) || (97 ≤ c.val && c.val ≤ 122) ||
      (48 ≤ c.val && c.val ≤ 57) || c == '-') = true := inName
  simp only [Bool.or_eq_true, beq_iff_eq, Bool.and_eq_true, decide_eq_true_eq,
    UInt32.le_iff_toNat_le] at cases_of_name
  rcases cases_of_name with ((⟨low, high⟩ | ⟨low, high⟩) | ⟨low, high⟩) | rfl
  · change 65 ≤ c.toNat at low
    change c.toNat ≤ 90 at high
    omega
  · change 97 ≤ c.toNat at low
    change c.toNat ≤ 122 at high
    omega
  · change 48 ≤ c.toNat at low
    change c.toNat ≤ 57 at high
    omega
  · revert ranges
    decide

theorem endTagName_of_letter {c : Char}
    (letter : 65 ≤ c.toNat ∧ c.toNat ≤ 90 ∨ 97 ≤ c.toNat ∧ c.toNat ≤ 122) :
    isEndTagName c = true := by
  change (decide (65 ≤ c.val ∧ c.val ≤ 90) || (97 ≤ c.val && c.val ≤ 122) ||
    (48 ≤ c.val && c.val ≤ 57) || c == '-') = true
  simp only [Bool.or_eq_true, Bool.and_eq_true, decide_eq_true_eq, UInt32.le_iff_toNat_le]
  exact .inl (.inl letter)

theorem endTagName_toLower (c : Char) : isEndTagName c.toLower = isEndTagName c := by
  unfold Char.toLower
  split
  · next upper =>
      have low : 65 ≤ c.toNat := UInt32.le_iff_toNat_le.1 upper.1
      have high : c.toNat ≤ 90 := UInt32.le_iff_toNat_le.1 upper.2
      have lowered : (c.val + ('a'.val - 'A'.val)).toNat = c.toNat + 32 := by
        rw [UInt32.toNat_add]
        exact Nat.mod_eq_of_lt (by change c.toNat + 32 < 2 ^ 32; omega)
      rw [endTagName_of_letter (.inl ⟨low, high⟩)]
      apply endTagName_of_letter
      right
      change 97 ≤ (c.val + ('a'.val - 'A'.val)).toNat ∧
        (c.val + ('a'.val - 'A'.val)).toNat ≤ 122
      omega
  · rfl

/-- Names that differ in case only can both stand in an end tag, or neither can. -/
theorem endTagName_of_sameName {left right : List Char} (same : Text.sameName left right = true)
    (inside : ∀ c ∈ left, isEndTagName c = true) :
    ∀ c ∈ right, isEndTagName c = true := by
  have lowered_eq : left.map Char.toLower = right.map Char.toLower := by
    simpa [Text.sameName] using same
  intro c member
  have lowered : c.toLower ∈ left.map Char.toLower := by
    rw [lowered_eq]
    exact List.mem_map_of_mem member
  obtain ⟨d, member_left, d_eq⟩ := List.mem_map.1 lowered
  rw [← endTagName_toLower, ← d_eq, endTagName_toLower]
  exact inside d member_left

theorem endTagName?_sound {text name : List Char} (read : endTagName? text = some name) :
    ∃ blanks rest, EndTagShape name blanks ∧ text = endTagText name blanks ++ '>' :: rest := by
  unfold endTagName? at read
  split at read
  · next text =>
      simp only at read
      split at read
      · contradiction
      · next nonempty =>
          split at read
          · next rest trimmed =>
              cases read
              have name_eq := run_append isEndTagName text
              have blanks_eq := run_append Text.isBlank (run isEndTagName text).2
              rw [show (run Text.isBlank (run isEndTagName text).2).2 = '>' :: rest from trimmed]
                at blanks_eq
              refine ⟨_, rest, ⟨by simpa using nonempty, run_inside isEndTagName text,
                run_inside Text.isBlank (run isEndTagName text).2⟩, ?_⟩
              rw [endTagText, List.cons_append, List.cons_append, List.append_assoc, blanks_eq,
                name_eq]
          · contradiction
  · contradiction

theorem endTagName?_exact {name blanks : List Char} (shape : EndTagShape name blanks)
    (rest : List Char) :
    endTagName? (endTagText name blanks ++ '>' :: rest) = some name := by
  have name_run : run isEndTagName (name ++ (blanks ++ '>' :: rest)) =
      (name, blanks ++ '>' :: rest) := by
    apply run_exact shape.name_inside
    intro c head
    cases blanks with
    | nil =>
        cases head
        decide
    | cons d blanks =>
        cases head
        exact endTagName_of_blank (shape.blank c (by simp))
  have blanks_run : run Text.isBlank (blanks ++ '>' :: rest) = (blanks, '>' :: rest) := by
    apply run_exact shape.blank
    rintro c ⟨⟩
    decide
  have trimmed : Text.trimStart (blanks ++ '>' :: rest) = '>' :: rest :=
    congrArg Prod.snd blanks_run
  simp only [endTagText, List.cons_append, List.append_assoc, endTagName?, name_run, trimmed,
    List.isEmpty_iff, shape.nonempty]
  rfl

/-- The characters that stand in an end tag behind its `<`. -/
def isEndTagText (c : Char) : Bool :=
  c == '/' || isEndTagName c || Text.isBlank c

theorem endTagText_inside {name blanks : List Char} (shape : EndTagShape name blanks) :
    ∀ c ∈ (endTagText name blanks).tail, isEndTagText c = true := by
  intro c member
  simp only [endTagText, List.tail_cons, List.mem_cons, List.mem_append] at member
  rcases member with rfl | inName | inBlanks
  · rfl
  · simp [isEndTagText, shape.name_inside c inName]
  · simp [isEndTagText, shape.blank c inBlanks]

theorem endTagText_no_close {name blanks : List Char} (shape : EndTagShape name blanks) :
    '>' ∉ endTagText name blanks := by
  intro member
  rcases List.mem_cons.1 member with same | member
  · contradiction
  · have inside := endTagText_inside shape '>' member
    contradiction

theorem endTagToken_exact {name blanks : List Char} (shape : EndTagShape name blanks)
    (rest : List Char) :
    endTagToken (endTagText name blanks ++ '>' :: rest) =
      (.endTag name (endTagText name blanks ++ ['>']), rest) := by
  rw [endTagToken, endTagName?_exact shape rest,
    Text.through_exact (endTagText_no_close shape) rest]

/-- An end tag is read from the text up to the first `>`. -/
theorem endTagName?_until_close {front rest name : List Char} (absent : '>' ∉ front)
    (read : endTagName? (front ++ '>' :: rest) = some name) (other : List Char) :
    endTagName? (front ++ '>' :: other) = some name := by
  obtain ⟨blanks, more, shape, text_eq⟩ := endTagName?_sound read
  have cut_eq := congrArg (Text.through '>') text_eq
  rw [Text.through_exact absent, Text.through_exact (endTagText_no_close shape)] at cut_eq
  have front_eq : front ++ ['>'] = endTagText name blanks ++ ['>'] := (Prod.mk.inj cut_eq).1
  rw [List.append_cancel_right front_eq]
  exact endTagName?_exact shape other

end Markup
end MarkupTemplate
