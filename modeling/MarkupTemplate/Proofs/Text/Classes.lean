import MarkupTemplate.Text.Blank
import MarkupTemplate.Text.Word

/-!
How the classes of characters lie to each other. No blank is a word character, so a run of blanks
and a run of word characters end in one way only. Letters and digits are those of ASCII, and only
letters have another form in lower case.
-/

namespace MarkupTemplate
namespace Text

def Ranges.apart (left right : Ranges) : Bool :=
  left.all fun range => right.all fun other =>
    decide (range.2 < other.1) || decide (other.2 < range.1)

theorem Ranges.not_holds_of_apart {left right : Ranges} (apart : left.apart right = true) {c : Char}
    (held : left.holds c = true) :
    right.holds c = false := by
  apply List.any_eq_false.2
  intro other inside holds
  obtain ⟨range, member, within⟩ := List.any_eq_true.1 held
  have divided := List.all_eq_true.1 (List.all_eq_true.1 apart range member) other inside
  simp only [Bool.and_eq_true, Bool.or_eq_true, decide_eq_true_eq] at holds within divided
  omega

/-- A property of characters that holds for ASCII by trial. -/
theorem ascii_cases {p : Char → Prop} (trial : ∀ code : Fin 128, p (Char.ofNat code)) {c : Char}
    (ascii : c.toNat < 128) : p c := by
  have found := trial ⟨c.toNat, ascii⟩
  rwa [Char.ofNat_toNat] at found

theorem not_word_of_blank {c : Char} (blank : isBlank c = true) : isWord c = false := by
  by_cases ascii : c.toNat < 128
  · have trial : ∀ code : Fin 128,
        isBlank (Char.ofNat code) = true → isWord (Char.ofNat code) = false := by decide
    exact ascii_cases (p := fun c => isBlank c = true → isWord c = false) trial ascii blank
  · have apart : Ranges.apart blankRanges wordRanges = true := by decide +kernel
    rw [isWord, if_neg ascii]
    exact Ranges.not_holds_of_apart apart blank

theorem ascii_of_alphanum {c : Char} (alphanum : c.isAlphanum = true) : c.toNat < 128 := by
  change ((65 ≤ c.val ∧ c.val ≤ 90) || (97 ≤ c.val && c.val ≤ 122) ||
    (48 ≤ c.val && c.val ≤ 57)) = true at alphanum
  simp only [Bool.or_eq_true, Bool.and_eq_true, decide_eq_true_eq, UInt32.le_iff_toNat_le]
    at alphanum
  change c.val.toNat < 128
  have upper : (90 : UInt32).toNat = 90 := rfl
  have lower : (122 : UInt32).toNat = 122 := rfl
  have digit : (57 : UInt32).toNat = 57 := rfl
  omega

theorem toLower_beyond {c : Char} (beyond : ¬c.toNat < 128) : c.toLower = c := by
  unfold Char.toLower
  split
  · next upper =>
      have high : c.toNat ≤ 90 := UInt32.le_iff_toNat_le.1 upper.2
      omega
  · rfl

/-- What is no letter in lower case is the same in any case. -/
theorem eq_of_toLower {c mark : Char} (noLetter : mark.isAlpha = false) (same : c.toLower = mark) :
    c = mark := by
  subst same
  by_cases ascii : c.toNat < 128
  · have trial : ∀ code : Fin 128, (Char.ofNat code).toLower.isAlpha = false →
        Char.ofNat code = (Char.ofNat code).toLower := by decide
    exact ascii_cases (p := fun c => c.toLower.isAlpha = false → c = c.toLower) trial ascii
      noLetter
  · exact (toLower_beyond ascii).symm

theorem isBlank_toLower (c : Char) : isBlank c.toLower = isBlank c := by
  by_cases ascii : c.toNat < 128
  · have trial : ∀ code : Fin 128,
        isBlank (Char.ofNat code).toLower = isBlank (Char.ofNat code) := by decide
    exact ascii_cases (p := fun c => isBlank c.toLower = isBlank c) trial ascii
  · rw [toLower_beyond ascii]

theorem trimStart_toLower (text : List Char) :
    trimStart (text.map Char.toLower) = (trimStart text).map Char.toLower := by
  have same : isBlank ∘ Char.toLower = isBlank := funext isBlank_toLower
  rw [trimStart, List.dropWhile_map, same, trimStart]

theorem word_of_alphanum {c : Char} (alphanum : c.isAlphanum = true) : isWord c = true := by
  simp [isWord, ascii_of_alphanum alphanum, alphanum]

end Text
end MarkupTemplate
