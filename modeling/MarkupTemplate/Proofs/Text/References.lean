import MarkupTemplate.Text.Entity

/-!
Reading character references back. Every spelling in the table is read as its character in front of
any text, and an ampersand is the only character that a reference begins with. Escaping leaves no
ampersand outside of a reference, so decoding gives back the text that was escaped.
-/

namespace MarkupTemplate
namespace Text

theorem decodeFrom_append (skipped text : List Char) :
    decodeFrom skipped.length (skipped ++ text) = decode text := by
  induction skipped with
  | nil => rfl
  | cons c skipped ih => exact ih

theorem decode_of_decodeStart
    {c decoded : Char} (skipped : List Char) {text : List Char}
    (read : decodeStart (c :: (skipped ++ text)) = some (decoded, skipped.length)) :
    decode (c :: (skipped ++ text)) = decoded :: decode text := by
  rw [decode, decodeFrom, read]
  exact congrArg _ (decodeFrom_append skipped text)

/-- A reference is read as its character, whatever follows it. -/
theorem decode_reference
    {name : List Char} {c : Char} (listed : (name, c) ∈ references) (text : List Char) :
    decode (name ++ text) = c :: decode text := by
  simp only [references, List.mem_cons, Prod.mk.injEq, List.not_mem_nil, or_false] at listed
  rcases listed with ⟨rfl, rfl⟩ | ⟨rfl, rfl⟩ | ⟨rfl, rfl⟩ | ⟨rfl, rfl⟩ | ⟨rfl, rfl⟩ | ⟨rfl, rfl⟩ |
    ⟨rfl, rfl⟩
  · exact decode_of_decodeStart "amp;".toList rfl
  · exact decode_of_decodeStart "lt;".toList rfl
  · exact decode_of_decodeStart "gt;".toList rfl
  · exact decode_of_decodeStart "quot;".toList rfl
  · exact decode_of_decodeStart "#39;".toList rfl
  · exact decode_of_decodeStart "#x27;".toList rfl
  · exact decode_of_decodeStart "apos;".toList rfl

theorem decode_plain {c : Char} (plain : c ≠ '&') (text : List Char) :
    decode (c :: text) = c :: decode text := by
  have unread : decodeStart (c :: text) = none := by
    simp [decodeStart, references, dropStart?, Ne.symm plain]
  rw [decode, decodeFrom, unread]
  rfl

/-- A character is escaped by a reference to it, or it stays and begins no reference. -/
theorem escapeChar_cases (c : Char) :
    (escapeChar c, c) ∈ references ∨ escapeChar c = [c] ∧ c ≠ '&' := by
  by_cases special : c ∈ ['&', '<', '>', '"', '\'']
  · left
    simp only [List.mem_cons, List.not_mem_nil, or_false] at special
    rcases special with rfl | rfl | rfl | rfl | rfl <;> decide
  · right
    simp only [List.mem_cons, List.not_mem_nil, or_false, not_or] at special
    obtain ⟨ampersand, less, greater, double, single⟩ := special
    refine ⟨?_, ampersand⟩
    rw [escapeChar, if_neg ampersand, if_neg less, if_neg greater, if_neg double, if_neg single]

theorem decode_escape_append (escaped text : List Char) :
    decode (escape escaped ++ text) = escaped ++ decode text := by
  induction escaped with
  | nil => rfl
  | cons c escaped ih =>
      rw [escape, List.flatMap_cons, List.append_assoc]
      rcases escapeChar_cases c with listed | ⟨same, plain⟩
      · rw [decode_reference listed]
        exact congrArg _ ih
      · rw [same, List.singleton_append, decode_plain plain]
        exact congrArg _ ih

theorem decode_escape (text : List Char) : decode (escape text) = text := by
  have whole := decode_escape_append text []
  rwa [List.append_nil, show decode [] = [] from rfl, List.append_nil] at whole

end Text
end MarkupTemplate
