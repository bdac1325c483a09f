import MarkupTemplate.Proofs.Text.Classes

/-!
Text as the bytes of its UTF-8 form. A position counts bytes, and a slice between two positions
exists exactly when both are boundaries of characters and the first is not behind the second. A
class of ASCII characters is told by single bytes, as no byte of another character is one of ASCII.
-/

namespace MarkupTemplate
namespace Text

def bytes (text : List Char) : List UInt8 :=
  text.flatMap String.utf8EncodeChar

def byteLength (text : List Char) : Nat :=
  (bytes text).length

theorem bytes_cons (c : Char) (text : List Char) :
    bytes (c :: text) = String.utf8EncodeChar c ++ bytes text := rfl

theorem bytes_append (left right : List Char) : bytes (left ++ right) = bytes left ++ bytes right :=
  List.flatMap_append

@[simp] theorem byteLength_nil : byteLength [] = 0 := rfl

@[simp] theorem byteLength_cons (c : Char) (text : List Char) :
    byteLength (c :: text) = c.utf8Size + byteLength text := by
  simp [byteLength, bytes]

@[simp] theorem byteLength_append (left right : List Char) :
    byteLength (left ++ right) = byteLength left + byteLength right := by
  simp [byteLength, bytes]

theorem byteLength_pos {text : List Char} (nonempty : text ≠ []) : 0 < byteLength text := by
  obtain ⟨c, rest, rfl⟩ := List.exists_cons_of_ne_nil nonempty
  have size_pos := c.utf8Size_pos
  rw [byteLength_cons]
  omega

theorem byteLength_eq_zero {text : List Char} : byteLength text = 0 ↔ text = [] := by
  constructor
  · intro empty
    cases text with
    | nil => rfl
    | cons c rest =>
        have positive := byteLength_pos (List.cons_ne_nil c rest)
        omega
  · rintro rfl
    rfl

/-- A text cut behind so many bytes; it cannot be cut inside a character or beyond its end. -/
def splitAtByte? : List Char → Nat → Option (List Char × List Char)
  | text, 0 => some ([], text)
  | [], _ + 1 => none
  | c :: text, count + 1 =>
      if c.utf8Size ≤ count + 1 then
        (splitAtByte? text (count + 1 - c.utf8Size)).map fun (before, after) => (c :: before, after)
      else none

theorem splitAtByte?_append (before after : List Char) :
    splitAtByte? (before ++ after) (byteLength before) = some (before, after) := by
  induction before with
  | nil => cases after <;> rfl
  | cons c before ih =>
      have size_pos := c.utf8Size_pos
      obtain ⟨count, size_eq⟩ := Nat.exists_eq_add_of_le' size_pos
      have length_eq : byteLength (c :: before) = count + byteLength before + 1 := by
        rw [byteLength_cons]
        omega
      have remains : count + byteLength before + 1 - c.utf8Size = byteLength before := by omega
      rw [length_eq, List.cons_append, splitAtByte?, if_pos (by omega), remains, ih]
      rfl

theorem append_of_splitAtByte? {text before after : List Char} {count : Nat}
    (cut : splitAtByte? text count = some (before, after)) :
    text = before ++ after ∧ byteLength before = count := by
  fun_induction splitAtByte? text count generalizing before with
  | case1 => cases cut; simp
  | case2 => contradiction
  | case3 c text count fits ih =>
      obtain ⟨⟨inner, rest⟩, inner_cut, pair_eq⟩ := Option.map_eq_some_iff.1 cut
      cases pair_eq
      obtain ⟨text_eq, length_eq⟩ := ih inner_cut
      exact ⟨by rw [text_eq, List.cons_append], by rw [byteLength_cons]; omega⟩
  | case4 => contradiction

def slice? (text : List Char) (start stop : Nat) : Option (List Char) := do
  let (front, _) ← splitAtByte? text stop
  let (_, piece) ← splitAtByte? front start
  return piece

theorem slice?_eq_some_iff {text piece : List Char} {start stop : Nat} :
    slice? text start stop = some piece ↔
      ∃ before after, text = before ++ piece ++ after ∧ byteLength before = start ∧
        byteLength (before ++ piece) = stop := by
  constructor
  · intro sliced
    simp only [slice?, Option.bind_eq_bind, Option.bind_eq_some_iff, Prod.exists, Option.pure_def,
      Option.some.injEq] at sliced
    obtain ⟨front, after, cut, before, inner, inner_cut, rfl⟩ := sliced
    obtain ⟨text_eq, stop_eq⟩ := append_of_splitAtByte? cut
    obtain ⟨front_eq, start_eq⟩ := append_of_splitAtByte? inner_cut
    rw [front_eq] at text_eq stop_eq
    exact ⟨before, after, text_eq, start_eq, stop_eq⟩
  · rintro ⟨before, after, rfl, rfl, rfl⟩
    rw [slice?, splitAtByte?_append]
    simp [splitAtByte?_append]

def isBoundary (text : List Char) (pos : Nat) : Bool :=
  pos == byteLength text || (bytes text)[pos]?.any fun byte => decide byte.IsUTF8FirstByte

theorem head_of_utf8EncodeChar {c : Char} {k : Nat} {byte : UInt8}
    (found : (String.utf8EncodeChar c)[k]? = some byte) :
    byte.IsUTF8FirstByte ↔ k = 0 := by
  obtain ⟨inside, rfl⟩ := List.getElem?_eq_some_iff.1 found
  exact UInt8.isUTF8FirstByte_getElem_utf8EncodeChar

theorem isBoundary_iff {text : List Char} {pos : Nat} :
    isBoundary text pos = true ↔
      ∃ before after, text = before ++ after ∧ byteLength before = pos := by
  constructor
  · intro boundary
    induction text generalizing pos with
    | nil =>
        have ended : pos = 0 := by simpa [isBoundary, bytes] using boundary
        exact ⟨[], [], rfl, ended.symm⟩
    | cons c text ih =>
        by_cases inside : pos < c.utf8Size
        · -- the bytes of the first character: only its first one begins a character
          have byte_eq : (bytes (c :: text))[pos]? = (String.utf8EncodeChar c)[pos]? :=
            List.getElem?_append_left (by rwa [String.length_utf8EncodeChar])
          have differs : pos ≠ byteLength (c :: text) := by
            rw [byteLength_cons]
            omega
          simp only [isBoundary, byte_eq, Bool.or_eq_true, beq_iff_eq, differs, false_or,
            Option.any_eq_true, decide_eq_true_eq] at boundary
          obtain ⟨byte, found, first⟩ := boundary
          exact ⟨[], c :: text, rfl, ((head_of_utf8EncodeChar found).1 first).symm⟩
        · have byte_eq : (bytes (c :: text))[pos]? = (bytes text)[pos - c.utf8Size]? := by
            have behind : (String.utf8EncodeChar c).length ≤ pos := by
              rw [String.length_utf8EncodeChar]
              omega
            rw [bytes_cons, List.getElem?_append_right behind, String.length_utf8EncodeChar]
          have ends : (pos == byteLength (c :: text)) = (pos - c.utf8Size == byteLength text) := by
            rw [byteLength_cons, Bool.eq_iff_iff, beq_iff_eq, beq_iff_eq]
            omega
          rw [isBoundary, byte_eq, ends] at boundary
          obtain ⟨before, after, rfl, length_eq⟩ := ih boundary
          exact ⟨c :: before, after, rfl, by rw [byteLength_cons]; omega⟩
  · rintro ⟨before, after, rfl, rfl⟩
    cases after with
    | nil => simp [isBoundary]
    | cons c after =>
        have size_pos := c.utf8Size_pos
        have inside : 0 < (String.utf8EncodeChar c).length := by rwa [String.length_utf8EncodeChar]
        have byte_eq : (bytes (before ++ c :: after))[byteLength before]? =
            some (String.utf8EncodeChar c)[0] := by
          rw [byteLength, bytes_append, List.getElem?_append_right (Nat.le_refl _), Nat.sub_self,
            bytes_cons, List.getElem?_append_left inside, List.getElem?_eq_getElem inside]
        have first : (String.utf8EncodeChar c)[0].IsUTF8FirstByte :=
          UInt8.isUTF8FirstByte_getElem_utf8EncodeChar.2 rfl
        simp [isBoundary, byte_eq, first]

/-- A slice exists exactly where its ends are boundaries, in range and in order. -/
theorem slice?_isSome_iff {text : List Char} {start stop : Nat} :
    (slice? text start stop).isSome = true ↔
      isBoundary text start = true ∧ isBoundary text stop = true ∧ start ≤ stop ∧
        stop ≤ byteLength text := by
  rw [Option.isSome_iff_exists]
  simp only [slice?_eq_some_iff, isBoundary_iff]
  constructor
  · rintro ⟨piece, before, after, rfl, rfl, rfl⟩
    exact ⟨⟨before, piece ++ after, by simp, rfl⟩, ⟨before ++ piece, after, rfl, rfl⟩, by simp,
      by simp⟩
  · rintro ⟨⟨before, rest, rfl, rfl⟩, ⟨front, after, text_eq, rfl⟩, ordered, -⟩
    -- the longer of two fronts of one text begins with the shorter one
    rcases List.append_eq_append_iff.1 text_eq with ⟨piece, rfl, rfl⟩ | ⟨piece, rfl, rfl⟩
    · exact ⟨piece, before, after, by simp, rfl, rfl⟩
    · rw [byteLength_append] at ordered
      have empty : piece = [] := byteLength_eq_zero.1 (by omega)
      subst empty
      exact ⟨[], front, rest, by simp, by simp, by simp⟩

/-- What stands behind a boundary of a text. -/
def At (text : List Char) (pos : Nat) (rest : List Char) : Prop :=
  ∃ before, text = before ++ rest ∧ byteLength before = pos

section Positions

variable {text rest : List Char} {pos : Nat}

theorem at_start (text : List Char) : At text 0 text :=
  ⟨[], rfl, rfl⟩

theorem at_end (text : List Char) : At text (byteLength text) [] :=
  ⟨text, by simp, rfl⟩

theorem At.append {piece : List Char} (here : At text pos (piece ++ rest)) :
    At text (pos + byteLength piece) rest := by
  obtain ⟨before, rfl, rfl⟩ := here
  exact ⟨before ++ piece, by simp, by simp⟩

theorem At.cons {c : Char} (here : At text pos (c :: rest)) : At text (pos + c.utf8Size) rest := by
  have behind : At text (pos + byteLength [c]) rest := At.append here
  simpa using behind

theorem At.length_eq (here : At text pos rest) : byteLength text = pos + byteLength rest := by
  obtain ⟨before, rfl, rfl⟩ := here
  simp

theorem At.boundary (here : At text pos rest) : isBoundary text pos = true := by
  obtain ⟨before, text_eq, length_eq⟩ := here
  exact isBoundary_iff.2 ⟨before, rest, text_eq, length_eq⟩

theorem At.ended_iff (here : At text pos rest) : byteLength text ≤ pos ↔ rest = [] := by
  rw [here.length_eq, ← byteLength_eq_zero]
  omega

theorem At.pos_eq {stop : Nat} (here : At text pos rest) (there : At text stop rest) :
    stop = pos := by
  have lengths := here.length_eq
  rw [there.length_eq] at lengths
  omega

theorem At.slice {piece : List Char} {stop : Nat} (here : At text pos (piece ++ rest))
    (there : At text stop rest) :
    slice? text pos stop = some piece := by
  have stop_eq : stop = pos + byteLength piece := by
    have lengths := here.length_eq
    rw [there.length_eq, byteLength_append] at lengths
    omega
  obtain ⟨before, rfl, rfl⟩ := here
  apply slice?_eq_some_iff.2
  exact ⟨before, rest, by simp, rfl, by rw [byteLength_append, stop_eq]⟩

theorem At.slice_rest (here : At text pos rest) : slice? text pos (byteLength text) = some rest :=
  At.slice (by simpa using here) (at_end text)

end Positions

def AsciiClass (p : Char → Bool) : Prop :=
  ∀ c, p c = true → c.toNat < 128

theorem asciiClass_mark (mark : Char) (ascii : mark.toNat < 128) : AsciiClass (· == mark) := by
  intro c same
  rwa [beq_iff_eq.1 same]

def isAsciiByte (p : Char → Bool) (byte : UInt8) : Bool :=
  decide (byte.toNat < 128) && p (Char.ofNat byte.toNat)

theorem utf8EncodeChar_ascii {c : Char} (ascii : c.toNat < 128) :
    String.utf8EncodeChar c = [UInt8.ofNat c.toNat] := by
  rw [String.utf8EncodeChar]
  exact if_pos (by change c.toNat ≤ 127; omega)

theorem utf8Size_ascii {c : Char} (ascii : c.toNat < 128) : c.utf8Size = 1 := by
  rw [← String.length_utf8EncodeChar, utf8EncodeChar_ascii ascii]
  rfl

/-- Behind an ASCII character the next boundary is one byte on. -/
theorem At.next {text rest : List Char} {pos : Nat} {c : Char} (here : At text pos (c :: rest))
    (ascii : c.toNat < 128) :
    At text (pos + 1) rest := by
  have behind := here.cons
  rwa [utf8Size_ascii ascii] at behind

theorem utf8Size_toLower (c : Char) : c.toLower.utf8Size = c.utf8Size := by
  by_cases ascii : c.toNat < 128
  · have trial : ∀ code : Fin 128, (Char.ofNat code).toLower.toNat < 128 := by decide
    have lowered := ascii_cases (p := fun c => c.toLower.toNat < 128) trial ascii
    rw [utf8Size_ascii lowered, utf8Size_ascii ascii]
  · rw [toLower_beyond ascii]

theorem byteLength_toLower (text : List Char) :
    byteLength (text.map Char.toLower) = byteLength text := by
  induction text with
  | nil => rfl
  | cons c text ih => rw [List.map_cons, byteLength_cons, byteLength_cons, utf8Size_toLower, ih]

/-- The boundaries of a text are those of the text in lower case. -/
theorem At.toLower {text rest : List Char} {pos : Nat} (here : At text pos rest) :
    At (text.map Char.toLower) pos (rest.map Char.toLower) := by
  obtain ⟨before, rfl, rfl⟩ := here
  exact ⟨before.map Char.toLower, List.map_append, byteLength_toLower before⟩

theorem isAsciiByte_ascii (p : Char → Bool) {c : Char} (ascii : c.toNat < 128) :
    isAsciiByte p (UInt8.ofNat c.toNat) = p c := by
  have bounded : c.toNat < 256 := by omega
  have code : (UInt8.ofNat c.toNat).toNat = c.toNat := UInt8.toNat_ofNat_of_lt' bounded
  simp [isAsciiByte, code, ascii, Char.ofNat_toNat]

theorem not_isAsciiByte (p : Char → Bool) {c : Char} (beyond : ¬c.toNat < 128) {byte : UInt8}
    (member : byte ∈ String.utf8EncodeChar c) :
    isAsciiByte p byte = false := by
  have high : ∀ code, 128 ≤ code → code < 256 → isAsciiByte p (UInt8.ofNat code) = false := by
    intro code low bounded
    have code_eq : (UInt8.ofNat code).toNat = code := UInt8.toNat_ofNat_of_lt' bounded
    have noAscii : ¬code < 128 := by omega
    simp [isAsciiByte, code_eq, noAscii]
  rw [String.utf8EncodeChar] at member
  rw [if_neg (by change ¬c.toNat ≤ 127; omega)] at member
  split at member
  · simp only [List.mem_cons, List.not_mem_nil, or_false] at member
    rcases member with rfl | rfl <;> apply high <;> omega
  · split at member
    · simp only [List.mem_cons, List.not_mem_nil, or_false] at member
      rcases member with rfl | rfl | rfl <;> apply high <;> omega
    · simp only [List.mem_cons, List.not_mem_nil, or_false] at member
      rcases member with rfl | rfl | rfl | rfl <;> apply high <;> omega

/-- The characters of an ASCII class that a text begins with are as many bytes. -/
theorem takeWhile_bytes {p : Char → Bool} (narrow : AsciiClass p)
    (text : List Char) :
    ((bytes text).takeWhile (isAsciiByte p)).length = byteLength (text.takeWhile p) := by
  induction text with
  | nil => rfl
  | cons c text ih =>
      rw [bytes_cons]
      by_cases ascii : c.toNat < 128
      · have byte_eq := isAsciiByte_ascii p ascii
        rw [utf8EncodeChar_ascii ascii, List.singleton_append]
        cases member : p c with
        | true => simp [byte_eq, member, ih, utf8Size_ascii ascii, Nat.add_comm]
        | false => simp [byte_eq, member]
      · have outside : p c = false := Bool.eq_false_iff.2 fun member => ascii (narrow c member)
        obtain ⟨byte, more, encoded⟩ := List.exists_cons_of_ne_nil (l := String.utf8EncodeChar c)
          String.utf8EncodeChar_ne_nil
        have byte_eq : isAsciiByte p byte = false := not_isAsciiByte p ascii (by simp [encoded])
        simp [encoded, byte_eq, outside]

def sees (p : Char → Bool) (text : List Char) (pos : Nat) : Bool :=
  (bytes text)[pos]?.any (isAsciiByte p)

section Sight

variable {text rest : List Char} {pos : Nat} {c : Char}

theorem byte_at (here : At text pos rest) (k : Nat) :
    (bytes text)[pos + k]? = (bytes rest)[k]? := by
  obtain ⟨before, rfl, rfl⟩ := here
  rw [bytes_append, byteLength, List.getElem?_append_right (Nat.le_add_right _ _),
    Nat.add_sub_cancel_left]

theorem sees_end (p : Char → Bool) (ended : At text pos []) : sees p text pos = false := by
  have byte_eq := byte_at ended 0
  rw [Nat.add_zero] at byte_eq
  rw [sees, byte_eq]
  rfl

theorem sees_cons (p : Char → Bool) (here : At text pos (c :: rest)) :
    sees p text pos = (decide (c.toNat < 128) && p c) := by
  have byte_eq := byte_at here 0
  rw [Nat.add_zero] at byte_eq
  rw [sees, byte_eq, bytes_cons]
  by_cases ascii : c.toNat < 128
  · rw [utf8EncodeChar_ascii ascii]
    simp [isAsciiByte_ascii p ascii, ascii]
  · have size_pos := c.utf8Size_pos
    have inside : 0 < (String.utf8EncodeChar c).length := by rwa [String.length_utf8EncodeChar]
    rw [List.getElem?_append_left inside, List.getElem?_eq_getElem inside]
    simp [not_isAsciiByte p ascii (List.getElem_mem inside), ascii]

theorem sees_inside (p : Char → Bool) (here : At text pos (c :: rest)) {k : Nat} (behind : 0 < k)
    (inside : k < c.utf8Size) :
    sees p text (pos + k) = false := by
  have beyond : ¬c.toNat < 128 := by
    intro ascii
    rw [utf8Size_ascii ascii] at inside
    omega
  rw [← String.length_utf8EncodeChar] at inside
  rw [sees, byte_at here, bytes_cons,
    List.getElem?_append_left inside, List.getElem?_eq_getElem inside]
  simp [not_isAsciiByte p beyond (List.getElem_mem inside)]

/-- A class of ASCII characters is seen where a text goes on with one of them. -/
theorem sees_at {p : Char → Bool} (narrow : AsciiClass p) (here : At text pos rest) :
    sees p text pos = rest.head?.any p := by
  cases rest with
  | nil => exact sees_end p here
  | cons c rest =>
      rw [sees_cons p here]
      cases member : p c with
      | true => simp [member, narrow c member]
      | false => simp [member]

theorem sees_two {p q : Char → Bool} (narrow : AsciiClass p) (alsoNarrow : AsciiClass q)
    (here : At text pos rest) :
    (sees p text pos && sees q text (pos + 1)) = (rest.head?.any p && rest.tail.head?.any q) := by
  rw [sees_at narrow here]
  cases rest with
  | nil => rfl
  | cons c rest =>
      cases member : p c with
      | true =>
          rw [sees_at alsoNarrow (here.next (narrow c member))]
          rfl
      | false => simp [member]

end Sight

end Text
end MarkupTemplate
