/-!
Operations on text as a list of characters that every grammar of the library shares: membership in
a table of code point ranges, names that match whatever their case, and the two ways to look for
the end of a construct.
-/

namespace MarkupTemplate
namespace Text

/-- A reader takes what it reads from the start of a text and returns the rest. -/
abbrev Reader (α : Type) := List Char → Option (α × List Char)

/-- A table of code points, as closed ranges in ascending order. -/
abbrev Ranges := List (Nat × Nat)

def Ranges.holds (ranges : Ranges) (c : Char) : Bool :=
  ranges.any fun range => decide (range.1 ≤ c.toNat) && decide (c.toNat ≤ range.2)

def isNameStart (c : Char) : Bool :=
  c.isAlpha || c == '_' || c == '$'

/-- Equality of names up to the case of ASCII letters. -/
def sameName (left right : List Char) : Bool :=
  left.map Char.toLower == right.map Char.toLower

theorem sameName_refl (name : List Char) : sameName name name = true := by
  simp [sameName]

theorem sameName_comm (left right : List Char) : sameName left right = sameName right left := by
  simp [sameName, Bool.beq_comm]

def dropStart? : List Char → List Char → Option (List Char)
  | [], text => some text
  | _ :: _, [] => none
  | s :: start, c :: text => if s = c then dropStart? start text else none

theorem append_of_dropStart?
    {start text rest : List Char}
    (found : dropStart? start text = some rest) :
    text = start ++ rest := by
  induction start generalizing text with
  | nil => simpa [dropStart?] using found
  | cons s start ih =>
      cases text with
      | nil => simp [dropStart?] at found
      | cons c text =>
          simp only [dropStart?] at found
          split at found
          · next same => simp [same, ih found]
          · contradiction

theorem dropStart?_append (start rest : List Char) :
    dropStart? start (start ++ rest) = some rest := by
  induction start with
  | nil => rfl
  | cons s start ih => simpa [dropStart?] using ih

def cut? (mark : List Char) : List Char → Option (List Char × List Char)
  | [] => (dropStart? mark []).map fun rest => ([], rest)
  | c :: text =>
      match dropStart? mark (c :: text) with
      | some rest => some ([], rest)
      | none => (cut? mark text).map fun (before, after) => (c :: before, after)

theorem append_of_cut?
    {mark text before after : List Char}
    (found : cut? mark text = some (before, after)) :
    text = before ++ mark ++ after := by
  induction text generalizing before with
  | nil =>
      obtain ⟨rest, dropped, pair_eq⟩ := Option.map_eq_some_iff.1 found
      cases pair_eq
      simpa using append_of_dropStart? dropped
  | cons c text ih =>
      simp only [cut?] at found
      split at found
      · next rest dropped =>
          cases found
          simpa using append_of_dropStart? dropped
      · obtain ⟨⟨inner, rest⟩, dropped, pair_eq⟩ := Option.map_eq_some_iff.1 found
        cases pair_eq
        simp [ih dropped]

def run (p : Char → Bool) (text : List Char) : List Char × List Char :=
  (text.takeWhile p, text.dropWhile p)

theorem run_append (p : Char → Bool) (text : List Char) :
    (run p text).1 ++ (run p text).2 = text :=
  List.takeWhile_append_dropWhile

/-- Splits a text behind the first `stop`, or takes all of it when there is none. -/
def through (stop : Char) : List Char → List Char × List Char
  | [] => ([], [])
  | c :: text =>
      if c = stop then ([c], text)
      else (c :: (through stop text).1, (through stop text).2)

theorem through_append (stop : Char) (text : List Char) :
    (through stop text).1 ++ (through stop text).2 = text := by
  induction text with
  | nil => rfl
  | cons c text ih =>
      simp only [through]
      split
      · rfl
      · simp [ih]

/-- The pieces between the occurrences of `mark`; one more than there are occurrences. -/
def splitOn (mark : Char) : List Char → List (List Char)
  | [] => [[]]
  | c :: text =>
      match splitOn mark text with
      | [] => [[c]]
      | piece :: pieces => if c = mark then [] :: piece :: pieces else (c :: piece) :: pieces

theorem splitOn_ne_nil (mark : Char) (text : List Char) : splitOn mark text ≠ [] := by
  cases text with
  | nil => simp [splitOn]
  | cons c text =>
      simp only [splitOn]
      split
      · simp
      · split <;> simp

end Text
end MarkupTemplate
