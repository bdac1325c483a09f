import Mathlib.Data.List.TakeWhile
import MarkupTemplate.Text.Basic

/-!
Where the cutters cut a text. Where they cut is decided by what stands in front of the cut and by
what stops them, so they cut at the same place whatever follows.
-/

namespace MarkupTemplate
namespace Text

theorem run_all {p : Char → Bool} {body : List Char} (inside : ∀ c ∈ body, p c = true) :
    run p body = (body, []) :=
  Prod.ext (List.takeWhile_eq_self_iff.2 inside) (List.dropWhile_eq_nil_iff.2 inside)

theorem run_exact {p : Char → Bool} {body rest : List Char}
    (inside : ∀ c ∈ body, p c = true)
    (stops : ∀ c, rest.head? = some c → p c = false) :
    run p (body ++ rest) = (body, rest) := by
  cases rest with
  | nil =>
      rw [List.append_nil]
      exact run_all inside
  | cons c rest =>
      have stop := stops c rfl
      simp [run, List.takeWhile_append_of_pos inside, List.dropWhile_append_of_pos inside, stop]

/-- A text is cut behind the characters of a class in one way only. -/
theorem run_unique {p : Char → Bool} {body rest other otherRest : List Char}
    (inside : ∀ c ∈ body, p c = true)
    (stops : ∀ c, rest.head? = some c → p c = false)
    (otherInside : ∀ c ∈ other, p c = true)
    (otherStops : ∀ c, otherRest.head? = some c → p c = false)
    (same : body ++ rest = other ++ otherRest) :
    body = other ∧ rest = otherRest := by
  have pair_eq := run_exact inside stops
  rw [same, run_exact otherInside otherStops] at pair_eq
  exact ⟨(congrArg Prod.fst pair_eq).symm, (congrArg Prod.snd pair_eq).symm⟩

theorem run_inside (p : Char → Bool) (text : List Char) :
    ∀ c ∈ (run p text).1, p c = true := by
  intro c member
  exact List.mem_takeWhile_imp member

theorem run_stops (p : Char → Bool) (text : List Char) :
    ∀ c, (run p text).2.head? = some c → p c = false := by
  intro c first
  have stopped := List.head?_dropWhile_not p text
  rw [show text.dropWhile p = (run p text).2 from rfl, first] at stopped
  exact stopped

theorem cut?_mark {mark : Char} {before : List Char} (absent : mark ∉ before) (after : List Char) :
    cut? [mark] (before ++ mark :: after) = some (before, after) := by
  induction before with
  | nil => simp [cut?, dropStart?]
  | cons c before ih =>
      simp only [List.mem_cons, not_or] at absent
      simp [cut?, dropStart?, absent.1, ih absent.2]

theorem not_mem_of_cut? {mark : Char} {text before after : List Char}
    (found : cut? [mark] text = some (before, after)) :
    mark ∉ before := by
  induction text generalizing before with
  | nil => simp [cut?, dropStart?] at found
  | cons c text ih =>
      by_cases same : mark = c
      · simp [cut?, dropStart?, same] at found
        simp [found.1]
      · simp only [cut?, dropStart?, if_neg same] at found
        obtain ⟨⟨inner, rest⟩, cut, pair_eq⟩ := Option.map_eq_some_iff.1 found
        cases pair_eq
        simp [same, ih cut]

theorem head_of_takeWhile {p : Char → Bool} {text : List Char} {c : Char}
    (head : (text.takeWhile p).head? = some c) :
    text.head? = some c := by
  rw [List.head?_takeWhile, Option.filter_eq_some_iff] at head
  exact head.1

theorem dropStart?_append_none {mark before : List Char} (long : mark.length ≤ before.length)
    {after : List Char} (absent : dropStart? mark (before ++ after) = none) (other : List Char) :
    dropStart? mark (before ++ other) = none := by
  induction mark generalizing before with
  | nil => simp [dropStart?] at absent
  | cons m mark ih =>
      cases before with
      | nil => simp at long
      | cons c before =>
          simp only [List.cons_append, dropStart?] at absent ⊢
          split
          · next same =>
              rw [if_pos same] at absent
              exact ih (by simpa using long) absent
          · rfl

/-- The first occurrence of a mark stays the first one when what follows it changes. -/
theorem cut?_again {mark text before after : List Char}
    (found : cut? mark text = some (before, after)) (other : List Char) :
    cut? mark (before ++ mark ++ other) = some (before, other) := by
  induction text generalizing before with
  | nil =>
      obtain ⟨rest, dropped, pair_eq⟩ := Option.map_eq_some_iff.1 found
      cases pair_eq
      cases mark with
      | nil => cases other <;> rfl
      | cons m mark => simp [dropStart?] at dropped
  | cons c text ih =>
      simp only [cut?] at found
      split at found
      · next rest dropped =>
          cases found
          cases text_eq : mark ++ other with
          | nil =>
              rw [List.append_eq_nil_iff] at text_eq
              simp [text_eq.1, text_eq.2, cut?, dropStart?]
          | cons d text =>
              rw [List.nil_append, text_eq, cut?, ← text_eq, dropStart?_append]
      · next absent =>
          obtain ⟨⟨inner, rest⟩, cut, pair_eq⟩ := Option.map_eq_some_iff.1 found
          cases pair_eq
          have text_eq := append_of_cut? cut
          rw [text_eq, ← List.cons_append, ← List.cons_append] at absent
          have still := dropStart?_append_none (by simp; omega) absent other
          simp only [List.cons_append] at still ⊢
          rw [cut?, still, ih cut]
          rfl

theorem not_mem_of_cut?_none {mark : Char} {text : List Char} (absent : cut? [mark] text = none) :
    mark ∉ text := by
  intro member
  obtain ⟨before, after, text_eq, first⟩ := List.eq_append_cons_of_mem member
  rw [text_eq, cut?_mark first] at absent
  contradiction

theorem cut?_isSome_cons (mark text : List Char) (c : Char) :
    (cut? mark (c :: text)).isSome =
      ((dropStart? mark (c :: text)).isSome || (cut? mark text).isSome) := by
  rw [cut?]
  split
  · next dropped => simp [dropped]
  · next absent => simp [absent]

theorem cut?_cons_none {mark text : List Char} {c : Char} :
    cut? mark (c :: text) = none ↔ dropStart? mark (c :: text) = none ∧ cut? mark text = none := by
  simp only [← Option.not_isSome_iff_eq_none, cut?_isSome_cons, Bool.or_eq_true, not_or]

theorem through_exact {stop : Char} {before : List Char} (absent : stop ∉ before)
    (after : List Char) :
    through stop (before ++ stop :: after) = (before ++ [stop], after) := by
  induction before with
  | nil => simp [through]
  | cons c before ih =>
      simp only [List.mem_cons, not_or] at absent
      simp [through, Ne.symm absent.1, ih absent.2]

theorem through_absent {stop : Char} {text : List Char} (absent : stop ∉ text) :
    through stop text = (text, []) := by
  induction text with
  | nil => rfl
  | cons c text ih =>
      simp only [List.mem_cons, not_or] at absent
      simp [through, Ne.symm absent.1, ih absent.2]

theorem through_cases (stop : Char) (text : List Char) :
    stop ∉ text ∨ ∃ before after, stop ∉ before ∧ text = before ++ stop :: after := by
  by_cases member : stop ∈ text
  · obtain ⟨before, after, text_eq, absent⟩ := List.eq_append_cons_of_mem member
    exact .inr ⟨before, after, absent, text_eq⟩
  · exact .inl member

theorem through_end (stop : Char) (text : List Char) :
    (through stop text).2 = [] ∨ ∃ before, (through stop text).1 = before ++ [stop] := by
  rcases through_cases stop text with absent | ⟨before, after, absent, rfl⟩
  · exact .inl (by rw [through_absent absent])
  · exact .inr ⟨before, by rw [through_exact absent]⟩

theorem splitOn_append (mark : Char) (left right : List Char) :
    splitOn mark (left ++ mark :: right) = splitOn mark left ++ splitOn mark right := by
  induction left with
  | nil =>
      obtain ⟨piece, pieces, right_eq⟩ := List.exists_cons_of_ne_nil (splitOn_ne_nil mark right)
      simp [splitOn, right_eq]
  | cons c left ih =>
      obtain ⟨piece, pieces, left_eq⟩ := List.exists_cons_of_ne_nil (splitOn_ne_nil mark left)
      simp only [List.cons_append, splitOn, ih, left_eq]
      split <;> rfl

end Text
end MarkupTemplate
