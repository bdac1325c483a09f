import Mathlib.Data.List.Basic
import MarkupTemplate.Directive.Marker
import MarkupTemplate.Proofs.Text.Cutting

/-!
What replacing markers does to a text, stated over its pieces. The four characters that delimit
markup neither stand in a marker nor come out of escaping, so replacing markers leaves them where
they are.
-/

namespace MarkupTemplate

theorem interpolate_of_no_marker
    {text : List Char} (unmarked : hasMarker text = false)
    (insertion : Insertion) (scope : Scope) :
    interpolate insertion scope text = text := by
  have literal : ∀ piece ∈ Piece.split text, piece.render insertion scope = piece.source := by
    intro piece member
    have plain := List.any_eq_false.1 unmarked piece member
    cases piece with
    | literal c => rfl
    | marker found => simp [Piece.isMarker] at plain
  rw [interpolate, List.flatMap_congr literal, Piece.split_sources]

namespace Text

def markupDelimiters : List Char :=
  ['<', '>', '"', '\'']

theorem escapeChar_no_delimiter {c : Char} (delimits : c ∈ markupDelimiters) (escaped : Char) :
    c ∉ escapeChar escaped := by
  simp only [markupDelimiters, List.mem_cons, List.not_mem_nil, or_false] at delimits
  unfold escapeChar
  split_ifs with isAmp isLess isGreater isQuote isApostrophe
  case neg => rcases delimits with rfl | rfl | rfl | rfl <;> simp_all [eq_comm]
  all_goals rcases delimits with rfl | rfl | rfl | rfl <;> decide

theorem escape_no_delimiter {c : Char} (delimits : c ∈ markupDelimiters) (text : List Char) :
    c ∉ escape text := by
  intro member
  obtain ⟨escaped, _, inside⟩ := List.mem_flatMap.1 member
  exact escapeChar_no_delimiter delimits escaped inside

end Text

namespace Marker

structure Shaped (marker : Marker) : Prop where
  before_blank : ∀ c ∈ marker.before, Text.isBlank c = true
  path_nonempty : marker.path ≠ []
  path_start : ∀ c, marker.path.head? = some c → Text.isBlank c = false
  path_inside : ∀ c ∈ marker.path, isPathChar c = true
  after_start : ∀ c, marker.after.head? = some c → isPathChar c = false
  after_blank : ∀ c ∈ marker.after, Text.isBlank c = true

theorem read?_shaped {text rest : List Char} {marker : Marker}
    (found : read? text = some (marker, rest)) :
    marker.Shaped := by
  unfold read? at found
  split at found
  · next text =>
      simp only [inside?] at found
      split at found
      · split at found
        · contradiction
        · next nonempty =>
            cases found
            exact
              { before_blank := Text.run_inside Text.isBlank _
                path_nonempty := by simpa using nonempty
                path_start := fun c head =>
                  Text.run_stops Text.isBlank text c (Text.head_of_takeWhile head)
                path_inside := Text.run_inside isPathChar _
                after_start := fun c head =>
                  Text.run_stops isPathChar _ c (Text.head_of_takeWhile head)
                after_blank := Text.run_inside Text.isBlank _ }
      · contradiction
  · contradiction

/-- A marker is read whatever follows it. -/
theorem read?_exact {marker : Marker} (shaped : marker.Shaped) (rest : List Char) :
    read? (marker.source ++ rest) = some (marker, rest) := by
  have start := shaped.path_start
  have nonempty := shaped.path_nonempty
  have after := shaped.after_start
  obtain ⟨before, path, behind⟩ := marker
  have blanks : Text.run Text.isBlank
      (before ++ (path ++ (behind ++ '\x7d' :: '\x7d' :: rest))) =
        (before, path ++ (behind ++ '\x7d' :: '\x7d' :: rest)) := by
    apply Text.run_exact shaped.before_blank
    intro c head
    cases path with
    | nil => exact absurd rfl nonempty
    | cons d path => exact start c head
  have named : Text.run isPathChar (path ++ (behind ++ '\x7d' :: '\x7d' :: rest)) =
      (path, behind ++ '\x7d' :: '\x7d' :: rest) := by
    apply Text.run_exact shaped.path_inside
    intro c head
    cases behind with
    | nil =>
        cases head
        decide
    | cons d behind => exact after c head
  have ended : Text.run Text.isBlank (behind ++ '\x7d' :: '\x7d' :: rest) =
      (behind, '\x7d' :: '\x7d' :: rest) := by
    apply Text.run_exact shaped.after_blank
    rintro c ⟨⟩
    decide
  simp only [Text.run, Prod.mk.injEq] at blanks named ended
  simp only [source, List.cons_append, List.append_assoc, List.nil_append, read?, inside?, blanks,
    named, ended]
  simp [nonempty]

theorem Shaped.no_delimiter {marker : Marker} (shaped : marker.Shaped) {c : Char}
    (delimits : c ∈ Text.markupDelimiters) :
    c ∉ marker.source := by
  have outside : Text.isBlank c = false ∧ isPathChar c = false ∧ c ≠ '\x7b' ∧ c ≠ '\x7d' := by
    simp only [Text.markupDelimiters, List.mem_cons, List.not_mem_nil, or_false] at delimits
    rcases delimits with rfl | rfl | rfl | rfl <;> decide
  obtain ⟨noBlank, noPath, noOpen, noClose⟩ := outside
  have notBefore : c ∉ marker.before := fun member => by
    simp [shaped.before_blank c member] at noBlank
  have notPath : c ∉ marker.path := fun member => by
    simp [shaped.path_inside c member] at noPath
  have notAfter : c ∉ marker.after := fun member => by
    simp [shaped.after_blank c member] at noBlank
  simp [source, notBefore, notPath, notAfter, noOpen, noClose]

end Marker

theorem Piece.split_shaped {text : List Char} {marker : Marker}
    (member : .marker marker ∈ Piece.split text) :
    marker.Shaped := by
  fun_induction Piece.split text with
  | case1 => contradiction
  | case2 c text found rest read ih =>
      rcases List.mem_cons.1 member with same | member
      · cases same
        exact Marker.read?_shaped read
      · exact ih member
  | case3 c text _ ih =>
      rcases List.mem_cons.1 member with same | member
      · contradiction
      · exact ih member

namespace Piece

def sources (pieces : List Piece) : List Char :=
  pieces.flatMap source

/-- The text that is written for pieces outside of unescaped elements. -/
def written (scope : Scope) (pieces : List Piece) : List Char :=
  pieces.flatMap (render .escaped scope)

def shown (scope : Scope) (marker : Marker) : List Char :=
  Text.escape (scope.display marker.path)

section Written

variable (scope : Scope)

theorem sources_literal (c : Char) (pieces : List Piece) :
    sources (.literal c :: pieces) = c :: sources pieces := rfl

theorem sources_marker (marker : Marker) (pieces : List Piece) :
    sources (.marker marker :: pieces) = marker.source ++ sources pieces := rfl

theorem written_literal (c : Char) (pieces : List Piece) :
    written scope (.literal c :: pieces) = c :: written scope pieces := rfl

theorem written_marker (marker : Marker) (pieces : List Piece) :
    written scope (.marker marker :: pieces) = shown scope marker ++ written scope pieces := rfl

theorem sources_append (first second : List Piece) :
    sources (first ++ second) = sources first ++ sources second := by
  simp [sources]

theorem written_append (first second : List Piece) :
    written scope (first ++ second) = written scope first ++ written scope second := by
  simp [written]

theorem written_literals (text : List Char) : written scope (text.map .literal) = text := by
  induction text with
  | nil => rfl
  | cons c text ih => rw [List.map_cons, written_literal, ih]

theorem shown_no_delimiter {c : Char} (delimits : c ∈ Text.markupDelimiters) (marker : Marker) :
    c ∉ shown scope marker :=
  Text.escape_no_delimiter delimits _

/-- A delimiter that is written stands in the text already. -/
theorem mem_sources_of_mem_written {c : Char} (delimits : c ∈ Text.markupDelimiters)
    {pieces : List Piece} (member : c ∈ written scope pieces) :
    c ∈ sources pieces := by
  induction pieces with
  | nil => contradiction
  | cons piece pieces ih =>
      cases piece with
      | literal d =>
          rw [written_literal, List.mem_cons] at member
          rw [sources_literal, List.mem_cons]
          exact member.imp_right ih
      | marker marker =>
          rw [written_marker, List.mem_append] at member
          rw [sources_marker, List.mem_append]
          exact .inr (ih (member.resolve_left (shown_no_delimiter scope delimits marker)))

end Written

theorem last_literal {pieces : List Piece} {text : List Char}
    (shaped : ∀ marker, .marker marker ∈ pieces → marker.Shaped)
    (ends : sources pieces = text ++ ['>']) :
    ∃ before, pieces = before ++ [.literal '>'] ∧ sources before = text := by
  rcases List.eq_nil_or_concat pieces with rfl | ⟨before, last, rfl⟩
  · simp [sources] at ends
  · rw [List.concat_eq_append] at ends shaped ⊢
    rw [sources_append] at ends
    cases last with
    | literal c =>
        obtain ⟨source_eq, last_eq⟩ := List.append_inj' ends rfl
        cases last_eq
        exact ⟨before, rfl, source_eq⟩
    | marker marker =>
        have last_brace : sources [.marker marker] =
            '\x7b' :: '\x7b' :: marker.before ++ marker.path ++ marker.after ++ ['\x7d'] ++
              ['\x7d'] := by
          simp [sources, source, Marker.source]
        rw [last_brace, ← List.append_assoc] at ends
        have impossible := (List.append_inj' ends rfl).2
        cases impossible

theorem split_of_read {c : Char} {text rest : List Char} {marker : Marker}
    (read : Marker.read? (c :: text) = some (marker, rest)) :
    split (c :: text) = .marker marker :: split rest := by
  rw [split]
  split
  · next found tail same =>
      rw [read] at same
      cases same
      rfl
  · next absent =>
      rw [read] at absent
      contradiction

theorem split_of_unread {c : Char} {text : List Char} (absent : Marker.read? (c :: text) = none) :
    split (c :: text) = .literal c :: split text := by
  rw [split]
  split
  · next found tail read =>
      rw [absent] at read
      contradiction
  · rfl

theorem marker_crosses {marker : Marker} {left right across rest : List Char}
    (shaped : marker.Shaped) (marker_eq : marker.source = left ++ across)
    (right_eq : right = across ++ rest)
    (apart : right = [] ∨ right.head? = some '<' ∨ ∃ before, left = before ++ ['>']) :
    across = [] := by
  rcases apart with ended | starts | ⟨before, ends⟩
  · rw [right_eq] at ended
    exact (List.append_eq_nil_iff.1 ended).1
  · cases across with
    | nil => rfl
    | cons c across =>
        rw [right_eq] at starts
        cases starts
        exfalso
        apply shaped.no_delimiter (c := '<') (by decide)
        simp [marker_eq]
  · exfalso
    apply shaped.no_delimiter (c := '>') (by decide)
    simp [marker_eq, ends]

theorem split_literal {c : Char} (other : c ≠ '\x7b') (text : List Char) :
    split (c :: text) = .literal c :: split text := by
  apply split_of_unread
  unfold Marker.read?
  split
  · next text_eq => exact absurd (List.cons.inj text_eq).1 other
  · rfl

theorem split_plain {text : List Char} (plain : '\x7b' ∉ text) :
    split text = text.map .literal := by
  induction text with
  | nil => simp [split]
  | cons c text ih =>
      simp only [List.mem_cons, not_or] at plain
      rw [split_literal (Ne.symm plain.1), ih plain.2, List.map_cons]

/-- Where nothing but a `<` or a `>` can stand across the border of two texts, no marker does. -/
theorem split_append {left right : List Char}
    (apart : right = [] ∨ right.head? = some '<' ∨ ∃ before, left = before ++ ['>']) :
    split (left ++ right) = split left ++ split right := by
  fun_induction split left with
  | case1 => rfl
  | case2 c text found rest read ih =>
      have shaped := Marker.read?_shaped read
      have text_eq := Marker.append_of_read? read
      have again := Marker.read?_exact shaped (rest ++ right)
      rw [← List.append_assoc, ← text_eq, List.cons_append] at again
      rw [List.cons_append, split_of_read again, List.cons_append, ih]
      refine apart.imp_right (Or.imp_right ?_)
      rintro ⟨before, ends⟩
      rw [text_eq] at ends
      rcases List.eq_nil_or_concat rest with rfl | ⟨inner, last, rfl⟩
      · exfalso
        apply shaped.no_delimiter (c := '>') (by decide)
        rw [← List.append_nil found.source, ends]
        simp
      · refine ⟨inner, ?_⟩
        rw [List.concat_eq_append, ← List.append_assoc] at ends
        rw [List.concat_eq_append, (List.append_inj' ends rfl).2]
  | case3 c text absent ih =>
      have still : Marker.read? (c :: (text ++ right)) = none := by
        apply Option.eq_none_iff_forall_ne_some.2
        rintro ⟨marker, rest⟩ read
        have shaped := Marker.read?_shaped read
        have source_eq : (c :: text) ++ right = marker.source ++ rest :=
          Marker.append_of_read? read
        rcases List.append_eq_append_iff.1 source_eq with
          ⟨across, marker_eq, right_eq⟩ | ⟨inner, left_eq, _⟩
        · rcases marker_crosses shaped marker_eq right_eq apart with rfl
          rw [List.append_nil] at marker_eq
          rw [← marker_eq, ← List.append_nil marker.source, Marker.read?_exact shaped []] at absent
          contradiction
        · rw [left_eq, Marker.read?_exact shaped inner] at absent
          contradiction
      rw [List.cons_append, split_of_unread still, List.cons_append]
      cases text with
      | nil => simp [split]
      | cons d text =>
          rw [ih]
          refine apart.imp_right (Or.imp_right ?_)
          rintro ⟨before, ends⟩
          cases before with
          | nil => simp at ends
          | cons e before => exact ⟨before, (List.cons.inj ends).2⟩

end Piece

theorem hasMarker_around {marker : Marker} (shaped : marker.Shaped) (before after : List Char) :
    hasMarker (before ++ (marker.source ++ after)) = true := by
  generalize text_eq : before ++ (marker.source ++ after) = text
  rw [hasMarker]
  fun_induction Piece.split text generalizing before with
  | case1 => simp [Marker.source] at text_eq
  -- some marker is cut off in front of this one or across its start
  | case2 c text found rest read ih => rfl
  | case3 c text absent ih =>
      cases before with
      | nil =>
          rw [List.nil_append] at text_eq
          rw [← text_eq, Marker.read?_exact shaped after] at absent
          contradiction
      | cons d before => exact ih before (List.cons.inj text_eq).2

/-- A text without markers has none in any part of it. -/
theorem unmarked_within {inner text : List Char} (within : inner <:+: text)
    (unmarked : hasMarker text = false) :
    hasMarker inner = false := by
  rw [← Bool.not_eq_true] at unmarked ⊢
  intro marked
  apply unmarked
  obtain ⟨piece, member, isMarker⟩ := List.any_eq_true.1 marked
  cases piece with
  | literal c => contradiction
  | marker marker =>
      obtain ⟨earlier, later, split_eq⟩ := List.append_of_mem member
      have inner_eq : inner = Piece.sources earlier ++ (marker.source ++ Piece.sources later) := by
        rw [← Piece.split_sources inner, split_eq]
        simp [Piece.sources, Piece.source]
      obtain ⟨before, after, rfl⟩ := within
      rw [inner_eq]
      simp only [List.append_assoc]
      rw [← List.append_assoc before]
      exact hasMarker_around (Piece.split_shaped member) _ _

theorem mem_interpolate_iff {c : Char} (delimits : c ∈ Text.markupDelimiters)
    (scope : Scope) (text : List Char) :
    c ∈ interpolate .escaped scope text ↔ c ∈ text := by
  have pieces : ∀ piece ∈ Piece.split text,
      (c ∈ piece.render .escaped scope ↔ c ∈ piece.source) := by
    intro piece member
    cases piece with
    | literal d => exact Iff.rfl
    | marker found =>
        exact iff_of_false (Text.escape_no_delimiter delimits _)
          ((Piece.split_shaped member).no_delimiter delimits)
  have text_mem : c ∈ text ↔ ∃ piece ∈ Piece.split text, c ∈ piece.source := by
    rw [← List.mem_flatMap, Piece.split_sources]
  rw [interpolate, List.mem_flatMap, text_mem]
  constructor
  · rintro ⟨piece, member, inside⟩
    exact ⟨piece, member, (pieces piece member).1 inside⟩
  · rintro ⟨piece, member, inside⟩
    exact ⟨piece, member, (pieces piece member).2 inside⟩

end MarkupTemplate
