import MarkupTemplate.Proofs.Directive.Interpolation
import MarkupTemplate.Proofs.Text.Classes

/-!
What interpolation makes of a text, told without the reader of markers. A text has exactly one
factoring into markers and literal texts in which no marker starts inside a literal text, and
interpolation puts a value in the place of each of its markers and nothing else.
-/

namespace MarkupTemplate

namespace Marker

/-- A marker as it can be written, whatever stands around it. -/
structure Spelled (marker : Marker) : Prop where
  before_blank : ∀ c ∈ marker.before, Text.isBlank c = true
  path_nonempty : marker.path ≠ []
  path_inside : ∀ c ∈ marker.path, isPathChar c = true
  after_blank : ∀ c ∈ marker.after, Text.isBlank c = true

theorem not_pathChar_of_blank {c : Char} (blank : Text.isBlank c = true) :
    isPathChar c = false := by
  have other : c ≠ '.' ∧ c ≠ '$' := by
    constructor <;> rintro rfl <;> revert blank <;> decide
  simp [isPathChar, Text.not_word_of_blank blank, other]

/-- Blanks and path characters are apart, so each part of a marker ends where the next begins. -/
theorem Spelled.shaped {marker : Marker} (spelled : marker.Spelled) : marker.Shaped where
  before_blank := spelled.before_blank
  path_nonempty := spelled.path_nonempty
  path_start c head := by
    have inside := spelled.path_inside c (List.mem_of_mem_head? head)
    apply Bool.eq_false_iff.2
    intro blank
    rw [not_pathChar_of_blank blank] at inside
    contradiction
  path_inside := spelled.path_inside
  after_start c head :=
    not_pathChar_of_blank (spelled.after_blank c (List.mem_of_mem_head? head))
  after_blank := spelled.after_blank

theorem Shaped.spelled {marker : Marker} (shaped : marker.Shaped) : marker.Spelled :=
  ⟨shaped.before_blank, shaped.path_nonempty, shaped.path_inside, shaped.after_blank⟩

/-- A text begins with one marker at most. -/
theorem read?_eq_some_iff {text rest : List Char} {marker : Marker} :
    read? text = some (marker, rest) ↔ marker.Spelled ∧ text = marker.source ++ rest := by
  constructor
  · intro read
    exact ⟨(read?_shaped read).spelled, append_of_read? read⟩
  · rintro ⟨spelled, rfl⟩
    exact read?_exact spelled.shaped rest

def StartsAt (text : List Char) : Prop :=
  ∃ marker rest, Spelled marker ∧ text = marker.source ++ rest

theorem read?_eq_none_iff {text : List Char} : read? text = none ↔ ¬StartsAt text := by
  constructor
  · rintro absent ⟨marker, rest, spelled, text_eq⟩
    rw [read?_eq_some_iff.2 ⟨spelled, text_eq⟩] at absent
    contradiction
  · intro nowhere
    apply Option.eq_none_iff_forall_ne_some.2
    rintro ⟨marker, rest⟩ read
    exact nowhere ⟨marker, rest, read?_eq_some_iff.1 read⟩

end Marker

/-- A text cut at its markers: a literal text in front, and each marker with the literal text behind
it. -/
structure Factoring where
  lead : List Char
  parts : List (Marker × List Char)

namespace Factoring

/-- The text of markers and literal texts with `value` in the place of each marker. -/
def join (value : Marker → List Char) (parts : List (Marker × List Char)) : List Char :=
  parts.flatMap fun (marker, literal) => value marker ++ literal

def filled (value : Marker → List Char) (factoring : Factoring) : List Char :=
  factoring.lead ++ join value factoring.parts

theorem filled_literal (value : Marker → List Char) (c : Char) (lead : List Char)
    (parts : List (Marker × List Char)) :
    filled value ⟨c :: lead, parts⟩ = c :: filled value ⟨lead, parts⟩ := rfl

theorem filled_marker (value : Marker → List Char) (marker : Marker) (literal : List Char)
    (parts : List (Marker × List Char)) :
    filled value ⟨[], (marker, literal) :: parts⟩ =
      value marker ++ filled value ⟨literal, parts⟩ := by
  simp [filled, join]

/-- Whether no marker starts inside a literal text in front of a rest. -/
def Plain (literal rest : List Char) : Prop :=
  ∀ before after, literal = before ++ after → after ≠ [] → ¬Marker.StartsAt (after ++ rest)

def Exact : List Char → List (Marker × List Char) → Prop
  | lead, [] => Plain lead []
  | lead, (marker, literal) :: parts =>
      Plain lead (join Marker.source ((marker, literal) :: parts)) ∧ marker.Spelled ∧
        Exact literal parts

/-- Whether a factoring is one of a text, at all its markers from the left and without overlap. -/
structure Of (text : List Char) (factoring : Factoring) : Prop where
  source : factoring.filled Marker.source = text
  exact : Exact factoring.lead factoring.parts

theorem plain_nil (rest : List Char) : Plain [] rest := by
  intro before after split nonempty
  exact absurd (List.append_eq_nil_iff.1 split.symm).2 nonempty

theorem plain_cons {c : Char} {literal rest : List Char} :
    Plain (c :: literal) rest ↔
      ¬Marker.StartsAt (c :: (literal ++ rest)) ∧ Plain literal rest := by
  constructor
  · intro plain
    refine ⟨plain [] (c :: literal) rfl (by simp), ?_⟩
    intro before after split nonempty
    exact plain (c :: before) after (by rw [split]; rfl) nonempty
  · rintro ⟨nowhere, plain⟩ before after split nonempty
    cases before with
    | nil =>
        rw [List.nil_append] at split
        rwa [← split]
    | cons d before =>
        rw [List.cons_append, List.cons.injEq] at split
        exact plain before after split.2 nonempty

theorem exact_literal {c : Char} {lead : List Char} {parts : List (Marker × List Char)} :
    Exact (c :: lead) parts ↔
      ¬Marker.StartsAt (c :: filled Marker.source ⟨lead, parts⟩) ∧ Exact lead parts := by
  cases parts with
  | nil => exact plain_cons
  | cons part parts => simp only [Exact, plain_cons, filled, and_assoc]

def ofPieces : List Piece → Factoring
  | [] => ⟨[], []⟩
  | .literal c :: pieces => ⟨c :: (ofPieces pieces).lead, (ofPieces pieces).parts⟩
  | .marker marker :: pieces =>
      ⟨[], (marker, (ofPieces pieces).lead) :: (ofPieces pieces).parts⟩

theorem interpolate_eq_filled (insertion : Insertion) (scope : Scope) (text : List Char) :
    interpolate insertion scope text =
      (ofPieces (Piece.split text)).filled fun marker =>
        insertion.apply (scope.display marker.path) := by
  rw [interpolate]
  induction Piece.split text with
  | nil => rfl
  | cons piece pieces ih =>
      rw [List.flatMap_cons, ih]
      cases piece with
      | literal c => rfl
      | marker marker => rw [ofPieces, filled_marker]; rfl

/-- Cutting a text into pieces gives a factoring of it. -/
theorem of_split (text : List Char) : Of text (ofPieces (Piece.split text)) := by
  fun_induction Piece.split text with
  | case1 => exact ⟨rfl, plain_nil []⟩
  | case2 c text marker rest read ih =>
      obtain ⟨spelled, text_eq⟩ := Marker.read?_eq_some_iff.1 read
      refine ⟨?_, plain_nil _, spelled, ih.exact⟩
      rw [ofPieces, filled_marker, text_eq]
      exact congrArg _ ih.source
  | case3 c text absent ih =>
      refine ⟨?_, exact_literal.2 ⟨?_, ih.exact⟩⟩
      · exact congrArg _ ih.source
      · rw [← Marker.read?_eq_none_iff]
        exact (congrArg (fun rest => Marker.read? (c :: rest)) ih.source).trans absent

/-- A text is factored with the marker that it begins with in front, or else with its first
character as a literal. -/
theorem of_cons {c : Char} {text : List Char} {factoring : Factoring}
    (of : Of (c :: text) factoring) :
    (∃ marker rest literal parts, Marker.read? (c :: text) = some (marker, rest) ∧
      factoring = ⟨[], (marker, literal) :: parts⟩ ∧ Of rest ⟨literal, parts⟩) ∨
    ∃ lead parts, Marker.read? (c :: text) = none ∧
      factoring = ⟨c :: lead, parts⟩ ∧ Of text ⟨lead, parts⟩ := by
  obtain ⟨lead, parts⟩ := factoring
  obtain ⟨source, exact⟩ := of
  cases lead with
  | cons d lead =>
      rw [filled_literal, List.cons.injEq] at source
      obtain ⟨rfl, source⟩ := source
      obtain ⟨nowhere, exact⟩ := exact_literal.1 exact
      rw [source, ← Marker.read?_eq_none_iff] at nowhere
      exact .inr ⟨lead, parts, nowhere, rfl, source, exact⟩
  | nil =>
      cases parts with
      | nil => contradiction
      | cons part parts =>
          obtain ⟨marker, literal⟩ := part
          obtain ⟨_, spelled, exact⟩ := exact
          rw [filled_marker] at source
          have read := Marker.read?_eq_some_iff.2 ⟨spelled, source.symm⟩
          exact .inl ⟨marker, _, literal, parts, read, rfl, rfl, exact⟩

theorem of_nil {factoring : Factoring} (of : Of [] factoring) : factoring = ⟨[], []⟩ := by
  obtain ⟨lead, parts⟩ := factoring
  obtain ⟨source, _⟩ := of
  cases lead with
  | cons c lead => contradiction
  | nil =>
      cases parts with
      | nil => rfl
      | cons part parts => contradiction

/-- A text has no other factoring. -/
theorem eq_of_of {text : List Char} {factoring : Factoring} (of : Of text factoring) :
    factoring = ofPieces (Piece.split text) := by
  fun_induction Piece.split text generalizing factoring with
  | case1 => exact of_nil of
  | case2 c text marker rest read ih =>
      rcases of_cons of with ⟨_, _, literal, parts, again, rfl, inner⟩ | ⟨_, _, absent, _⟩
      · rw [read] at again
        cases again
        rw [ofPieces, ← ih inner]
      · rw [read] at absent
        contradiction
  | case3 c text absent ih =>
      rcases of_cons of with ⟨_, _, _, _, read, _⟩ | ⟨lead, parts, _, rfl, inner⟩
      · rw [absent] at read
        contradiction
      · rw [ofPieces, ← ih inner]

theorem braces_of_startsAt {text : List Char} (starts : Marker.StartsAt text) :
    ['\x7b', '\x7b'] <+: text := by
  obtain ⟨marker, rest, _, rfl⟩ := starts
  exact ⟨_, rfl⟩

/-- A text without two opening braces in a row is all literal. -/
theorem of_no_braces {text : List Char} (plain : ¬['\x7b', '\x7b'] <:+: text) :
    Of text ⟨text, []⟩ := by
  refine ⟨List.append_nil text, ?_⟩
  intro before after split _ starts
  obtain rfl : text = before ++ after := split
  rw [List.append_nil] at starts
  apply plain
  exact (braces_of_startsAt starts).isInfix.trans (List.suffix_append before after).isInfix

end Factoring

/-- A text has exactly one factoring at its markers, and interpolation puts the escaped or verbatim
display text of its path in the place of each marker, once. The literal texts between the markers
stay as they are; where no two opening braces stand in a row, the whole text is one. -/
theorem interpolation_fills_each_marker (text : List Char) :
    ∃ factoring, Factoring.Of text factoring ∧
      (∀ other, Factoring.Of text other → other = factoring) ∧
      (¬['\x7b', '\x7b'] <:+: text → factoring = ⟨text, []⟩) ∧
      ∀ insertion scope, interpolate insertion scope text =
        factoring.filled fun marker => insertion.apply (scope.display marker.path) := by
  refine ⟨Factoring.ofPieces (Piece.split text), Factoring.of_split text, ?_, ?_, ?_⟩
  · intro other of
    exact Factoring.eq_of_of of
  · intro plain
    exact (Factoring.eq_of_of (Factoring.of_no_braces plain)).symm
  · intro insertion scope
    exact Factoring.interpolate_eq_filled insertion scope text

/-- Braces that overlap, a marker that breaks off, and data that spells a marker. -/
example :
    interpolate .escaped (Scope.root (.object [("x", .string "\x7b\x7by\x7d\x7d<")]))
        "\x7b\x7b\x7bx\x7d\x7d\x7d \x7b\x7b \x7b\x7b x\x7d\x7d".toList =
      "\x7b\x7b\x7by\x7d\x7d&lt;\x7d \x7b\x7b \x7b\x7by\x7d\x7d&lt;".toList := by
  decide +kernel

end MarkupTemplate
