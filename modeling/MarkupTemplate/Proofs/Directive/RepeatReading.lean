import MarkupTemplate.Proofs.Directive.RepeatGrammar

/-!
The reader of repeat values accepts the values that the grammar allows and no others, and it answers
the names and the path that stand in them. Every reader of a part takes exactly that part where it
stands in front of what the grammar lets follow it, and what it takes is such a part.
-/

namespace MarkupTemplate
namespace Repeat

section Readers

variable {text rest : List Char}

theorem trimStart_exact {blanks : List Char} (blank : Text.IsBlanks blanks)
    (stops : Text.Stops Text.isBlank rest) :
    Text.trimStart (blanks ++ rest) = rest :=
  congrArg Prod.snd (Text.run_exact blank stops)

theorem trimStart_sound (text : List Char) :
    ∃ blanks, Text.IsBlanks blanks ∧ text = blanks ++ Text.trimStart text :=
  ⟨_, Text.run_inside Text.isBlank text, (Text.run_append Text.isBlank text).symm⟩

theorem gap?_exact {gap : List Char} (isGap : Text.IsGap gap)
    (stops : Text.Stops Text.isBlank rest) :
    gap? (gap ++ rest) = some rest := by
  obtain ⟨nonempty, blank⟩ := isGap
  cases gap with
  | nil => contradiction
  | cons c gap =>
      obtain ⟨first, others⟩ := List.forall_mem_cons.1 blank
      rw [List.cons_append, gap?, if_pos first, trimStart_exact others stops]

theorem gap?_sound (read : gap? text = some rest) : ∃ gap, Text.IsGap gap ∧ text = gap ++ rest := by
  cases text with
  | nil => contradiction
  | cons c text =>
      simp only [gap?] at read
      split at read
      · next first =>
          cases read
          obtain ⟨blanks, blank, text_eq⟩ := trimStart_sound text
          refine ⟨c :: blanks, ⟨by simp, List.forall_mem_cons.2 ⟨first, blank⟩⟩, ?_⟩
          rw [List.cons_append, ← text_eq]
      · contradiction

theorem name?_exact {name : List Char} (named : Text.IsName isNamePart name)
    (stops : Text.Stops isNamePart rest) :
    name? (name ++ rest) = some (name, rest) := by
  cases named with
  | intro start inside =>
      have cut := Text.run_exact inside stops
      simp only [Text.run, Prod.mk.injEq] at cut
      rw [List.cons_append, name?, if_pos start, cut.1, cut.2]

theorem name?_sound {name : List Char} (read : name? text = some (name, rest)) :
    Text.IsName isNamePart name ∧ text = name ++ rest ∧ Text.Stops isNamePart rest := by
  cases text with
  | nil => contradiction
  | cons c text =>
      simp only [name?] at read
      split at read
      · next start =>
          cases read
          have named : Text.IsName isNamePart (c :: text.takeWhile isNamePart) :=
            .intro start (Text.run_inside isNamePart text)
          refine ⟨named, ?_, Text.run_stops isNamePart text⟩
          rw [List.cons_append, List.takeWhile_append_dropWhile]
      · contradiction

theorem segments_part {c : Char} (part : isNamePart c = true) (text : List Char) :
    segments (c :: text) = (c :: (segments text).1, (segments text).2) := by
  have noPoint : c ≠ '.' := by
    intro same
    subst same
    revert part
    decide
  rw [segments.eq_3 _ _ (by simp [noPoint]), if_pos part]

/-- The rest of a segment is read up to where the text stops. -/
theorem segments_run {body : List Char} (inside : ∀ c ∈ body, isNamePart c = true)
    (rest : List Char) :
    segments (body ++ rest) = (body ++ (segments rest).1, (segments rest).2) := by
  induction body with
  | nil => rfl
  | cons c body ih =>
      obtain ⟨first, others⟩ := List.forall_mem_cons.1 inside
      rw [List.cons_append, segments_part first, ih others, List.cons_append]

theorem segments_stop (stops : Text.Stops isNamePart rest) (noPoint : rest.head? ≠ some '.') :
    segments rest = ([], rest) := by
  cases rest with
  | nil => rfl
  | cons c rest =>
      have other : c ≠ '.' := by simpa using noPoint
      have outside : isNamePart c = false := stops c rfl
      rw [segments.eq_3 _ _ (by simp [other]), outside, if_neg Bool.false_ne_true]

theorem segments_exact {parts : List (List Char)}
    (spelled : ∀ segment ∈ parts, Text.IsSegment isNamePart segment)
    (stops : Text.Stops isNamePart rest) (noPoint : rest.head? ≠ some '.') :
    segments (Text.dotted parts ++ rest) = (Text.dotted parts, rest) := by
  induction parts with
  | nil => exact segments_stop stops noPoint
  | cons segment parts ih =>
      obtain ⟨first, others⟩ := List.forall_mem_cons.1 spelled
      obtain ⟨nonempty, inside⟩ := first
      cases segment with
      | nil => contradiction
      | cons c body =>
          obtain ⟨head, inside⟩ := List.forall_mem_cons.1 inside
          have shown : Text.dotted ((c :: body) :: parts) ++ rest =
              '.' :: c :: (body ++ (Text.dotted parts ++ rest)) := by
            simp [Text.dotted]
          rw [shown, segments, if_pos head, segments_run inside, ih others]
          simp [Text.dotted]

theorem segments_append (text : List Char) :
    (segments text).1 ++ (segments text).2 = text := by
  fun_induction segments text with
  | case1 => rfl
  | case2 c text part ih => simp [ih]
  | case3 => rfl
  | case4 c text _ part ih => simp [ih]
  | case5 => rfl

/-- What is read is the rest of a segment with whole segments behind it. -/
theorem segments_sound (text : List Char) :
    ∃ body parts, (∀ c ∈ body, isNamePart c = true) ∧
      (∀ segment ∈ parts, Text.IsSegment isNamePart segment) ∧
      (segments text).1 = body ++ Text.dotted parts ∧
        (Text.Stops isNamePart text → body = []) := by
  fun_induction segments text with
  | case1 => exact ⟨[], [], by simp, by simp, rfl, fun _ => rfl⟩
  | case2 c text part ih =>
      obtain ⟨body, parts, inside, spelled, read, _⟩ := ih
      refine ⟨[], (c :: body) :: parts, by simp, ?_, ?_, fun _ => rfl⟩
      · have first : Text.IsSegment isNamePart (c :: body) :=
          ⟨by simp, List.forall_mem_cons.2 ⟨part, inside⟩⟩
        exact List.forall_mem_cons.2 ⟨first, spelled⟩
      · simp [read, Text.dotted]
  | case3 => exact ⟨[], [], by simp, by simp, rfl, fun _ => rfl⟩
  | case4 c text _ part ih =>
      obtain ⟨body, parts, inside, spelled, read, _⟩ := ih
      have whole : ∀ d ∈ c :: body, isNamePart d = true := List.forall_mem_cons.2 ⟨part, inside⟩
      refine ⟨c :: body, parts, whole, spelled, by simp [read], ?_⟩
      intro stops
      have outside := stops c rfl
      rw [part] at outside
      contradiction
  | case5 => exact ⟨[], [], by simp, by simp, rfl, fun _ => rfl⟩

theorem path?_exact {name : List Char} {parts : List (List Char)}
    (named : Text.IsName isNamePart name)
    (spelled : ∀ segment ∈ parts, Text.IsSegment isNamePart segment)
    (stops : Text.Stops isNamePart rest) (noPoint : rest.head? ≠ some '.') :
    path? (name ++ (Text.dotted parts ++ rest)) = some (name ++ Text.dotted parts, rest) := by
  rw [path?, name?_exact named (Text.dotted_stops rfl parts stops)]
  change some (name ++ (segments (Text.dotted parts ++ rest)).1,
    (segments (Text.dotted parts ++ rest)).2) = _
  rw [segments_exact spelled stops noPoint]

theorem path?_sound {path : List Char} (read : path? text = some (path, rest)) :
    ∃ name parts, Text.IsName isNamePart name ∧
      (∀ segment ∈ parts, Text.IsSegment isNamePart segment) ∧
      path = name ++ Text.dotted parts ∧ text = path ++ rest := by
  obtain ⟨⟨name, behind⟩, name_read, found⟩ := Option.bind_eq_some_iff.1 read
  cases found
  obtain ⟨named, rfl, stops⟩ := name?_sound name_read
  obtain ⟨body, parts, _, spelled, parts_read, whole⟩ := segments_sound behind
  rw [whole stops, List.nil_append] at parts_read
  refine ⟨name, parts, named, spelled, congrArg (name ++ ·) parts_read, ?_⟩
  rw [List.append_assoc, segments_append]

/-- Blanks in front of a character that is neither a blank nor part of a name. -/
theorem blanks_before {blanks : List Char} (blank : Text.IsBlanks blanks) (mark : Char)
    (visible : Text.isBlank mark = false) (outside : isNamePart mark = false) (rest : List Char) :
    Text.trimStart (blanks ++ mark :: rest) = mark :: rest ∧
      Text.Stops isNamePart (blanks ++ mark :: rest) :=
  ⟨trimStart_exact blank (Text.stops_cons visible rest),
    blanks_stop blank (Text.stops_cons outside rest)⟩

theorem mark_behind_blanks {mark : Char}
    (read : Text.dropStart? [mark] (Text.trimStart text) = some rest) :
    ∃ blanks, Text.IsBlanks blanks ∧ text = blanks ++ mark :: rest := by
  obtain ⟨blanks, blank, text_eq⟩ := trimStart_sound text
  rw [Text.append_of_dropStart? read] at text_eq
  exact ⟨blanks, blank, text_eq⟩

theorem name_behind_blanks {name : List Char}
    (read : name? (Text.trimStart text) = some (name, rest)) :
    ∃ blanks, Text.IsBlanks blanks ∧ Text.IsName isNamePart name ∧
      text = blanks ++ (name ++ rest) := by
  obtain ⟨blanks, blank, text_eq⟩ := trimStart_sound text
  obtain ⟨named, read_eq, _⟩ := name?_sound read
  rw [read_eq] at text_eq
  exact ⟨blanks, blank, named, text_eq⟩

theorem names?_exact {names : Names} (spelled : names.Spelled)
    (stops : Text.Stops isNamePart rest) :
    names? (names.text ++ rest) = some ((names.item, names.index?), rest) := by
  cases names with
  | alone item =>
      have read := name?_exact spelled stops
      cases spelled with
      | @intro c more start inside =>
          have noParen : c ≠ '(' := by
            intro same
            subst same
            revert start
            decide
          rw [Names.text, List.cons_append] at *
          rw [names?.eq_2 _ (by simp [noParen]), read]
          rfl
  | pair beforeItem item afterItem beforeIndex index afterIndex =>
      obtain ⟨⟨beforeItem_blank, itemNamed, afterItem_blank⟩, beforeIndex_blank, indexNamed,
        afterIndex_blank⟩ := spelled
      have paren := blanks_before afterIndex_blank ')' rfl rfl rest
      have comma := blanks_before afterItem_blank ',' rfl rfl
        (beforeIndex ++ (index ++ (afterIndex ++ ')' :: rest)))
      have text_eq :
          (Names.pair beforeItem item afterItem beforeIndex index afterIndex).text ++ rest =
            '(' :: (beforeItem ++ (item ++ (afterItem ++
              ',' :: (beforeIndex ++ (index ++ (afterIndex ++ ')' :: rest)))))) := by
        simp [Names.text]
      have behindComma : ∀ other : List Char, Text.dropStart? [','] (',' :: other) = some other :=
        fun other => rfl
      have behindParen : ∀ other : List Char, Text.dropStart? [')'] (')' :: other) = some other :=
        fun other => rfl
      rw [text_eq, names?]
      simp only [Option.bind_eq_bind, Option.bind_some,
        trimStart_exact beforeItem_blank (itemNamed.stops_blank _), name?_exact itemNamed comma.2,
        comma.1, behindComma, trimStart_exact beforeIndex_blank (indexNamed.stops_blank _),
        name?_exact indexNamed paren.2, paren.1, behindParen]
      rfl

theorem names?_sound {item : List Char} {index : Option (List Char)}
    (read : names? text = some ((item, index), rest)) :
    ∃ names : Names, names.Spelled ∧ text = names.text ++ rest ∧
      names.item = item ∧ names.index? = index := by
  unfold names? at read
  split at read
  · next inside =>
      simp only [Option.bind_eq_bind, Option.bind_eq_some_iff, Prod.exists] at read
      obtain ⟨item, _, item_read, _, comma_read, index, _, index_read, _, paren_read, found⟩ :=
        read
      cases found
      obtain ⟨beforeItem, beforeItem_blank, itemNamed, item_eq⟩ := name_behind_blanks item_read
      obtain ⟨afterItem, afterItem_blank, comma_eq⟩ := mark_behind_blanks comma_read
      obtain ⟨beforeIndex, beforeIndex_blank, indexNamed, index_eq⟩ :=
        name_behind_blanks index_read
      obtain ⟨afterIndex, afterIndex_blank, paren_eq⟩ := mark_behind_blanks paren_read
      refine ⟨.pair beforeItem item afterItem beforeIndex index afterIndex, ?_, ?_, rfl, rfl⟩
      · exact ⟨⟨beforeItem_blank, itemNamed, afterItem_blank⟩, beforeIndex_blank, indexNamed,
          afterIndex_blank⟩
      · rw [item_eq, comma_eq, index_eq, paren_eq]
        simp [Names.text]
  · obtain ⟨⟨item, behind⟩, name_read, found⟩ := Option.bind_eq_some_iff.1 read
    cases found
    obtain ⟨named, text_eq, _⟩ := name?_sound name_read
    exact ⟨.alone item, named, text_eq, rfl, rfl⟩

end Readers

namespace Written

/-- What is written as the grammar says is read as what it means. -/
theorem Spelled.read {written : Written} (spelled : written.Spelled) :
    parse? written.text = some written.spec := by
  have word : ∀ rest : List Char, Text.dropStart? "in".toList ("in".toList ++ rest) = some rest :=
    fun rest => Text.dropStart?_append _ rest
  have wordStops : ∀ rest : List Char, Text.Stops Text.isBlank ("in".toList ++ rest) :=
    fun rest => Text.stops_cons (by decide) _
  have pathStops : Text.Stops Text.isBlank (written.path ++ written.trail) := by
    rw [path, List.append_assoc]
    exact spelled.name.stops_blank _
  have trailEnds : Text.trimStart written.trail = [] := by
    simpa using trimStart_exact spelled.trail (Text.stops_nil Text.isBlank)
  have path_read := path?_exact spelled.name spelled.segments (blanks_stop_all spelled.trail)
    spelled.trail.no_point
  rw [← List.append_assoc, ← path] at path_read
  simp only [parse?, text, Option.bind_eq_bind, Option.bind_some,
    trimStart_exact spelled.lead (spelled.names.stops_blank _),
    names?_exact spelled.names (gap_stops spelled.beforeIn _),
    gap?_exact spelled.beforeIn (wordStops _), word, gap?_exact spelled.afterIn pathStops,
    path_read, trailEnds]
  rfl

theorem of_parse? {text : List Char} {spec : Repeat} (read : parse? text = some spec) :
    ∃ written, Of text written ∧ written.spec = spec := by
  simp only [parse?, Option.bind_eq_bind, Option.bind_eq_some_iff, Prod.exists] at read
  obtain ⟨item, index, _, names_read, _, before_read, _, in_read, _, after_read, path, trail,
    path_read, found⟩ := read
  split at found
  · next ends =>
      cases found
      obtain ⟨lead, lead_blank, lead_eq⟩ := trimStart_sound text
      obtain ⟨names, namesSpelled, names_eq, rfl, rfl⟩ := names?_sound names_read
      obtain ⟨beforeIn, beforeIn_gap, before_eq⟩ := gap?_sound before_read
      have in_eq := Text.append_of_dropStart? in_read
      obtain ⟨afterIn, afterIn_gap, after_eq⟩ := gap?_sound after_read
      obtain ⟨name, segments, named, segmented, rfl, path_eq⟩ := path?_sound path_read
      obtain ⟨blanks, trail_blank, trail_eq⟩ := trimStart_sound trail
      rw [List.isEmpty_iff.1 ends, List.append_nil] at trail_eq
      subst trail_eq
      refine ⟨⟨lead, names, beforeIn, afterIn, name, segments, trail⟩, ⟨?_, ?_⟩, rfl⟩
      · rw [lead_eq, names_eq, before_eq, in_eq, after_eq, path_eq]
        rfl
      · exact ⟨lead_blank, namesSpelled, beforeIn_gap, afterIn_gap, named, segmented,
          trail_blank⟩
  · contradiction

end Written

section Parts

variable {text : List Char} {spec : Repeat} (read : parse? text = some spec)

include read

theorem item_named : Text.IsName isNamePart spec.item := by
  obtain ⟨written, of, rfl⟩ := Written.of_parse? read
  exact of.spelled.names.item_named

theorem index_named {index : List Char} (present : spec.index = some index) :
    Text.IsName isNamePart index := by
  obtain ⟨written, of, rfl⟩ := Written.of_parse? read
  exact of.spelled.names.index_named present

theorem source_isPath : Text.IsPath isNamePart spec.source := by
  obtain ⟨written, of, rfl⟩ := Written.of_parse? read
  exact .intro of.spelled.name of.spelled.segments

end Parts

/-- The names stand in parentheses exactly where the first visible character is one. -/
theorem index_iff_paren {written : Written} (spelled : written.Spelled) :
    written.spec.index.isSome = true ↔
      ∃ rest, Text.trimStart written.text = '(' :: rest := by
  rw [Written.text, trimStart_exact spelled.lead (spelled.names.stops_blank _)]
  have names := spelled.names
  cases shape : written.names with
  | alone item =>
      rw [shape] at names
      constructor
      · intro present
        simp [Written.spec, shape, Names.index?] at present
      · rintro ⟨rest, text_eq⟩
        exact absurd text_eq (name_not_paren names _ _)
  | pair => simp [Written.spec, shape, Names.index?, Names.text]

/-- A text is a repeat value exactly if it can be written as one, and then it means the names and
the path that stand in it. It can be written in one way only; there is an index exactly where the
names stand in parentheses, and every other text is rejected. -/
theorem repeat_read_exactly (text : List Char) :
    (∀ spec, parse? text = some spec ↔
      ∃ written, Written.Of text written ∧ written.spec = spec) ∧
    (∀ one other, Written.Of text one → Written.Of text other → one = other) ∧
    (∀ spec, parse? text = some spec →
      (spec.index.isSome = true ↔ ∃ rest, Text.trimStart text = '(' :: rest)) ∧
    (parse? text = none ↔ ¬∃ written, Written.Of text written) := by
  have read_iff : ∀ spec, parse? text = some spec ↔
      ∃ written, Written.Of text written ∧ written.spec = spec := by
    intro spec
    constructor
    · exact Written.of_parse?
    · rintro ⟨written, ⟨rfl, spelled⟩, rfl⟩
      exact spelled.read
  refine ⟨read_iff, ?_, ?_, ?_⟩
  · intro one other of otherOf
    exact of.unique otherOf
  · intro spec read
    obtain ⟨written, ⟨rfl, spelled⟩, rfl⟩ := (read_iff spec).1 read
    exact index_iff_paren spelled
  · rw [Option.eq_none_iff_forall_ne_some]
    constructor
    · rintro rejected ⟨written, of⟩
      exact rejected _ ((read_iff _).2 ⟨written, of, rfl⟩)
    · intro unwritten spec read
      obtain ⟨written, of, _⟩ := (read_iff spec).1 read
      exact unwritten ⟨written, of⟩

/-- The word `in` is a name like others; a doubled point, and a parenthesis that no blank follows,
are refused. -/
example :
    ["in in in", "(a,b) in x.0", "a in x..y", "(a,b)in x"].map (fun text => parse? text.toList) =
      [some ⟨['i', 'n'], none, ['i', 'n']⟩, some ⟨['a'], some ['b'], ['x', '.', '0']⟩, none,
        none] := by
  decide +kernel

end Repeat
end MarkupTemplate
