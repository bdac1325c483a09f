import Mathlib.Data.List.Nodup
import MarkupTemplate.Page.Render
import MarkupTemplate.Proofs.Page.Loading

/-!
What a page shows once some of its sections have been rendered. The reference is what each section
makes of the site at the start, taken alone: while the source stays as it is, loads of other
sections change nothing for it, and neither do writes to other targets.
-/

namespace MarkupTemplate
namespace Page

namespace Store

/-- A store that loads have made of another one, while the source stayed the same. -/
structure GrownFrom (start store : Store) : Prop where
  source : store.feed.source = start.feed.source
  layout : store.loader.layout = start.loader.layout
  known : ∀ kind name value, store.cached? kind name = some value →
    (start.load kind name).1 = .ok value
  kept : ∀ kind name, store.cached? kind name = none → start.cached? kind name = none

namespace GrownFrom

variable {start store : Store}

theorem refl (start : Store) : GrownFrom start start where
  source := rfl
  layout := rfl
  known := by
    intro kind name value cached
    rw [load_of_cached cached]
  kept _ _ missed := missed

theorem given_eq
    (grown : GrownFrom start store) {kind : Resource} {name : String}
    (missed : start.cached? kind name = none) :
    store.given kind name = (start.load kind name).1 := by
  rw [load_of_missed missed, given, given, grown.source, grown.layout]

/-- Loads that others made before do not show in what a load answers. -/
theorem load_eq (grown : GrownFrom start store) (kind : Resource) (name : String) :
    (store.load kind name).1 = (start.load kind name).1 := by
  cases cached : store.cached? kind name with
  | some value => rw [load_of_cached cached, grown.known kind name value cached]
  | none => rw [load_of_missed cached, grown.given_eq (grown.kept kind name cached)]

theorem asked (grown : GrownFrom start store) : GrownFrom start store.asked :=
  ⟨grown.source, grown.layout, grown.known, grown.kept⟩

theorem keep
    (grown : GrownFrom start store) {kind : Resource} {name : String}
    {answer : Except LoadError kind.Value} (answered : answer = (start.load kind name).1) :
    GrownFrom start (store.keep kind name answer) where
  source := by rw [feed_keep, grown.source]
  layout := by rw [layout_keep, grown.layout]
  known := by
    intro other asked value cached
    by_cases same : other = kind
    · subst same
      cases answer with
      | error error => exact grown.known other asked value cached
      | ok found =>
          rw [cached?_keep_self] at cached
          split at cached
          · next named =>
              cases cached
              rw [named, answered]
          · exact grown.known other asked value cached
    · rw [cached?_keep_other _ _ _ same] at cached
      exact grown.known other asked value cached
  kept := by
    intro other asked missed
    by_cases same : other = kind
    · subst same
      cases answer with
      | error error => exact grown.kept other asked missed
      | ok found =>
          rw [cached?_keep_self] at missed
          split at missed
          · contradiction
          · exact grown.kept other asked missed
    · rw [cached?_keep_other _ _ _ same] at missed
      exact grown.kept other asked missed

theorem load (grown : GrownFrom start store) (kind : Resource) (name : String) :
    GrownFrom start (store.load kind name).2 := by
  cases cached : store.cached? kind name with
  | some value => rwa [load_of_cached cached]
  | none =>
      rw [load_of_missed cached]
      exact grown.asked.keep (grown.given_eq (grown.kept kind name cached))

end GrownFrom
end Store

namespace Site

def markup (compiler : Compiler) (site : Site) (entry : Section) : Except RenderError String :=
  match (site.store.load .template entry.template).1, (site.store.load .document entry.data).1 with
  | .error _, _ => .error (.templateMissing entry.template)
  | .ok _, .error _ => .error (.dataMissing entry.data)
  | .ok template, .ok data =>
      if site.destination.canvas.declares entry.target then
        .ok (String.ofList (compiler.compile template.toList data))
      else .error (.destinationNotFound entry.target)

def outcome (compiler : Compiler) (site : Site) (entry : Section) : Outcome where
  entry := entry
  result := (site.markup compiler entry).map fun _ => ()

def breaksOn (site : Site) (target : String) : Bool :=
  site.destination.broken.contains target

/-- Whether a section breaks off: it has both of its parts, and a write to its target breaks off. -/
def breaksOff (site : Site) (entry : Section) : Bool :=
  (site.store.load .template entry.template).1.isOk &&
    (site.store.load .document entry.data).1.isOk && site.breaksOn entry.target

def reported (compiler : Compiler) (site : Site) (entry : Section) : Outcome :=
  if site.breaksOff entry then ⟨entry, .error (.brokenOff entry.target)⟩
  else site.outcome compiler entry

def writable (site : Site) (entries : List Section) : List Section :=
  entries.filter fun entry => !site.breaksOn entry.target

theorem reported_entry (compiler : Compiler) (site : Site) (entry : Section) :
    (site.reported compiler entry).entry = entry := by
  unfold reported
  split <;> rfl

theorem reported_of_unbroken
    (compiler : Compiler) {site : Site} {entry : Section}
    (unbroken : entry.target ∉ site.destination.broken) :
    site.reported compiler entry = site.outcome compiler entry := by
  simp [reported, breaksOff, breaksOn, unbroken]

theorem writable_of_unbroken
    {site : Site} {entries : List Section}
    (unbroken : ∀ entry ∈ entries, entry.target ∉ site.destination.broken) :
    site.writable entries = entries := by
  apply List.filter_eq_self.2
  intro entry member
  simp [breaksOn, unbroken entry member]

end Site

theorem Canvas.content_write
    (canvas : Canvas) (target markup asked : String) :
    ({ canvas with contents := Entries.put canvas.contents target markup } : Canvas).content asked =
      if asked = target then markup else canvas.content asked := by
  simp only [Canvas.content]
  split
  · next same => rw [same, Entries.get?_put_self, Option.getD_some]
  · next different => rw [Entries.get?_put_of_ne _ _ different]

/-- A page that holds the markup of those of the sections that make some, and otherwise shows what
it showed at the start. -/
structure Shows (compiler : Compiler) (start : Site) (entries : List Section) (canvas : Canvas) :
    Prop where
  targets : canvas.targets = start.destination.canvas.targets
  written : ∀ entry ∈ entries, ∀ markup, start.markup compiler entry = .ok markup →
    canvas.content entry.target = markup
  others : ∀ target,
    (∀ entry ∈ entries, ∀ markup, start.markup compiler entry = .ok markup →
      entry.target ≠ target) →
    canvas.content target = start.destination.canvas.content target

namespace Shows

variable {compiler : Compiler} {start : Site} {entries : List Section} {canvas : Canvas}

theorem nothing (compiler : Compiler) (start : Site) :
    Shows compiler start [] start.destination.canvas where
  targets := rfl
  written := by simp
  others _ _ := rfl

theorem congr {same : List Section} (shows : Shows compiler start entries canvas)
    (members : ∀ entry, entry ∈ same ↔ entry ∈ entries) : Shows compiler start same canvas where
  targets := shows.targets
  written entry member := shows.written entry ((members entry).1 member)
  others target apart := shows.others target fun entry member =>
    apart entry ((members entry).2 member)

/-- Two pages agree on a target if the same sections with that target are on both. -/
theorem content_eq_at {others : List Section} {other : Canvas}
    (shows : Shows compiler start entries canvas) (again : Shows compiler start others other)
    {target : String} (same : ∀ entry, entry.target = target → (entry ∈ entries ↔ entry ∈ others)) :
    canvas.content target = other.content target := by
  by_cases held : ∃ entry ∈ entries, ∃ markup, start.markup compiler entry = .ok markup ∧
      entry.target = target
  · obtain ⟨entry, member, markup, made, rfl⟩ := held
    rw [shows.written entry member markup made,
      again.written entry ((same entry rfl).1 member) markup made]
  · have apart : ∀ entry ∈ entries, ∀ markup, start.markup compiler entry = .ok markup →
        entry.target ≠ target :=
      fun entry member markup made named => held ⟨entry, member, markup, made, named⟩
    have others_apart : ∀ entry ∈ others, ∀ markup, start.markup compiler entry = .ok markup →
        entry.target ≠ target :=
      fun entry member markup made named =>
        apart entry ((same entry named).2 member) markup made named
    rw [shows.others target apart, again.others target others_apart]

theorem content_eq {other : Canvas} (shows : Shows compiler start entries canvas)
    (again : Shows compiler start entries other) (target : String) :
    canvas.content target = other.content target :=
  shows.content_eq_at again fun _ _ => Iff.rfl

/-- What sections a page shows is all there is to it. -/
theorem snapshot_eq {other : Canvas} (shows : Shows compiler start entries canvas)
    (again : Shows compiler start entries other) : canvas.snapshot = other.snapshot := by
  simp only [Canvas.snapshot, shows.targets, again.targets, shows.content_eq again]

theorem failed_iff {entry : Section} {error : RenderError}
    (failed : start.markup compiler entry = .error error) :
    Shows compiler start (entries ++ [entry]) canvas ↔ Shows compiler start entries canvas := by
  have unmade : ∀ markup, start.markup compiler entry ≠ .ok markup := by simp [failed]
  constructor
  · intro shows
    refine ⟨shows.targets, ?_, ?_⟩
    · intro other member
      exact shows.written other (List.mem_append_left _ member)
    · intro target apart
      apply shows.others target
      intro other member markup made
      rcases List.mem_append.1 member with earlier | last
      · exact apart other earlier markup made
      · obtain rfl := List.mem_singleton.1 last
        exact absurd made (unmade markup)
  · intro shows
    refine ⟨shows.targets, ?_, ?_⟩
    · intro other member markup made
      rcases List.mem_append.1 member with earlier | last
      · exact shows.written other earlier markup made
      · obtain rfl := List.mem_singleton.1 last
        exact absurd made (unmade markup)
    · intro target apart
      apply shows.others target
      intro other member
      exact apart other (List.mem_append_left _ member)

theorem write {entry : Section} {markup : String} (shows : Shows compiler start entries canvas)
    (fresh : ∀ other ∈ entries, other.target ≠ entry.target)
    (made : start.markup compiler entry = .ok markup) :
    Shows compiler start (entries ++ [entry])
      { canvas with contents := Entries.put canvas.contents entry.target markup } where
  targets := shows.targets
  written := by
    intro other member text otherMade
    rw [Canvas.content_write]
    rcases List.mem_append.1 member with earlier | last
    · rw [if_neg (fresh other earlier), shows.written other earlier text otherMade]
    · obtain rfl := List.mem_singleton.1 last
      rw [if_pos rfl]
      simpa [made] using otherMade
  others := by
    intro target apart
    have different : target ≠ entry.target :=
      Ne.symm (apart entry (by simp) markup made)
    rw [Canvas.content_write, if_neg different]
    apply shows.others target
    intro other member
    exact apart other (List.mem_append_left _ member)

end Shows

structure Filled (compiler : Compiler) (start : Site) (entries : List Section) (site : Site) :
    Prop where
  store : Store.GrownFrom start.store site.store
  page : Shows compiler start entries site.destination.canvas
  broken : site.destination.broken = start.destination.broken

theorem filled_start (compiler : Compiler) (start : Site) : Filled compiler start [] start :=
  ⟨.refl start.store, .nothing compiler start, rfl⟩

theorem fresh_of_distinct {before after : List Section} {entry : Section}
    (distinct : ((before ++ entry :: after).map Section.target).Nodup) :
    ∀ other ∈ before ++ after, other.target ≠ entry.target := by
  rw [List.map_append, List.map_cons, List.nodup_middle, ← List.map_append,
    List.nodup_cons] at distinct
  intro other member same
  exact distinct.1 (List.mem_map.2 ⟨other, member, same⟩)

section Rendering

variable {compiler : Compiler} {start : Site} {entries : List Section}

/-- A section that makes no markup ends with its error and leaves the page as it is. -/
theorem failed_filled
    {destination : Destination} {entry : Section} {error : RenderError}
    (page : Shows compiler start entries destination.canvas)
    (broken : destination.broken = start.destination.broken)
    (failed : start.markup compiler entry = .error error) :
    .error error = (start.outcome compiler entry).result ∧
      Shows compiler start (entries ++ [entry]) destination.canvas ∧
      destination.broken = start.destination.broken := by
  refine ⟨?_, (Shows.failed_iff failed).2 page, broken⟩
  simp only [Site.outcome, failed]
  rfl

/-- A section whose loads answered as at the start ends as it does alone, and adds itself to the
page. -/
theorem conclude_filled
    {destination : Destination} {entry : Section}
    (page : Shows compiler start entries destination.canvas)
    (broken : destination.broken = start.destination.broken)
    (fresh : ∀ other ∈ entries, other.target ≠ entry.target)
    (unbroken : entry.target ∉ start.destination.broken) :
    let ended := conclude compiler entry (start.store.load .template entry.template).1.toOption
      (start.store.load .document entry.data).1.toOption destination
    ended.1 = (start.outcome compiler entry).result ∧
      Shows compiler start (entries ++ [entry]) ended.2.canvas ∧
      ended.2.broken = start.destination.broken := by
  have declares_eq : destination.canvas.declares entry.target =
      start.destination.canvas.declares entry.target := by
    rw [Canvas.declares, Canvas.declares, page.targets]
  have open_target : destination.broken.contains entry.target = false := by
    simpa [broken] using unbroken
  cases template : (start.store.load .template entry.template).1 with
  | error error =>
      exact failed_filled page broken (by simp only [Site.markup, template])
  | ok text =>
      cases data : (start.store.load .document entry.data).1 with
      | error error =>
          exact failed_filled page broken (by simp only [Site.markup, template, data])
      | ok value =>
          simp only [Except.toOption, conclude, publish, Destination.write, open_target,
            Bool.false_eq_true, if_false, Canvas.write?, declares_eq]
          cases declared : start.destination.canvas.declares entry.target with
          | true =>
              have made : start.markup compiler entry =
                  .ok (String.ofList (compiler.compile text.toList value)) := by
                simp only [Site.markup, template, data, declared, if_true]
              refine ⟨?_, page.write fresh made, broken⟩
              simp only [Site.outcome, made]
              rfl
          | false =>
              exact failed_filled page broken
                (by simp only [Site.markup, template, data, declared, Bool.false_eq_true, if_false])

/-- The same where writes can break off: a section that breaks off leaves the page as it is. -/
theorem conclude_reported
    {destination : Destination} {entry : Section}
    (page : Shows compiler start (start.writable entries) destination.canvas)
    (broken : destination.broken = start.destination.broken)
    (fresh : ∀ other ∈ entries, other.target ≠ entry.target) :
    let ended := conclude compiler entry (start.store.load .template entry.template).1.toOption
      (start.store.load .document entry.data).1.toOption destination
    ended.1 = (start.reported compiler entry).result ∧
      Shows compiler start (start.writable (entries ++ [entry])) ended.2.canvas ∧
      ended.2.broken = start.destination.broken := by
  have entries_eq : start.writable (entries ++ [entry]) =
      start.writable entries ++ if start.breaksOn entry.target then [] else [entry] := by
    cases breaks : start.breaksOn entry.target <;> simp [Site.writable, breaks]
  cases breaks : start.breaksOn entry.target with
  | false =>
      have unbroken : entry.target ∉ start.destination.broken := by
        simpa [Site.breaksOn] using breaks
      rw [Site.reported_of_unbroken compiler unbroken, entries_eq, breaks]
      exact conclude_filled page broken
        (fun other member => fresh other (List.mem_filter.1 member).1) unbroken
  | true =>
      have closed_target : destination.broken.contains entry.target = true := by
        rw [broken]
        exact breaks
      rw [entries_eq, breaks, if_pos rfl, List.append_nil]
      cases template : (start.store.load .template entry.template).1 with
      | error error =>
          refine ⟨?_, page, broken⟩
          simp [conclude, Except.toOption, Site.reported, Site.breaksOff, Site.outcome, Site.markup,
            template, Except.isOk, Except.toBool, Except.map]
      | ok text =>
          cases data : (start.store.load .document entry.data).1 with
          | error error =>
              refine ⟨?_, page, broken⟩
              simp [conclude, Except.toOption, Site.reported, Site.breaksOff, Site.outcome,
                Site.markup, template, data, Except.isOk, Except.toBool, Except.map]
          | ok value =>
              have stopped : conclude compiler entry (some text) (some value) destination =
                  (.error (.brokenOff entry.target), destination) := by
                simp only [conclude, publish, Destination.write, closed_target, if_true]
              simp only [Except.toOption, stopped]
              refine ⟨?_, page, broken⟩
              simp [Site.reported, Site.breaksOff, template, data, breaks, Except.isOk,
                Except.toBool]

theorem renderSection_filled
    {site : Site} {entry : Section} (filled : Filled compiler start entries site)
    (fresh : ∀ other ∈ entries, other.target ≠ entry.target)
    (unbroken : entry.target ∉ start.destination.broken) :
    (renderSection compiler entry site).1 = (start.outcome compiler entry).result ∧
      Filled compiler start (entries ++ [entry]) (renderSection compiler entry site).2 := by
  have grown := filled.store.load .template entry.template
  have template_eq := filled.store.load_eq .template entry.template
  have data_eq := grown.load_eq .document entry.data
  obtain ⟨result, page, broken⟩ := conclude_filled filled.page filled.broken fresh unbroken
  rw [← template_eq, ← data_eq] at result page broken
  exact ⟨result, grown.load .document entry.data, page, broken⟩

end Rendering
end Page
end MarkupTemplate
