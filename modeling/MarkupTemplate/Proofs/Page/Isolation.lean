import MarkupTemplate.Proofs.Page.Gathering

/-!
Sections that break off. A write that breaks off takes down the task of its section and no other:
compared with the site where every write goes through, that section alone is reported as broken off,
and its target alone goes without the markup.
-/

namespace MarkupTemplate
namespace Page

namespace Site

def calm (site : Site) : Site :=
  { site with destination := { site.destination with broken := [] } }

/-- An outcome of the calm site as it is where writes can break off. -/
def disturb (site : Site) (outcome : Outcome) : Outcome :=
  if site.breaksOff outcome.entry then
    ⟨outcome.entry, .error (.brokenOff outcome.entry.target)⟩
  else outcome

theorem reported_calm (compiler : Compiler) (site : Site) (entry : Section) :
    site.calm.reported compiler entry = site.outcome compiler entry :=
  reported_of_unbroken compiler List.not_mem_nil

theorem disturb_outcome (compiler : Compiler) (site : Site) (entry : Section) :
    site.disturb (site.outcome compiler entry) = site.reported compiler entry := by
  rfl

theorem writable_calm (site : Site) (entries : List Section) :
    site.calm.writable entries = entries :=
  writable_of_unbroken fun _ _ => List.not_mem_nil

end Site

/-- Sections whose writes go through are on the page either way; a target on which writes break off
shows what it showed at the start. -/
theorem Shows.content_disturbed
    {compiler : Compiler} {site : Site} {entries : List Section} {canvas calm : Canvas}
    (shows : Shows compiler site (site.writable entries) canvas)
    (all : Shows compiler site.calm entries calm) (target : String) :
    canvas.content target =
      if site.breaksOn target then site.destination.canvas.content target
      else calm.content target := by
  split
  · next breaks =>
      apply shows.others target
      rintro entry member _ _ rfl
      simp [Site.writable, breaks] at member
  · next unbroken =>
      -- what breaks off plays no part in what a page shows
      have same_start : Shows compiler site entries calm := ⟨all.targets, all.written, all.others⟩
      apply shows.content_eq_at same_start
      rintro entry rfl
      simp [Site.writable, unbroken]

theorem Shows.snapshot_disturbed
    {compiler : Compiler} {site : Site} {entries : List Section} {canvas calm : Canvas}
    (shows : Shows compiler site (site.writable entries) canvas)
    (all : Shows compiler site.calm entries calm) :
    canvas.snapshot = calm.snapshot.map fun (target, markup) =>
      (target,
        if site.breaksOn target then site.destination.canvas.content target else markup) := by
  simp only [Canvas.snapshot, List.map_map, shows.targets, all.targets, shows.content_disturbed all]
  rfl

namespace Outcome

theorem criticalError?_eq_none_iff {outcome : Outcome} :
    outcome.criticalError? = none ↔ (outcome.entry.critical = true → outcome.result = .ok ()) := by
  obtain ⟨entry, result⟩ := outcome
  cases result <;> simp [criticalError?]

theorem criticalError?_of_error {outcome : Outcome} {error : RenderError}
    (critical : outcome.entry.critical = true) (failed : outcome.result = .error error) :
    outcome.criticalError? = some error := by
  simp [criticalError?, failed, critical]

end Outcome

section Answer

variable (compiler : Compiler) (naming : Naming) (schedule : Schedule) (entries : List Section)
  (site : Site)

theorem renderConcurrent_site :
    (renderConcurrent compiler naming schedule entries site).2 =
      (concurrentOutcomes compiler naming schedule entries site).2 := by
  rw [renderConcurrent_eq]
  split <;> rfl

theorem renderConcurrent_of_calm
    (calm : ∀ outcome ∈ (concurrentOutcomes compiler naming schedule entries site).1,
      outcome.entry.critical = true → outcome.result = .ok ()) :
    (renderConcurrent compiler naming schedule entries site).1 =
      .ok ⟨(concurrentOutcomes compiler naming schedule entries site).1⟩ := by
  have none_failed : (concurrentOutcomes compiler naming schedule entries site).1.findSome?
      Outcome.criticalError? = none :=
    List.findSome?_eq_none_iff.2 fun outcome member =>
      Outcome.criticalError?_eq_none_iff.2 (calm outcome member)
  rw [renderConcurrent_eq, none_failed]

theorem renderConcurrent_of_failed
    {before after : List Outcome} {outcome : Outcome} {error : RenderError}
    (outcomes_eq : (concurrentOutcomes compiler naming schedule entries site).1 =
      before ++ outcome :: after)
    (calm : ∀ earlier ∈ before, earlier.entry.critical = true → earlier.result = .ok ())
    (critical : outcome.entry.critical = true) (failed : outcome.result = .error error) :
    (renderConcurrent compiler naming schedule entries site).1 = .error error := by
  have none_before : before.findSome? Outcome.criticalError? = none :=
    List.findSome?_eq_none_iff.2 fun earlier member =>
      Outcome.criticalError?_eq_none_iff.2 (calm earlier member)
  rw [renderConcurrent_eq, outcomes_eq, List.findSome?_append, none_before, Option.none_or,
    List.findSome?_cons, Outcome.criticalError?_of_error critical failed]

end Answer

/-- A write that breaks off is felt by its own section only. Sections with distinct targets that are
rendered at once are all reported once, in declared order: one whose parts load and whose write
breaks off as broken off at its own target, and every other one with the result it has on the calm
site, whatever the ids of the tasks are and in whatever order they move and are joined. The page is
that of the calm site, but for the targets on which writes break off, which stay as they were. The
answer is the error of the first critical section in declared order that failed or broke off. -/
theorem broken_writes_are_isolated
    (compiler : Compiler) (site : Site) (entries : List Section)
    (distinct : (entries.map Section.target).Nodup)
    (naming calmNaming : Naming) (schedule calmSchedule : Schedule) :
    let ended := concurrentOutcomes compiler naming schedule entries site
    let calm := concurrentOutcomes compiler calmNaming calmSchedule entries site.calm
    let rendered := renderConcurrent compiler naming schedule entries site
    ended.1.map Outcome.entry = entries ∧
    ended.1 = calm.1.map site.disturb ∧
    rendered.2.destination.canvas.snapshot =
      calm.2.destination.canvas.snapshot.map (fun (target, markup) =>
        (target,
          if site.breaksOn target then site.destination.canvas.content target else markup)) ∧
    ((∀ outcome ∈ ended.1, outcome.entry.critical = true → outcome.result = .ok ()) →
      rendered.1 = .ok ⟨ended.1⟩) ∧
    ∀ before outcome after error, ended.1 = before ++ outcome :: after →
      (∀ earlier ∈ before, earlier.entry.critical = true → earlier.result = .ok ()) →
      outcome.entry.critical = true → outcome.result = .error error →
        rendered.1 = .error error := by
  intro ended calm rendered
  obtain ⟨outcomes_eq, page⟩ := concurrentOutcomes_alone compiler site distinct naming schedule
  obtain ⟨calm_eq, calm_page⟩ :=
    concurrentOutcomes_alone compiler site.calm distinct calmNaming calmSchedule
  rw [Site.writable_calm] at calm_page
  refine ⟨?_, ?_, ?_, ?_, ?_⟩
  · rw [show ended.1 = _ from outcomes_eq, List.map_map]
    exact (List.map_congr_left fun entry _ => site.reported_entry compiler entry).trans
      (List.map_id entries)
  · rw [show ended.1 = _ from outcomes_eq, show calm.1 = _ from calm_eq, List.map_map]
    apply List.map_congr_left
    intro entry _
    rw [Function.comp_apply, Site.reported_calm, Site.disturb_outcome]
  · rw [show rendered.2 = _ from renderConcurrent_site ..]
    exact page.snapshot_disturbed calm_page
  · exact renderConcurrent_of_calm compiler naming schedule entries site
  · intro before outcome after error split none_before critical failed
    exact renderConcurrent_of_failed compiler naming schedule entries site split none_before
      critical failed

def shopSite : Site where
  store :=
    { feed := { source := .memory [], fetches := 0 }
      loader :=
        { layout := .standard
          templates := [("list", "<li>\x7b\x7bname\x7d\x7d</li>")]
          documents := [("goods", .object [("name", .string "tea")])] } }
  destination := ⟨.ofTargets ["#products", "#profile", "#footer"], ["#profile", "#footer"]⟩

/-- The template of the last section is nowhere, so it does not come to its write. -/
def shopSections (critical : Bool) : List Section :=
  [⟨"list", "goods", "#products", false⟩, ⟨"list", "goods", "#profile", critical⟩,
    ⟨"imprint", "goods", "#footer", true⟩]

def shopNaming : Naming where
  id := fun position => if position = 0 then 2 else if position = 2 then 0 else position
  distinct := by
    intro first second same
    grind

/-- The section in the middle breaks off first and is joined last. -/
def shopSchedule : Schedule :=
  (finalTurns 1 ++ finalTurns 2 ++ [(2, .join), (0, .join)]) ++ finalTurns 0 ++
    [(0, .join), (2, .join), (1, .join)]

theorem broken_writes_are_isolated_shop :
    let ended (critical : Bool) :=
      concurrentOutcomes .standard shopNaming shopSchedule (shopSections critical) shopSite
    let rendered (critical : Bool) :=
      renderConcurrent .standard shopNaming shopSchedule (shopSections critical) shopSite
    (ended true).1 =
      [⟨⟨"list", "goods", "#products", false⟩, .ok ()⟩,
        ⟨⟨"list", "goods", "#profile", true⟩, .error (.brokenOff "#profile")⟩,
        ⟨⟨"imprint", "goods", "#footer", true⟩, .error (.templateMissing "imprint")⟩] ∧
    (rendered true).2.destination.canvas.snapshot =
      [("#products", "<li>tea</li>"), ("#profile", ""), ("#footer", "")] ∧
    (rendered true).1 = .error (.brokenOff "#profile") ∧
    (rendered false).1 = .error (.templateMissing "imprint") := by
  intro ended rendered
  have isolated (critical : Bool) := broken_writes_are_isolated .standard shopSite
    (shopSections critical) (by cases critical <;> decide) shopNaming .counted shopSchedule []
  have outcomes_eq (critical : Bool) : (ended critical).1 =
      [⟨⟨"list", "goods", "#products", false⟩, .ok ()⟩,
        ⟨⟨"list", "goods", "#profile", critical⟩, .error (.brokenOff "#profile")⟩,
        ⟨⟨"imprint", "goods", "#footer", true⟩, .error (.templateMissing "imprint")⟩] := by
    obtain ⟨_, disturbed, _⟩ := isolated critical
    exact disturbed.trans (by cases critical <;> rfl)
  refine ⟨outcomes_eq true, ?_, ?_, ?_⟩
  · obtain ⟨_, _, page, _⟩ := isolated true
    refine page.trans ?_
    decide +kernel
  · obtain ⟨_, _, _, _, failed⟩ := isolated true
    exact failed [_] _ [_] _ (outcomes_eq true) (by simp) rfl rfl
  · obtain ⟨_, _, _, _, failed⟩ := isolated false
    exact failed [_, _] _ [] _ (outcomes_eq false) (by simp) rfl rfl

end Page
end MarkupTemplate
