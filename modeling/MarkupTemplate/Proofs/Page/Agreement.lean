import MarkupTemplate.Page.Engine
import MarkupTemplate.Proofs.Page.Gathering

/-!
The two ways to render a page agree. Both give every section the result that it has alone on the
site at the start, whatever the order in which concurrent tasks move; they differ only in which
sections are on the page once a critical one has failed.
-/

namespace MarkupTemplate
namespace Page

section Serial

variable {compiler : Compiler} {start : Site}

theorem outcome_of_result {entry : Section} {result : Result}
    (result_eq : result = (start.outcome compiler entry).result) :
    (⟨entry, result⟩ : Outcome) = start.outcome compiler entry := by
  rw [result_eq]
  rfl

/-- Sections without a critical failure are all rendered, and what follows goes on from there. -/
theorem renderSerial_append
    {done : List Section} {site : Site} (filled : Filled compiler start done site)
    (entries later : List Section)
    (distinct : ((done ++ entries).map Section.target).Nodup)
    (unbroken : ∀ entry ∈ entries, entry.target ∉ start.destination.broken)
    (calm : ∀ entry ∈ entries, (start.outcome compiler entry).criticalError? = none) :
    ∃ reached, Filled compiler start (done ++ entries) reached ∧
      renderSerial compiler (entries ++ later) site =
        ((renderSerial compiler later reached).1.map fun report =>
            ⟨entries.map (start.outcome compiler) ++ report.outcomes⟩,
          (renderSerial compiler later reached).2) := by
  induction entries generalizing done site with
  | nil =>
      refine ⟨site, by simpa using filled, ?_⟩
      rw [List.nil_append]
      cases renderSerial compiler later site with
      | mk result _ => cases result <;> rfl
  | cons entry entries ih =>
      have fresh : ∀ other ∈ done, other.target ≠ entry.target := fun other member =>
        fresh_of_distinct distinct other (List.mem_append_left _ member)
      obtain ⟨result, next⟩ :=
        renderSection_filled filled fresh (unbroken entry List.mem_cons_self)
      obtain ⟨reached, all, rest⟩ := ih next (by simpa using distinct)
        (fun other member => unbroken other (List.mem_cons_of_mem _ member))
        (fun other member => calm other (List.mem_cons_of_mem _ member))
      refine ⟨reached, by simpa using all, ?_⟩
      simp only [List.cons_append, renderSerial, outcome_of_result result,
        calm entry List.mem_cons_self, rest]
      cases renderSerial compiler later reached with
      | mk result _ => cases result <;> rfl

theorem renderSerial_calm
    {entries : List Section}
    (distinct : (entries.map Section.target).Nodup)
    (unbroken : ∀ entry ∈ entries, entry.target ∉ start.destination.broken)
    (calm : ∀ entry ∈ entries, (start.outcome compiler entry).criticalError? = none) :
    (renderSerial compiler entries start).1 = .ok ⟨entries.map (start.outcome compiler)⟩ ∧
      Shows compiler start entries (renderSerial compiler entries start).2.destination.canvas := by
  obtain ⟨reached, all, rest⟩ :=
    renderSerial_append (filled_start compiler start) entries [] distinct unbroken calm
  rw [List.append_nil] at rest
  rw [rest]
  refine ⟨?_, all.page⟩
  simp only [renderSerial, Except.map, List.append_nil]

/-- The first critical failure is the answer, and nothing behind it is rendered. -/
theorem renderSerial_stops
    {before after : List Section} {entry : Section} {error : RenderError}
    (distinct : ((before ++ entry :: after).map Section.target).Nodup)
    (unbroken : ∀ other ∈ before ++ entry :: after, other.target ∉ start.destination.broken)
    (calm : ∀ earlier ∈ before, (start.outcome compiler earlier).criticalError? = none)
    (failed : (start.outcome compiler entry).criticalError? = some error) :
    (renderSerial compiler (before ++ entry :: after) start).1 = .error error ∧
      Shows compiler start before
        (renderSerial compiler (before ++ entry :: after) start).2.destination.canvas := by
  have distinct_before : (before.map Section.target).Nodup := by
    rw [List.map_append] at distinct
    exact (List.nodup_append.1 distinct).1
  obtain ⟨reached, all, rest⟩ := renderSerial_append (filled_start compiler start) before
    (entry :: after) distinct_before
    (fun other member => unbroken other (List.mem_append_left _ member)) calm
  have fresh : ∀ other ∈ before, other.target ≠ entry.target := fun other member =>
    fresh_of_distinct distinct other (List.mem_append_left _ member)
  obtain ⟨result, next⟩ := renderSection_filled all fresh (unbroken entry (by simp))
  have stopped : renderSerial compiler (entry :: after) reached =
      (.error error, (renderSection compiler entry reached).2) := by
    simp only [renderSerial, outcome_of_result result, failed]
  rw [rest, stopped]
  refine ⟨rfl, ?_⟩
  have unmade : ∃ cause, start.markup compiler entry = .error cause := by
    cases made : start.markup compiler entry with
    | error cause => exact ⟨cause, rfl⟩
    | ok markup => simp [Site.outcome, made, Except.map, Outcome.criticalError?] at failed
  obtain ⟨cause, unmade⟩ := unmade
  exact (Shows.failed_iff unmade).1 next.page

end Serial

theorem no_critical_failure_iff {compiler : Compiler} {site : Site} {entries : List Section} :
    (entries.map (site.outcome compiler)).findSome? Outcome.criticalError? = none ↔
      ∀ entry ∈ entries, (site.outcome compiler entry).criticalError? = none := by
  rw [List.findSome?_eq_none_iff, List.forall_mem_map]

/-- Serial and concurrent rendering of sections with distinct targets agree, in whatever order the
concurrent tasks move. Without a critical failure both report for every section, in declared order,
the result that it has alone, and they leave the same page. Otherwise both answer the error of the
first critical section that fails; the serial page then holds the sections before that one, and the
concurrent page all of them, as far as they succeeded. -/
theorem modes_agree
    (compiler : Compiler) (site : Site) (entries : List Section)
    (distinct : (entries.map Section.target).Nodup)
    (unbroken : ∀ entry ∈ entries, entry.target ∉ site.destination.broken)
    (schedule : Schedule) :
    let serial := Engine.initPage ⟨compiler, .serial⟩ schedule entries site
    let concurrent := Engine.initPage ⟨compiler, .concurrent⟩ schedule entries site
    ((∀ entry ∈ entries, (site.outcome compiler entry).criticalError? = none) →
      serial.1 = .ok ⟨entries.map (site.outcome compiler)⟩ ∧
      concurrent.1 = .ok ⟨entries.map (site.outcome compiler)⟩ ∧
      Shows compiler site entries serial.2.destination.canvas ∧
      serial.2.destination.canvas.snapshot = concurrent.2.destination.canvas.snapshot) ∧
    ∀ before entry after error, entries = before ++ entry :: after →
      (∀ earlier ∈ before, (site.outcome compiler earlier).criticalError? = none) →
      (site.outcome compiler entry).criticalError? = some error →
        serial.1 = .error error ∧
        concurrent.1 = .error error ∧
        Shows compiler site before serial.2.destination.canvas ∧
        Shows compiler site entries concurrent.2.destination.canvas := by
  intro serial concurrent
  obtain ⟨reached, page, concurrent_eq⟩ :=
    renderConcurrent_ends compiler distinct unbroken .counted schedule
  change concurrent = _ at concurrent_eq
  constructor
  · intro calm
    obtain ⟨report, serial_page⟩ := renderSerial_calm distinct unbroken calm
    rw [concurrent_eq, no_critical_failure_iff.2 calm]
    exact ⟨report, rfl, serial_page, serial_page.snapshot_eq page⟩
  · intro before entry after error entries_eq calm failed
    have first : (entries.map (site.outcome compiler)).findSome? Outcome.criticalError? =
        some error := by
      rw [entries_eq, List.map_append, List.findSome?_append, no_critical_failure_iff.2 calm,
        List.map_cons, List.findSome?_cons, failed, Option.none_or]
    rw [concurrent_eq, first]
    subst entries_eq
    obtain ⟨stopped, serial_page⟩ := renderSerial_stops distinct unbroken calm failed
    exact ⟨stopped, rfl, serial_page, page⟩

/-- A page whose document is remembered from before; the source holds another one by now. -/
def greetingSite : Site where
  store :=
    { feed :=
        { source := .memory
            [("templates/hello.asth", "<p>\x7b\x7bname\x7d\x7d</p>"),
              ("data/user.json", "\x7b\x7d")]
          fetches := 0 }
      loader :=
        { layout := .standard
          templates := []
          documents := [("user", .object [("name", .string "Ada")])] } }
  destination := ⟨.ofTargets ["#top", "#middle", "#end"], []⟩

def greeting (target : String) : Section :=
  ⟨"hello", "user", target, true⟩

def farewell (critical : Bool) : Section :=
  ⟨"goodbye", "user", "#middle", critical⟩

/-- The last section moves first, and all of them miss the template. -/
def greetingSchedule : Schedule :=
  [(2, .load .template), (0, .load .template), (1, .load .document), (0, .load .template),
    (2, .load .document), (2, .load .template), (2, .load .template), (2, .conclude)]

theorem modes_agree_greetings :
    let serial (critical : Bool) := Engine.initPage ⟨.standard, .serial⟩ greetingSchedule
      [greeting "#top", farewell critical, greeting "#end"] greetingSite
    let concurrent (critical : Bool) := Engine.initPage ⟨.standard, .concurrent⟩ greetingSchedule
      [greeting "#top", farewell critical, greeting "#end"] greetingSite
    ((serial false).1 = .ok ⟨[⟨greeting "#top", .ok ()⟩,
        ⟨farewell false, .error (.templateMissing "goodbye")⟩, ⟨greeting "#end", .ok ()⟩]⟩ ∧
      (concurrent false).1 = (serial false).1 ∧
      (concurrent false).2.destination.canvas.snapshot =
        [("#top", "<p>Ada</p>"), ("#middle", ""), ("#end", "<p>Ada</p>")]) ∧
    (serial true).1 = .error (.templateMissing "goodbye") ∧
    (concurrent true).1 = .error (.templateMissing "goodbye") ∧
    (serial true).2.destination.canvas.snapshot =
      [("#top", "<p>Ada</p>"), ("#middle", ""), ("#end", "")] ∧
    (concurrent true).2.destination.canvas.snapshot =
      [("#top", "<p>Ada</p>"), ("#middle", ""), ("#end", "<p>Ada</p>")] := by
  intro serial concurrent
  have agree (critical : Bool) := modes_agree .standard greetingSite
    [greeting "#top", farewell critical, greeting "#end"]
    (by cases critical <;> decide) (by intro entry _; exact List.not_mem_nil) greetingSchedule
  constructor
  · obtain ⟨serial_report, concurrent_report, _, same_page⟩ :=
      (agree false).1 (by decide +kernel)
    refine ⟨serial_report.trans ?_, concurrent_report.trans serial_report.symm,
      same_page.symm.trans ?_⟩
    · rfl
    · decide +kernel
  · obtain ⟨serial_error, concurrent_error, _, _⟩ :=
      (agree true).2 [greeting "#top"] (farewell true) [greeting "#end"] _ rfl (by decide +kernel)
        rfl
    refine ⟨serial_error, concurrent_error, ?_, ?_⟩
    · decide +kernel
    · decide +kernel

end Page
end MarkupTemplate
