import MarkupTemplate.Page.Engine

/-!
A page over a whole run of direct writes, single renders and serial fills, with whatever happens to
the source and the loader in between. The reference is the history of the run alone: a target holds
the markup of the last successful write to it, and a render that fails has written nothing.
-/

namespace MarkupTemplate
namespace Page

/-- What is done to a page. -/
inductive PageAction
  | write (target markup : String)
  | render (engine : Engine) (entry : Section)
  /-- Fills the page with sections, one after the other. -/
  | fill (compiler : Compiler) (entries : List Section)
  /-- Makes the next renders load from another store, or from the same one after any change. -/
  | supply (store : Store)

inductive PageEvent
  | wrote (target markup : String) (accepted : Bool)
  | rendered (compiler : Compiler) (entry : Section) (template : Except LoadError String)
      (data : Except LoadError Json) (result : Result)

namespace PageEvent

def write? (target : String) : PageEvent → Option String
  | .wrote written markup true => if written = target then some markup else none
  | .rendered compiler entry (.ok template) (.ok data) (.ok ()) =>
      if entry.target = target then some (String.ofList (compiler.compile template.toList data))
      else none
  | _ => none

def outcome? : PageEvent → Option Outcome
  | .rendered _ entry _ _ result => some ⟨entry, result⟩
  | .wrote _ _ _ => none

end PageEvent

def lastWrite? (target : String) (history : List PageEvent) : Option String :=
  history.reverse.findSome? (PageEvent.write? target)

theorem lastWrite?_append (target : String) (earlier later : List PageEvent) :
    lastWrite? target (earlier ++ later) =
      (lastWrite? target later).or (lastWrite? target earlier) := by
  simp [lastWrite?, List.findSome?_append]

theorem lastWrite?_snoc (target : String) (history : List PageEvent) (event : PageEvent) :
    lastWrite? target (history ++ [event]) =
      (event.write? target).or (lastWrite? target history) := by
  rw [lastWrite?_append]
  simp [lastWrite?]

namespace Site

/-- What the loads for a section answer, the template before the data. -/
def parts (site : Site) (entry : Section) : Except LoadError String × Except LoadError Json :=
  let (template, store) := site.store.loadTemplate entry.template
  (template, (store.loadData entry.data).1)

def rendering (compiler : Compiler) (entry : Section) (site : Site) : PageEvent :=
  .rendered compiler entry (site.parts entry).1 (site.parts entry).2
    (renderSection compiler entry site).1

end Site

/-- The renders of a serial fill: those of all sections up to the first critical failure. -/
def fillEvents (compiler : Compiler) : List Section → Site → List PageEvent
  | [], _ => []
  | entry :: entries, site =>
      let (result, after) := renderSection compiler entry site
      let event := site.rendering compiler entry
      match Outcome.criticalError? ⟨entry, result⟩ with
      | some _ => [event]
      | none => event :: fillEvents compiler entries after

namespace PageAction

def perform : PageAction → Site → List PageEvent × Site
  | .write target markup, site =>
      match site.destination.write target markup with
      | .written destination =>
          ([.wrote target markup true], { site with destination := destination })
      | _ => ([.wrote target markup false], site)
  | .render engine entry, site =>
      ([site.rendering engine.compiler entry], (engine.render entry site).2)
  | .fill compiler entries, site =>
      (fillEvents compiler entries site, (Engine.initPage ⟨compiler, .serial⟩ [] entries site).2)
  | .supply store, site => ([], { site with store := store })

def performAll : List PageAction → Site → List PageEvent × Site
  | [], site => ([], site)
  | action :: actions, site =>
      let (events, site) := action.perform site
      let (others, site) := performAll actions site
      (events ++ others, site)

end PageAction

theorem renderSerial_cons (compiler : Compiler) (entry : Section) (entries : List Section)
    (site : Site) :
    renderSerial compiler (entry :: entries) site =
      match Outcome.criticalError? ⟨entry, (renderSection compiler entry site).1⟩ with
      | some error => (.error error, (renderSection compiler entry site).2)
      | none =>
          ((renderSerial compiler entries (renderSection compiler entry site).2).1.map fun report =>
              ⟨⟨entry, (renderSection compiler entry site).1⟩ :: report.outcomes⟩,
            (renderSerial compiler entries (renderSection compiler entry site).2).2) := by
  simp only [renderSerial]
  cases Outcome.criticalError? ⟨entry, (renderSection compiler entry site).1⟩ with
  | some error => rfl
  | none =>
      obtain ⟨answer, after⟩ := renderSerial compiler entries (renderSection compiler entry site).2
      cases answer <;> rfl

/-- What a serial fill answers is told by its renders: the error of the critical one that failed, or
else a report of all of them. -/
theorem initPage_serial_answer (compiler : Compiler) (entries : List Section) (site : Site) :
    (Engine.initPage ⟨compiler, .serial⟩ [] entries site).1 =
      match ((fillEvents compiler entries site).filterMap PageEvent.outcome?).findSome?
        Outcome.criticalError? with
      | some error => .error error
      | none => .ok ⟨(fillEvents compiler entries site).filterMap PageEvent.outcome?⟩ := by
  change (renderSerial compiler entries site).1 = _
  induction entries generalizing site with
  | nil => rfl
  | cons entry entries ih =>
      rw [renderSerial_cons]
      simp only [fillEvents]
      cases failure : Outcome.criticalError? ⟨entry, (renderSection compiler entry site).1⟩ with
      | some error =>
          simp only [List.filterMap_cons, Site.rendering, PageEvent.outcome?, List.filterMap_nil,
            List.findSome?_cons, failure]
      | none =>
          simp only [ih, List.filterMap_cons, Site.rendering, PageEvent.outcome?,
            List.findSome?_cons, failure]
          cases List.findSome? Outcome.criticalError? _ <;> rfl

def Canvas.replaced (canvas : Canvas) (target markup : String) : Canvas :=
  { canvas with contents := Entries.put canvas.contents target markup }

theorem Destination.write_unbroken {destination : Destination} (unbroken : destination.broken = [])
    (target markup : String) :
    destination.write target markup =
      if destination.canvas.declares target then
        .written { destination with canvas := destination.canvas.replaced target markup }
      else .undeclared := by
  simp only [write, unbroken, List.contains_nil, Bool.false_eq_true, if_false, Canvas.write?]
  cases destination.canvas.declares target <;> rfl

/-- A render fails and leaves the page as it is, or writes what the template makes of the data to
the target, both of which were loaded. -/
theorem renderSection_cases {site : Site} (unbroken : site.destination.broken = [])
    (compiler : Compiler) (entry : Section) :
    (∃ error, (renderSection compiler entry site).1 = .error error ∧
      (renderSection compiler entry site).2.destination = site.destination) ∨
    ∃ template data, site.parts entry = (.ok template, .ok data) ∧
      site.destination.canvas.declares entry.target = true ∧
      (renderSection compiler entry site).1 = .ok () ∧
      (renderSection compiler entry site).2.destination =
        { site.destination with
          canvas := site.destination.canvas.replaced entry.target
            (String.ofList (compiler.compile template.toList data)) } := by
  have result_eq : (renderSection compiler entry site).1 =
      (conclude compiler entry (site.parts entry).1.toOption (site.parts entry).2.toOption
        site.destination).1 := rfl
  have destination_eq : (renderSection compiler entry site).2.destination =
      (conclude compiler entry (site.parts entry).1.toOption (site.parts entry).2.toOption
        site.destination).2 := rfl
  rw [result_eq, destination_eq]
  obtain ⟨template, data⟩ := site.parts entry
  cases template with
  | error error => exact .inl ⟨_, rfl, rfl⟩
  | ok template =>
      cases data with
      | error error => exact .inl ⟨_, rfl, rfl⟩
      | ok data =>
          simp only [Except.toOption, conclude, publish, Destination.write_unbroken unbroken]
          cases declared : site.destination.canvas.declares entry.target with
          | false => exact .inl ⟨_, rfl, rfl⟩
          | true => exact .inr ⟨template, data, rfl, rfl, rfl, rfl⟩

/-- A page on which every target holds the markup that was written to it last, and of which only the
declared targets were written to. -/
structure Keeps (targets : List String) (history : List PageEvent) (destination : Destination) :
    Prop where
  unbroken : destination.broken = []
  targets_eq : destination.canvas.targets = targets
  held : ∀ target, Entries.get? destination.canvas.contents target = lastWrite? target history
  declared : ∀ target markup, lastWrite? target history = some markup → target ∈ targets

namespace Keeps

variable {targets : List String} {history : List PageEvent} {destination : Destination}

theorem start (targets : List String) : Keeps targets [] ⟨.ofTargets targets, []⟩ where
  unbroken := rfl
  targets_eq := rfl
  held _ := rfl
  declared _ _ written := by contradiction

theorem declares_iff (keeps : Keeps targets history destination) (target : String) :
    destination.canvas.declares target = true ↔ target ∈ targets := by
  rw [Canvas.declares, keeps.targets_eq, List.contains_iff_mem]

theorem get?_eq (keeps : Keeps targets history destination) (target : String) :
    destination.canvas.get? target =
      if target ∈ targets then some ((lastWrite? target history).getD "") else none := by
  simp only [Canvas.get?, keeps.declares_iff, Canvas.content, keeps.held]

theorem snapshot_eq (keeps : Keeps targets history destination) :
    destination.canvas.snapshot =
      targets.map fun target => (target, (lastWrite? target history).getD "") := by
  simp only [Canvas.snapshot, keeps.targets_eq, Canvas.content, keeps.held]

theorem undeclared (keeps : Keeps targets history destination) {target : String}
    (outside : target ∉ targets) :
    lastWrite? target history = none :=
  Option.eq_none_iff_forall_ne_some.2 fun markup written =>
    outside (keeps.declared target markup written)

theorem unchanged (keeps : Keeps targets history destination) {event : PageEvent}
    (nothing : ∀ target, event.write? target = none) :
    Keeps targets (history ++ [event]) destination where
  unbroken := keeps.unbroken
  targets_eq := keeps.targets_eq
  held target := by rw [lastWrite?_snoc, nothing, Option.none_or, keeps.held]
  declared target markup := by
    rw [lastWrite?_snoc, nothing, Option.none_or]
    exact keeps.declared target markup

theorem replaced (keeps : Keeps targets history destination) {event : PageEvent}
    {target markup : String} (declares : destination.canvas.declares target = true)
    (written : ∀ other, event.write? other = if target = other then some markup else none) :
    Keeps targets (history ++ [event])
      { destination with canvas := destination.canvas.replaced target markup } where
  unbroken := keeps.unbroken
  targets_eq := keeps.targets_eq
  held other := by
    rw [lastWrite?_snoc, written, Canvas.replaced]
    by_cases same : target = other
    · rw [if_pos same, same, Entries.get?_put_self, Option.some_or]
    · rw [if_neg same, Entries.get?_put_of_ne _ _ (Ne.symm same), Option.none_or, keeps.held]
  declared other found last := by
    rw [lastWrite?_snoc, written] at last
    by_cases same : target = other
    · rw [← same]
      exact (keeps.declares_iff target).1 declares
    · rw [if_neg same, Option.none_or] at last
      exact keeps.declared other found last

theorem rendered {site : Site} (keeps : Keeps targets history site.destination)
    (compiler : Compiler) (entry : Section) :
    Keeps targets (history ++ [site.rendering compiler entry])
      (renderSection compiler entry site).2.destination := by
  rcases renderSection_cases keeps.unbroken compiler entry with
    ⟨error, failed, same⟩ | ⟨template, data, loaded, declares, done, replaced⟩
  · rw [same]
    apply keeps.unchanged
    intro target
    rw [Site.rendering, failed]
    cases (site.parts entry).1 <;> cases (site.parts entry).2 <;> rfl
  · rw [replaced]
    apply keeps.replaced declares
    intro other
    rw [Site.rendering, loaded, done]
    rfl

theorem filled {site : Site} (keeps : Keeps targets history site.destination)
    (compiler : Compiler) (entries : List Section) :
    Keeps targets (history ++ fillEvents compiler entries site)
      (renderSerial compiler entries site).2.destination := by
  induction entries generalizing history site with
  | nil => simpa [fillEvents, renderSerial] using keeps
  | cons entry entries ih =>
      have here := keeps.rendered compiler entry
      rw [renderSerial_cons]
      simp only [fillEvents]
      cases Outcome.criticalError? ⟨entry, (renderSection compiler entry site).1⟩ with
      | some error => exact here
      | none =>
          have rest := ih here
          rw [List.append_assoc] at rest
          exact rest

/-- A render that fails leaves the page as it is. One that succeeds has loaded both of its parts and
changes its target alone. -/
theorem render_frame {site : Site} (keeps : Keeps targets history site.destination)
    (compiler : Compiler) (entry : Section) :
    (∀ error, (renderSection compiler entry site).1 = .error error →
      (renderSection compiler entry site).2.destination = site.destination) ∧
    ((renderSection compiler entry site).1 = .ok () →
      ∃ template data, site.parts entry = (.ok template, .ok data) ∧ entry.target ∈ targets ∧
        (renderSection compiler entry site).2.destination.canvas.targets = targets ∧
        ∀ target, (renderSection compiler entry site).2.destination.canvas.get? target =
          if target = entry.target then
            some (String.ofList (compiler.compile template.toList data))
          else site.destination.canvas.get? target) := by
  have after := keeps.rendered compiler entry
  rcases renderSection_cases keeps.unbroken compiler entry with
    ⟨error, failed, same⟩ | ⟨template, data, loaded, declares, done, _⟩
  · exact ⟨fun _ _ => same, fun done => by rw [failed] at done; contradiction⟩
  · refine ⟨fun error failed => by rw [done] at failed; contradiction, fun _ => ?_⟩
    have declared := (keeps.declares_iff entry.target).1 declares
    refine ⟨template, data, loaded, declared, after.targets_eq, fun target => ?_⟩
    rw [after.get?_eq, keeps.get?_eq, lastWrite?_snoc, Site.rendering, loaded, done,
      PageEvent.write?]
    by_cases same : target = entry.target
    · rw [if_pos same, if_pos same.symm, same, if_pos declared]
      rfl
    · rw [if_neg same, if_neg (Ne.symm same), Option.none_or]

theorem performed {site : Site} (keeps : Keeps targets history site.destination)
    (action : PageAction) :
    Keeps targets (history ++ (action.perform site).1) (action.perform site).2.destination := by
  cases action with
  | write target markup =>
      simp only [PageAction.perform, Destination.write_unbroken keeps.unbroken]
      cases declares : site.destination.canvas.declares target with
      | true => exact keeps.replaced declares fun _ => rfl
      | false => exact keeps.unchanged fun _ => rfl
  | render engine entry => exact keeps.rendered engine.compiler entry
  | fill compiler entries => exact keeps.filled compiler entries
  | supply store =>
      rw [PageAction.perform, List.append_nil]
      exact keeps

theorem performedAll {site : Site} (keeps : Keeps targets history site.destination)
    (actions : List PageAction) :
    Keeps targets (history ++ (PageAction.performAll actions site).1)
      (PageAction.performAll actions site).2.destination := by
  induction actions generalizing history site with
  | nil => simpa [PageAction.performAll] using keeps
  | cons action actions ih =>
      have rest := ih (keeps.performed action)
      rw [List.append_assoc] at rest
      exact rest

end Keeps

/-- After any run on a new page, every declared target holds the markup of the last successful write
to it, and no other target was ever written to. From there a direct write succeeds exactly on the
declared targets. A render that fails leaves the page as it is; one that succeeds has loaded both of
its parts, its target is declared and now holds what the template makes of the data, and no other
target changes. -/
theorem page_holds_last_writes (targets : List String) (store : Store)
    (actions : List PageAction) :
    let run := PageAction.performAll actions ⟨store, ⟨.ofTargets targets, []⟩⟩
    let page := run.2.destination.canvas
    page.snapshot = targets.map (fun target => (target, (lastWrite? target run.1).getD "")) ∧
      (∀ target, page.get? target =
        if target ∈ targets then some ((lastWrite? target run.1).getD "") else none) ∧
      (∀ target, target ∉ targets →
        lastWrite? target run.1 = none ∧ Entries.get? page.contents target = none) ∧
      (∀ target markup, run.2.destination.write target markup =
        if target ∈ targets then
          .written { run.2.destination with canvas := page.replaced target markup }
        else .undeclared) ∧
      ∀ (engine : Engine) (entry : Section),
        let rendered := engine.render entry run.2
        (∀ error, rendered.1 = .error error → rendered.2.destination = run.2.destination) ∧
        (rendered.1 = .ok () →
          ∃ template data, run.2.parts entry = (.ok template, .ok data) ∧
            entry.target ∈ targets ∧ rendered.2.destination.canvas.targets = targets ∧
            ∀ target, rendered.2.destination.canvas.get? target =
              if target = entry.target then
                some (String.ofList (engine.compiler.compile template.toList data))
              else page.get? target) := by
  intro run page
  have keeps : Keeps targets run.1 run.2.destination :=
    @Keeps.performedAll targets [] ⟨store, ⟨.ofTargets targets, []⟩⟩ (.start targets) actions
  refine ⟨keeps.snapshot_eq, keeps.get?_eq, ?_, ?_, ?_⟩
  · intro target outside
    have unwritten := keeps.undeclared outside
    exact ⟨unwritten, (keeps.held target).trans unwritten⟩
  · intro target markup
    simp only [Destination.write_unbroken keeps.unbroken, keeps.declares_iff]
    rfl
  · intro engine entry
    exact keeps.render_frame engine.compiler entry

example (store : Store) :
    (PageAction.performAll [.write "#a" "one", .write "#b" "other", .write "#a" "two"]
      ⟨store, ⟨.ofTargets ["#a", "#c"], []⟩⟩).2.destination.canvas.snapshot =
        [("#a", "two"), ("#c", "")] := by
  rfl

end Page
end MarkupTemplate
