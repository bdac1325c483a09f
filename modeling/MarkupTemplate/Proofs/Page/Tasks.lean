import Mathlib.Tactic.Tauto
import MarkupTemplate.Page.Concurrent
import MarkupTemplate.Proofs.Page.Filling

/-!
Concurrent tasks. Whatever the order in which they move, every load answers as it does at the
start, so every task ends as its section does alone, whether other writes break off or not; and
every task ends.
-/

namespace MarkupTemplate
namespace Page

/-- Where a load stands: what it has found so far is what a load answers at the start. -/
def Load.Follows (start : Store) (kind : Resource) (name : String) : Load kind.Value → Prop
  | .waiting => True
  | .missed => start.cached? kind name = none
  | .fetched answer => answer = (start.load kind name).1
  | .settled value => value = (start.load kind name).1.toOption

theorem Load.advance_follows
    {start store : Store} (grown : Store.GrownFrom start store) (kind : Resource) (name : String)
    {load : Load kind.Value} (follows : load.Follows start kind name) :
    (load.advance name store).1.Follows start kind name ∧
      Store.GrownFrom start (load.advance name store).2 := by
  cases load with
  | waiting =>
      cases cached : store.cached? kind name with
      | some value =>
          simp only [advance, cached, Follows]
          exact ⟨by rw [grown.known kind name value cached]; rfl, grown⟩
      | none =>
          simp only [advance, cached, Follows]
          exact ⟨grown.kept kind name cached, grown⟩
  | missed =>
      simp only [advance, Store.fetch_eq, Follows]
      exact ⟨grown.given_eq follows, grown.asked⟩
  | fetched answer =>
      simp only [advance, Follows]
      exact ⟨by rw [follows], grown.keep follows⟩
  | settled value => exact ⟨follows, grown⟩

namespace Task

structure Follows (compiler : Compiler) (start : Site) (task : Task) : Prop where
  loads : ∀ kind, (task.progress kind).Follows start.store kind (task.name kind)
  result : ∀ result, task.result = some result →
    result = (start.reported compiler task.entry).result

/-- What a settled load has found is what the load answers at the start. -/
theorem Follows.settled_eq
    {compiler : Compiler} {start : Site} {task : Task} (follows : task.Follows compiler start)
    (kind : Resource) {value : Option kind.Value} (settled : task.progress kind = .settled value) :
    value = (start.store.load kind (task.name kind)).1.toOption := by
  have found := follows.loads kind
  rw [settled] at found
  exact found

theorem follows_ofSection (compiler : Compiler) (start : Site) (entry : Section) :
    (ofSection entry).Follows compiler start where
  loads kind := by cases kind <;> trivial
  result result none_eq := by cases none_eq

theorem entry_advance (task : Task) (site : Site) (kind : Resource) :
    (task.advance site kind).1.entry = task.entry := by
  cases kind <;> rfl

theorem result_advance (task : Task) (site : Site) (kind : Resource) :
    (task.advance site kind).1.result = task.result := by
  cases kind <;> rfl

theorem advance_follows
    {compiler : Compiler} {start site : Site} {task : Task}
    (grown : Store.GrownFrom start.store site.store) (follows : task.Follows compiler start)
    (kind : Resource) :
    (task.advance site kind).1.Follows compiler start ∧
      Store.GrownFrom start.store (task.advance site kind).2.store := by
  obtain ⟨moved, grown_on⟩ :=
    Load.advance_follows grown kind (task.name kind) (follows.loads kind)
  refine ⟨⟨?_, ?_⟩, grown_on⟩
  · intro other
    cases kind <;> cases other
    · exact moved
    · exact follows.loads .document
    · exact follows.loads .template
    · exact moved
  · rw [result_advance, entry_advance]
    exact follows.result

def ended? (task : Task) : Option Section :=
  if task.result.isSome then some task.entry else none

theorem mem_entries_of_ended
    {tasks : List Task} {entry : Section} (member : entry ∈ tasks.filterMap ended?) :
    entry ∈ tasks.map Task.entry := by
  obtain ⟨task, inside, ended⟩ := List.mem_filterMap.1 member
  refine List.mem_map.2 ⟨task, inside, ?_⟩
  simp only [ended?] at ended
  split at ended
  · exact Option.some.inj ended
  · contradiction

/-- A task concludes only when both of its loads are settled, and then as its section does alone. -/
theorem conclude_cases (compiler : Compiler) (task : Task) (site : Site) :
    task.conclude compiler site = (task, site) ∨
      ∃ template data, task.result = none ∧ task.template = .settled template ∧
        task.data = .settled data ∧
        task.conclude compiler site =
          ({ task with
              result := some (Page.conclude compiler task.entry template data site.destination).1 },
            { site with
              destination :=
                (Page.conclude compiler task.entry template data site.destination).2 }) := by
  obtain ⟨entry, template, data, result⟩ := task
  cases result with
  | some result => exact .inl rfl
  | none =>
      cases template with
      | settled template =>
          cases data with
          | settled data => exact .inr ⟨template, data, rfl, rfl, rfl, rfl⟩
          | _ => exact .inl rfl
      | _ => exact .inl rfl

theorem entry_move (compiler : Compiler) (task : Task) (site : Site) (move : Move) :
    (task.move compiler site move).1.entry = task.entry := by
  cases move with
  | load kind => exact entry_advance task site kind
  | conclude =>
      rcases conclude_cases compiler task site with idle | ⟨_, _, _, _, _, concluded⟩
      · rw [move, idle]
      · rw [move, concluded]
  | join => rfl

/-- A task ends once. -/
theorem result_move
    {compiler : Compiler} {task : Task} {result : Result} (ended : task.result = some result)
    (site : Site) (move : Move) :
    (task.move compiler site move).1.result = some result := by
  cases move with
  | load kind => rw [Task.move, result_advance, ended]
  | conclude =>
      rcases conclude_cases compiler task site with idle | ⟨_, _, unended, _⟩
      · rw [Task.move, idle, ended]
      · simp [ended] at unended
  | join => exact ended

end Task

namespace Crew

def ended (crew : Crew) : List Section :=
  crew.tasks.filterMap Task.ended?

/-- A crew at work on sections: what has been done so far is what each section does alone. -/
structure Follows (compiler : Compiler) (start : Site) (entries : List Section) (crew : Crew) :
    Prop where
  entries : crew.tasks.map Task.entry = entries
  tasks : ∀ task ∈ crew.tasks, task.Follows compiler start
  site : Filled compiler start (start.writable crew.ended) crew.site

theorem split_at {tasks : List Task} {position : Nat} {task : Task}
    (found : tasks[position]? = some task) :
    ∃ before after, tasks = before ++ task :: after ∧
      ∀ moved, tasks.set position moved = before ++ moved :: after := by
  obtain ⟨inside, rfl⟩ := List.getElem?_eq_some_iff.1 found
  refine ⟨tasks.take position, tasks.drop (position + 1), ?_, ?_⟩
  · rw [List.getElem_cons_drop, List.take_append_drop]
  · intro moved
    exact List.set_eq_take_append_cons_drop .. |>.trans (if_pos inside)

theorem step_join (compiler : Compiler) (crew : Crew) (position : Nat) :
    crew.step compiler (position, .join) = crew := by
  cases found : crew.tasks[position]? with
  | none => simp only [step, found]
  | some task =>
      obtain ⟨before, after, tasks_eq, set_eq⟩ := split_at found
      simp only [step, found, Task.move, set_eq, ← tasks_eq]

theorem set_follows
    {compiler : Compiler} {start site : Site} {entries : List Section} {crew : Crew}
    {position : Nat} {task moved : Task}
    (follows : crew.Follows compiler start entries)
    (found : crew.tasks[position]? = some task) (entry_eq : moved.entry = task.entry)
    (moved_follows : moved.Follows compiler start)
    (filled : Filled compiler start
      (start.writable (ended ⟨crew.tasks.set position moved, site⟩)) site) :
    Follows compiler start entries ⟨crew.tasks.set position moved, site⟩ where
  entries := by
    obtain ⟨before, after, tasks_eq, set_eq⟩ := split_at found
    rw [← follows.entries, set_eq, tasks_eq]
    simp only [List.map_append, List.map_cons, entry_eq]
  tasks := by
    intro other member
    rcases List.mem_or_eq_of_mem_set member with old | rfl
    · exact follows.tasks other old
    · exact moved_follows
  site := filled

theorem follows_start (compiler : Compiler) (start : Site) (entries : List Section) :
    Follows compiler start entries ⟨entries.map Task.ofSection, start⟩ where
  entries := by simp [Function.comp_def, Task.ofSection]
  tasks := by
    intro task member
    obtain ⟨entry, _, rfl⟩ := List.mem_map.1 member
    exact Task.follows_ofSection compiler start entry
  site := by
    have none_ended : ended ⟨entries.map Task.ofSection, start⟩ = [] := by
      simp [ended, Task.ended?, Task.ofSection]
    rw [none_ended]
    exact filled_start compiler start

section Stepping

variable {compiler : Compiler} {start : Site} {entries : List Section} {crew : Crew}

theorem advance_follows
    {position : Nat} {task : Task}
    (follows : crew.Follows compiler start entries)
    (found : crew.tasks[position]? = some task) (kind : Resource) :
    Follows compiler start entries
      ⟨crew.tasks.set position (task.advance crew.site kind).1,
        (task.advance crew.site kind).2⟩ := by
  obtain ⟨moved, grown⟩ := Task.advance_follows follows.site.store
    (follows.tasks task (List.mem_of_getElem? found)) kind
  refine set_follows follows found (Task.entry_advance ..) moved ⟨grown, ?_, follows.site.broken⟩
  have unended : (task.advance crew.site kind).1.ended? = task.ended? := by
    rw [Task.ended?, Task.ended?, Task.result_advance, Task.entry_advance]
  obtain ⟨before, after, tasks_eq, set_eq⟩ := split_at found
  have ended_eq : ended ⟨crew.tasks.set position (task.advance crew.site kind).1,
      (task.advance crew.site kind).2⟩ = crew.ended := by
    simp only [ended, set_eq]
    simp only [tasks_eq, List.filterMap_append, List.filterMap_cons, unended]
  rw [ended_eq]
  exact follows.site.page

/-- A task that concludes adds its section to those on the page. -/
theorem conclude_follows
    {position : Nat} {task : Task}
    (follows : crew.Follows compiler start entries)
    (distinct : (entries.map Section.target).Nodup)
    (found : crew.tasks[position]? = some task) :
    Follows compiler start entries
      ⟨crew.tasks.set position (task.conclude compiler crew.site).1,
        (task.conclude compiler crew.site).2⟩ := by
  have task_follows := follows.tasks task (List.mem_of_getElem? found)
  obtain ⟨before, after, tasks_eq, set_eq⟩ := split_at found
  rcases Task.conclude_cases compiler task crew.site with
    idle | ⟨template, data, unended, template_settled, data_settled, concluded⟩
  · rw [idle, set_eq, ← tasks_eq]
    exact follows
  · have template_eq : template =
        (start.store.load .template task.entry.template).1.toOption :=
      task_follows.settled_eq .template template_settled
    have data_eq : data = (start.store.load .document task.entry.data).1.toOption :=
      task_follows.settled_eq .document data_settled
    have ended_eq : crew.ended = before.filterMap Task.ended? ++ after.filterMap Task.ended? := by
      simp [ended, tasks_eq, Task.ended?, unended]
    have entries_eq : entries = before.map Task.entry ++ task.entry :: after.map Task.entry := by
      rw [← follows.entries, tasks_eq, List.map_append, List.map_cons]
    have fresh : ∀ other ∈ crew.ended, other.target ≠ task.entry.target := by
      intro other member
      apply fresh_of_distinct (entries_eq ▸ distinct)
      rw [ended_eq, ← List.filterMap_append] at member
      rw [← List.map_append]
      exact Task.mem_entries_of_ended member
    obtain ⟨result_eq, page, broken⟩ :=
      conclude_reported follows.site.page follows.site.broken fresh
    rw [← template_eq, ← data_eq] at result_eq page broken
    rw [concluded]
    refine set_follows follows found rfl ?_ ⟨follows.site.store, ?_, broken⟩
    · refine ⟨fun kind => ?_, ?_⟩
      · cases kind
        · exact task_follows.loads .template
        · exact task_follows.loads .document
      · intro result some_eq
        exact Option.some.inj some_eq ▸ result_eq
    · apply page.congr
      intro entry
      rw [ended_eq]
      simp only [ended, set_eq, List.filterMap_append, List.filterMap_cons, Task.ended?,
        Option.isSome_some, if_true, Site.writable, List.mem_filter, List.mem_append, List.mem_cons,
        List.not_mem_nil, or_false]
      tauto

theorem step_follows
    (follows : crew.Follows compiler start entries)
    (distinct : (entries.map Section.target).Nodup)
    (turn : Nat × Move) :
    (crew.step compiler turn).Follows compiler start entries := by
  obtain ⟨position, move⟩ := turn
  cases found : crew.tasks[position]? with
  | none =>
      simp only [step, found]
      exact follows
  | some task =>
      simp only [step, found]
      cases move with
      | load kind => exact advance_follows follows found kind
      | conclude => exact conclude_follows follows distinct found
      | join =>
          have unmoved := step_join compiler crew position
          simp only [step, found] at unmoved
          rw [unmoved]
          exact follows

theorem run_follows
    (follows : crew.Follows compiler start entries)
    (distinct : (entries.map Section.target).Nodup)
    (schedule : Schedule) :
    (crew.run compiler schedule).Follows compiler start entries := by
  induction schedule generalizing crew with
  | nil => exact follows
  | cons turn schedule ih => exact ih (step_follows follows distinct turn)

end Stepping

end Crew

def Load.turns {α : Type} : Load α → Nat
  | .waiting => 3
  | .missed => 2
  | .fetched _ => 1
  | .settled _ => 0

theorem Load.turns_le {α : Type} (load : Load α) : load.turns ≤ 3 := by
  cases load <;> simp [turns]

theorem Load.turns_advance (kind : Resource) (name : String) (store : Store)
    (load : Load kind.Value) : (load.advance name store).1.turns ≤ load.turns - 1 := by
  cases load with
  | waiting => cases cached : store.cached? kind name <;> simp [advance, cached, turns]
  | missed => simp [advance, turns]
  | fetched answer => simp [advance, turns]
  | settled value => simp [advance, turns]

namespace Crew

section Ending

variable {compiler : Compiler} {crew : Crew}

theorem tasks_step (compiler : Compiler) (crew : Crew) (turn : Nat × Move) (position : Nat) :
    (crew.step compiler turn).tasks[position]? =
      if turn.1 = position then
        crew.tasks[position]?.map fun task => (task.move compiler crew.site turn.2).1
      else crew.tasks[position]? := by
  cases found : crew.tasks[turn.1]? with
  | none =>
      simp only [step, found]
      split
      · next same => rw [← same, found, Option.map_none]
      · rfl
  | some task =>
      have inside : turn.1 < crew.tasks.length := (List.getElem?_eq_some_iff.1 found).1
      simp only [step, found, List.getElem?_set, inside, if_true]
      split
      · next same => rw [← same, found, Option.map_some]
      · rfl

theorem length_run (compiler : Compiler) (crew : Crew) (schedule : Schedule) :
    (crew.run compiler schedule).tasks.length = crew.tasks.length := by
  induction schedule generalizing crew with
  | nil => rfl
  | cons turn schedule ih =>
      refine (ih _).trans ?_
      simp only [step]
      split
      · rfl
      · exact List.length_set

theorem run_append (compiler : Compiler) (crew : Crew) (first second : Schedule) :
    crew.run compiler (first ++ second) = (crew.run compiler first).run compiler second :=
  List.foldl_append

def Ended (crew : Crew) (position : Nat) : Prop :=
  ∃ task, crew.tasks[position]? = some task ∧ task.result.isSome = true

def Needs (crew : Crew) (position : Nat) (turns : Resource → Nat) : Prop :=
  ∃ task, crew.tasks[position]? = some task ∧ ∀ kind, (task.progress kind).turns ≤ turns kind

theorem needs_of_inside {position : Nat} (inside : position < crew.tasks.length) :
    crew.Needs position fun _ => 3 :=
  ⟨crew.tasks[position], List.getElem?_eq_getElem inside, fun _ => Load.turns_le _⟩

theorem needs_load
    {position : Nat} {turns : Resource → Nat} (needs : crew.Needs position turns)
    (kind : Resource) :
    (crew.step compiler (position, .load kind)).Needs position
      (Function.update turns kind (turns kind - 1)) := by
  obtain ⟨task, found, turns_le⟩ := needs
  refine ⟨(task.advance crew.site kind).1, ?_, ?_⟩
  · rw [tasks_step, if_pos rfl, found]
    rfl
  · intro other
    have fewer : ((task.progress kind).advance (task.name kind) crew.site.store).1.turns ≤
        turns kind - 1 :=
      Nat.le_trans (Load.turns_advance kind _ _ _) (Nat.sub_le_sub_right (turns_le kind) 1)
    cases kind <;> cases other
    · exact fewer
    · exact turns_le .document
    · exact turns_le .template
    · exact fewer

theorem ended_of_needs_none
    {position : Nat} {turns : Resource → Nat} (needs : crew.Needs position turns)
    (none_left : ∀ kind, turns kind = 0) :
    (crew.step compiler (position, .conclude)).Ended position := by
  obtain ⟨⟨entry, template, data, result⟩, found, turns_le⟩ := needs
  refine ⟨_, by rw [tasks_step, if_pos rfl, found]; rfl, ?_⟩
  have template_le := turns_le .template
  have data_le := turns_le .document
  rw [none_left] at template_le data_le
  cases template with
  | settled template =>
      cases data with
      | settled data => cases result <;> rfl
      | _ => simp [Load.turns, Task.progress] at data_le
  | _ => simp [Load.turns, Task.progress] at template_le

/-- Seven turns are enough for any task. -/
theorem ended_finalTurns {position : Nat} (inside : position < crew.tasks.length) :
    (crew.run compiler (finalTurns position)).Ended position := by
  -- three turns settle the template, three the data, and the last one concludes
  refine ended_of_needs_none (needs_load (needs_load (needs_load (needs_load (needs_load (needs_load
    (needs_of_inside inside) .template) .template) .template) .document) .document) .document) ?_
  intro kind
  cases kind <;> rfl

theorem ended_step {position : Nat} (ended : crew.Ended position) (turn : Nat × Move) :
    (crew.step compiler turn).Ended position := by
  obtain ⟨task, found, has_result⟩ := ended
  simp only [Ended, tasks_step, found]
  split
  · obtain ⟨result, result_eq⟩ := Option.isSome_iff_exists.1 has_result
    refine ⟨_, rfl, ?_⟩
    rw [Task.result_move result_eq, Option.isSome_some]
  · exact ⟨task, rfl, has_result⟩

theorem ended_run {position : Nat} (ended : crew.Ended position) (schedule : Schedule) :
    (crew.run compiler schedule).Ended position := by
  induction schedule generalizing crew with
  | nil => exact ended
  | cons turn schedule ih => exact ih (ended_step ended turn)

theorem ended_completion (compiler : Compiler) {count position : Nat}
    (counted : count ≤ crew.tasks.length) (inside : position < count) :
    (crew.run compiler (completion count)).Ended position := by
  induction count with
  | zero => contradiction
  | succ count ih =>
      have split : completion (count + 1) = completion count ++ finalTurns count := by
        simp [completion, List.range_succ]
      rw [split, run_append]
      rcases Nat.lt_succ_iff_lt_or_eq.1 inside with earlier | rfl
      · exact ended_run (ih (by omega) earlier) _
      · apply ended_finalTurns
        rw [length_run]
        omega

/-- Whatever a schedule leaves undone, all tasks have ended after their completion. -/
theorem ended_all (compiler : Compiler) (crew : Crew) (schedule : Schedule) {position : Nat}
    (inside : position < crew.tasks.length) :
    (crew.run compiler (schedule ++ completion crew.tasks.length)).Ended position := by
  rw [run_append]
  exact ended_completion compiler (Nat.le_of_eq (length_run compiler crew schedule).symm) inside

theorem has_result_of_ended (all_ended : ∀ position < crew.tasks.length, crew.Ended position) :
    ∀ task ∈ crew.tasks, task.result.isSome = true := by
  intro task member
  obtain ⟨position, found⟩ := List.mem_iff_getElem?.1 member
  obtain ⟨other, again, has_result⟩ := all_ended position (List.getElem?_eq_some_iff.1 found).1
  obtain rfl : task = other := Option.some.inj (found.symm.trans again)
  exact has_result

end Ending

end Crew

end Page
end MarkupTemplate
