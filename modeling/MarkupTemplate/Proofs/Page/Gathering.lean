import MarkupTemplate.Page.Gathering
import MarkupTemplate.Proofs.Page.Tasks

/-!
Results in declared order. Whatever the order in which tasks are joined, what arrives is entered at
the position of the task that left it: a result at the position that came with it, and the end of a
task that broke off at the one its id leads to. So each section is reported with the result of its
own task.
-/

namespace MarkupTemplate
namespace Page

/-- An id leads to the position that it was given for. -/
theorem Naming.lookup_positions (naming : Naming) {position count : Nat}
    (inside : position < count) :
    (naming.positions count).lookup (naming.id position) = some position := by
  induction count with
  | zero => contradiction
  | succ count ih =>
      rw [positions, List.range_succ, List.map_append, ← positions, List.lookup_append]
      rcases Nat.lt_succ_iff_lt_or_eq.1 inside with earlier | rfl
      · rw [ih earlier, Option.some_or]
      · have absent : (naming.positions position).lookup (naming.id position) = none := by
          rw [List.lookup_eq_none_iff]
          intro named member
          obtain ⟨other, earlier, rfl⟩ := List.mem_map.1 member
          have different : position ≠ other := Nat.ne_of_gt (List.mem_range.1 earlier)
          exact bne_iff_ne.2 fun same => different (naming.distinct same)
        rw [absent, Option.none_or]
        simp

/-- A section breaks off only at its own target. -/
theorem target_of_brokenOff
    {compiler : Compiler} {entry : Section} {template : Option String} {data : Option Json}
    {destination : Destination} {target : String}
    (broken : (conclude compiler entry template data destination).1 = .error (.brokenOff target)) :
    target = entry.target := by
  cases template with
  | none => simp [conclude] at broken
  | some template =>
      cases data with
      | none => simp [conclude] at broken
      | some data =>
          simp only [conclude, publish] at broken
          split at broken
          · contradiction
          · simp at broken
          · simpa using broken.symm

namespace Task

/-- What a task has come to; one without a result counts as broken off. -/
def outcome (task : Task) : Outcome where
  entry := task.entry
  result := task.result.getD (.error (.brokenOff task.entry.target))

def BreaksAtOwn (task : Task) : Prop :=
  ∀ target, task.result = some (.error (.brokenOff target)) → target = task.entry.target

theorem breaksAtOwn_move
    {task : Task} (own : task.BreaksAtOwn) (compiler : Compiler) (site : Site) (move : Move) :
    (task.move compiler site move).1.BreaksAtOwn := by
  intro target broken
  rw [entry_move]
  cases move with
  | load kind =>
      rw [Task.move, result_advance] at broken
      exact own target broken
  | conclude =>
      rcases conclude_cases compiler task site with idle | ⟨_, _, _, _, _, concluded⟩
      · rw [Task.move, idle] at broken
        exact own target broken
      · rw [Task.move, concluded] at broken
        exact target_of_brokenOff (Option.some.inj broken)
  | join => exact own target broken

/-- What a task leaves is entered as its result, at its position. -/
theorem enter_ending
    {naming : Naming} {entries : List Section} {position : Nat} {task : Task} {ending : Ending}
    (own : task.BreaksAtOwn) (declared : entries[position]? = some task.entry)
    (left : task.ending? naming position = some ending) (results : List (Option Result)) :
    ∃ result, task.result = some result ∧
      ending.enter naming entries results = results.set position (some result) := by
  obtain ⟨result, result_eq, rfl⟩ := Option.map_eq_some_iff.1 left
  refine ⟨result, result_eq, ?_⟩
  have inside : position < entries.length := (List.getElem?_eq_some_iff.1 declared).1
  split
  · next target =>
      obtain rfl := own target result_eq
      simp only [Ending.enter, naming.lookup_positions inside, declared]
  · rfl

end Task

theorem joining_succ (count : Nat) : joining (count + 1) = joining count ++ [(count, .join)] := by
  simp [joining, List.range_succ]

theorem Crew.run_joining (compiler : Compiler) (crew : Crew) (count : Nat) :
    crew.run compiler (joining count) = crew := by
  induction count with
  | zero => rfl
  | succ count ih =>
      rw [joining_succ, run_append, ih]
      exact step_join compiler crew count

namespace Gathering

/-- A gathering at work on sections: the results that have arrived are those of the tasks that have
been joined. -/
structure Sorted (sections : List Section) (gathering : Gathering) : Prop where
  entries : gathering.crew.tasks.map Task.entry = sections
  own : ∀ task ∈ gathering.crew.tasks, task.BreaksAtOwn
  count : gathering.results.length = sections.length
  arrived : ∀ position ∈ gathering.joined, ∃ task result,
    gathering.crew.tasks[position]? = some task ∧ task.result = some result ∧
      gathering.results[position]? = some (some result)

section Stepping

variable {compiler : Compiler} {naming : Naming} {entries : List Section} {gathering : Gathering}

theorem sorted_start (entries : List Section) (site : Site) :
    (start entries site).Sorted entries where
  entries := by simp [start, Function.comp_def, Task.ofSection]
  own := by
    intro task member target broken
    obtain ⟨entry, _, rfl⟩ := List.mem_map.1 member
    cases broken
  count := List.length_map ..
  arrived := by simp [start]

/-- Moves of tasks leave the results of those that have been joined as they are. -/
theorem step_sorted (sorted : gathering.Sorted entries) (turn : Nat × Move) :
    Sorted entries { gathering with crew := gathering.crew.step compiler turn } := by
  cases found : gathering.crew.tasks[turn.1]? with
  | none =>
      simp only [Crew.step, found]
      exact sorted
  | some task =>
      obtain ⟨before, after, tasks_eq, set_eq⟩ := Crew.split_at found
      refine ⟨?_, ?_, sorted.count, ?_⟩
      · simp only [Crew.step, found, set_eq]
        rw [← sorted.entries, tasks_eq]
        simp only [List.map_append, List.map_cons, Task.entry_move]
      · simp only [Crew.step, found]
        intro other member
        rcases List.mem_or_eq_of_mem_set member with old | rfl
        · exact sorted.own other old
        · exact Task.breaksAtOwn_move (sorted.own task (List.mem_of_getElem? found)) compiler _ _
      · intro position joined
        obtain ⟨other, result, there, ended, arrived⟩ := sorted.arrived position joined
        simp only [Crew.tasks_step, there]
        split
        · exact ⟨_, result, rfl, Task.result_move ended _ _, arrived⟩
        · exact ⟨other, result, rfl, ended, arrived⟩

theorem crew_join (position : Nat) :
    (gathering.join naming entries position).crew = gathering.crew := by
  unfold join
  split
  · rfl
  · split <;> rfl

theorem join_sorted (sorted : gathering.Sorted entries) (position : Nat) :
    (gathering.join naming entries position).Sorted entries := by
  unfold join
  split
  · exact sorted
  · split
    · exact sorted
    · next fresh _ ending left =>
        obtain ⟨task, found, left⟩ := Option.bind_eq_some_iff.1 left
        have declared : entries[position]? = some task.entry := by
          rw [← sorted.entries, List.getElem?_map, found, Option.map_some]
        have inside : position < gathering.results.length := by
          rw [sorted.count]
          exact (List.getElem?_eq_some_iff.1 declared).1
        obtain ⟨result, ended, entered⟩ := Task.enter_ending
          (sorted.own task (List.mem_of_getElem? found)) declared left gathering.results
        refine ⟨sorted.entries, sorted.own, ?_, ?_⟩
        · simp only [entered, List.length_set, sorted.count]
        · simp only [entered]
          intro other joined
          rcases List.mem_cons.1 joined with rfl | earlier
          · exact ⟨task, result, found, ended, List.getElem?_set_self inside⟩
          · have different : position ≠ other := fun same => fresh (same ▸ earlier)
            rw [List.getElem?_set_ne different]
            exact sorted.arrived other earlier

theorem run_sorted (sorted : gathering.Sorted entries) (schedule : Schedule) :
    (gathering.run compiler naming entries schedule).Sorted entries := by
  induction schedule generalizing gathering with
  | nil => exact sorted
  | cons turn schedule ih =>
      apply ih
      obtain ⟨position, move⟩ := turn
      cases move with
      | load kind => exact step_sorted sorted _
      | conclude => exact step_sorted sorted _
      | join => exact join_sorted sorted position

theorem crew_run (compiler : Compiler) (naming : Naming) (entries : List Section)
    (gathering : Gathering) (schedule : Schedule) :
    (gathering.run compiler naming entries schedule).crew =
      gathering.crew.run compiler schedule := by
  induction schedule generalizing gathering with
  | nil => rfl
  | cons turn schedule ih =>
      refine (ih _).trans ?_
      obtain ⟨position, move⟩ := turn
      cases move with
      | load kind => rfl
      | conclude => rfl
      | join =>
          refine congrArg (fun crew => Crew.run compiler crew schedule) ?_
          exact (crew_join position).trans (Crew.step_join compiler gathering.crew position).symm

theorem joined_join {position : Nat} (joined : position ∈ gathering.joined) (other : Nat) :
    position ∈ (gathering.join naming entries other).joined := by
  unfold join
  split
  · exact joined
  · split
    · exact joined
    · exact List.mem_cons_of_mem _ joined

theorem joined_of_ended {position : Nat} (ended : gathering.crew.Ended position) :
    position ∈ (gathering.join naming entries position).joined := by
  obtain ⟨task, found, has_result⟩ := ended
  obtain ⟨result, result_eq⟩ := Option.isSome_iff_exists.1 has_result
  unfold join
  split
  · next joined => exact joined
  · simp only [found, Option.bind_some, Task.ending?, result_eq, Option.map_some]
    exact List.mem_cons_self

theorem joined_joining
    {count position : Nat} (ended : ∀ other < count, gathering.crew.Ended other)
    (inside : position < count) :
    position ∈ (gathering.run compiler naming entries (joining count)).joined := by
  induction count with
  | zero => contradiction
  | succ count ih =>
      have earlier := ih fun other below => ended other (by omega)
      rw [joining_succ, run, List.foldl_append]
      change position ∈ ((gathering.run compiler naming entries (joining count)).join naming entries
        count).joined
      rcases Nat.lt_succ_iff_lt_or_eq.1 inside with below | rfl
      · exact joined_join (earlier below) count
      · apply joined_of_ended
        rw [crew_run, Crew.run_joining]
        exact ended position (Nat.lt_succ_self position)

end Stepping

/-- Once every task has been joined, each section is reported with what its task has come to. -/
theorem outcomes_of_joined
    {entries : List Section} {gathering : Gathering} (sorted : gathering.Sorted entries)
    (all_joined : ∀ position < entries.length, position ∈ gathering.joined) :
    gathering.outcomes entries = gathering.crew.tasks.map Task.outcome := by
  have same_length : gathering.crew.tasks.length = entries.length := by
    rw [← sorted.entries, List.length_map]
  have results_eq : gathering.results = gathering.crew.tasks.map Task.result := by
    apply List.ext_getElem (by rw [sorted.count, List.length_map, same_length])
    intro position inside _
    obtain ⟨task, result, found, ended, arrived⟩ :=
      sorted.arrived position (all_joined position (sorted.count ▸ inside))
    have task_eq := (List.getElem?_eq_some_iff.1 found).2
    have result_eq := (List.getElem?_eq_some_iff.1 arrived).2
    rw [result_eq, List.getElem_map, task_eq, ended]
  rw [outcomes, results_eq, ← sorted.entries, List.zipWith_map, List.zipWith_self]
  rfl

end Gathering

/-- Each section is reported with what its task has come to at its end, whatever the ids are and in
whatever order the tasks have been joined. -/
theorem concurrentOutcomes_eq (compiler : Compiler) (naming : Naming) (schedule : Schedule)
    (entries : List Section) (site : Site) :
    let ended := Crew.run compiler ⟨entries.map Task.ofSection, site⟩
      (schedule ++ completion entries.length)
    concurrentOutcomes compiler naming schedule entries site =
        (ended.tasks.map Task.outcome, ended.site) ∧
      ∀ task ∈ ended.tasks, task.result.isSome = true := by
  intro ended
  have counted : (entries.map Task.ofSection).length = entries.length := List.length_map ..
  have all_ended : ∀ position < entries.length, ended.Ended position := by
    intro position inside
    have reached := Crew.ended_all compiler ⟨entries.map Task.ofSection, site⟩ schedule
      (Nat.lt_of_lt_of_eq inside counted.symm)
    rwa [counted] at reached
  let before := (Gathering.start entries site).run compiler naming entries
    (schedule ++ completion entries.length)
  let gathered := before.run compiler naming entries (joining entries.length)
  have gathered_eq : gathered = (Gathering.start entries site).run compiler naming entries
      (schedule ++ completion entries.length ++ joining entries.length) :=
    List.foldl_append.symm
  have before_crew : before.crew = ended := Gathering.crew_run ..
  have gathered_crew : gathered.crew = ended := by
    rw [Gathering.crew_run, Crew.run_joining, before_crew]
  have all_joined : ∀ position < entries.length, position ∈ gathered.joined :=
    fun position inside => Gathering.joined_joining (before_crew ▸ all_ended) inside
  have sorted : gathered.Sorted entries :=
    Gathering.run_sorted (Gathering.run_sorted (Gathering.sorted_start entries site) _) _
  have outcomes_eq := Gathering.outcomes_of_joined sorted all_joined
  constructor
  · rw [concurrentOutcomes, ← gathered_eq, outcomes_eq, gathered_crew]
  · apply Crew.has_result_of_ended
    rw [Crew.length_run, counted]
    exact all_ended

/-- When all tasks have ended, each has ended as its section does alone. -/
theorem Crew.outcomes_of_ended
    {compiler : Compiler} {start : Site} {entries : List Section} {crew : Crew}
    (follows : crew.Follows compiler start entries)
    (all_ended : ∀ task ∈ crew.tasks, task.result.isSome = true) :
    crew.tasks.map Task.outcome = entries.map (start.reported compiler) ∧ crew.ended = entries := by
  rw [← follows.entries, List.map_map]
  constructor
  · apply List.map_congr_left
    intro task member
    obtain ⟨result, result_eq⟩ := Option.isSome_iff_exists.1 (all_ended task member)
    have alone := (follows.tasks task member).result result result_eq
    have entry_eq := start.reported_entry compiler task.entry
    simp only [Task.outcome, result_eq, Option.getD_some, alone, Function.comp_apply]
    exact congrArg (fun entry => Outcome.mk entry _) entry_eq.symm
  · rw [Crew.ended, ← List.filterMap_eq_map]
    apply List.filterMap_congr
    intro task member
    rw [Task.ended?, if_pos (all_ended task member)]
    rfl

/-- All sections are reported with what becomes of each alone, and the page shows those that can be
written, whatever the ids are and in whatever order the tasks have moved and been joined. -/
theorem concurrentOutcomes_alone
    (compiler : Compiler) {entries : List Section} (start : Site)
    (distinct : (entries.map Section.target).Nodup) (naming : Naming) (schedule : Schedule) :
    let ended := concurrentOutcomes compiler naming schedule entries start
    ended.1 = entries.map (start.reported compiler) ∧
      Shows compiler start (start.writable entries) ended.2.destination.canvas := by
  have follows := Crew.run_follows (Crew.follows_start compiler start entries) distinct
    (schedule ++ completion entries.length)
  obtain ⟨reported, all_ended⟩ := concurrentOutcomes_eq compiler naming schedule entries start
  obtain ⟨outcomes_eq, ended_eq⟩ := Crew.outcomes_of_ended follows all_ended
  intro ended
  rw [show ended = _ from reported]
  have page := follows.site.page
  rw [ended_eq] at page
  exact ⟨outcomes_eq, page⟩

theorem renderConcurrent_eq (compiler : Compiler) (naming : Naming) (schedule : Schedule)
    (entries : List Section) (site : Site) :
    let ended := concurrentOutcomes compiler naming schedule entries site
    renderConcurrent compiler naming schedule entries site =
      match ended.1.findSome? Outcome.criticalError? with
      | some error => (.error error, ended.2)
      | none => (.ok ⟨ended.1⟩, ended.2) := rfl

/-- Where no write breaks off, all tasks end as their sections do alone. -/
theorem renderConcurrent_ends
    (compiler : Compiler) {start : Site} {entries : List Section}
    (distinct : (entries.map Section.target).Nodup)
    (unbroken : ∀ entry ∈ entries, entry.target ∉ start.destination.broken)
    (naming : Naming) (schedule : Schedule) :
    ∃ site, Shows compiler start entries site.destination.canvas ∧
      renderConcurrent compiler naming schedule entries start =
        match (entries.map (start.outcome compiler)).findSome? Outcome.criticalError? with
        | some error => (.error error, site)
        | none => (.ok ⟨entries.map (start.outcome compiler)⟩, site) := by
  have same : entries.map (start.reported compiler) = entries.map (start.outcome compiler) :=
    List.map_congr_left fun entry member =>
      Site.reported_of_unbroken compiler (unbroken entry member)
  obtain ⟨outcomes_eq, page⟩ := concurrentOutcomes_alone compiler start distinct naming schedule
  rw [Site.writable_of_unbroken unbroken] at page
  refine ⟨_, page, ?_⟩
  rw [renderConcurrent_eq, outcomes_eq, same]

end Page
end MarkupTemplate
