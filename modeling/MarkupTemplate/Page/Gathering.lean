import MarkupTemplate.Page.Concurrent

/-!
Rendering all sections at once. What tasks leave behind arrives in any order: a task that finishes
hands over its position with its result, and of a task that breaks off only its id is left. The
results are put back into declared order. Whatever a schedule leaves undone is done after it, so
every task ends and is joined once.
-/

namespace MarkupTemplate
namespace Page

/-- The ids of tasks, by position. No two tasks have the same one. -/
structure Naming where
  id : Nat → Nat
  distinct : ∀ {first second : Nat}, id first = id second → first = second

namespace Naming

def counted : Naming where
  id := fun position => position
  distinct := fun same => same

def positions (naming : Naming) (count : Nat) : List (Nat × Nat) :=
  (List.range count).map fun position => (naming.id position, position)

end Naming

/-- What is left of a task that has ended. -/
inductive Ending
  | finished (position : Nat) (result : Result)
  | brokenOff (id : Nat)

def Task.ending? (naming : Naming) (position : Nat) (task : Task) : Option Ending :=
  task.result.map fun
    | .error (.brokenOff _) => .brokenOff (naming.id position)
    | result => .finished position result

/-- Enters what is left of a task. The section of a task that broke off is found by the id. -/
def Ending.enter (naming : Naming) (entries : List Section) (results : List (Option Result)) :
    Ending → List (Option Result)
  | .finished position result => results.set position (some result)
  | .brokenOff id =>
      match (naming.positions entries.length).lookup id with
      | none => results
      | some position =>
          match entries[position]? with
          | none => results
          | some entry => results.set position (some (.error (.brokenOff entry.target)))

structure Gathering where
  crew : Crew
  /-- The positions of the tasks that have been joined. -/
  joined : List Nat
  /-- The results that have arrived, by position. -/
  results : List (Option Result)

namespace Gathering

def start (entries : List Section) (site : Site) : Gathering where
  crew := ⟨entries.map Task.ofSection, site⟩
  joined := []
  results := entries.map fun _ => none

/-- Joins a task, once it has ended and only once. -/
def join (naming : Naming) (entries : List Section) (gathering : Gathering) (position : Nat) :
    Gathering :=
  if position ∈ gathering.joined then gathering
  else
    match gathering.crew.tasks[position]?.bind (Task.ending? naming position) with
    | none => gathering
    | some ending =>
        { gathering with
          joined := position :: gathering.joined
          results := ending.enter naming entries gathering.results }

def step (compiler : Compiler) (naming : Naming) (entries : List Section) (gathering : Gathering)
    (turn : Nat × Move) : Gathering :=
  match turn.2 with
  | .join => gathering.join naming entries turn.1
  | _ => { gathering with crew := gathering.crew.step compiler turn }

def run (compiler : Compiler) (naming : Naming) (entries : List Section) (gathering : Gathering)
    (schedule : Schedule) : Gathering :=
  schedule.foldl (step compiler naming entries) gathering

/-- A section whose result never arrived counts as broken off. -/
def outcomes (entries : List Section) (gathering : Gathering) : List Outcome :=
  entries.zipWith (fun entry result => ⟨entry, result.getD (.error (.brokenOff entry.target))⟩)
    gathering.results

end Gathering

def joining (count : Nat) : Schedule :=
  (List.range count).map fun position => (position, .join)

def concurrentOutcomes (compiler : Compiler) (naming : Naming) (schedule : Schedule)
    (entries : List Section) (site : Site) : List Outcome × Site :=
  let ended := (Gathering.start entries site).run compiler naming entries
    (schedule ++ completion entries.length ++ joining entries.length)
  (ended.outcomes entries, ended.crew.site)

/-- Renders sections at once. All of them end; then the first critical failure in declared order
counts. -/
def renderConcurrent (compiler : Compiler) (naming : Naming) (schedule : Schedule)
    (entries : List Section) (site : Site) : Except RenderError Report × Site :=
  let (outcomes, site) := concurrentOutcomes compiler naming schedule entries site
  match outcomes.findSome? Outcome.criticalError? with
  | some error => (.error error, site)
  | none => (.ok ⟨outcomes⟩, site)

end Page
end MarkupTemplate
