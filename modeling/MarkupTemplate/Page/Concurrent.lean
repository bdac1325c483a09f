import MarkupTemplate.Page.Render

/-!
Tasks that run at once. Every section is a task that loads its template and its data side by side
and then concludes; one that has ended is joined. A schedule says in which order the tasks move and
are joined. A few turns take a task from any state to its end.
-/

namespace MarkupTemplate
namespace Page

/-- How far a load has come. -/
inductive Load (α : Type)
  | waiting
  /-- The loader does not remember the name, so it is to be fetched. -/
  | missed
  /-- The source has answered, but the answer is not remembered yet. -/
  | fetched (answer : Except LoadError α)
  | settled (value : Option α)

/-- One step of a load. Other tasks may use the loader between any two of them. -/
def Load.advance {kind : Resource} (name : String) (store : Store) :
    Load kind.Value → Load kind.Value × Store
  | .waiting =>
      match store.cached? kind name with
      | some value => (.settled (some value), store)
      | none => (.missed, store)
  | .missed =>
      let (answer, store) := store.fetch kind name
      (.fetched answer, store)
  | .fetched answer => (.settled answer.toOption, store.keep kind name answer)
  | .settled value => (.settled value, store)

structure Task where
  entry : Section
  template : Load String
  data : Load Json
  result : Option Result

def Task.ofSection (entry : Section) : Task where
  entry := entry
  template := .waiting
  data := .waiting
  result := none

inductive Move
  | load (kind : Resource)
  | conclude
  /-- Whoever waits for the tasks takes what is left of one that has ended. -/
  | join
deriving DecidableEq, Repr

namespace Task

def name (task : Task) : Resource → String
  | .template => task.entry.template
  | .document => task.entry.data

def progress (task : Task) : (kind : Resource) → Load kind.Value
  | .template => task.template
  | .document => task.data

def withProgress (task : Task) : (kind : Resource) → Load kind.Value → Task
  | .template, load => { task with template := load }
  | .document, load => { task with data := load }

def advance (task : Task) (site : Site) (kind : Resource) : Task × Site :=
  let (load, store) := (task.progress kind).advance (task.name kind) site.store
  (task.withProgress kind load, { site with store := store })

def conclude (compiler : Compiler) (task : Task) (site : Site) : Task × Site :=
  match task.result, task.template, task.data with
  | none, .settled template, .settled data =>
      let (result, destination) :=
        Page.conclude compiler task.entry template data site.destination
      ({ task with result := some result }, { site with destination := destination })
  | _, _, _ => (task, site)

def move (compiler : Compiler) (task : Task) (site : Site) : Move → Task × Site
  | .load kind => task.advance site kind
  | .conclude => task.conclude compiler site
  | .join => (task, site)

end Task

/-- Tasks in declared order, and what they work on. -/
structure Crew where
  tasks : List Task
  site : Site

/-- Turns of tasks, told by their positions. -/
abbrev Schedule := List (Nat × Move)

namespace Crew

def step (compiler : Compiler) (crew : Crew) (turn : Nat × Move) : Crew :=
  match crew.tasks[turn.1]? with
  | none => crew
  | some task =>
      let (task, site) := task.move compiler crew.site turn.2
      { tasks := crew.tasks.set turn.1 task, site := site }

def run (compiler : Compiler) (crew : Crew) (schedule : Schedule) : Crew :=
  schedule.foldl (step compiler) crew

end Crew

/-- Turns that take one task from any state to its end. -/
def finalTurns (position : Nat) : Schedule :=
  [.load .template, .load .template, .load .template,
    .load .document, .load .document, .load .document, .conclude].map fun move => (position, move)

def completion (count : Nat) : Schedule :=
  (List.range count).flatMap finalTurns

end Page
end MarkupTemplate
