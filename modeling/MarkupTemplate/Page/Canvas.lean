import MarkupTemplate.Entries

/-!
What a page shows: markup in declared targets. A write to any other target is refused, and a
destination can have targets on which a write breaks off.
-/

namespace MarkupTemplate
namespace Page

structure Canvas where
  /-- The declared targets, in order. -/
  targets : List String
  /-- The markup of the targets that were written to. -/
  contents : List (String × String)
deriving Repr

namespace Canvas

def ofTargets (targets : List String) : Canvas where
  targets := targets
  contents := []

def declares (canvas : Canvas) (target : String) : Bool :=
  canvas.targets.contains target

/-- The markup of a target, which is empty before the first write. -/
def content (canvas : Canvas) (target : String) : String :=
  (Entries.get? canvas.contents target).getD ""

def get? (canvas : Canvas) (target : String) : Option String :=
  if canvas.declares target then some (canvas.content target) else none

def write? (canvas : Canvas) (target markup : String) : Option Canvas :=
  if canvas.declares target then
    some { canvas with contents := Entries.put canvas.contents target markup }
  else none

def snapshot (canvas : Canvas) : List (String × String) :=
  canvas.targets.map fun target => (target, canvas.content target)

end Canvas

structure Destination where
  canvas : Canvas
  /-- The targets on which a write breaks off. -/
  broken : List String
deriving Repr

inductive WriteResult
  | written (destination : Destination)
  | undeclared
  | brokenOff

namespace Destination

def write (destination : Destination) (target markup : String) : WriteResult :=
  if destination.broken.contains target then .brokenOff
  else
    match destination.canvas.write? target markup with
    | some canvas => .written { destination with canvas := canvas }
    | none => .undeclared

end Destination
end Page
end MarkupTemplate
