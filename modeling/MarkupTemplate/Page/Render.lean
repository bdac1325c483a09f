import MarkupTemplate.Compiler
import MarkupTemplate.Page.Canvas
import MarkupTemplate.Page.Loader
import MarkupTemplate.Page.Section

/-!
Rendering the sections of a page: both parts of a section are loaded, the template is compiled
against the data, and the markup is written to the target.
-/

namespace MarkupTemplate
namespace Page

inductive RenderError
  | templateMissing (name : String)
  | dataMissing (name : String)
  | destinationNotFound (target : String)
  /-- The write to the target broke off. -/
  | brokenOff (target : String)
deriving DecidableEq, Repr

def RenderError.message : RenderError → String
  | .templateMissing name => "template '" ++ name ++ "' could not be loaded"
  | .dataMissing name => "data '" ++ name ++ "' could not be loaded"
  | .destinationNotFound target => "destination '" ++ target ++ "' not found"
  | .brokenOff target => "render task for '" ++ target ++ "' panicked"

abbrev Result := Except RenderError Unit

def Result.isOk : Result → Bool
  | .ok _ => true
  | .error _ => false

structure Outcome where
  entry : Section
  result : Result

namespace Outcome

def failed (outcome : Outcome) : Bool :=
  !outcome.result.isOk

def criticalError? (outcome : Outcome) : Option RenderError :=
  match outcome.result with
  | .error error => if outcome.entry.critical then some error else none
  | .ok _ => none

end Outcome

structure Report where
  outcomes : List Outcome

namespace Report

def isSuccess (report : Report) : Bool :=
  report.outcomes.all fun outcome => outcome.result.isOk

def rendered (report : Report) : Nat :=
  report.outcomes.countP fun outcome => outcome.result.isOk

def failures (report : Report) : List Outcome :=
  report.outcomes.filter Outcome.failed

end Report

structure Site where
  store : Store
  destination : Destination

def publish (compiler : Compiler) (entry : Section) (template : String) (data : Json)
    (destination : Destination) : Result × Destination :=
  let markup := String.ofList (compiler.compile template.toList data)
  match destination.write entry.target markup with
  | .written written => (.ok (), written)
  | .undeclared => (.error (.destinationNotFound entry.target), destination)
  | .brokenOff => (.error (.brokenOff entry.target), destination)

def conclude (compiler : Compiler) (entry : Section) (template : Option String)
    (data : Option Json) (destination : Destination) : Result × Destination :=
  match template, data with
  | none, _ => (.error (.templateMissing entry.template), destination)
  | some _, none => (.error (.dataMissing entry.data), destination)
  | some template, some data => publish compiler entry template data destination

/-- Renders one section. The data is loaded even if the template is missing. -/
def renderSection (compiler : Compiler) (entry : Section) (site : Site) : Result × Site :=
  let (template, store) := site.store.loadTemplate entry.template
  let (data, store) := store.loadData entry.data
  let (result, destination) :=
    conclude compiler entry template.toOption data.toOption site.destination
  (result, { store := store, destination := destination })

/-- Renders sections one after the other, up to the first failure of a critical one. -/
def renderSerial (compiler : Compiler) : List Section → Site → Except RenderError Report × Site
  | [], site => (.ok ⟨[]⟩, site)
  | entry :: entries, site =>
      let (result, site) := renderSection compiler entry site
      let outcome : Outcome := ⟨entry, result⟩
      match outcome.criticalError? with
      | some error => (.error error, site)
      | none =>
          match renderSerial compiler entries site with
          | (.error error, site) => (.error error, site)
          | (.ok report, site) => (.ok ⟨outcome :: report.outcomes⟩, site)

end Page
end MarkupTemplate
