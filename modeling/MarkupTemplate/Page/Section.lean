/-!
The sections of a page, and the two ways to render them.
-/

namespace MarkupTemplate
namespace Page

inductive Mode
  /-- One section after the other, in declared order. -/
  | serial
  /-- All sections at once. -/
  | concurrent
deriving DecidableEq, Repr

/-- A template and a data document, by name, and the place on the page for what they make. -/
structure Section where
  template : String
  data : String
  target : String
  /-- Whether the page fails if this section does. -/
  critical : Bool
deriving DecidableEq, Repr

end Page
end MarkupTemplate
