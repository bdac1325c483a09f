import MarkupTemplate.Page.Config
import MarkupTemplate.Page.Gathering

/-!
Engines: a compiler and a mode, which fill a page with its sections.
-/

namespace MarkupTemplate
namespace Page

structure Engine where
  compiler : Compiler
  mode : Mode

namespace Engine

def standard : Engine where
  compiler := .standard
  mode := .concurrent

def render (engine : Engine) (entry : Section) (site : Site) : Result × Site :=
  renderSection engine.compiler entry site

/-- Fills a page. The schedule is the order in which concurrent tasks move and are joined. -/
def initPage (engine : Engine) (schedule : Schedule) (entries : List Section) (site : Site) :
    Except RenderError Report × Site :=
  match engine.mode with
  | .serial => renderSerial engine.compiler entries site
  | .concurrent => renderConcurrent engine.compiler .counted schedule entries site

end Engine
end Page
end MarkupTemplate
