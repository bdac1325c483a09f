/-!
Where templates and data documents are kept: the keys of a source for their names.
-/

namespace MarkupTemplate
namespace Page

structure KeyLayout where
  templateDir : String
  templateExt : String
  dataDir : String
deriving DecidableEq, Repr

namespace KeyLayout

def standard : KeyLayout where
  templateDir := "templates"
  templateExt := "asth"
  dataDir := "data"

/-- A file in a directory. Slashes at the end of the directory do not count, and a directory of
nothing else is none. -/
def joinKey (dir file : String) : String :=
  let trimmed := (dir.toList.reverse.dropWhile (· == '/')).reverse
  if trimmed.isEmpty then file else String.ofList trimmed ++ "/" ++ file

def templateKey (layout : KeyLayout) (name : String) : String :=
  joinKey layout.templateDir (name ++ "." ++ layout.templateExt)

def dataKey (layout : KeyLayout) (name : String) : String :=
  joinKey layout.dataDir (name ++ ".json")

end KeyLayout
end Page
end MarkupTemplate
