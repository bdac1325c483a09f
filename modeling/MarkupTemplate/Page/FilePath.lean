import MarkupTemplate.Text.Basic

/-!
Paths of files as texts. Slashes divide a path into segments; the empty ones and `.` stay where
they are, `..` leads to the directory around, and a slash at the start leads to the root of the
system.
-/

namespace MarkupTemplate
namespace Page
namespace FilePath

def segments (path : String) : List String :=
  (Text.splitOn '/' path.toList).map String.ofList

def staysAt (segment : String) : Bool :=
  segment == "" || segment == "."

def named (segments : List String) : List String :=
  segments.filter fun segment => !staysAt segment

def names (path : String) : List String :=
  named (segments path)

/-- What a path says to do, one after the other. -/
inductive Component
  | systemRoot
  /-- To stay, said at the start of a path. Anywhere else it is left out. -/
  | here
  | outward
  | inward (name : String)
deriving DecidableEq, Repr

namespace Component

/-- Whether a component can lead out of the directory that a path is taken from. -/
def leaves : Component → Bool
  | .systemRoot | .outward => true
  | .here | .inward _ => false

end Component

def isAbsolute (path : String) : Bool :=
  path.toList.head? == some '/'

def start (path : String) : List Component :=
  if isAbsolute path then [.systemRoot]
  else if (segments path).head? = some "." then [.here]
  else []

def component? (segment : String) : Option Component :=
  if staysAt segment then none
  else if segment = ".." then some .outward
  else some (.inward segment)

def components (path : String) : List Component :=
  start path ++ (segments path).filterMap component?

/-- A path taken from a directory. An absolute path stays as it is. -/
def join (directory path : String) : String :=
  if isAbsolute path then path
  else
    match directory.toList.getLast? with
    | none => path
    | some '/' => directory ++ path
    | some _ => directory ++ "/" ++ path

end FilePath
end Page
end MarkupTemplate
