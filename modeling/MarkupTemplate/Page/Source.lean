import MarkupTemplate.Page.FileTree

/-!
Sources of raw text: entries held in memory, files under a root directory, or anything else that
answers to keys. A feed counts how often its source was asked.
-/

namespace MarkupTemplate
namespace Page

inductive LoadError
  | notFound (key : String)
  /-- The key leads out of the root directory, or nowhere in it. -/
  | pathEscape (key : String)
  | unreadable (key : String)
  | invalidJson (key : String)
deriving DecidableEq, Repr

namespace LoadError

def key : LoadError → String
  | .notFound key => key
  | .pathEscape key => key
  | .unreadable key => key
  | .invalidJson key => key

/-- The texts of the errors that do not depend on the system or a syntax. -/
def message? : LoadError → Option String
  | .notFound key => some ("resource '" ++ key ++ "' not found")
  | .pathEscape key => some ("resource key '" ++ key ++ "' escapes the source root")
  | .unreadable _ => none
  | .invalidJson _ => none

end LoadError

inductive Source
  | memory (entries : List (String × String))
  | files (root : FileTree)
  /-- A source of another kind, told by its answers. -/
  | custom (answer : String → Except LoadError String)

namespace Source

/-- The path of the file that a key means under a root directory. A key is refused if it says
nothing, or if a component of it can lead out of the root. -/
def resolve (root key : String) : Except LoadError String :=
  if key == "" || (FilePath.components key).any FilePath.Component.leaves then
    .error (.pathEscape key)
  else .ok (FilePath.join root key)

/-- Reads a file under a root directory, which is where paths in its tree start. -/
def readFile (root : FileTree) (key : String) : Except LoadError String :=
  match resolve "" key with
  | .error error => .error error
  | .ok path =>
      match root.read path with
      | .ok text => .ok text
      | .error .absent => .error (.notFound key)
      | .error .unreadable => .error (.unreadable key)

def fetch : Source → String → Except LoadError String
  | .memory entries, key =>
      match Entries.get? entries key with
      | some text => .ok text
      | none => .error (.notFound key)
  | .files root, key => readFile root key
  | .custom answer, key => answer key

/-- Sets an entry held in memory. No other source is changed. -/
def insert (source : Source) (key text : String) : Source :=
  match source with
  | .memory entries => .memory (Entries.put entries key text)
  | other => other

def remove (source : Source) (key : String) : Option String × Source :=
  match source with
  | .memory entries => (Entries.get? entries key, .memory (Entries.remove entries key))
  | other => (none, other)

end Source

structure Feed where
  source : Source
  /-- How often the source was asked. -/
  fetches : Nat

namespace Feed

def fetch (feed : Feed) (key : String) : Except LoadError String × Feed :=
  (feed.source.fetch key, { feed with fetches := feed.fetches + 1 })

end Feed
end Page
end MarkupTemplate
