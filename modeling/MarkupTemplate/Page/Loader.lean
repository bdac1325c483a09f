import MarkupTemplate.Json.Reader
import MarkupTemplate.Page.KeyLayout
import MarkupTemplate.Page.Source

/-!
Loading templates and data documents by name. Each successful load is remembered under its name
until the loader forgets everything; templates and documents are remembered apart.
-/

namespace MarkupTemplate
namespace Page

inductive Resource
  | template
  | document
deriving DecidableEq, Repr

namespace Resource

/-- What a resource is once its text has been read. -/
abbrev Value : Resource → Type
  | .template => String
  | .document => Json

def key (layout : KeyLayout) (name : String) : Resource → String
  | .template => layout.templateKey name
  | .document => layout.dataKey name

def decode (key text : String) : (kind : Resource) → Except LoadError kind.Value
  | .template => .ok text
  | .document =>
      match Json.document? text.toList with
      | some value => .ok value
      | none => .error (.invalidJson key)

end Resource

structure Loader where
  layout : KeyLayout
  templates : Entries String
  documents : Entries Json

namespace Loader

def ofLayout (layout : KeyLayout) : Loader where
  layout := layout
  templates := []
  documents := []

def forget (loader : Loader) : Loader :=
  ofLayout loader.layout

def remembered (loader : Loader) : (kind : Resource) → Entries kind.Value
  | .template => loader.templates
  | .document => loader.documents

def remember (loader : Loader) (name : String) : (kind : Resource) → kind.Value → Loader
  | .template, text => { loader with templates := Entries.put loader.templates name text }
  | .document, value => { loader with documents := Entries.put loader.documents name value }

theorem remembered_ofLayout (layout : KeyLayout) (kind : Resource) :
    (ofLayout layout).remembered kind = [] := by
  cases kind <;> rfl

theorem layout_remember (loader : Loader) (name : String) (kind : Resource) (value : kind.Value) :
    (loader.remember name kind value).layout = loader.layout := by
  cases kind <;> rfl

theorem remembered_remember_self
    (loader : Loader) (name : String) (kind : Resource) (value : kind.Value) :
    (loader.remember name kind value).remembered kind =
      Entries.put (loader.remembered kind) name value := by
  cases kind <;> rfl

theorem remembered_remember_other
    (loader : Loader) (name : String) {kind other : Resource} (value : kind.Value)
    (different : other ≠ kind) :
    (loader.remember name kind value).remembered other = loader.remembered other := by
  cases kind <;> cases other <;> first | rfl | contradiction

end Loader

structure Store where
  feed : Feed
  loader : Loader

namespace Store

def cached? (store : Store) (kind : Resource) (name : String) : Option kind.Value :=
  Entries.get? (store.loader.remembered kind) name

def fetch (store : Store) (kind : Resource) (name : String) :
    Except LoadError kind.Value × Store :=
  let key := kind.key store.loader.layout name
  match store.feed.fetch key with
  | (.error error, feed) => (.error error, { store with feed := feed })
  | (.ok text, feed) => (kind.decode key text, { store with feed := feed })

/-- Remembers the answer to a fetch, unless it is an error. -/
def keep (store : Store) (kind : Resource) (name : String) : Except LoadError kind.Value → Store
  | .error _ => store
  | .ok value => { store with loader := store.loader.remember name kind value }

def load (store : Store) (kind : Resource) (name : String) :
    Except LoadError kind.Value × Store :=
  match store.cached? kind name with
  | some value => (.ok value, store)
  | none =>
      let (answer, store) := store.fetch kind name
      (answer, store.keep kind name answer)

def loadTemplate (store : Store) (name : String) : Except LoadError String × Store :=
  store.load .template name

def loadData (store : Store) (name : String) : Except LoadError Json × Store :=
  store.load .document name

def forget (store : Store) : Store :=
  { store with loader := store.loader.forget }

end Store
end Page
end MarkupTemplate
