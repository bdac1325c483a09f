import MarkupTemplate.Page.Loader

/-!
What one load does to a store. It answers what is remembered, or else what the source gives at that
moment; only in the second case the source is asked, and only a success is remembered.
-/

namespace MarkupTemplate
namespace Page

def Resource.given (kind : Resource) (layout : KeyLayout) (source : Source) (name : String) :
    Except LoadError kind.Value :=
  (source.fetch (kind.key layout name)).bind (kind.decode (kind.key layout name))

namespace Store

def given (store : Store) (kind : Resource) (name : String) : Except LoadError kind.Value :=
  kind.given store.loader.layout store.feed.source name

def asked (store : Store) : Store :=
  { store with feed := { store.feed with fetches := store.feed.fetches + 1 } }

theorem cached?_asked (store : Store) (kind : Resource) (name : String) :
    store.asked.cached? kind name = store.cached? kind name :=
  rfl

theorem fetch_eq (store : Store) (kind : Resource) (name : String) :
    store.fetch kind name = (store.given kind name, store.asked) := by
  simp only [fetch, Feed.fetch, given, Resource.given]
  cases store.feed.source.fetch (kind.key store.loader.layout name) <;> rfl

theorem load_of_cached
    {store : Store} {kind : Resource} {name : String} {value : kind.Value}
    (cached : store.cached? kind name = some value) :
    store.load kind name = (.ok value, store) := by
  simp only [load, cached]

theorem load_of_missed
    {store : Store} {kind : Resource} {name : String}
    (missed : store.cached? kind name = none) :
    store.load kind name =
      (store.given kind name, store.asked.keep kind name (store.given kind name)) := by
  simp only [load, missed, fetch_eq]

theorem feed_keep
    (store : Store) (kind : Resource) (name : String) (answer : Except LoadError kind.Value) :
    (store.keep kind name answer).feed = store.feed := by
  cases answer <;> rfl

theorem layout_keep
    (store : Store) (kind : Resource) (name : String) (answer : Except LoadError kind.Value) :
    (store.keep kind name answer).loader.layout = store.loader.layout := by
  cases answer with
  | error => rfl
  | ok value => exact Loader.layout_remember ..

theorem cached?_keep_self
    (store : Store) (kind : Resource) (name : String) (value : kind.Value) (asked : String) :
    (store.keep kind name (.ok value)).cached? kind asked =
      if asked = name then some value else store.cached? kind asked := by
  simp only [cached?, keep, Loader.remembered_remember_self]
  split
  · next same => rw [same, Entries.get?_put_self]
  · next different => rw [Entries.get?_put_of_ne _ _ different]

theorem cached?_keep_other
    (store : Store) {kind other : Resource} (name : String)
    (answer : Except LoadError kind.Value) (different : other ≠ kind) (asked : String) :
    (store.keep kind name answer).cached? other asked = store.cached? other asked := by
  cases answer with
  | error => rfl
  | ok value => simp only [cached?, keep, Loader.remembered_remember_other _ _ _ different]

end Store
end Page
end MarkupTemplate
