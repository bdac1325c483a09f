import MarkupTemplate.Proofs.Page.Loading

/-!
A loader over a whole run of loads, with the loader emptied and entries of the source set and
removed in between. The reference is the history of the run alone: what a load answers is the value
of the first successful load of its kind and name since the loader was emptied, and without one it
is what the source gives now. Every load without such an earlier success asks the source once.
-/

namespace MarkupTemplate
namespace Page

/-- What is asked of a loader, or done to the source behind it. -/
inductive Request
  | load (kind : Resource) (name : String)
  | forget
  | insert (key text : String)
  | remove (key : String)

inductive Event
  | loaded (kind : Resource) (name : String) (answer : Except LoadError kind.Value)
  | forgot
  | inserted (key text : String)
  | removed (key : String) (found : Option String)

namespace Request

def edit (source : Source) : Request → Source
  | .insert key text => source.insert key text
  | .remove key => (source.remove key).2
  | .load _ _ => source
  | .forget => source

/-- Whether a request is anything but a load of another kind. -/
def concerns (kind : Resource) : Request → Bool
  | .load other _ => other == kind
  | _ => true

end Request

namespace Event

def isForgot : Event → Bool
  | .forgot => true
  | _ => false

def value? (kind : Resource) (name : String) : Event → Option kind.Value
  | .loaded other asked (.ok value) =>
      if same : other = kind then if asked = name then some (same ▸ value) else none else none
  | _ => none

def concerns (kind : Resource) : Event → Bool
  | .loaded other _ _ => other == kind
  | _ => true

theorem value?_failed (kind other : Resource) (name asked : String) (error : LoadError) :
    value? other asked (.loaded kind name (.error error)) = none :=
  rfl

theorem value?_loaded (kind : Resource) (name asked : String) (value : kind.Value) :
    value? kind asked (.loaded kind name (.ok value)) =
      if asked = name then some value else none := by
  simp [value?, eq_comm]

theorem value?_loaded_other
    {kind other : Resource} (different : kind ≠ other) (name asked : String)
    (answer : Except LoadError kind.Value) :
    value? other asked (.loaded kind name answer) = none := by
  cases answer with
  | error error => rfl
  | ok value => simp [value?, different]

end Event

def sinceForgot (history : List Event) : List Event :=
  (history.reverse.takeWhile fun event => !event.isForgot).reverse

/-- The value of the first successful load of a kind and a name since the loader was emptied. -/
def firstValue? (kind : Resource) (name : String) (history : List Event) : Option kind.Value :=
  (sinceForgot history).findSome? (Event.value? kind name)

def Event.isMiss (past : List Event) : Event → Bool
  | .loaded kind name _ => (firstValue? kind name past).isNone
  | _ => false

def misses (history : List Event) : Nat :=
  history.zipIdx.countP fun (event, position) => event.isMiss (history.take position)

theorem firstValue?_snoc
    (kind : Resource) (name : String) (history : List Event) (event : Event) :
    firstValue? kind name (history ++ [event]) =
      if event.isForgot then none
      else (firstValue? kind name history).or (event.value? kind name) := by
  cases forgot : event.isForgot <;>
    simp [firstValue?, sinceForgot, forgot, List.findSome?_append]

theorem misses_snoc (history : List Event) (event : Event) :
    misses (history ++ [event]) = misses history + if event.isMiss history then 1 else 0 := by
  have before : ∀ entry ∈ history.zipIdx,
      (entry.1.isMiss ((history ++ [event]).take entry.2) = true ↔
        entry.1.isMiss (history.take entry.2) = true) := by
    intro entry member
    have position_lt : entry.2 < history.length := by
      have := List.mem_zipIdx member
      omega
    rw [List.take_append_of_le_length (Nat.le_of_lt position_lt)]
  simp only [misses, List.zipIdx_append, List.countP_append, List.countP_congr before]
  simp

namespace Store

def withSource (store : Store) (source : Source) : Store :=
  { store with feed := { store.feed with source := source } }

def serve (store : Store) : Request → Event × Store
  | .load kind name =>
      let (answer, store) := store.load kind name
      (.loaded kind name answer, store)
  | .forget => (.forgot, store.forget)
  | .insert key text => (.inserted key text, store.withSource (store.feed.source.insert key text))
  | .remove key =>
      let (found, source) := store.feed.source.remove key
      (.removed key found, store.withSource source)

def serveAll (store : Store) : List Request → List Event × Store
  | [] => ([], store)
  | request :: requests =>
      let (event, store) := store.serve request
      let (events, store) := store.serveAll requests
      (event :: events, store)

theorem layout_serve (store : Store) (request : Request) :
    (store.serve request).2.loader.layout = store.loader.layout := by
  cases request with
  | load kind name =>
      cases cached : store.cached? kind name with
      | some value => simp only [serve, load_of_cached cached]
      | none =>
          simp only [serve, load_of_missed cached, layout_keep]
          rfl
  | forget => rfl
  | insert key text => rfl
  | remove key => rfl

theorem source_serve (store : Store) (request : Request) :
    (store.serve request).2.feed.source = request.edit store.feed.source := by
  cases request with
  | load kind name =>
      cases cached : store.cached? kind name with
      | some value => simp only [serve, load_of_cached cached, Request.edit]
      | none =>
          simp only [serve, load_of_missed cached, feed_keep, Request.edit]
          rfl
  | forget => rfl
  | insert key text => rfl
  | remove key => rfl

/-- A store remembers of a history what the first successes since it was emptied gave. -/
def Recalls (store : Store) (history : List Event) : Prop :=
  ∀ kind name, store.cached? kind name = firstValue? kind name history

theorem recalls_ofLayout (feed : Feed) (layout : KeyLayout) :
    Recalls ⟨feed, .ofLayout layout⟩ [] := by
  intro kind name
  simp only [cached?, Loader.remembered_ofLayout]
  rfl

/-- What is remembered after a load: the same as before, and its value if there was none. -/
theorem cached?_load (store : Store) (kind other : Resource) (name asked : String) :
    (store.load kind name).2.cached? other asked =
      (store.cached? other asked).or
        (Event.value? other asked (.loaded kind name (store.load kind name).1)) := by
  by_cases same : kind = other
  · subst same
    cases cached : store.cached? kind name with
    | some value =>
        rw [load_of_cached cached, Event.value?_loaded]
        by_cases named : asked = name
        · rw [named, cached, Option.some_or]
        · rw [if_neg named, Option.or_none]
    | none =>
        rw [load_of_missed cached]
        cases answer : store.given kind name with
        | error error => rw [Event.value?_failed, Option.or_none, keep, cached?_asked]
        | ok value =>
            rw [cached?_keep_self, cached?_asked, Event.value?_loaded]
            by_cases named : asked = name
            · rw [if_pos named, if_pos named, named, cached, Option.none_or]
            · rw [if_neg named, if_neg named, Option.or_none]
  · rw [Event.value?_loaded_other same, Option.or_none]
    cases cached : store.cached? kind name with
    | some value => rw [load_of_cached cached]
    | none =>
        rw [load_of_missed cached, cached?_keep_other _ _ _ (Ne.symm same), cached?_asked]

theorem recalls_serve
    {store : Store} {history : List Event} (recalls : store.Recalls history) (request : Request) :
    (store.serve request).2.Recalls (history ++ [(store.serve request).1]) := by
  cases request with
  | load asked name =>
      intro kind other
      rw [firstValue?_snoc, ← recalls kind other]
      exact cached?_load store asked kind name other
  | forget =>
      intro kind name
      rw [firstValue?_snoc]
      exact recalls_ofLayout store.feed store.loader.layout kind name
  | insert key text =>
      intro kind name
      rw [firstValue?_snoc, ← recalls kind name]
      exact (Option.or_none).symm
  | remove key =>
      intro kind name
      rw [firstValue?_snoc, ← recalls kind name]
      exact (Option.or_none).symm

theorem fetches_serve
    {store : Store} {history : List Event} (recalls : store.Recalls history) (request : Request) :
    (store.serve request).2.feed.fetches =
      store.feed.fetches + if (store.serve request).1.isMiss history then 1 else 0 := by
  cases request with
  | load kind name =>
      simp only [serve, Event.isMiss, ← recalls kind name]
      cases cached : store.cached? kind name with
      | some value => simp [load_of_cached cached]
      | none => simp [load_of_missed cached, feed_keep, asked]
  | forget => rfl
  | insert key text => rfl
  | remove key => rfl

theorem recalls_serveAll
    {store : Store} {history : List Event} (recalls : store.Recalls history)
    (requests : List Request) :
    (store.serveAll requests).2.Recalls (history ++ (store.serveAll requests).1) := by
  induction requests generalizing store history with
  | nil => simpa [serveAll] using recalls
  | cons request requests ih => simpa [serveAll] using ih (recalls_serve recalls request)

theorem fetches_serveAll
    {store : Store} {history : List Event} (recalls : store.Recalls history)
    (requests : List Request) :
    (store.serveAll requests).2.feed.fetches + misses history =
      store.feed.fetches + misses (history ++ (store.serveAll requests).1) := by
  induction requests generalizing store history with
  | nil => simp [serveAll]
  | cons request requests ih =>
      have rest := ih (recalls_serve recalls request)
      rw [misses_snoc, fetches_serve recalls request] at rest
      simp only [serveAll, List.append_assoc, List.singleton_append] at rest ⊢
      omega

theorem layout_serveAll (store : Store) (requests : List Request) :
    (store.serveAll requests).2.loader.layout = store.loader.layout := by
  induction requests generalizing store with
  | nil => rfl
  | cons request requests ih => rw [serveAll, ih, layout_serve]

theorem source_serveAll (store : Store) (requests : List Request) :
    (store.serveAll requests).2.feed.source = requests.foldl Request.edit store.feed.source := by
  induction requests generalizing store with
  | nil => rfl
  | cons request requests ih => rw [serveAll, ih, source_serve, List.foldl_cons]

structure AlikeFor (kind : Resource) (one other : Store) : Prop where
  source : one.feed.source = other.feed.source
  layout : one.loader.layout = other.loader.layout
  remembered : ∀ name, one.cached? kind name = other.cached? kind name

theorem AlikeFor.given_eq
    {kind : Resource} {one other : Store} (alike : AlikeFor kind one other) (name : String) :
    one.given kind name = other.given kind name := by
  rw [given, given, alike.source, alike.layout]

theorem AlikeFor.load_eq
    {kind : Resource} {one other : Store} (alike : AlikeFor kind one other) (name : String) :
    (one.load kind name).1 = (other.load kind name).1 := by
  cases cached : other.cached? kind name with
  | some value => rw [load_of_cached cached, load_of_cached ((alike.remembered name).trans cached)]
  | none =>
      rw [load_of_missed cached, load_of_missed ((alike.remembered name).trans cached),
        alike.given_eq]

theorem concerns_serve (kind : Resource) (store : Store) (request : Request) :
    (store.serve request).1.concerns kind = request.concerns kind := by
  cases request <;> rfl

theorem AlikeFor.event_eq
    {kind : Resource} {one other : Store} (alike : AlikeFor kind one other)
    {request : Request} (concerns : request.concerns kind = true) :
    (one.serve request).1 = (other.serve request).1 := by
  cases request with
  | load asked name =>
      obtain rfl : asked = kind := by simpa [Request.concerns] using concerns
      simp only [serve, alike.load_eq]
  | forget => rfl
  | insert key text => rfl
  | remove key => simp only [serve, alike.source]

theorem AlikeFor.serve
    {kind : Resource} {one other : Store} (alike : AlikeFor kind one other)
    {request : Request} (concerns : request.concerns kind = true) :
    AlikeFor kind (one.serve request).2 (other.serve request).2 where
  source := by rw [source_serve, source_serve, alike.source]
  layout := by rw [layout_serve, layout_serve, alike.layout]
  remembered := by
    intro name
    cases request with
    | load asked loaded =>
        obtain rfl : asked = kind := by simpa [Request.concerns] using concerns
        simp only [Store.serve, cached?_load, alike.remembered, alike.load_eq]
    | forget =>
        simp only [Store.serve, Store.forget, cached?, Loader.forget, Loader.remembered_ofLayout]
    | insert key text => exact alike.remembered name
    | remove key => exact alike.remembered name

/-- Loads of the other kind change nothing for the loads of a kind. -/
theorem AlikeFor.aside
    {kind : Resource} {one other : Store} (alike : AlikeFor kind one other)
    {request : Request} (aside : request.concerns kind = false) :
    AlikeFor kind one (other.serve request).2 where
  source := by
    rw [source_serve, alike.source]
    cases request <;> first | rfl | simp [Request.concerns] at aside
  layout := by rw [layout_serve, alike.layout]
  remembered := by
    intro name
    cases request with
    | load asked loaded =>
        have different : asked ≠ kind := by simpa [Request.concerns] using aside
        rw [Store.serve, cached?_load, Event.value?_loaded_other different, Option.or_none,
          alike.remembered]
    | _ => simp [Request.concerns] at aside

theorem serveAll_concerning
    {kind : Resource} {one other : Store} (alike : AlikeFor kind one other)
    (requests : List Request) :
    (one.serveAll (requests.filter (Request.concerns kind))).1 =
      (other.serveAll requests).1.filter (Event.concerns kind) := by
  induction requests generalizing one other with
  | nil => rfl
  | cons request requests ih =>
      cases concerns : request.concerns kind with
      | true =>
          simp only [List.filter_cons, concerns, if_true, serveAll, concerns_serve,
            alike.event_eq concerns, ih (alike.serve concerns)]
      | false =>
          simp only [List.filter_cons, concerns, serveAll, concerns_serve, Bool.false_eq_true,
            if_false]
          exact ih (alike.aside concerns)

/-- A loader over a whole run. A load that a successful one of its kind and name came before, since
the loader was emptied, answers the value of the first of them and changes nothing at all; any other
load asks the source once, under the key of the layout, answers what the source gives at that
moment, and is not remembered if that is an error. So the source has been asked once for every load
without an earlier success. Leaving out the loads of the other kind changes no answer. -/
theorem loads_answer_first_success (layout : KeyLayout) (feed : Feed) (requests : List Request) :
    let start : Store := ⟨feed, .ofLayout layout⟩
    let history := (start.serveAll requests).1
    let store := (start.serveAll requests).2
    let source := requests.foldl Request.edit feed.source
    (∀ kind name,
      match firstValue? kind name history with
      | some value => store.load kind name = (.ok value, store)
      | none =>
          (store.load kind name).1 = kind.given layout source name ∧
          (store.load kind name).2.feed = ⟨source, store.feed.fetches + 1⟩ ∧
          ∀ error, kind.given layout source name = .error error →
            (store.load kind name).2.loader = store.loader) ∧
    store.feed.fetches = feed.fetches + misses history ∧
    ∀ kind, (start.serveAll (requests.filter (Request.concerns kind))).1 =
      history.filter (Event.concerns kind) := by
  intro start history store source
  have recalls : store.Recalls history := recalls_serveAll (recalls_ofLayout feed layout) requests
  have given_eq : ∀ kind name, store.given kind name = kind.given layout source name := by
    intro kind name
    rw [given, layout_serveAll start, source_serveAll start]
    rfl
  refine ⟨?_, ?_, ?_⟩
  · intro kind name
    rw [← recalls kind name]
    cases cached : store.cached? kind name with
    | some value => exact load_of_cached cached
    | none =>
        simp only [load_of_missed cached, feed_keep, given_eq]
        refine ⟨trivial, ?_, ?_⟩
        · simp only [asked, store, source_serveAll start requests]
          rfl
        · intro error failed
          rw [failed]
          rfl
  · simpa [misses] using fetches_serveAll (recalls_ofLayout feed layout) requests
  · intro kind
    exact serveAll_concerning ⟨rfl, rfl, fun _ => rfl⟩ requests

end Store
end Page
end MarkupTemplate
