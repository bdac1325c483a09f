import MarkupTemplate.Entries
import MarkupTemplate.Toml.Basic

/-!
A TOML document while it is read. Tables remember how they came to be, since that decides which
later line may add to them.
-/

namespace MarkupTemplate
namespace Toml

inductive Origin
  /-- By a header of its own. -/
  | header
  /-- On the way of a longer header. -/
  | implied
  /-- On the way of a dotted key, whether it was there before or not. -/
  | dotted
deriving DecidableEq, Repr

inductive Item
  | leaf (value : Toml)
  | table (origin : Origin) (entries : List (String × Item))
  /-- The tables under a header of double brackets, the latest first. -/
  | tables (elements : List (List (String × Item)))
deriving Repr, Inhabited

/-- A change of one table, which may be refused. -/
abbrev Change := Origin → Entries Item → Option (Origin × Entries Item)

/-- Changes the table at the end of a path, making the tables that are missing on the way. A path
leads through the latest of several tables. A dotted key does not lead into a table that has a
header, and a table that it leads into counts as made by it. -/
def change (dotted : Bool) (edit : Change) : List String → Change
  | [], origin, entries => edit origin entries
  | name :: path, origin, entries =>
      match Entries.get? entries name with
      | none => do
          let missing : Origin := if dotted then .dotted else .implied
          let (innerOrigin, inner) ← change dotted edit path missing []
          some (origin, Entries.put entries name (.table innerOrigin inner))
      | some (.table innerOrigin inner) =>
          if dotted && innerOrigin == .header then none
          else do
            let entered : Origin := if dotted then .dotted else innerOrigin
            let (innerOrigin, inner) ← change dotted edit path entered inner
            some (origin, Entries.put entries name (.table innerOrigin inner))
      | some (.tables (latest :: earlier)) => do
          let (_, latest) ← change dotted edit path .header latest
          some (origin, Entries.put entries name (.tables (latest :: earlier)))
      | some _ => none

/-- Adds a value under a new name. A plain key belongs to a table that no dotted key made, and a
dotted key to one that a dotted key made. -/
def addValue (plain : Bool) (name : String) (value : Toml) : Change := fun origin entries =>
  if (origin == .dotted) == plain then none
  else if (Entries.get? entries name).isSome then none
  else some (origin, Entries.put entries name (.leaf value))

def assign (path : List String) (name : String) (value : Toml) : Change :=
  change true (addValue path.isEmpty name value) path

/-- Opens a table by its header: a new one, or one that only longer headers have implied. -/
def openTable (name : String) : Change := fun origin entries =>
  match Entries.get? entries name with
  | none => some (origin, Entries.put entries name (.table .header []))
  | some (.table .implied inner) => some (origin, Entries.put entries name (.table .header inner))
  | some _ => none

def appendTable (name : String) : Change := fun origin entries =>
  match Entries.get? entries name with
  | none => some (origin, Entries.put entries name (.tables [[]]))
  | some (.tables elements) => some (origin, Entries.put entries name (.tables ([] :: elements)))
  | some _ => none

mutual

def Item.value : Item → Toml
  | .leaf value => value
  | .table _ entries => .table (values entries)
  | .tables elements => .array (elementValues elements).reverse

def values : List (String × Item) → List (String × Toml)
  | [] => []
  | (name, item) :: entries => (name, item.value) :: values entries

def elementValues : List (List (String × Item)) → List Toml
  | [] => []
  | entries :: elements => .table (values entries) :: elementValues elements

end

end Toml
end MarkupTemplate
