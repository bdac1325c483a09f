import MarkupTemplate.Number.Double

/-!
Values of a TOML document. A word can have the form of a number without being one; it is a value as
long as nobody reads it.
-/

namespace MarkupTemplate

inductive Toml
  | string (value : List Char)
  | integer (value : Int)
  | float (value : Double)
  /-- An integer beyond 128 bits or without proper digits, or a float beyond the largest double. -/
  | unreadable
  | boolean (value : Bool)
  /-- A date, a time or both, as written. -/
  | dateTime (source : List Char)
  | array (items : List Toml)
  | table (entries : List (String × Toml))
deriving Repr, Inhabited

namespace Toml

mutual

def isReadable : Toml → Bool
  | .unreadable => false
  | .array items => itemsReadable items
  | .table entries => entriesReadable entries
  | _ => true

def itemsReadable : List Toml → Bool
  | [] => true
  | item :: items => item.isReadable && itemsReadable items

def entriesReadable : List (String × Toml) → Bool
  | [] => true
  | (_, value) :: entries => value.isReadable && entriesReadable entries

end

end Toml
end MarkupTemplate
