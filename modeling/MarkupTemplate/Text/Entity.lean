import MarkupTemplate.Text.Basic

/-!
Character references. Escaping writes the five characters that matter to markup as references;
decoding reads those and two more spellings of the apostrophe, and keeps every other ampersand.
-/

namespace MarkupTemplate
namespace Text

def escapeChar (c : Char) : List Char :=
  if c = '&' then "&amp;".toList
  else if c = '<' then "&lt;".toList
  else if c = '>' then "&gt;".toList
  else if c = '"' then "&quot;".toList
  else if c = '\'' then "&#x27;".toList
  else [c]

def escape (text : List Char) : List Char :=
  text.flatMap escapeChar

def references : List (List Char × Char) := [
    ("&amp;".toList, '&'), ("&lt;".toList, '<'), ("&gt;".toList, '>'), ("&quot;".toList, '"'),
    ("&#39;".toList, '\''), ("&#x27;".toList, '\''), ("&apos;".toList, '\'')]

/-- The character that the text begins with, read through a reference, and how many characters
beyond the first its spelling takes. -/
def decodeStart (text : List Char) : Option (Char × Nat) :=
  references.findSome? fun (name, c) =>
    (dropStart? name text).map fun _ => (c, name.length - 1)

/-- Decodes a text from which `skip` characters, the end of a reference already read, are left
out. -/
def decodeFrom : Nat → List Char → List Char
  | _, [] => []
  | skip + 1, _ :: text => decodeFrom skip text
  | 0, c :: text =>
      match decodeStart (c :: text) with
      | some (decoded, more) => decoded :: decodeFrom more text
      | none => c :: decodeFrom 0 text

/-- Replaces each reference by its character, once: what a replacement spells is not read again. -/
def decode (text : List Char) : List Char :=
  decodeFrom 0 text

end Text
end MarkupTemplate
