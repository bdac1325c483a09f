import MarkupTemplate.Toml.Item
import MarkupTemplate.Toml.Scalar

/-!
Reading TOML documents. A document is a sequence of lines; each sets a key or opens a table.
-/

namespace MarkupTemplate
namespace Toml

open Text (Reader)

def maxDepth : Nat := 80

def maxPath : Nat := 80

def isBareKey (c : Char) : Bool :=
  c.isAlphanum || c == '_' || c == '-'

def readName : Reader (List Char)
  | '"' :: text => readBasic (text.length + 1) text
  | '\'' :: text => readLiteral text
  | text =>
      let name := text.takeWhile isBareKey
      if name.isEmpty then none else some (name, text.dropWhile isBareKey)

def readNames : Nat → Reader (List String)
  | 0, _ => none
  | fuel + 1, text => do
      let (name, rest) ← readName text
      match skipBlank rest with
      | '.' :: rest =>
          let (names, rest) ← readNames fuel (skipBlank rest)
          some (String.ofList name :: names, rest)
      | rest => some ([String.ofList name], rest)

def readKey : Reader (List String × String) := fun text => do
  let (names, rest) ← readNames (text.length + 1) text
  let last ← names.getLast?
  if names.length ≤ maxPath then some ((names.dropLast, last), rest) else none

mutual

/-- A value. Each call takes one unit of fuel, and each array or inline table one unit of depth. -/
def readValue : Nat → Nat → Reader Toml
  | 0, _, _ => none
  | _ + 1, _, [] => none
  | fuel + 1, depth, c :: text =>
      if c = '"' || c = '\'' then
        (readString (c :: text)).map fun (value, rest) => (.string value, rest)
      else if c = '[' then
        match depth with
        | 0 => none
        | depth + 1 => do
            let (items, rest) ← readItems fuel depth (skipFiller false text)
            some (.array items, rest)
      else if c = '\x7b' then
        match depth with
        | 0 => none
        | depth + 1 => do
            let (entries, rest) ← readEntries fuel depth [] (skipFiller false text)
            some (.table (values entries), rest)
      else readScalar (c :: text)

def readItems : Nat → Nat → Reader (List Toml)
  | 0, _, _ => none
  | _ + 1, _, ']' :: rest => some ([], rest)
  | fuel + 1, depth, text => do
      let (item, rest) ← readValue fuel depth text
      match skipFiller false rest with
      | ']' :: rest => some ([item], rest)
      | ',' :: rest =>
          let (items, rest) ← readItems fuel depth (skipFiller false rest)
          some (item :: items, rest)
      | _ => none

/-- The entries of an inline table up to its brace; a comma may stand behind the last, and the
equals signs may have line ends and comments on both sides. -/
def readEntries : Nat → Nat → Entries Item → Reader (Entries Item)
  | 0, _, _, _ => none
  | _ + 1, _, entries, '\x7d' :: rest => some (entries, rest)
  | fuel + 1, depth, entries, text => do
      let ((path, name), rest) ← readKey text
      match skipFiller false rest with
      | '=' :: rest =>
          let (value, rest) ← readValue fuel depth (skipFiller false rest)
          let (_, entries) ← assign path name value .header entries
          match skipFiller false rest with
          | '\x7d' :: rest => some (entries, rest)
          | ',' :: rest => readEntries fuel depth entries (skipFiller false rest)
          | _ => none
      | _ => none

end

/-- The tables read so far, and the path of the table that keys belong to. -/
structure Document where
  entries : Entries Item
  current : List String

namespace Document

def empty : Document where
  entries := []
  current := []

def edit (document : Document) (path : List String) (edit : Change) : Option (Entries Item) :=
  (change false edit path .header document.entries).map Prod.snd

def readAssignment (document : Document) : Reader Document := fun text => do
  let ((path, name), rest) ← readKey text
  match rest with
  | '=' :: rest =>
      let rest := skipBlank rest
      let (value, rest) ← readValue (2 * rest.length + 2) maxDepth rest
      let entries ← document.edit document.current (assign path name value)
      some ({ document with entries := entries }, rest)
  | _ => none

def readHeader (document : Document) : Reader Document := fun text => do
  let ((path, name), rest) ← readKey (skipBlank text)
  match rest with
  | ']' :: rest =>
      let entries ← document.edit path (openTable name)
      some (⟨entries, path ++ [name]⟩, rest)
  | _ => none

def readDoubleHeader (document : Document) : Reader Document := fun text => do
  let ((path, name), rest) ← readKey (skipBlank text)
  match rest with
  | ']' :: ']' :: rest =>
      let entries ← document.edit path (appendTable name)
      some (⟨entries, path ++ [name]⟩, rest)
  | _ => none

def readLine (document : Document) : Reader Document
  | '[' :: '[' :: text => document.readDoubleHeader text
  | '[' :: text => document.readHeader text
  | text => document.readAssignment text

def readLines (document : Document) : Nat → List Char → Option Document
  | 0, _ => none
  | fuel + 1, text =>
      match skipBlank text with
      | [] => some document
      | c :: line =>
          if c = '#' || c = '\n' || c = '\r' then
            (lineEnd? (c :: line)).bind fun rest => document.readLines fuel rest
          else do
            let (document, rest) ← document.readLine (c :: line)
            let rest ← lineEnd? rest
            document.readLines fuel rest

end Document

/-- The entries of a whole document. A byte order mark at its start is not part of it. -/
def parse? (text : List Char) : Option (List (String × Toml)) :=
  let body := match text with
    | '\ufeff' :: body => body
    | _ => text
  (Document.empty.readLines (body.length + 1) body).map fun document => values document.entries

end Toml
end MarkupTemplate
