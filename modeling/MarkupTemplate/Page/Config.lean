import MarkupTemplate.Page.FileTree
import MarkupTemplate.Page.KeyLayout
import MarkupTemplate.Page.Section
import MarkupTemplate.Text.Blank
import MarkupTemplate.Toml.Reader

/-!
The description of a page in a TOML document: the mode, the layout of the keys and the sections.
Keys that mean nothing here are left aside once their values are read; items behind the last field
of an array are not even read.
-/

namespace MarkupTemplate
namespace Page

structure Config where
  mode : Mode
  layout : KeyLayout
  sections : List Section
deriving DecidableEq, Repr

namespace Config

inductive Field
  | template
  | data
  | target
deriving DecidableEq, Repr

def Field.name : Field → String
  | .template => "template"
  | .data => "data"
  | .target => "target"

inductive Error
  /-- The text is no document, or a part of it has another form than it should. -/
  | malformed
  | blankField (position : Nat) (field : Field)
  | unreadableFile
deriving DecidableEq, Repr

/-- The texts of the errors that do not depend on the system or a syntax. -/
def Error.message? : Error → Option String
  | .blankField position field =>
      some ("invalid page config: section " ++ toString position ++ ": `" ++ field.name ++
        "` must not be empty")
  | .malformed => none
  | .unreadableFile => none

def isEmptyContainer : Toml → Bool
  | .table [] => true
  | .array [] => true
  | _ => false

def modeOfName? (name : String) : Option Mode :=
  if name = "serial" then some .serial
  else if name = "concurrent" || name = "parallel" then some .concurrent
  else none

/-- A mode is a name, or a table with that name alone and nothing under it. -/
def mode? : Toml → Option Mode
  | .string name => modeOfName? (String.ofList name)
  | .table [(name, content)] => if isEmptyContainer content then modeOfName? name else none
  | _ => none

def partOr {α : Type} (default : α) (read : Toml → Option α) : Option Toml → Option α
  | none => some default
  | some value => read value

def othersReadable (names : List String) (entries : List (String × Toml)) : Bool :=
  entries.all fun (name, value) => names.contains name || value.isReadable

def string? : Toml → Option String
  | .string value => some (String.ofList value)
  | _ => none

def boolean? : Toml → Option Bool
  | .boolean value => some value
  | _ => none

def layoutOf? (templateDir templateExt dataDir : Option Toml) : Option KeyLayout := do
  let dir ← partOr KeyLayout.standard.templateDir string? templateDir
  let ext ← partOr KeyLayout.standard.templateExt string? templateExt
  let data ← partOr KeyLayout.standard.dataDir string? dataDir
  some ⟨dir, ext, data⟩

/-- A layout is a table, or an array of its fields in order; a date has none of the fields. -/
def layout? : Toml → Option KeyLayout
  | .table entries =>
      if othersReadable ["template_dir", "template_ext", "data_dir"] entries then
        layoutOf? (entries.lookup "template_dir") (entries.lookup "template_ext")
          (entries.lookup "data_dir")
      else none
  | .array items => layoutOf? items[0]? items[1]? items[2]?
  | .dateTime _ => some KeyLayout.standard
  | _ => none

def sectionOf? (template data target critical : Option Toml) : Option Section := do
  let template ← template.bind string?
  let data ← data.bind string?
  let target ← target.bind string?
  let critical ← partOr false boolean? critical
  some ⟨template, data, target, critical⟩

def section? : Toml → Option Section
  | .table entries =>
      if othersReadable ["template", "data", "target", "critical"] entries then
        sectionOf? (entries.lookup "template") (entries.lookup "data") (entries.lookup "target")
          (entries.lookup "critical")
      else none
  | .array items => sectionOf? items[0]? items[1]? items[2]? items[3]?
  | _ => none

def sections? : Toml → Option (List Section)
  | .array items => items.mapM section?
  | _ => none

def ofEntries? (entries : List (String × Toml)) : Option Config := do
  let mode ← partOr .concurrent mode? (entries.lookup "mode")
  let layout ← partOr KeyLayout.standard layout? (entries.lookup "loader")
  let sections ← partOr [] sections? (entries.lookup "section")
  if othersReadable ["mode", "loader", "section"] entries then some ⟨mode, layout, sections⟩
  else none

def isBlankText (text : String) : Bool :=
  text.toList.all Text.isBlank

def blankField? (entry : Section) : Option Field :=
  if isBlankText entry.template then some .template
  else if isBlankText entry.data then some .data
  else if isBlankText entry.target then some .target
  else none

def firstBlank? (config : Config) : Option (Nat × Field) :=
  config.sections.zipIdx.findSome? fun (entry, position) =>
    (blankField? entry).map fun field => (position, field)

def parse (text : String) : Except Error Config :=
  match (Toml.parse? text.toList).bind ofEntries? with
  | none => .error .malformed
  | some config =>
      match config.firstBlank? with
      | some (position, field) => .error (.blankField position field)
      | none => .ok config

def load (tree : FileTree) (path : String) : Except Error Config :=
  match tree.read path with
  | .error _ => .error .unreadableFile
  | .ok text => parse text

end Config
end Page
end MarkupTemplate
