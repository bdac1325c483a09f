import MarkupTemplate.Text.Basic
import MarkupTemplate.Text.Blank

/-!
Markup as a tree that keeps its own spelling. Every node knows the text it came from, so a tree
that nobody edits is written back character for character.
-/

namespace MarkupTemplate

inductive Quoting
  | bare
  | single
  | double
deriving DecidableEq, Repr

namespace Quoting

def mark : Quoting → List Char
  | .bare => []
  | .single => ['\'']
  | .double => ['"']

end Quoting

/-- An attribute value with the blanks around its equals sign. -/
structure AttrValue where
  before : List Char
  after : List Char
  quoting : Quoting
  text : List Char
deriving DecidableEq, Repr

namespace AttrValue

def source (value : AttrValue) : List Char :=
  value.before ++ '=' :: value.after ++ value.quoting.mark ++ value.text ++ value.quoting.mark

/-- The same attribute with another text: no blanks around the equals sign, and double quotes where
there were none. -/
def respell (value : AttrValue) (text : List Char) : AttrValue where
  before := []
  after := []
  quoting := match value.quoting with
    | .bare => .double
    | quoting => quoting
  text := text

end AttrValue

structure Attr where
  /-- The blanks before the name. -/
  leading : List Char
  name : List Char
  value : Option AttrValue
deriving DecidableEq, Repr

namespace Attr

def source (attr : Attr) : List Char :=
  attr.leading ++ attr.name ++ (attr.value.map AttrValue.source).getD []

def isNamed (name : List Char) (attr : Attr) : Bool :=
  Text.sameName attr.name name

def text (attr : Attr) : List Char :=
  (attr.value.map AttrValue.text).getD []

end Attr

/-- A tag that opens an element, up to but without the `>` or `/>` that ends it. -/
structure StartTag where
  name : List Char
  attrs : List Attr
  /-- The blanks behind the last attribute. -/
  trailing : List Char
deriving DecidableEq, Repr

namespace StartTag

def source (tag : StartTag) : List Char :=
  '<' :: tag.name ++ tag.attrs.flatMap Attr.source ++ tag.trailing

def attr? (tag : StartTag) (name : List Char) : Option Attr :=
  tag.attrs.find? (Attr.isNamed name)

end StartTag

inductive Closing
  /-- By its end tag, as written. -/
  | explicit (source : List Char)
  | selfClosing
  /-- By the nature of its tag, which has no content. -/
  | void
  /-- Where the input ends or an element around it closes. -/
  | missing
deriving DecidableEq, Repr

namespace Closing

def tagEnd : Closing → List Char
  | .selfClosing => ['/', '>']
  | _ => ['>']

/-- What follows the content. -/
def source : Closing → List Char
  | .explicit source => source
  | _ => []

end Closing

inductive Node
  | element (tag : StartTag) (children : List Node) (closing : Closing)
  | text (body : List Char)
  | comment (body : List Char)
  /-- A document type or a processing instruction, with its delimiters. -/
  | declaration (source : List Char)
deriving Repr

namespace Node

def commentSource (body : List Char) : List Char :=
  "<!--".toList ++ body ++ "-->".toList

mutual

def source : Node → List Char
  | .element tag children closing =>
      tag.source ++ closing.tagEnd ++ sources children ++ closing.source
  | .text body => body
  | .comment body => commentSource body
  | .declaration source => source

def sources : List Node → List Char
  | [] => []
  | node :: nodes => node.source ++ sources nodes

end

end Node
end MarkupTemplate
