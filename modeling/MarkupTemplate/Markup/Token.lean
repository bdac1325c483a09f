import MarkupTemplate.Markup.Basic

/-!
The pieces of markup before they are nested. The sources of the tokens of a text are that text, cut
up.
-/

namespace MarkupTemplate
namespace Markup

inductive Token
  | text (body : List Char)
  /-- A construct that the input ends in the middle of; it is text of its own. -/
  | unfinished (body : List Char)
  | comment (body : List Char)
  | declaration (source : List Char)
  | startTag (tag : StartTag) (selfClosing : Bool)
  /-- An element whose content is text, with its end tag if there is one. -/
  | rawElement (tag : StartTag) (body : List Char) (closing : Option (List Char))
  /-- A well-formed end tag. -/
  | endTag (name source : List Char)
deriving Repr

namespace Token

def tagEnd (selfClosing : Bool) : List Char :=
  if selfClosing then ['/', '>'] else ['>']

def source : Token → List Char
  | .text body => body
  | .unfinished body => body
  | .comment body => Node.commentSource body
  | .declaration source => source
  | .startTag tag selfClosing => tag.source ++ tagEnd selfClosing
  | .rawElement tag body closing => tag.source ++ '>' :: body ++ closing.getD []
  | .endTag _ source => source

end Token
end Markup
end MarkupTemplate
