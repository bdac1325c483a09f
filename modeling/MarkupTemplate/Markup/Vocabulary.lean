import MarkupTemplate.Markup.Basic

/-!
The elements that markup treats specially. Their names match in any case of letters.
-/

namespace MarkupTemplate
namespace Vocabulary

def isOneOf (names : List String) (name : List Char) : Bool :=
  names.any fun known => Text.sameName name known.toList

def isVoid (name : List Char) : Bool :=
  isOneOf ["area", "base", "br", "col", "embed", "hr", "img", "input", "link", "meta", "param",
    "source", "track", "wbr"] name

def isRawText (name : List Char) : Bool :=
  isOneOf ["script", "style", "textarea", "title"] name

/-- Elements whose text knows no character references. -/
def isUnescapedText (name : List Char) : Bool :=
  isOneOf ["script", "style"] name

end Vocabulary
end MarkupTemplate
