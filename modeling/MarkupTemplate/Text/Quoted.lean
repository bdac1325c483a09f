import MarkupTemplate.Text.Hexadecimal
import MarkupTemplate.Text.Visible

/-!
Text shown between double quotes for a reader: quotes, backslashes and line controls have short
escapes, and every other character that is not seen on its own is shown by its code point.
-/

namespace MarkupTemplate
namespace Text

def quotedChar (c : Char) : List Char :=
  if c = '"' then ['\\', '"']
  else if c = '\\' then ['\\', '\\']
  else if c = '\n' then ['\\', 'n']
  else if c = '\r' then ['\\', 'r']
  else if c = '\t' then ['\\', 't']
  else if c = '\x00' then ['\\', '0']
  else if isVisible c then [c]
  else "\\u\x7b".toList ++ hexadecimal c.toNat ++ ['\x7d']

def quoted (text : List Char) : List Char :=
  '"' :: text.flatMap quotedChar ++ ['"']

end Text
end MarkupTemplate
