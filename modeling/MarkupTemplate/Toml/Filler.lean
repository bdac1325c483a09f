import MarkupTemplate.Text.Basic

/-!
What separates the parts of a TOML document: blanks, line ends and comments.
-/

namespace MarkupTemplate
namespace Toml

def isBlank (c : Char) : Bool :=
  c == ' ' || c == '\t'

/-- The characters that a line may hold; tab is the only control among them. -/
def isPlain (c : Char) : Bool :=
  c == '\t' || (decide (32 ≤ c.toNat) && c.toNat != 127)

def skipBlank (text : List Char) : List Char :=
  text.dropWhile isBlank

/-- A line end: a line feed, with a carriage return before it or without. A carriage return alone
ends no line. -/
def readNewline : Text.Reader (List Char)
  | '\n' :: rest => some (['\n'], rest)
  | '\r' :: '\n' :: rest => some (['\r', '\n'], rest)
  | _ => none

def newline? (text : List Char) : Option (List Char) :=
  (readNewline text).map Prod.snd

def skipLines : List Char → List Char
  | [] => []
  | '\r' :: '\n' :: text => skipLines text
  | c :: text => if isBlank c || c == '\n' then skipLines text else c :: text

def lineEnd? (text : List Char) : Option (List Char) :=
  let rest := match skipBlank text with
    | '#' :: comment => comment.dropWhile isPlain
    | rest => rest
  if rest.isEmpty then some [] else newline? rest

/-- Skips blanks, line ends and comments; `comment` tells whether the text begins in a comment. -/
def skipFiller (comment : Bool) : List Char → List Char
  | [] => []
  | '\r' :: '\n' :: text => skipFiller false text
  | c :: text =>
      if c = '\n' then skipFiller false text
      else if comment then if isPlain c then skipFiller true text else c :: text
      else if isBlank c then skipFiller false text
      else if c = '#' then skipFiller true text
      else c :: text

end Toml
end MarkupTemplate
