import MarkupTemplate.Entries
import MarkupTemplate.Page.FilePath

/-!
Directories and files, and how a path of names is followed through them.
-/

namespace MarkupTemplate
namespace Page

inductive FileTree
  | file (content : ByteArray)
  | directory (entries : List (String × FileTree))

namespace FileTree

def empty : FileTree :=
  .directory []

/-- Why a file cannot be read. -/
inductive Failure
  | absent
  /-- Something stands at the path, or on the way, that cannot be read as text or followed. -/
  | unreadable
deriving DecidableEq, Repr

/-- The longest name that a directory can hold, in bytes. -/
def maxNameSize : Nat := 255

/-- The longest path that can be followed, in bytes. -/
def maxPathSize : Nat := 4095

def entry? (name : String) : FileTree → Except Failure FileTree
  | .file _ => .error .unreadable
  | .directory entries =>
      if maxNameSize < name.utf8ByteSize then .error .unreadable
      else
        match Entries.get? entries name with
        | some tree => .ok tree
        | none => .error .absent

/-- Follows a path; `outer` holds the directories around the one it starts in, the nearest first.
Every segment, even one that stays where it is, needs a directory to start from. Nothing is known
above the outermost directory. -/
def follow (outer : List FileTree) (tree : FileTree) : List String → Except Failure FileTree
  | [] => .ok tree
  | segment :: path =>
      match tree with
      | .file _ => .error .unreadable
      | .directory _ =>
          if FilePath.staysAt segment then follow outer tree path
          else if segment = ".." then
            match outer with
            | [] => .error .absent
            | around :: outer => follow outer around path
          else
            match tree.entry? segment with
            | .error failure => .error failure
            | .ok inner => follow (tree :: outer) inner path

def text : FileTree → Except Failure String
  | .directory _ => .error .unreadable
  | .file content =>
      match String.fromUTF8? content with
      | some text => .ok text
      | none => .error .unreadable

/-- The text of the file at a path. A path that holds a null character, or is too long, cannot be
followed, and one that begins with a slash leads out of the tree. -/
def read (tree : FileTree) (path : String) : Except Failure String :=
  if path.toList.contains '\x00' || maxPathSize < path.utf8ByteSize then .error .unreadable
  else if FilePath.isAbsolute path then .error .absent
  else
    match tree.follow [] (FilePath.segments path) with
    | .error failure => .error failure
    | .ok found => found.text

/-- Puts a tree at a path of names, making the directories on the way. A directory stays if another
is put in its place, and a file on the way is not replaced. -/
def put (added : FileTree) : List String → FileTree → FileTree
  | [], .directory entries =>
      match added with
      | .directory _ => .directory entries
      | .file content => .file content
  | [], .file _ => added
  | _ :: _, .file content => .file content
  | name :: path, .directory entries =>
      .directory (Entries.put entries name
        (put added path ((Entries.get? entries name).getD empty)))

def add (tree : FileTree) (path : String) (added : FileTree) : FileTree :=
  put added (FilePath.names path) tree

end FileTree
end Page
end MarkupTemplate
