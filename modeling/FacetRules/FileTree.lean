import FacetRules.Storage
import Std.Data.ExtTreeMap

/-!
# File trees in memory

A file tree is a list of files and directories, each with its path from the root.
The directories on the way to a listed path exist as well.

A path is a list of names with slashes between them.  Empty names and single dots
lead nowhere, and two dots lead back up.  Each step but the last has to lead to a
directory, and so does the last one when a slash follows.  Above the root there are
directories without end, and nothing else is known of them.  The empty path and paths
that start with a slash lead to nothing.

Where files and directories are listed, a path is followed in the same way, but makes
the directories that it leads through.
-/

namespace FacetRules

abbrev Path := List String

inductive TreeNode
  | file (content : FileContent)
  | directory
  deriving DecidableEq, Repr

structure FileTree where
  nodes : List (Path × TreeNode)

namespace FileTree

def namesOf (path : String) : List String :=
  (path.toList.splitOn '/').map String.ofList

/-- Follows names from a directory where every name leads somewhere.  Gives the path and
the directories that were left upwards. -/
def settle : Path -> List String -> Path × List Path
  | dir, [] => (dir, [])
  | dir, name :: names =>
      if name = "" ∨ name = "." then
        settle dir names
      else if name = ".." then
        let (path, left) := settle dir.dropLast names
        (path, dir :: left)
      else
        settle (dir ++ [name]) names

/-- The nodes that a listed path makes: its own, and the directories on a way that leads
up again. -/
def nodesAt (path : String) (node : TreeNode) : List (Path × TreeNode) :=
  let (path, left) := settle [] (namesOf path)
  (path, node) :: left.map fun dir => (dir, .directory)

/-- The tree of these files and directories; of two with one path the later counts. -/
def ofList (nodes : List (String × TreeNode)) : FileTree where
  nodes := nodes.reverse.flatMap fun (path, node) => nodesAt path node

/-- A path that is written from the root, so that nothing written leads to the root. -/
def fromRoot (path : String) : String :=
  if path.toList.head? = some '/' then path else "./" ++ path

/-- Whether a path leads to a directory: the root, a listed directory, or one on the
way to a listed path. -/
def isDirectory (t : FileTree) (path : Path) : Bool :=
  path.isEmpty || t.nodes.lookup path == some .directory ||
    t.nodes.any fun (p, _) => path.isPrefixOf p && path.length < p.length

/-- Where a path leads: to a path from the root, or above the root. -/
inductive Place
  | inside (path : Path)
  | above
  deriving DecidableEq, Repr

def Place.parent : Place -> Place
  | inside [] => above
  | inside path => inside path.dropLast
  | above => above

def isDirectoryAt (t : FileTree) : Place -> Bool
  | .inside path => t.isDirectory path
  | .above => true

def follow (t : FileTree) : Place -> List String -> Option Place
  | place, [] => some place
  | place, name :: names =>
      if !t.isDirectoryAt place then
        none
      else if name = "" ∨ name = "." then
        follow t place names
      else if name = ".." then
        follow t place.parent names
      else
        match place with
        | .inside path => follow t (.inside (path ++ [name])) names
        | .above => none

def resolve (t : FileTree) (path : String) : Option Place :=
  if path = "" ∨ path.toList.head? = some '/' then
    none
  else
    t.follow (.inside []) (namesOf path)

def filesIn (t : FileTree) (dir : Path) : List (String × FileContent) :=
  let files := t.nodes.filterMap fun (p, node) =>
    match node, p.getLast? with
    | .file content, some name => if p.dropLast = dir then some (name, content) else none
    | _, _ => none
  (Std.ExtTreeMap.ofList files.reverse : Std.ExtTreeMap String FileContent).toList

def storage (t : FileTree) : Storage := fun path =>
  match t.resolve path with
  | none => .missing
  | some .above => .directory []
  | some (.inside p) =>
      if t.isDirectory p then
        .directory (t.filesIn p)
      else
        match t.nodes.lookup p with
        | some (.file content) => .file content
        | _ => .missing

end FileTree
end FacetRules
