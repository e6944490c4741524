/-!
# Stored files

What a path leads to: nothing, a file or a directory.  A file is a sequence of
segments, some of which are packed as members of a gzip stream.  How a member is
packed does not matter here; it stands for its content.

A file can be read in two ways.  Read as a gzip stream it gives the contents of
its members, up to the first segment that is none; a file without any bytes is no
gzip stream.  Read as it is it gives its bytes, unless a member is among them,
whose bytes are no text.
-/

namespace FacetRules

inductive Segment
  | plain (bytes : List UInt8)
  /-- A member of a gzip stream, given by its content. -/
  | packed (bytes : List UInt8)
  deriving DecidableEq, Repr

abbrev FileContent := List Segment

namespace FileContent

def isEmpty (content : FileContent) : Bool :=
  content.all fun
    | .plain bytes => bytes.isEmpty
    | .packed _ => false

/-- The contents of the members in front, and whether nothing else follows them. -/
def unpackMembers : FileContent -> List UInt8 × Bool
  | [] => ([], true)
  | .packed bytes :: rest =>
      let (later, intact) := unpackMembers rest
      (bytes ++ later, intact)
  | .plain [] :: rest => unpackMembers rest
  | .plain _ :: _ => ([], false)

/-- The content of a file that is read as a gzip stream, and whether its end is
reached. -/
def unpack (content : FileContent) : List UInt8 × Bool :=
  if content.isEmpty then ([], false) else unpackMembers content

def plainBytes? : FileContent -> Option (List UInt8)
  | [] => some []
  | .plain bytes :: rest => (plainBytes? rest).map (bytes ++ ·)
  | .packed _ :: _ => none

end FileContent

inductive StorageEntry
  | missing
  | file (content : FileContent)
  /-- A directory, with the regular files directly in it, in any order. -/
  | directory (files : List (String × FileContent))
  deriving DecidableEq, Repr

abbrev Storage := String -> StorageEntry

/-- Stored files that are listed with their paths; of two with one path the former
counts. -/
def Storage.ofList (entries : List (String × StorageEntry)) : Storage := fun path =>
  (entries.lookup path).getD .missing

end FacetRules
