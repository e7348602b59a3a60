import ImpLexer.Files.Access

/-!
# A directory and the paths into it

A `Tree` is what a directory holds, each file and directory in it under the names
that lead there. A path is followed from that directory, one name at a time: an
empty name and `.` stay, `..` goes back, and any other name must be there. Only
a directory can be gone on from, whatever the next name is, so a slash behind
the name of a file is already one step too many.

Nothing is known about the world around the tree but that `..` and `/` lead
into it. Every place there counts as a directory in which no name is found.
-/

namespace ImpLexer

/-- What a name can stand for. -/
inductive Entry where
  | file (bytes : ByteArray)
  | directory

/-- What a directory holds, by the names that lead from it to each entry. A file
that lies deeper implies the directories on the way. -/
structure Tree where
  entries : List (List Text × Entry)

/-- Where following a path has come to. -/
inductive Place where
  /-- In the tree, by the names that lead there from its root. -/
  | inside (names : List Text)
  /-- In a directory outside of the tree. -/
  | outside
  deriving DecidableEq, Repr

namespace Tree

/-- The names in a path, between its slashes. -/
def names (path : Text) : List Text := path.splitOn '/'

/-- The tree that comes of putting entries into an empty directory, one after
another, each at its path. -/
def ofEntries (entries : List (Text × Entry)) : Tree :=
  ⟨entries.reverse.map fun (path, entry) => (names path, entry)⟩

/-- What stands at the end of a list of names. -/
def entry? (tree : Tree) (names : List Text) : Option Entry :=
  match tree.entries.find? fun e => e.1 = names with
  | some (_, entry) => some entry
  | none =>
      if names = [] ∨ tree.entries.any fun e => names.isPrefixOf e.1 then some .directory
      else none

/-- The longest name, in bytes. -/
def maxName : Nat := 255

/-- The longest path, in bytes. -/
def maxPath : Nat := 4095

def step (tree : Tree) (place : Place) (name : Text) : Except ReadError Place :=
  match place with
  | .outside =>
      if name = [] ∨ name = ['.'] ∨ name = ['.', '.'] then .ok .outside
      else if maxName < name.byteSize then .error .nameTooLong
      else .error .notFound
  | .inside names =>
      match tree.entry? names with
      | some .directory =>
          if name = [] ∨ name = ['.'] then .ok place
          else if name = ['.', '.'] then
            .ok (if names = [] then .outside else .inside names.dropLast)
          else if maxName < name.byteSize then .error .nameTooLong
          else if (tree.entry? (names ++ [name])).isSome then .ok (.inside (names ++ [name]))
          else .error .notFound
      | _ => .error .notADirectory

/-- The place that a path names. -/
def follow (tree : Tree) (path : Text) : Except ReadError Place :=
  if path = [] then .error .notFound
  else if maxPath < path.byteSize then .error .nameTooLong
  else if path.head? = some '/' then (names path).foldlM tree.step .outside
  else (names path).foldlM tree.step (.inside [])

def decode (bytes : ByteArray) : Except ReadError Text :=
  match String.fromUTF8? bytes with
  | some text => .ok text.toList
  | none => .error .notText

/-- The text of the file that a path names. -/
def read (tree : Tree) (path : Text) : Except ReadError Text :=
  match tree.follow path with
  | .error error => .error error
  | .ok .outside => .error .isADirectory
  | .ok (.inside names) =>
      match tree.entry? names with
      | some (.file bytes) => decode bytes
      | some .directory => .error .isADirectory
      | none => .error .notFound

end Tree

end ImpLexer
