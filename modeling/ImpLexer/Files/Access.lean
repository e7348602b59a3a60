import ImpLexer.Text.Basic

/-!
# Reading files and writing lines

A run has two ways to the world. It reads the files that its paths name, and it
writes lines to standard output; both can go wrong, and a run that knows how
they go needs to know nothing else.

A path may name nothing, something that is no file, or a file whose bytes are
no text. The wording of the first four reasons is the operating system's, with
its number for each.

Standard output takes every line or refuses every line. A list of lines is
written one after another, and the first refusal puts an end to it.
-/

namespace ImpLexer

/-! ## Reading -/

/-- Why a path gives no text. -/
inductive ReadError where
  | notFound
  /-- The path goes on behind something that is no directory. -/
  | notADirectory
  | isADirectory
  /-- A name, or the path as a whole, is longer than the system allows. -/
  | nameTooLong
  /-- The bytes of the file are not UTF-8. -/
  | notText
  /-- Some other reason of the operating system. -/
  | other (reason : Text)
  deriving DecidableEq, Repr

def ReadError.message : ReadError → Text
  | notFound => "No such file or directory (os error 2)".toList
  | notADirectory => "Not a directory (os error 20)".toList
  | isADirectory => "Is a directory (os error 21)".toList
  | nameTooLong => "File name too long (os error 36)".toList
  | notText => "stream did not contain valid UTF-8".toList
  | other reason => reason

/-- A way to get the text of the file at a path. -/
abbrev Reader := Text → Except ReadError Text

/-! ## Writing -/

/-- A place to write lines to. -/
inductive Sink where
  | accepting
  /-- It takes nothing, for the reason given. -/
  | refusing (reason : Text)
  deriving DecidableEq, Repr

namespace Sink

def full : Sink := .refusing "No space left on device (os error 28)".toList

/-- Writes a line: what arrives, or why nothing does. -/
def put (sink : Sink) (line : Text) : Except Text Text :=
  match sink with
  | .accepting => .ok line.line
  | .refusing reason => .error reason

/-- Writes lines up to the first that is refused: what arrives, and why it is not
all. -/
def putAll (sink : Sink) : List Text → Text × Option Text
  | [] => ([], none)
  | line :: lines =>
      match sink.put line with
      | .error reason => ([], some reason)
      | .ok written =>
          let (more, refusal) := sink.putAll lines
          (written ++ more, refusal)

end Sink

end ImpLexer
