import ImpLexer.Command.Run
import ImpLexer.Files.Tree

/-!
# The program

Everything is decided by `command`; what is left is to hand it the files and to
put its output where it belongs. The files that the arguments name are all read
beforehand, so that the command is given a function. Should standard output
refuse what it is given, the command is asked again for what it has to say to
that. Of a mistake in the arguments the command has the first line without its
end (`Stop.output`), so the line is ended here.
-/

namespace ImpLexer

/-- The number and the wording of an error of the operating system. Numbers may
come negated. -/
def systemError? : IO.Error → Option (Nat × String)
  | .noFileOrDirectory _ code details | .inappropriateType _ code details
  | .permissionDenied _ code details | .resourceExhausted _ code details
  | .invalidArgument _ code details =>
      some (if code < 0x80000000 then code.toNat else (0 - code).toNat, details)
  | _ => none

/-- An error of the operating system in words. -/
def reasonOf (error : IO.Error) : Text :=
  match systemError? error with
  | some (number, details) => s!"{details.capitalize} (os error {number})".toList
  | none => (toString error).toList

def readErrorOf (error : IO.Error) : ReadError :=
  match systemError? error with
  | some (2, _) => .notFound
  | some (20, _) => .notADirectory
  | some (21, _) => .isADirectory
  | some (36, _) => .nameTooLong
  | _ => .other (reasonOf error)

def readFile (path : String) : IO (Except ReadError Text) := do
  try
    return Tree.decode (← IO.FS.readBinFile path)
  catch error =>
    return .error (readErrorOf error)

/-- Reads the files that a list of arguments names. -/
def readFiles (arguments : List Text) : IO Reader := do
  let paths := match Arguments.parse arguments with
    | .ok arguments => arguments.paths
    | .error _ => []
  let contents ← paths.mapM fun path => return (path, ← readFile (String.ofList path))
  return fun path => (contents.lookup path).getD (.error .notFound)

end ImpLexer

open ImpLexer

def main (arguments : List String) : IO UInt32 := do
  let arguments := arguments.map String.toList
  let read ← readFiles arguments
  let answer := command arguments read
  let stdout ← IO.getStdout
  let output ← do
    let output := answer .accepting
    try
      stdout.putStr (String.ofList output.stdout)
      stdout.flush
      pure output
    catch error =>
      pure (answer (.refusing (reasonOf error)))
  IO.eprint (String.ofList output.stderr)
  if output.status = 2 then IO.eprintln ""
  return UInt32.ofNat output.status
