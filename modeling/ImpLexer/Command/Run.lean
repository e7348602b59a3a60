import ImpLexer.Command.Messages
import ImpLexer.Command.Usage
import ImpLexer.Lexer.Scan

/-!
# Running the command

All files are read and lexed first, and reported on afterwards, in the order of
the paths: what came of lexing them is a list with an entry for each path, and
the two lists are gone through side by side. A report is the listing of a file's
tokens, under a heading if there is more than one path; it ends early if the
file has no tokens to list, because it cannot be read or lexed, or if the output
refuses a line. Either is a failure, the first to be met counts, and all
failures are told at the very end.

A run sees the world through two parameters only: the function that reads the
file at a path, and the sink that its output goes to. It is a function of these
and of the arguments. That takes for granted that one file is lexed after the
other. Several workers may share the files between them, and then the results
still come in the order of the paths, but the events of different files may come
in any order; only with one worker is the log the one that is described here
(`Arguments.events`).
-/

namespace ImpLexer

/-- What a run leaves behind. -/
structure Output where
  status : Nat
  stdout : Text
  stderr : Text
  deriving DecidableEq, Repr

/-! ## A single path -/

/-- What came of lexing the file at a path. -/
structure FileResult where
  events : List Event
  tokens : Except Failure (List Token)

def lexFile (config : Config) (read : Reader) (path : Text) : FileResult :=
  match read path with
  | .error error => ⟨[], .error (.read path error)⟩
  | .ok source =>
      match lex config source with
      | .error error => ⟨[.failed error], .error (.lex path error)⟩
      | .ok tokens =>
          ⟨[.lexedSource tokens.length source.byteSize, .lexedFile path tokens.length],
            .ok tokens⟩

/-- What a path contributes to the output, and what went wrong with it. -/
structure Report where
  written : Text
  failure : Option Failure
  deriving DecidableEq, Repr

/-- The line above a listing. -/
def heading (path : Text) : Text := "==> ".toList ++ path ++ " <==".toList

/-- Reports on a path, under a heading if `headed`, when `result` is what came of
lexing the file at it. -/
def FileResult.report (sink : Sink) (headed : Bool) (path : Text) (result : FileResult) :
    Report :=
  match sink.putAll (if headed then [heading path] else []) with
  | (above, some reason) => ⟨above, some (.write reason)⟩
  | (above, none) =>
      match result.tokens with
      | .error failure => ⟨above, some failure⟩
      | .ok tokens =>
          let (listing, refusal) := sink.putAll (tokens.map Token.render)
          ⟨above ++ listing, refusal.map .write⟩

/-! ## All paths -/

namespace Arguments

/-- What came of each file, in the order of the paths. -/
def results (arguments : Arguments) (read : Reader) : List FileResult :=
  arguments.paths.map (lexFile arguments.config read)

/-- The events of a run with one worker, which lexes the files in the order of the
paths. -/
def events (arguments : Arguments) (read : Reader) : List Event :=
  .begun arguments.paths.length arguments.config ::
    (arguments.results read).flatMap FileResult.events

/-- The reports, each on a path and the result that stands in the same place. -/
def reports (arguments : Arguments) (read : Reader) (sink : Sink) : List Report :=
  (arguments.paths.zip (arguments.results read)).map fun (path, result) =>
    result.report sink (1 < arguments.paths.length) path

/-- The result that stands in the place of a path is that of its own file. -/
theorem reports_eq_map (arguments : Arguments) (read : Reader) (sink : Sink) :
    arguments.reports read sink = arguments.paths.map fun path =>
      (lexFile arguments.config read path).report sink (1 < arguments.paths.length) path := by
  rw [reports, results, ← List.map_prod_left_eq_zip, List.map_map]
  rfl

def run (arguments : Arguments) (read : Reader) (sink : Sink) : Output :=
  let reports := arguments.reports read sink
  let failures := reports.filterMap Report.failure
  let log := if arguments.verbose then (arguments.events read).flatMap Event.record else []
  { status := if failures = [] then 0 else 1
    stdout := reports.flatMap Report.written
    stderr := log ++ failures.flatMap Failure.report }

end Arguments

/-! ## The whole command -/

/-- What the command answers instead of running. Help and the version are worth
no complaint if they cannot be written.

Of what is printed about a mistake in the arguments, `stderr` holds the first
line alone, without the line break. Left out is what stands behind it: the names
of the arguments that are missing, a hint at what may have been meant, the usage
of the command and a pointer to its help. -/
def Stop.output (stop : Stop) (sink : Sink) : Output :=
  match stop with
  | .help detail => ⟨0, (sink.putAll (Usage.help detail)).1, []⟩
  | .version => ⟨0, (sink.putAll [Usage.version]).1, []⟩
  | .refused error => ⟨2, [], Text.firstLine ("error: ".toList ++ error.message)⟩

/-- The command: reads its arguments, and runs if there is something to run. -/
def command (arguments : List Text) (read : Reader) (sink : Sink) : Output :=
  match Arguments.parse arguments with
  | .ok arguments => arguments.run read sink
  | .error stop => stop.output sink

end ImpLexer
