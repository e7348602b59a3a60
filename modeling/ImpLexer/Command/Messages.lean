import ImpLexer.Config
import ImpLexer.Files.Access
import ImpLexer.LexError

/-!
# What a run has to tell

A run tells of its failures, and of its doings if it is asked to be talkative.
It reports at most one failure for each of its paths: the file cannot be read,
its text cannot be lexed, or what is to be said about it cannot be written.

What it does is logged, an event a line. Events are recorded either way: whether
they are written is decided at the end, and nothing else depends on it.

The lines themselves are spelt out beside each of the two (`Failure.report_read`
and the like, `Event.record_begun` and the like).
-/

namespace ImpLexer

/-! ## Failures -/

/-- Why a path has not been dealt with. -/
inductive Failure where
  | read (path : Text) (error : ReadError)
  | lex (path : Text) (error : LexError)
  /-- Standard output does not take any more. -/
  | write (reason : Text)
  deriving DecidableEq, Repr

namespace Failure

/-- A failure in words. An error in a text takes a second line, which says where
it is. -/
def message : Failure → Text
  | read path error => "failed to read ".toList ++ path ++ ": ".toList ++ error.message
  | lex path error =>
      error.cause.message ++ "\n --> ".toList ++ path ++ ':' :: error.position.render
  | write reason => "failed to write to stdout: ".toList ++ reason

def report (failure : Failure) : Text := Text.line ("error: ".toList ++ failure.message)

theorem report_read (path : Text) (error : ReadError) :
    (read path error).report =
      "error: failed to read ".toList ++ path ++ ": ".toList ++ error.message ++ ['\n'] := rfl

theorem report_lex (path : Text) (error : LexError) :
    (lex path error).report =
      "error: ".toList ++ error.cause.message ++ "\n --> ".toList ++ path ++
        ':' :: Text.decimal error.position.line ++
        ':' :: Text.decimal error.position.column ++ ['\n'] := by
  show "error: ".toList ++ (error.cause.message ++ "\n --> ".toList ++ path ++
    ':' :: (Text.decimal error.position.line ++ ':' :: Text.decimal error.position.column)) ++
      ['\n'] = _
  simp only [List.append_assoc, List.cons_append]

theorem report_write (reason : Text) :
    (write reason).report =
      "error: failed to write to stdout: ".toList ++ reason ++ ['\n'] := rfl

end Failure

/-! ## Events -/

/-- Something that happened in a run. -/
inductive Event where
  | begun (files : Nat) (config : Config)
  | lexedSource (tokens bytes : Nat)
  /-- The file that holds the text has been lexed. -/
  | lexedFile (path : Text) (tokens : Nat)
  | failed (error : LexError)
  deriving DecidableEq, Repr

namespace Event

/-- An event in words, with its particulars as `name=value`. -/
def message : Event → Text
  | begun files config =>
      "lexing files=".toList ++ Text.decimal files ++ " config=".toList ++ config.render
  | lexedSource tokens bytes =>
      "lexed source tokens=".toList ++ Text.decimal tokens ++
        " bytes=".toList ++ Text.decimal bytes
  | lexedFile path tokens =>
      "lexed file path=".toList ++ path ++ " tokens=".toList ++ Text.decimal tokens
  | failed error =>
      "lexing failed offset=".toList ++ Text.decimal error.position.offset ++
        " error=".toList ++ error.cause.message

def record (event : Event) : Text := Text.line ("DEBUG ".toList ++ event.message)

theorem record_begun (files : Nat) (config : Config) :
    (begun files config).record =
      "DEBUG lexing files=".toList ++ Text.decimal files ++
        " config=LexerConfig \x7b leading_zeros: ".toList ++
        (if config.leadingZeros = .reject then "Reject".toList else "Allow".toList) ++
        " \x7d\n".toList := by
  have hfront : "DEBUG lexing files=".toList = "DEBUG ".toList ++ "lexing files=".toList := by
    simp
  have hmiddle : " config=LexerConfig \x7b leading_zeros: ".toList =
      " config=".toList ++ "LexerConfig \x7b leading_zeros: ".toList := by
    simp
  have hback : " \x7d\n".toList = " \x7d".toList ++ ['\n'] := by
    simp
  have hpolicy : config.leadingZeros.render =
      if config.leadingZeros = .reject then "Reject".toList else "Allow".toList := by
    cases config.leadingZeros with
    | reject | allow => rfl
  show "DEBUG ".toList ++ ("lexing files=".toList ++ Text.decimal files ++ " config=".toList ++
    ("LexerConfig \x7b leading_zeros: ".toList ++ config.leadingZeros.render ++
      " \x7d".toList)) ++ ['\n'] = _
  simp only [hfront, hmiddle, hback, hpolicy, List.append_assoc]

theorem record_lexedSource (tokens bytes : Nat) :
    (lexedSource tokens bytes).record =
      "DEBUG lexed source tokens=".toList ++ Text.decimal tokens ++
        " bytes=".toList ++ Text.decimal bytes ++ ['\n'] := rfl

theorem record_lexedFile (path : Text) (tokens : Nat) :
    (lexedFile path tokens).record =
      "DEBUG lexed file path=".toList ++ path ++
        " tokens=".toList ++ Text.decimal tokens ++ ['\n'] := rfl

theorem record_failed (error : LexError) :
    (failed error).record =
      "DEBUG lexing failed offset=".toList ++ Text.decimal error.position.offset ++
        " error=".toList ++ error.cause.message ++ ['\n'] := rfl

end Event

end ImpLexer
