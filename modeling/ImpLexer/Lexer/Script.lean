import ImpLexer.Lexer.Scan

/-!
# Using a lexer step by step

Whoever drives a lexer by hand gives it instructions one after another, and may
go on after an instruction that failed: the lexer is wherever that one left it.
An instruction is either an action, which leaves a lexer to go on with, or the
request for all tokens that are left, which uses it up, so that whatever was to
follow is moot.
-/

namespace ImpLexer

/-- Something that can be done with a lexer any number of times. -/
inductive Action where
  | readToken
  | skipBlanks
  | advance
  | peek
  | atNumber
  | accept (c : Char)
  deriving DecidableEq, Repr

/-- What an action has to say. -/
inductive Answer where
  | token (result : Except LexError Token)
  | nothing
  | character (c : Option Char)
  | truth (b : Bool)

/-- An action, or the request for the rest of the tokens. -/
inductive Instruction where
  | act (action : Action)
  | finish
  deriving DecidableEq, Repr

/-- What came of an instruction. -/
inductive Step where
  /-- An action's answer, and the lexer as the action left it. -/
  | acted (answer : Answer) (lexer : Lexer)
  | finished (result : Except LexError (List Token))

namespace Lexer

/-- Performs an action. Moving by one character answers with the character that
is then the current one. -/
def perform (lexer : Lexer) : Action → Answer × Lexer
  | .readToken => (.token lexer.readToken.1, lexer.readToken.2)
  | .skipBlanks => (.nothing, lexer.skipBlanks)
  | .advance => (.character lexer.advance.current, lexer.advance)
  | .peek => (.character lexer.peek, lexer)
  | .atNumber => (.truth lexer.atNumber, lexer)
  | .accept c => (.truth (lexer.accept c).1, (lexer.accept c).2)

/-- The lexer that a list of actions leaves. -/
def performAll (lexer : Lexer) (actions : List Action) : Lexer :=
  actions.foldl (fun lexer action => (lexer.perform action).2) lexer

def follow (lexer : Lexer) : List Instruction → List Step
  | [] => []
  | .act action :: more =>
      let (answer, next) := lexer.perform action
      .acted answer next :: next.follow more
  | .finish :: _ => [.finished lexer.tokens]

end Lexer

end ImpLexer
