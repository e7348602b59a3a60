import ImpLexer.Lexeme.Read
import ImpLexer.Token.Basic

/-!
# Lexers

A lexer is a place in a text: what is still to be read, and the position of its
first character. What has been read is gone, so a lexer knows nothing about the
text in front of it but the position it has reached, and that only serves to
tell tokens and errors where they are.

Reading a token is reading a lexeme and putting a position on the outcome. A
token that could not be read leaves the lexer where the reader stopped, which
may be in the middle of a literal; the lexer can still be used there. It is the
place that single moves would have led to as well
(`Lexer.readToken_eq_walkToken`).
-/

namespace ImpLexer

/-- A place in a text that is being lexed. -/
structure Lexer where
  config : Config
  /-- The place where the token that was last asked for begins. -/
  tokenStart : Position
  /-- The place in front of the remaining text. -/
  position : Position
  rest : Text
  deriving DecidableEq, Repr

namespace Lexer

/-- A lexer in front of a whole text. -/
def ofText (config : Config) (source : Text) : Lexer :=
  ⟨config, .start, .start, source⟩

/-- A lexer that has passed over `passed` and has `rest` in front of it. -/
def move (lexer : Lexer) (passed rest : Text) : Lexer :=
  { lexer with position := lexer.position.after passed, rest }

/-! ## Looking -/

/-- The character the lexer is in front of. -/
def current (lexer : Lexer) : Option Char := lexer.rest.head?

/-- The character behind the current one. -/
def peek (lexer : Lexer) : Option Char := lexer.rest.tail.head?

def atNumber (lexer : Lexer) : Bool := startsNumber lexer.rest

/-! ## Moving -/

/-- Passes over one character, if there is one. -/
def advance (lexer : Lexer) : Lexer := lexer.move (lexer.rest.take 1) (lexer.rest.drop 1)

/-- Passes over one character if it is `c`, and tells whether it was. -/
def accept (c : Char) (lexer : Lexer) : Bool × Lexer :=
  if lexer.current = some c then (true, lexer.advance) else (false, lexer)

def skipBlanks (lexer : Lexer) : Lexer :=
  lexer.move (lexer.rest.takeWhile isBlank) (lexer.rest.dropWhile isBlank)

/-- Reads the token that begins on the spot. -/
def readToken (lexer : Lexer) : Except LexError Token × Lexer :=
  let reading := readLexeme lexer.config.leadingZeros lexer.rest
  let begun := { lexer with tokenStart := lexer.position }
  let result := match reading.outcome with
    | .ok kind => .ok ⟨kind, reading.consumed, begun.tokenStart.offset⟩
    | .error fault => .error ⟨fault.cause, begun.tokenStart.after fault.before⟩
  (result, begun.move reading.consumed reading.rest)

/-! ## The remaining text shrinks -/

@[simp] theorem rest_move (lexer : Lexer) (passed rest : Text) :
    (lexer.move passed rest).rest = rest := rfl

@[simp] theorem position_move (lexer : Lexer) (passed rest : Text) :
    (lexer.move passed rest).position = lexer.position.after passed := rfl

theorem length_rest_skipBlanks_le (lexer : Lexer) :
    lexer.skipBlanks.rest.length ≤ lexer.rest.length := by
  rw [skipBlanks, rest_move]
  exact (List.dropWhile_suffix _).sublist.length_le

theorem length_rest_readToken_lt {lexer next : Lexer} {token : Token}
    (h : lexer.readToken = (.ok token, next)) : next.rest.length < lexer.rest.length := by
  unfold readToken at h
  cases hr : (readLexeme lexer.config.leadingZeros lexer.rest).outcome with
  | error fault => simp [hr] at h
  | ok kind =>
      rw [← (Prod.mk.inj h).2]
      exact length_rest_lt_of_ok hr

end Lexer

end ImpLexer
