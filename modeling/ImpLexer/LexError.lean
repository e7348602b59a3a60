import ImpLexer.Text.Position
import ImpLexer.Text.Visible

/-!
# What can be wrong with a token

An error is a cause and the place it is blamed on. The place is where a reader
should look: a literal that never ends is blamed on the quotation mark that
opened it, an escape on its backslash, and a character that has no business
where it stands on that character itself.

Two of the causes arise only when a token is asked for where none can be, at the
end of the text or in front of a blank. Lexing a whole text passes over blanks
and stops at the end, so it never meets them.
-/

namespace ImpLexer

/-- Why no token could be read. -/
inductive Cause where
  /-- A control character stands in a string literal. -/
  | controlCharacter (c : Char)
  /-- Nothing stands between the quotation marks of a character literal. -/
  | emptyCharacter
  /-- A backslash is followed by a character that names no escape sequence. -/
  | invalidEscape (code : Char)
  /-- A number begins with a `0` and goes on with another digit. -/
  | leadingZero
  /-- A character literal is not closed behind its first character. -/
  | multipleCharacters
  /-- A control character or white space stands where a token should begin. -/
  | unexpectedCharacter (c : Char)
  /-- The text has ended. -/
  | unexpectedEndOfInput
  /-- A blank stands where a token should begin. -/
  | unexpectedWhitespace
  /-- The line of a character literal ends before the literal does. -/
  | unterminatedCharacter
  /-- The line of a string literal ends before the literal does. -/
  | unterminatedString
  deriving DecidableEq, Repr

namespace Cause

def character? : Cause → Option Char
  | controlCharacter c => some c
  | invalidEscape code => some code
  | unexpectedCharacter c => some c
  | _ => none

/-- A cause in words. A character that is out of place is shown in its quoted
form; the code of an escape sequence is shown in ASCII, behind the backslash
that it followed. -/
def message : Cause → Text
  | controlCharacter c =>
      "control character ".toList ++ Text.quotedChar c ++
        " must not appear in a literal".toList
  | emptyCharacter => "empty character literal".toList
  | invalidEscape code =>
      "invalid escape sequence `\\".toList ++ Text.ascii code ++ "`".toList
  | leadingZero => "redundant leading zero in number literal".toList
  | multipleCharacters => "character literal contains more than one character".toList
  | unexpectedCharacter c => "unexpected character ".toList ++ Text.quotedChar c
  | unexpectedEndOfInput => "unexpected end of input".toList
  | unexpectedWhitespace => "expected a token but found whitespace".toList
  | unterminatedCharacter => "unterminated character literal".toList
  | unterminatedString => "unterminated string literal".toList

end Cause

/-- A token that could not be read. -/
structure LexError where
  cause : Cause
  position : Position
  deriving DecidableEq, Repr

end ImpLexer
