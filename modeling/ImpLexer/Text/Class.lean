import ImpLexer.Text.Basic

/-!
# Classes of characters

The language's own classes (digits, word characters, blanks, line breaks and
escape codes) are sets of ASCII characters: a letter with an accent starts no
identifier and a digit of another script no number. Two classes are Unicode's,
control characters and white space, and both serve only to refuse: a character
in one of them is never an operator.

The blanks that may stand between tokens are not the white space of Unicode. They
contain backspace, which is a control character, and they lack form feed and
vertical tab, which are white space.
-/

namespace ImpLexer

/-- A decimal digit, `0` to `9`. -/
def isDigit (c : Char) : Bool := '0' ≤ c && c ≤ '9'

/-- An ASCII letter. -/
def isLetter (c : Char) : Bool := 'a' ≤ c && c ≤ 'z' || 'A' ≤ c && c ≤ 'Z'

/-- A character that an identifier may start with. -/
def isWordStart (c : Char) : Bool := isLetter c || c = '_'

/-- A character that an identifier may go on with. -/
def isWordChar (c : Char) : Bool := isWordStart c || isDigit c || c = '-'

/-- A character that ends a line, and so every literal that is still open. -/
def isLineBreak (c : Char) : Bool := c = '\n' || c = '\r'

/-- A character that may stand between tokens: space, tab, a line break or
backspace. -/
def isBlank (c : Char) : Bool :=
  c = ' ' || c = '\t' || c = '\n' || c = '\r' || c = '\x08'

/-- A character that names an escape sequence when it follows a backslash. -/
def isEscapeCode (c : Char) : Bool :=
  c = 'b' || c = 'n' || c = 'r' || c = 't' || c = '\'' || c = '"' || c = '\\'

/-- A control character: Unicode's general category Cc. -/
def isControl (c : Char) : Bool :=
  c.toNat ≤ 0x1f || 0x7f ≤ c.toNat && c.toNat ≤ 0x9f

/-- Unicode's property White_Space. -/
def isWhiteSpace (c : Char) : Bool :=
  let n := c.toNat
  0x09 ≤ n && n ≤ 0x0d || n = 0x20 || n = 0x85 || n = 0xa0 || n = 0x1680 ||
    0x2000 ≤ n && n ≤ 0x200a || n = 0x2028 || n = 0x2029 || n = 0x202f ||
    n = 0x205f || n = 0x3000

/-- A character that an `=` may follow inside one operator. -/
def isComparison (c : Char) : Bool := c = '<' || c = '>' || c = '=' || c = '!'

end ImpLexer
