import ImpLexer.Config
import ImpLexer.Text.Class
import ImpLexer.Token.Basic

/-!
# The grammar of tokens

Which texts are tokens, kind by kind, said without reading anything: a text is
put together from its parts, and nothing is asked about what follows it. The
lexer is not defined through this and does not use it.

The six kinds share no text, but a token of one kind may begin a token of
another, and of its own: `-` and `-1`, `<` and `<=`, `1` and `1.5`, `a` and
`ab`. That the lexer takes the longest is a statement about both sides.
-/

namespace ImpLexer

/-! ## Parts -/

/-- A run of at least one digit. -/
def IsDigits (t : Text) : Prop := t ≠ [] ∧ ∀ c ∈ t, isDigit c

/-- The digits of a number in front of its fraction. Unless redundant zeros are
allowed, a zero in front stands alone. -/
def IsWhole (policy : LeadingZeros) (t : Text) : Prop :=
  IsDigits t ∧ (policy = .allow ∨ t = ['0'] ∨ t.head? ≠ some '0')

/-- A minus sign or nothing. -/
def IsSign (t : Text) : Prop := t = [] ∨ t = ['-']

def IsEscape (t : Text) : Prop := ∃ c, isEscapeCode c ∧ t = ['\\', c]

/-- What may stand in a character literal. -/
def IsCharacterUnit (t : Text) : Prop :=
  IsEscape t ∨ ∃ c, c ≠ '\'' ∧ c ≠ '\\' ∧ c ≠ '\n' ∧ c ≠ '\r' ∧ t = [c]

/-- A piece of what may stand in a string literal. -/
def IsStringUnit (t : Text) : Prop :=
  IsEscape t ∨ ∃ c, c ≠ '"' ∧ c ≠ '\\' ∧ ¬isControl c ∧ t = [c]

/-- What stands in a string literal: any number of pieces. -/
def IsStringBody (t : Text) : Prop :=
  ∃ units : List Text, (∀ u ∈ units, IsStringUnit u) ∧ t = units.flatten

/-- A character that is an operator by itself. -/
def IsSymbol (c : Char) : Prop :=
  ¬isLetter c ∧ c ≠ '_' ∧ ¬isDigit c ∧ c ≠ '\'' ∧ c ≠ '"' ∧ ¬isControl c ∧ ¬isWhiteSpace c

/-! ## Tokens -/

/-- The texts of each kind. -/
def IsLexeme (policy : LeadingZeros) : Kind → Text → Prop
  | .identifier, t => ∃ c w, t = c :: w ∧ isWordStart c ∧ ∀ d ∈ w, isWordChar d
  | .integer, t => ∃ sign whole, IsSign sign ∧ IsWhole policy whole ∧ t = sign ++ whole
  | .decimal, t =>
      ∃ sign whole fraction, IsSign sign ∧ IsWhole policy whole ∧ IsDigits fraction ∧
        t = sign ++ whole ++ '.' :: fraction
  | .character, t => ∃ unit, IsCharacterUnit unit ∧ t = '\'' :: unit ++ ['\'']
  | .string, t => ∃ body, IsStringBody body ∧ t = '"' :: body ++ ['"']
  | .operator, t => (∃ c, isComparison c ∧ t = [c, '=']) ∨ ∃ c, IsSymbol c ∧ t = [c]

end ImpLexer
