import ImpLexer.Text.Basic
import ImpLexer.Unicode.GraphemeExtend
import ImpLexer.Unicode.Invisible

/-!
# Text made visible

Token listings and messages show pieces of source text to a reader, who has to
see exactly which characters are meant. There are two ways of writing them.

The *quoted* form keeps whatever can be seen and writes the rest as an escape:
the five characters that have a letter or a digit of their own, the backslash,
the quotation mark the text stands in, and, by code point, characters that
cannot be printed, that a display passes over, or that would join the one in
front of them.

The *ASCII* form keeps the printable ASCII characters alone, and escapes both
quotation marks.

In both, what follows a backslash tells how far the escape goes, so no two
characters have the same form and a form never begins another.
-/

namespace ImpLexer.Text

/-- A character by its code point: a backslash, `u`, and hexadecimal digits in
braces. -/
def codePoint (c : Char) : Text :=
  ['\\', 'u', '\x7b'] ++ hexadecimal c.toNat ++ ['\x7d']

/-- Does a character attach to the one in front of it? The two halfwidth sound
marks of the katakana extend a grapheme in name alone: each of them fills a cell of
its own and can be read where it stands. -/
def joinsPrevious (c : Char) : Bool :=
  Unicode.isGraphemeExtend c && c != '\uff9e' && c != '\uff9f'

/-- Is a character not to be seen, or not to be told from its neighbour? -/
def isObscure (c : Char) : Bool :=
  joinsPrevious c || Unicode.isDefaultIgnorable c || Unicode.isUnprintable c

/-- What is obscure is told by the ranges alone, and not by how they are searched. -/
theorem isObscure_iff (c : Char) :
    isObscure c ↔
      Unicode.graphemeExtendRanges.Covers c ∧ c ≠ '\uff9e' ∧ c ≠ '\uff9f' ∨
        Unicode.defaultIgnorableRanges.Covers c ∨ Unicode.unprintableRanges.Covers c := by
  have hextend := Unicode.Ranges.contains_iff Unicode.ascendsFrom_graphemeExtendRanges c
  have hignorable := Unicode.Ranges.contains_iff Unicode.ascendsFrom_defaultIgnorableRanges c
  have hunprintable := Unicode.Ranges.contains_iff Unicode.ascendsFrom_unprintableRanges c
  rw [← hextend, ← hignorable, ← hunprintable]
  simp only [isObscure, joinsPrevious, Unicode.isGraphemeExtend, Unicode.isDefaultIgnorable,
    Unicode.isUnprintable, Bool.or_eq_true, Bool.and_eq_true, bne_iff_ne, and_assoc, or_assoc]

/-- A character as it stands in a text that is enclosed in the mark `quote`. -/
def visible (quote c : Char) : Text :=
  if c = '\x00' then ['\\', '0']
  else if c = '\t' then ['\\', 't']
  else if c = '\r' then ['\\', 'r']
  else if c = '\n' then ['\\', 'n']
  else if c = '\\' ∨ c = quote then ['\\', c]
  else if isObscure c then codePoint c
  else [c]

/-- A character in single quotation marks. -/
def quotedChar (c : Char) : Text := '\'' :: visible '\'' c ++ ['\'']

/-- A text in double quotation marks. -/
def quoted (t : Text) : Text := '"' :: t.flatMap (visible '"') ++ ['"']

/-- A character in printable ASCII. -/
def ascii (c : Char) : Text :=
  if c = '\t' then ['\\', 't']
  else if c = '\r' then ['\\', 'r']
  else if c = '\n' then ['\\', 'n']
  else if c = '\'' ∨ c = '"' ∨ c = '\\' then ['\\', c]
  else if 0x20 ≤ c.toNat ∧ c.toNat ≤ 0x7e then [c]
  else codePoint c

end ImpLexer.Text
