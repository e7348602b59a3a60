import ImpLexer.Text.Basic

/-!
# What can be chosen about lexing

There is one choice. A number may be required to be written without redundant
leading zeros, which catches the `007` that in other languages would have been
octal, or it may be any run of digits.
-/

namespace ImpLexer

/-- What becomes of a number whose first `0` is followed by a digit. -/
inductive LeadingZeros where
  /-- It is an error: a `0` in front may only stand alone. -/
  | reject
  /-- It is a number like any other. -/
  | allow
  deriving DecidableEq, Repr

namespace LeadingZeros

/-- The word that selects a policy. -/
def word : LeadingZeros → Text
  | reject => "reject".toList
  | allow => "allow".toList

/-- A word that selects no policy. -/
structure UnknownWord where
  word : Text
  deriving DecidableEq, Repr

/-- The report of a word that selects no policy. -/
def UnknownWord.message (error : UnknownWord) : Text :=
  "invalid variant: ".toList ++ error.word

/-- The policy that a word selects; with `ignoreCase`, capital ASCII letters
count as small ones. -/
def ofWord (ignoreCase : Bool) (given : Text) : Except UnknownWord LeadingZeros :=
  let key := if ignoreCase then given.map Char.toLower else given
  if key = reject.word then .ok reject
  else if key = allow.word then .ok allow
  else .error ⟨given⟩

/-- A policy as a value in a log. -/
def render : LeadingZeros → Text
  | reject => "Reject".toList
  | allow => "Allow".toList

end LeadingZeros

/-- The choices under which a text is lexed. -/
structure Config where
  leadingZeros : LeadingZeros := .reject
  deriving DecidableEq, Repr

/-- The choices as a value in a log. -/
def Config.render (config : Config) : Text :=
  "LexerConfig \x7b leading_zeros: ".toList ++ config.leadingZeros.render ++ " \x7d".toList

end ImpLexer
