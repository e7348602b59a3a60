import ImpLexer.LexError
import ImpLexer.Token.Basic

/-!
# Readings

A lexeme is read at the front of a text, whatever stood before that text and
wherever in a file it is. A `Reading` says how far the reader got and what it
found: the characters it consumed, the rest of the text, and either the kind of
the lexeme or what is wrong with it.

A reader that fails has still consumed something, since it stops on the spot
where it cannot go on. What it blames may lie further back, so a `Fault` names
that place by the part of the consumed characters in front of it. Every reader
owes the same lemma: consumed characters and rest are the text.
-/

namespace ImpLexer

/-- What is wrong with a lexeme. -/
structure Fault where
  cause : Cause
  /-- The characters between the beginning of the lexeme and the place that is
  blamed. -/
  before : Text
  deriving DecidableEq, Repr

/-- What came of reading a lexeme at the front of a text. -/
structure Reading where
  /-- The characters that were passed over. -/
  consumed : Text
  rest : Text
  /-- The kind of the lexeme, whose characters are the consumed ones, or what is
  wrong. -/
  outcome : Except Fault Kind

namespace Reading

/-- The text that was read from. -/
def text (r : Reading) : Text := r.consumed ++ r.rest

def found (kind : Kind) (consumed rest : Text) : Reading :=
  ⟨consumed, rest, .ok kind⟩

/-- A failure that is blamed on the place where the lexeme begins. -/
def failedAtStart (cause : Cause) (consumed rest : Text) : Reading :=
  ⟨consumed, rest, .error ⟨cause, []⟩⟩

/-- A failure that is blamed on the place where the reader stopped. -/
def failedAtEnd (cause : Cause) (consumed rest : Text) : Reading :=
  ⟨consumed, rest, .error ⟨cause, consumed⟩⟩

@[simp] theorem text_found (kind : Kind) (s t : Text) :
    (found kind s t).text = s ++ t := rfl

@[simp] theorem text_failedAtStart (cause : Cause) (s t : Text) :
    (failedAtStart cause s t).text = s ++ t := rfl

@[simp] theorem text_failedAtEnd (cause : Cause) (s t : Text) :
    (failedAtEnd cause s t).text = s ++ t := rfl

end Reading

end ImpLexer
