import ImpLexer.Text.Basic

/-!
# Positions

A position names a place between two characters of a text in three ways at
once: the bytes in front of it, the number of its line, and the number of its
column, which counts characters. Only a line feed starts a line; a carriage
return is a column like any other, so the two styles of line ending give a
character the same line and column.

A position moves over one character at a time, and over a text by moving over
each of its characters (`Position.after`). Moving composes: over `s ++ t` is
over `s` and then over `t`.
-/

namespace ImpLexer

/-- A place in a text. -/
structure Position where
  /-- The bytes in front of the place. -/
  offset : Nat
  /-- The line it is on, counted from 1. -/
  line : Nat
  /-- The character it is in front of, counted from 1 within its line. -/
  column : Nat
  deriving DecidableEq, Repr

namespace Position

/-- The place in front of a whole text. -/
def start : Position := ⟨0, 1, 1⟩

/-- The place behind the character `c` that stands at `p`. -/
def advance (p : Position) (c : Char) : Position where
  offset := p.offset + c.utf8Size
  line := if c = '\n' then p.line + 1 else p.line
  column := if c = '\n' then 1 else p.column + 1

/-- The place behind the text `t` that stands at `p`. -/
def after (p : Position) (t : Text) : Position := t.foldl advance p

@[simp] theorem after_nil (p : Position) : p.after [] = p := rfl

@[simp] theorem after_cons (p : Position) (c : Char) (t : Text) :
    p.after (c :: t) = (p.advance c).after t := rfl

theorem after_append (p : Position) (s t : Text) :
    p.after (s ++ t) = (p.after s).after t := by
  simp [after]

/-- Every place from `p` on to the end of a text that stands at `p`. -/
def trail (p : Position) : Text → List Position
  | [] => [p]
  | c :: t => p :: (p.advance c).trail t

/-- A position as it is shown to a reader, who looks for lines and columns. -/
def render (p : Position) : Text :=
  Text.decimal p.line ++ ':' :: Text.decimal p.column

end Position

end ImpLexer
