import ImpLexer.Config
import ImpLexer.Lexeme.Basic
import ImpLexer.Text.Class

/-!
# Words, numbers and operators

The lexemes that stand without quotation marks. An identifier is a run of word
characters. Whoever calls its reader has seen that the first of them may start
one, so nothing can go wrong.

A number is an optional minus sign, a run of digits, and an optional fraction,
which is a point and another run of digits. The sign belongs to a number only
if a digit follows it, and so does the point: `1.` is a number and an operator,
and in `1.2.3` the second point ends the number. Under the policy that rejects
redundant zeros the reader does not get beyond a first `0` with a digit behind
it.

A character that begins nothing else is an operator by itself, whatever it is,
so long as it can be seen: a blank, a control character or white space is not.
Four characters take an `=` behind them into the same operator.
-/

namespace ImpLexer

/-! ## Identifiers -/

/-- Reads the word at the front of a text. -/
def readIdentifier (t : Text) : Reading :=
  .found .identifier (t.takeWhile isWordChar) (t.dropWhile isWordChar)

@[simp] theorem text_readIdentifier (t : Text) : (readIdentifier t).text = t := by
  simp [readIdentifier]

/-! ## Numbers -/

/-- Does a number stand at the front of a text? -/
def startsNumber : Text → Bool
  | [] => false
  | [c] => isDigit c
  | c :: d :: _ => isDigit c || c = '-' && isDigit d

/-- The minus sign in front of a number, if there is one, and what follows. -/
def splitSign : Text → Text × Text
  | [] => ([], [])
  | c :: t => if c = '-' then ([c], t) else ([], c :: t)

/-- Do a zero and another digit stand at the front of a text? -/
def startsRedundantly : Text → Bool
  | c :: d :: _ => c = '0' && isDigit d
  | _ => false

/-- The fraction at the front of a text, if there is one, and what follows. -/
def splitFraction : Text → Text × Text
  | c :: d :: t =>
      if c = '.' && isDigit d then
        (c :: d :: t.takeWhile isDigit, t.dropWhile isDigit)
      else ([], c :: d :: t)
  | t => ([], t)

/-- Reads the number at the front of a text. -/
def readNumber (policy : LeadingZeros) (t : Text) : Reading :=
  let (sign, body) := splitSign t
  if policy = .reject ∧ startsRedundantly body then
    ⟨sign ++ body.take 1, body.drop 1, .error ⟨.leadingZero, sign⟩⟩
  else
    let whole := body.takeWhile isDigit
    let (fraction, rest) := splitFraction (body.dropWhile isDigit)
    .found (if fraction = [] then .integer else .decimal) (sign ++ whole ++ fraction) rest

theorem splitSign_append (t : Text) : (splitSign t).1 ++ (splitSign t).2 = t := by
  cases t with
  | nil => rfl
  | cons c t => by_cases h : c = '-' <;> simp [splitSign, h]

theorem splitFraction_append (t : Text) :
    (splitFraction t).1 ++ (splitFraction t).2 = t := by
  match t with
  | [] | [_] => rfl
  | c :: d :: t =>
      rw [splitFraction]
      split <;> simp

@[simp] theorem text_readNumber (policy : LeadingZeros) (t : Text) :
    (readNumber policy t).text = t := by
  simp only [readNumber]
  split
  · rw [Reading.text, List.append_assoc, List.take_append_drop, splitSign_append]
  · rw [Reading.text_found, List.append_assoc, List.append_assoc, splitFraction_append,
      List.takeWhile_append_dropWhile, splitSign_append]

/-! ## Operators -/

/-- Reads an operator at the front of the text `c :: t`. -/
def readOperator (c : Char) (t : Text) : Reading :=
  if isBlank c then .failedAtStart .unexpectedWhitespace [] (c :: t)
  else if isControl c || isWhiteSpace c then
    .failedAtStart (.unexpectedCharacter c) [] (c :: t)
  else
    match t with
    | [] => .found .operator [c] []
    | d :: rest =>
        if isComparison c ∧ d = '=' then .found .operator [c, d] rest
        else .found .operator [c] (d :: rest)

@[simp] theorem text_readOperator (c : Char) (t : Text) :
    (readOperator c t).text = c :: t := by
  unfold readOperator
  split
  · rfl
  · split
    · rfl
    · split
      · rfl
      · split <;> rfl

end ImpLexer
