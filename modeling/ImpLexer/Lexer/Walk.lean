import ImpLexer.Lexer.Basic

/-!
# Walking over a token

A reader is given all of the remaining text and takes a run in one go. A lexer
can do with less: it looks at the current character and at the one behind it,
and moves by one character. Here is every reader once more as a *walk*, which
has no other way to look or to move, and knows nothing of what it has passed but
the place where its token began.

Two of the walks are loops. `advanceWhile` stops at the first character that is
not in a class. `walkUnits` goes through a string literal, one unit at a time,
and asks after each whether the literal is closed. Both get on by a character at
least, so both come to an end; the equation of a loop for one character is what
is known of it from outside (`advanceWhile_of_current`, `walkUnits_of_current`).

The program itself reads. That a walk comes to the same is shown where the
readers are compared with it.
-/

namespace ImpLexer.Lexer

variable {lexer : Lexer} {c : Char}

theorem length_rest_advance_lt (h : lexer.current = some c) :
    lexer.advance.rest.length < lexer.rest.length := by
  obtain ⟨behind, hrest⟩ := List.head?_eq_some_iff.1 h
  rw [advance, rest_move, hrest]
  simp

/-! ## Runs -/

/-- Advances as long as the current character belongs to the class. -/
def advanceWhile (p : Char → Bool) (lexer : Lexer) : Lexer :=
  match _ : lexer.current with
  | none => lexer
  | some c => if p c then lexer.advance.advanceWhile p else lexer
termination_by lexer.rest.length
decreasing_by exact length_rest_advance_lt ‹_›

theorem advanceWhile_of_end (p : Char → Bool) (h : lexer.current = none) :
    lexer.advanceWhile p = lexer := by
  rw [advanceWhile]
  split
  · rfl
  · next c hc =>
      rw [h] at hc
      cases hc

theorem advanceWhile_of_current (p : Char → Bool) (h : lexer.current = some c) :
    lexer.advanceWhile p = if p c then lexer.advance.advanceWhile p else lexer := by
  rw [advanceWhile]
  split
  · next hnone =>
      rw [h] at hnone
      cases hnone
  · next d hd =>
      obtain rfl : c = d := Option.some.inj (h.symm.trans hd)
      rfl

/-! ## Failures -/

/-- A failure that is blamed on the place where the token began. -/
def blameStart {α : Type} (lexer : Lexer) (cause : Cause) : Except LexError α × Lexer :=
  (.error ⟨cause, lexer.tokenStart⟩, lexer)

/-- A failure that is blamed on the place where the lexer is. -/
def blameHere {α : Type} (lexer : Lexer) (cause : Cause) : Except LexError α × Lexer :=
  (.error ⟨cause, lexer.position⟩, lexer)

/-! ## Words, numbers and operators -/

def walkIdentifier (lexer : Lexer) : Except LexError Kind × Lexer :=
  (.ok .identifier, lexer.advanceWhile isWordChar)

/-- Behind the digits of a number, which may go on with a fraction. -/
def walkFraction (lexer : Lexer) : Except LexError Kind × Lexer :=
  if lexer.current = some '.' ∧ lexer.peek.any isDigit then
    (.ok .decimal, lexer.advance.advanceWhile isDigit)
  else (.ok .integer, lexer)

def walkNumber (lexer : Lexer) : Except LexError Kind × Lexer :=
  let unsigned := (lexer.accept '-').2
  let (zero, behind) := unsigned.accept '0'
  if zero ∧ behind.current.any isDigit ∧ lexer.config.leadingZeros = .reject then
    (.error ⟨.leadingZero, unsigned.position⟩, behind)
  else (behind.advanceWhile isDigit).walkFraction

/-- In front of the character `c`, which begins nothing but an operator. -/
def walkOperator (c : Char) (lexer : Lexer) : Except LexError Kind × Lexer :=
  if isBlank c then lexer.blameStart .unexpectedWhitespace
  else if isControl c || isWhiteSpace c then lexer.blameStart (.unexpectedCharacter c)
  else (.ok .operator, if isComparison c then (lexer.advance.accept '=').2 else lexer.advance)

/-! ## Quoted literals -/

/-- In front of a backslash. -/
def walkEscape (unterminated : Cause) (lexer : Lexer) : Except LexError Unit × Lexer :=
  let behind := lexer.advance
  match behind.current with
  | none => behind.blameStart unterminated
  | some c =>
      if isEscapeCode c then (.ok (), behind.advance)
      else if isLineBreak c then behind.blameStart unterminated
      else (.error ⟨.invalidEscape c, lexer.position⟩, behind)

/-- In front of what a character literal holds. -/
def walkUnit (lexer : Lexer) : Except LexError Unit × Lexer :=
  match lexer.current with
  | none => lexer.blameStart .unterminatedCharacter
  | some c =>
      if c = '\'' then lexer.blameStart .emptyCharacter
      else if c = '\\' then lexer.walkEscape .unterminatedCharacter
      else if isLineBreak c then lexer.blameStart .unterminatedCharacter
      else (.ok (), lexer.advance)

/-- In front of the mark that has to close a character literal. -/
def walkClosing (lexer : Lexer) : Except LexError Kind × Lexer :=
  match lexer.current with
  | none => lexer.blameStart .unterminatedCharacter
  | some c =>
      if c = '\'' then (.ok .character, lexer.advance)
      else if isLineBreak c then lexer.blameStart .unterminatedCharacter
      else lexer.blameHere .multipleCharacters

def walkCharacter (lexer : Lexer) : Except LexError Kind × Lexer :=
  match lexer.advance.walkUnit with
  | (.ok _, behind) => behind.walkClosing
  | (.error error, behind) => (.error error, behind)

theorem length_rest_walkEscape_lt {unterminated : Cause} (h : lexer.current = some c) :
    (lexer.walkEscape unterminated).2.rest.length < lexer.rest.length := by
  have hadvance := length_rest_advance_lt h
  rw [walkEscape]
  split
  · exact hadvance
  · next d hd =>
      split
      · exact Nat.lt_trans (length_rest_advance_lt hd) hadvance
      · split
        · exact hadvance
        · exact hadvance

/-- Inside of a string literal, up to the mark that closes it. -/
def walkUnits (lexer : Lexer) : Except LexError Kind × Lexer :=
  match hc : lexer.current with
  | none => lexer.blameStart .unterminatedString
  | some c =>
      if c = '"' then (.ok .string, lexer.advance)
      else if c = '\\' then
        match hescape : lexer.walkEscape .unterminatedString with
        | (.ok _, behind) =>
            have : behind.rest.length < lexer.rest.length := by
              have hlt := @length_rest_walkEscape_lt lexer c .unterminatedString hc
              rwa [hescape] at hlt
            behind.walkUnits
        | (.error error, behind) => (.error error, behind)
      else if isLineBreak c then lexer.blameStart .unterminatedString
      else if isControl c then lexer.blameHere (.controlCharacter c)
      else
        have := length_rest_advance_lt hc
        lexer.advance.walkUnits
termination_by lexer.rest.length

theorem walkUnits_of_end (h : lexer.current = none) :
    lexer.walkUnits = lexer.blameStart .unterminatedString := by
  rw [walkUnits]
  split
  · rfl
  · next c hc =>
      rw [h] at hc
      cases hc

theorem walkUnits_of_current (h : lexer.current = some c) :
    lexer.walkUnits =
      if c = '"' then (.ok .string, lexer.advance)
      else if c = '\\' then
        match lexer.walkEscape .unterminatedString with
        | (.ok _, behind) => behind.walkUnits
        | (.error error, behind) => (.error error, behind)
      else if isLineBreak c then lexer.blameStart .unterminatedString
      else if isControl c then lexer.blameHere (.controlCharacter c)
      else lexer.advance.walkUnits := by
  rw [walkUnits]
  split
  · next hnone =>
      rw [h] at hnone
      cases hnone
  · next d hd =>
      obtain rfl : c = d := Option.some.inj (h.symm.trans hd)
      congr 2
      split
      · next hescape => simp only [hescape]
      · next hescape => simp only [hescape]

def walkString (lexer : Lexer) : Except LexError Kind × Lexer := lexer.advance.walkUnits

/-! ## Tokens -/

/-- The current character tells which walk to take; a minus sign leaves it to the one
behind it. -/
def walkLexeme (lexer : Lexer) : Except LexError Kind × Lexer :=
  match lexer.current with
  | none => lexer.blameStart .unexpectedEndOfInput
  | some c =>
      if isWordStart c then lexer.walkIdentifier
      else if isDigit c || c = '-' && lexer.peek.any isDigit then lexer.walkNumber
      else if c = '\'' then lexer.walkCharacter
      else if c = '"' then lexer.walkString
      else lexer.walkOperator c

/-- Walks over the token that begins on the spot. -/
def walkToken (lexer : Lexer) : Except LexError Kind × Lexer :=
  walkLexeme { lexer with tokenStart := lexer.position }

end ImpLexer.Lexer
