import ImpLexer.Lexeme.Basic
import ImpLexer.Text.Class

/-!
# Quoted literals

What stands between quotation marks is made of *units*: a plain character, or a
backslash with the code of an escape sequence. Character literals hold one unit
and string literals any number. They differ in what is plain: the mark that
closes a literal never is, nor is a backslash, and beyond that a character
literal excludes line breaks alone, while a string literal excludes every
control character.

The string reader takes all the units there are and lets the character behind
them decide. This loses nothing against deciding one unit at a time, because a
text is cut into units in one way only: a unit that begins with a backslash is
two characters long and any other is one. The loop that decides one unit at a
time is `Lexer.walkUnits`, and `Lexer.walkString_move` says that the two agree.
-/

namespace ImpLexer

/-- A character that stands for itself in a character literal. -/
def isCharacterPlain (c : Char) : Bool := c ≠ '\'' && c ≠ '\\' && !isLineBreak c

/-- A character that stands for itself in a string literal. -/
def isStringPlain (c : Char) : Bool := c ≠ '"' && c ≠ '\\' && !isControl c

/-! ## Units -/

/-- The unit at the front of a text, if there is one, and what follows. -/
def splitUnit? (plain : Char → Bool) : Text → Option (Text × Text)
  | [] => none
  | [c] => if plain c then some ([c], []) else none
  | c :: d :: t =>
      if c = '\\' ∧ isEscapeCode d then some ([c, d], t)
      else if plain c then some ([c], d :: t)
      else none

/-- All the units at the front of a text, and what follows. -/
def splitUnits (plain : Char → Bool) : Text → Text × Text
  | [] => ([], [])
  | [c] => if plain c then ([c], []) else ([], [c])
  | c :: d :: t =>
      if c = '\\' ∧ isEscapeCode d then
        let (units, rest) := splitUnits plain t
        (c :: d :: units, rest)
      else if plain c then
        let (units, rest) := splitUnits plain (d :: t)
        (c :: units, rest)
      else ([], c :: d :: t)

/-! ## Readers -/

/-- Reads on behind a backslash that begins no unit: `opened` is the literal up
to the backslash and `t` what follows it. With a character to name, the escape
is at fault; at the end of the line it is the literal, which stays open. -/
def readBadEscape (unterminated : Cause) (opened t : Text) : Reading :=
  match t with
  | [] => .failedAtStart unterminated (opened ++ ['\\']) []
  | c :: t =>
      if isLineBreak c then .failedAtStart unterminated (opened ++ ['\\']) (c :: t)
      else ⟨opened ++ ['\\'], c :: t, .error ⟨.invalidEscape c, opened⟩⟩

/-- Reads a string literal behind its first quotation mark. -/
def readString (t : Text) : Reading :=
  let (units, rest) := splitUnits isStringPlain t
  let opened := '"' :: units
  match rest with
  | [] => .failedAtStart .unterminatedString opened []
  | c :: rest =>
      if c = '"' then .found .string (opened ++ ['"']) rest
      else if c = '\\' then readBadEscape .unterminatedString opened rest
      else if isLineBreak c then .failedAtStart .unterminatedString opened (c :: rest)
      else .failedAtEnd (.controlCharacter c) opened (c :: rest)

/-- Reads a character literal behind its first quotation mark. -/
def readCharacter (t : Text) : Reading :=
  match splitUnit? isCharacterPlain t with
  | some (unit, []) => .failedAtStart .unterminatedCharacter ('\'' :: unit) []
  | some (unit, c :: rest) =>
      if c = '\'' then .found .character ('\'' :: unit ++ ['\'']) rest
      else if isLineBreak c then
        .failedAtStart .unterminatedCharacter ('\'' :: unit) (c :: rest)
      else .failedAtEnd .multipleCharacters ('\'' :: unit) (c :: rest)
  | none =>
      match t with
      | [] => .failedAtStart .unterminatedCharacter ['\''] []
      | c :: rest =>
          if c = '\'' then .failedAtStart .emptyCharacter ['\''] (c :: rest)
          else if c = '\\' then readBadEscape .unterminatedCharacter ['\''] rest
          else .failedAtStart .unterminatedCharacter ['\''] (c :: rest)

/-! ## Nothing is lost -/

theorem splitUnit?_append {plain : Char → Bool} {t unit rest : Text}
    (h : splitUnit? plain t = some (unit, rest)) : unit ++ rest = t := by
  match t with
  | [] => simp [splitUnit?] at h
  | [c] =>
      rw [splitUnit?] at h
      split at h
      · obtain ⟨rfl, rfl⟩ := by simpa using h
        rfl
      · cases h
  | c :: d :: t =>
      rw [splitUnit?] at h
      split at h
      · obtain ⟨rfl, rfl⟩ := by simpa using h
        rfl
      · split at h
        · obtain ⟨rfl, rfl⟩ := by simpa using h
          rfl
        · cases h

theorem splitUnits_append (plain : Char → Bool) (t : Text) :
    (splitUnits plain t).1 ++ (splitUnits plain t).2 = t := by
  fun_induction splitUnits plain t with
  | case1 | case2 | case3 => rfl
  | case4 c d t _ units rest hs ih => simpa [hs] using ih
  | case5 c d t _ _ units rest hs ih => simpa [hs] using ih
  | case6 => rfl

theorem text_readBadEscape (unterminated : Cause) (opened t : Text) :
    (readBadEscape unterminated opened t).text = opened ++ '\\' :: t := by
  unfold readBadEscape
  split
  · simp
  · split <;> simp [Reading.text, Reading.failedAtStart]

theorem text_readString (t : Text) : (readString t).text = '"' :: t := by
  have h := splitUnits_append isStringPlain t
  unfold readString
  split
  next units rest hs =>
  rw [hs] at h
  rw [← h]
  cases rest with
  | nil => simp
  | cons c rest =>
      simp only
      split
      · simp_all
      · split
        · simp_all [text_readBadEscape]
        · split <;> simp

theorem text_readCharacter (t : Text) : (readCharacter t).text = '\'' :: t := by
  unfold readCharacter
  split
  next unit hs => simp [← splitUnit?_append hs]
  next unit c rest hs =>
    rw [← splitUnit?_append hs]
    split
    · simp_all
    · split <;> simp
  next =>
    split
    · simp
    · split
      · simp
      · split
        · simp_all [text_readBadEscape]
        · simp

end ImpLexer
