import Mathlib.Data.List.Basic
import ImpLexer.Command.Messages
import ImpLexer.Proofs.Revealing

/-!
# A diagnostic says exactly what is wrong, and where

Two diagnostics that read the same are about the same path, the same line and
column, and the same cause, with the same character if the cause has one.

Nothing is known about the path. It may hold a line feed and an arrow, or end in
two numbers as a diagnostic does. So the path is what is left between two ends,
and each of them is found without it: the message goes up to the first line feed,
since it has none of its own, and the two numbers stand behind the last two
colons, since numerals have none.

Within a message, the fixed words in front of a character tell the three causes
that show one apart. What follows them is read as one visible character
(`Text.shown?`), whichever of the two forms it is in.
-/

namespace ImpLexer

open Text

/-! ## Messages -/

/-- The character that is shown behind `opening` in a message. -/
def shownBehind? (opening message : Text) : Option Char :=
  (message.dropPrefix? opening).bind shown?

theorem shownBehind?_append {form closing : Text} {c : Char}
    (h : shown? (form ++ closing) = some c) (opening : Text) :
    shownBehind? opening (opening ++ form ++ closing) = some c := by
  have hdrop := List.dropPrefix?_append_of_beq (form ++ closing) (beq_self_eq_true opening)
  rw [List.append_assoc, shownBehind?, hdrop, Option.bind_some, h]

theorem shownBehind?_quotedChar (opening : Text) (c : Char) (closing : Text) :
    shownBehind? (opening ++ ['\'']) (opening ++ quotedChar c ++ closing) = some c := by
  have hform : opening ++ quotedChar c ++ closing =
      opening ++ ['\''] ++ visible '\'' c ++ '\'' :: closing := by
    simp [quotedChar]
  rw [hform, shownBehind?_append (shown?_visible (Or.inl rfl) c _)]

namespace Cause

/-- The cause that a message tells of. -/
def ofMessage? (message : Text) : Option Cause :=
  (shownBehind? ("control character ".toList ++ ['\'']) message).map controlCharacter <|>
    (shownBehind? "invalid escape sequence `\\".toList message).map invalidEscape <|>
    (shownBehind? ("unexpected character ".toList ++ ['\'']) message).map unexpectedCharacter <|>
    [emptyCharacter, leadingZero, multipleCharacters, unexpectedEndOfInput, unexpectedWhitespace,
      unterminatedCharacter, unterminatedString].find? (·.message = message)

theorem ofMessage?_message (cause : Cause) : ofMessage? cause.message = some cause := by
  cases cause with
  | controlCharacter c =>
      have hshown : shownBehind? ("control character ".toList ++ ['\''])
          (controlCharacter c).message = some c := shownBehind?_quotedChar ..
      rw [ofMessage?, hshown]
      rfl
  | invalidEscape code =>
      have hcontrol : shownBehind? ("control character ".toList ++ ['\''])
          (invalidEscape code).message = none := rfl
      have hshown : shownBehind? "invalid escape sequence `\\".toList
          (invalidEscape code).message = some code :=
        shownBehind?_append (shown?_ascii code _) _
      rw [ofMessage?, hcontrol, hshown]
      rfl
  | unexpectedCharacter c =>
      have hcontrol : shownBehind? ("control character ".toList ++ ['\''])
          (unexpectedCharacter c).message = none := rfl
      have hescape : shownBehind? "invalid escape sequence `\\".toList
          (unexpectedCharacter c).message = none := rfl
      have hshown : shownBehind? ("unexpected character ".toList ++ ['\''])
          (unexpectedCharacter c).message = some c := by
        have hclosed := shownBehind?_quotedChar "unexpected character ".toList c []
        rwa [List.append_nil] at hclosed
      rw [ofMessage?, hcontrol, hescape, hshown]
      rfl
  | emptyCharacter | leadingZero | multipleCharacters | unexpectedEndOfInput
    | unexpectedWhitespace | unterminatedCharacter | unterminatedString => decide +kernel

theorem message_injective : Function.Injective message := by
  have hsome : ofMessage? ∘ message = some := funext ofMessage?_message
  exact .of_comp (hsome ▸ Option.some_injective Cause)

theorem newline_notMem_message (cause : Cause) : '\n' ∉ cause.message := by
  cases cause with
  | controlCharacter c =>
      exact List.not_mem_append
        (List.not_mem_append (by decide) (newline_notMem_quotedChar c)) (by decide)
  | invalidEscape code =>
      exact List.not_mem_append
        (List.not_mem_append (by decide) (newline_notMem_ascii code)) (by decide)
  | unexpectedCharacter c =>
      exact List.not_mem_append (by decide) (newline_notMem_quotedChar c)
  | emptyCharacter | leadingZero | multipleCharacters | unexpectedEndOfInput
    | unexpectedWhitespace | unterminatedCharacter | unterminatedString => decide

end Cause

/-! ## Positions -/

/-- A position can be read off the end of a text. -/
theorem Position.append_render_inj {s s' : Text} {p p' : Position}
    (h : s ++ ':' :: p.render = s' ++ ':' :: p'.render) :
    s = s' ∧ p.line = p'.line ∧ p.column = p'.column := by
  have hcolon : ∀ n, ':' ∉ decimal n := notMem_decimal rfl
  have hassoc : ∀ (t : Text) (q : Position), t ++ ':' :: q.render =
      (t ++ ':' :: decimal q.line) ++ ':' :: decimal q.column := by
    intro t q
    simp [render]
  rw [hassoc, hassoc] at h
  obtain ⟨hfront, hcolumn⟩ := append_cons_inj_right (hcolon _) (hcolon _) h
  obtain ⟨rfl, hline⟩ := append_cons_inj_right (hcolon _) (hcolon _) hfront
  exact ⟨rfl, decimal_injective hline, decimal_injective hcolumn⟩

/-! ## Diagnostics -/

namespace Failure

/-- The line feed behind the message is the first one. -/
theorem message_lex (path : Text) (error : LexError) :
    (lex path error).message = error.cause.message ++
      '\n' :: (" --> ".toList ++ (path ++ ':' :: error.position.render)) := by
  have hlink : "\n --> ".toList = '\n' :: " --> ".toList := rfl
  have hassoc : ∀ front arrow place : Text, front ++ '\n' :: arrow ++ path ++ place =
      front ++ '\n' :: (arrow ++ (path ++ place)) := by simp
  rw [← hassoc, ← hlink]
  rfl

theorem message_lex_inj {path other : Text} {error error' : LexError}
    (h : (lex path error).message = (lex other error').message) :
    path = other ∧ error.cause = error'.cause ∧
      error.position.line = error'.position.line ∧
      error.position.column = error'.position.column := by
  rw [message_lex, message_lex] at h
  obtain ⟨hcause, hplace⟩ := append_cons_inj_left error.cause.newline_notMem_message
    error'.cause.newline_notMem_message h
  obtain ⟨hpath, hline, hcolumn⟩ :=
    Position.append_render_inj (List.append_cancel_left hplace)
  exact ⟨hpath, Cause.message_injective hcause, hline, hcolumn⟩

/-- Two errors read the same just if they are the same error at the same place. -/
theorem message_lex_unambiguous :
    (∀ cause : Cause, '\n' ∉ cause.message) ∧
      Function.Injective Cause.message ∧
      Function.Injective ascii ∧
      Function.Injective quotedChar ∧
      ∀ (path other : Text) (error error' : LexError),
        (lex path error).message = (lex other error').message ↔
          path = other ∧ error.cause = error'.cause ∧
            error.position.line = error'.position.line ∧
            error.position.column = error'.position.column := by
  refine ⟨Cause.newline_notMem_message, Cause.message_injective, ascii_injective,
    quotedChar_injective, fun path other error error' => ⟨message_lex_inj, ?_⟩⟩
  rintro ⟨rfl, hcause, hline, hcolumn⟩
  rw [message_lex, message_lex, Position.render, Position.render, hcause, hline, hcolumn]

end Failure

end ImpLexer
