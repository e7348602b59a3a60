import ImpLexer.Proofs.Truncation

/-!
# What stands where an error points

An error of a whole source names a place, and a reader who looks there finds the
cause: the backslash of the escape sequence that does not exist, the quotation
mark that is never closed, the zero that should not be there. `Cause.ShownBy`
is the table of what is to be found for each cause. The place divides the
source, so an entry speaks about the text behind it and about the part of the
malformed token in front of it, which some causes need: a control character is
wrong only inside a string.

The table has no entry for the two causes that arise where no token can begin.
That they have none here is the same as saying that a scan never meets them.
-/

namespace ImpLexer

open Text

/-- The text `behind` shows the cause to whoever has read `opened` of a token. -/
def Cause.ShownBy (policy : LeadingZeros) : Cause → (opened behind : Text) → Prop
  | controlCharacter c, opened, behind =>
      isControl c ∧ ¬isLineBreak c ∧ (∃ body, IsStringBody body ∧ opened = '"' :: body) ∧
        ∃ t, behind = c :: t
  | emptyCharacter, opened, behind => opened = [] ∧ ∃ t, behind = '\'' :: '\'' :: t
  | invalidEscape code, opened, behind =>
      ¬isEscapeCode code ∧ ¬isLineBreak code ∧ IsOpened opened ∧
        ∃ t, behind = '\\' :: code :: t
  | leadingZero, opened, behind =>
      policy = .reject ∧ IsSign opened ∧ ∃ t, begins isDigit t ∧ behind = '0' :: t
  | multipleCharacters, opened, behind =>
      (∃ unit, IsCharacterUnit unit ∧ opened = '\'' :: unit) ∧
        ∃ c t, c ≠ '\'' ∧ ¬isLineBreak c ∧ behind = c :: t
  | unexpectedCharacter c, opened, behind =>
      (isControl c ∨ isWhiteSpace c) ∧ ¬isBlank c ∧ opened = [] ∧ ∃ t, behind = c :: t
  | unexpectedEndOfInput, _, _ | unexpectedWhitespace, _, _ => False
  | unterminatedCharacter, opened, behind => opened = [] ∧ ∃ t, behind = '\'' :: t
  | unterminatedString, opened, behind => opened = [] ∧ ∃ t, behind = '"' :: t

variable {policy : LeadingZeros} {cause : Cause} {opened behind : Text}

theorem Cause.ShownBy.ne_nil (h : cause.ShownBy policy opened behind) : behind ≠ [] := by
  cases cause with
  | unexpectedEndOfInput | unexpectedWhitespace => exact h.elim
  | controlCharacter =>
      obtain ⟨-, -, -, t, rfl⟩ := h
      exact List.cons_ne_nil _ t
  | emptyCharacter | unterminatedCharacter | unterminatedString =>
      obtain ⟨-, t, rfl⟩ := h
      exact List.cons_ne_nil _ _
  | invalidEscape | unexpectedCharacter =>
      obtain ⟨-, -, -, t, rfl⟩ := h
      exact List.cons_ne_nil _ _
  | leadingZero =>
      obtain ⟨-, -, t, -, rfl⟩ := h
      exact List.cons_ne_nil _ t
  | multipleCharacters =>
      obtain ⟨-, c, t, -, -, rfl⟩ := h
      exact List.cons_ne_nil c t

/-- Every fault blames a place where it is seen. -/
theorem Malformed.exists_shownBy {fault : Fault} {consumed rest : Text}
    (h : Malformed policy fault consumed rest) :
    ∃ behind, consumed ++ rest = fault.before ++ behind ∧
      fault.cause.ShownBy policy fault.before behind := by
  cases h with
  | @unexpectedCharacter c t hc hblank => exact ⟨c :: t, rfl, hc, hblank, rfl, t, rfl⟩
  | leadingZero hpolicy hsign hdigit =>
      exact ⟨'0' :: rest, List.append_assoc .., hpolicy, hsign, rest, hdigit, rfl⟩
  | @emptyCharacter t => exact ⟨'\'' :: '\'' :: t, rfl, rfl, t, rfl⟩
  | @multipleCharacters unit t c hunit hquote hline =>
      exact ⟨c :: t, rfl, ⟨unit, hunit, rfl⟩, c, t, hquote, hline, rfl⟩
  | @controlCharacter body t c hbody hcontrol hline =>
      exact ⟨c :: t, rfl, hcontrol, hline, ⟨body, hbody, rfl⟩, t, rfl⟩
  | @invalidEscape opened t c hopened hcode hline =>
      exact ⟨'\\' :: c :: t, List.append_assoc .., hcode, hline, hopened, t, rfl⟩
  | @unterminatedCharacter inside =>
      exact ⟨'\'' :: (inside ++ rest), rfl, rfl, inside ++ rest, rfl⟩
  | @unterminatedString body last =>
      exact ⟨'"' :: (body ++ last ++ rest), rfl, rfl, body ++ last ++ rest, rfl⟩

/-- An error of a source lies in front of its end, on the line and column that are
counted up to it, and shows its cause there, behind sound tokens and as much of the
malformed one as was read. -/
theorem lex_error_shown {config : Config} {source : Text} {error : LexError}
    (h : lex config source = .error error) :
    error.cause ≠ .unexpectedEndOfInput ∧ error.cause ≠ .unexpectedWhitespace ∧
      error.position.offset < source.byteSize ∧
      ∃ front opened behind,
        splitAtByte? error.position.offset source = some (front ++ opened, behind) ∧
        error.position = Position.start.after (front ++ opened) ∧
        lex config front = .ok (Lexer.ofText config source).scan.tokens ∧
        error.cause.ShownBy config.leadingZeros opened behind := by
  obtain ⟨-, front, token, fault, -, -, hsource, -, hfront, rfl, consumed, rest, rfl, hfault⟩ :=
    exists_stopped_of_lex_eq_error h
  obtain ⟨behind, hbehind, hshown⟩ := hfault.exists_shownBy
  rw [hbehind, ← List.append_assoc] at hsource
  have hpos := byteSize_pos_of_ne_nil hshown.ne_nil
  have hoffset : (Position.start.after (front ++ fault.before)).offset =
      byteSize (front ++ fault.before) := Position.offset_start_after _
  refine ⟨fun heq => ?_, fun heq => ?_, ?_, front, fault.before, behind, ?_, rfl, hfront, hshown⟩
  · rw [show fault.cause = .unexpectedEndOfInput from heq] at hshown
    exact hshown
  · rw [show fault.cause = .unexpectedWhitespace from heq] at hshown
    exact hshown
  · rw [hoffset, hsource, byteSize_append _ behind]
    omega
  · rw [hoffset, hsource, splitAtByte?_append]

/-- The escape sequence stands on the second line, behind another one and behind
characters of two bytes. -/
theorem lex_error_shown_second_escape :
    lex ⟨.reject⟩ ['é', '\n', '"', 'é', '\\', '\\', '\\', 'x', '"'] =
        .error ⟨.invalidEscape 'x', ⟨8, 2, 5⟩⟩ ∧
      ∃ front opened t,
        splitAtByte? 8 ['é', '\n', '"', 'é', '\\', '\\', '\\', 'x', '"'] =
          some (front ++ opened, '\\' :: 'x' :: t) ∧ IsOpened opened := by
  have h : lex ⟨.reject⟩ ['é', '\n', '"', 'é', '\\', '\\', '\\', 'x', '"'] =
      .error ⟨.invalidEscape 'x', ⟨8, 2, 5⟩⟩ := lex_eq_scanUpTo _ _
  obtain ⟨-, -, -, front, opened, -, hsplit, -, -, -, -, hopened, t, rfl⟩ := lex_error_shown h
  exact ⟨h, front, opened, t, hsplit, hopened⟩

end ImpLexer
