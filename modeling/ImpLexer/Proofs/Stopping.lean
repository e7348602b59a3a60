import ImpLexer.Proofs.Cursor
import ImpLexer.Proofs.Stepwise

/-!
# Where a lexer is left

A token that could not be read has been read in part, and the lexer is left
where the reader gave up. Whoever goes on from there has to know where that is.
Between it and the place that the error names there is no fixed distance: the
lexer may be left on the place, one character behind it, or a whole literal
further on. What can be said depends on the cause, and `Cause.Leaves` says it for
each of them.

One thing does not depend on it. Whether a token was read or not, the lexer has
not left its line. So a driver that passes over the rest of the line after an
error passes over nothing but that line.

Everything that can come of asking for a token is one of three (`Reads`): the
question was untimely, or a lexeme was found, or the text is malformed. The last
two are known to the grammar, so the table is shown case by case for the eight
ways of being malformed, and never by looking at how anything is read.
-/

namespace ImpLexer

open Text

/-- A token was asked for at `asked`, in front of `text`. The place `blamed` was named, and
the lexer was left at `left`, in front of `rest`. -/
def Cause.Leaves (text rest : Text) (asked blamed left : Position) : Cause → Prop
  | unexpectedCharacter _ | unexpectedEndOfInput | unexpectedWhitespace =>
      blamed = asked ∧ left = asked
  | leadingZero =>
      blamed.offset = asked.offset + (if begins (· = '-') text then 1 else 0) ∧
        left.offset = blamed.offset + 1
  | invalidEscape _ => left.offset = blamed.offset + 1 ∧ asked.offset + 1 < left.offset
  | emptyCharacter => blamed = asked ∧ left.offset = asked.offset + 1
  | multipleCharacters => left = blamed ∧ asked.offset + 1 < left.offset
  | controlCharacter _ => left = blamed ∧ asked.offset < left.offset
  | unterminatedCharacter | unterminatedString =>
      blamed = asked ∧ asked.offset < left.offset ∧ AtLineEnd rest

/-! ## What each fault leaves -/

theorem IsCharacterUnit.ne_nil {unit : Text} (h : IsCharacterUnit unit) : unit ≠ [] := by
  rcases h with ⟨c, -, rfl⟩ | ⟨c, -, -, -, -, rfl⟩
  · exact List.cons_ne_nil _ _
  · exact List.cons_ne_nil _ _

theorem IsOpened.ne_nil {opened : Text} (h : IsOpened opened) : opened ≠ [] := by
  rcases h with rfl | ⟨body, -, rfl⟩
  · exact List.cons_ne_nil _ _
  · exact List.cons_ne_nil _ _

theorem Position.offset_lt_after (p : Position) {t : Text} (h : t ≠ []) :
    p.offset < (p.after t).offset := by
  have hpos := byteSize_pos_of_ne_nil h
  rw [Position.offset_after]
  omega

theorem Position.offset_after_singleton (p : Position) (t : Text) {c : Char}
    (hc : c.utf8Size = 1) : (p.after (t ++ [c])).offset = (p.after t).offset + 1 := by
  rw [Position.after_append]
  exact congrArg ((p.after t).offset + ·) hc

theorem Cause.IsUntimely.leaves {cause : Cause} (h : cause.IsUntimely) (text rest : Text)
    (p : Position) : cause.Leaves text rest p p p := by
  rcases h with rfl | rfl
  · exact ⟨rfl, rfl⟩
  · exact ⟨rfl, rfl⟩

theorem Malformed.leaves {policy : LeadingZeros} {fault : Fault} {consumed rest : Text}
    (h : Malformed policy fault consumed rest) (p : Position) :
    fault.cause.Leaves (consumed ++ rest) rest p (p.after fault.before) (p.after consumed) := by
  cases h with
  | unexpectedCharacter => exact ⟨rfl, rfl⟩
  | leadingZero _ hsign _ =>
      refine ⟨?_, p.offset_after_singleton _ rfl⟩
      rcases hsign with rfl | rfl
      · rfl
      · rfl
  | emptyCharacter => exact ⟨rfl, rfl⟩
  | multipleCharacters hunit =>
      refine ⟨rfl, ?_⟩
      exact (p.advance '\'').offset_lt_after hunit.ne_nil
  | controlCharacter => exact ⟨rfl, p.offset_lt_after (List.cons_ne_nil _ _)⟩
  | @invalidEscape opened t c hopened =>
      have hbackslash := @Position.offset_after_singleton p opened '\\' rfl
      have hlt := p.offset_lt_after hopened.ne_nil
      refine ⟨hbackslash, ?_⟩
      show p.offset + 1 < (p.after (opened ++ ['\\'])).offset
      omega
  | unterminatedCharacter _ hend =>
      exact ⟨rfl, p.offset_lt_after (List.cons_ne_nil _ _), hend⟩
  | unterminatedString _ _ hend =>
      exact ⟨rfl, p.offset_lt_after (List.cons_ne_nil _ _), hend⟩

namespace Lexer

/-! ## All that can come of asking for a token -/

/-- The answer, and the lexer as it is left, when a token is asked for. -/
inductive Reads (lexer : Lexer) : Except LexError Token → Lexer → Prop where
  | untimely {cause : Cause} (hcause : cause.IsUntimely) :
      Reads lexer (.error ⟨cause, lexer.position⟩) { lexer with tokenStart := lexer.position }
  | found {kind : Kind} {literal next : Text} (hrest : lexer.rest = literal ++ next)
      (hlexeme : IsLexeme lexer.config.leadingZeros kind literal) :
      Reads lexer (.ok ⟨kind, literal, lexer.position.offset⟩)
        ⟨lexer.config, lexer.position, lexer.position.after literal, next⟩
  | malformed {fault : Fault} {consumed rest : Text} (hrest : lexer.rest = consumed ++ rest)
      (hfault : Malformed lexer.config.leadingZeros fault consumed rest) :
      Reads lexer (.error ⟨fault.cause, lexer.position.after fault.before⟩)
        ⟨lexer.config, lexer.position, lexer.position.after consumed, rest⟩

theorem reads_readToken (lexer : Lexer) :
    lexer.Reads lexer.readToken.1 lexer.readToken.2 := by
  by_cases huntimely : lexer.rest = [] ∨ begins isBlank lexer.rest
  · obtain ⟨cause, hcause, hread⟩ := readToken_of_isUntimely huntimely
    rw [hread]
    exact .untimely hcause
  · obtain ⟨hne, hblank⟩ := not_or.1 huntimely
    have hlawful := lawful_readLexeme lexer.config.leadingZeros hne hblank
    have htext := text_readLexeme lexer.config.leadingZeros lexer.rest
    generalize hreading : readLexeme lexer.config.leadingZeros lexer.rest = reading
      at hlawful htext
    cases hlawful with
    | found hlexeme hend =>
        rw [lexer.readToken_of_found hreading]
        exact .found htext.symm hlexeme
    | malformed hfault =>
        rw [lexer.readToken_of_error hreading]
        exact .malformed htext.symm hfault

variable {lexer next : Lexer} {result : Except LexError Token}

/-- What is passed over is a part of one line. -/
theorem Reads.exists_consumed (h : lexer.Reads result next) :
    ∃ consumed, lexer.rest = consumed ++ next.rest ∧
      next.position = lexer.position.after consumed ∧ ∀ c ∈ consumed, ¬isLineBreak c := by
  cases h with
  | untimely => exact ⟨[], rfl, rfl, by simp⟩
  | found hrest hlexeme => exact ⟨_, hrest, rfl, hlexeme.not_isLineBreak⟩
  | malformed hrest hfault => exact ⟨_, hrest, rfl, hfault.not_isLineBreak⟩

theorem Reads.leaves {error : LexError} (h : lexer.Reads (.error error) next) :
    lexer.position.offset ≤ error.position.offset ∧
      error.cause.Leaves lexer.rest next.rest lexer.position error.position next.position := by
  cases h with
  | untimely hcause => exact ⟨Nat.le_refl _, hcause.leaves _ _ _⟩
  | @malformed fault consumed rest hrest hfault =>
      refine ⟨?_, hrest ▸ hfault.leaves lexer.position⟩
      show lexer.position.offset ≤ (lexer.position.after fault.before).offset
      rw [Position.offset_after]
      exact Nat.le_add_right _ _

/-- Wherever a lexer has got to: what it passes over when a token is asked for is a part of
one line of the source, and it knows where it is then. If it could not read the token, it
names a place that is not behind it, and is left as the table says. -/
theorem readToken_leaves {config : Config} {source : Text} {actions : List Action}
    (hreached : (ofText config source).performAll actions = lexer)
    (hread : lexer.readToken = (result, next)) :
    ∃ consumed passed rest,
      slice? lexer.position.offset next.position.offset source = some consumed ∧
        (∀ c ∈ consumed, ¬isLineBreak c) ∧
        splitAtByte? next.position.offset source = some (passed, rest) ∧
        next.position = Position.start.after passed ∧
        lexer.position.offset ≤ next.position.offset ∧
        ∀ error, result = .error error →
          lexer.position.offset ≤ error.position.offset ∧
            error.cause.Leaves (consumed ++ rest) rest lexer.position error.position
              next.position := by
  obtain ⟨-, before, hsource, hposition⟩ := at_of_performAll hreached
  have hreads := lexer.reads_readToken
  rw [hread] at hreads
  obtain ⟨consumed, hrest, hnext, hline⟩ := hreads.exists_consumed
  have hplace : next.position = Position.start.after (before ++ consumed) := by
    rw [hnext, hposition, Position.after_append]
  have hstart : lexer.position.offset = byteSize before := by
    rw [hposition, Position.offset_start_after]
  have hstop : next.position.offset = byteSize before + byteSize consumed := by
    rw [hplace, Position.offset_start_after, byteSize_append]
  refine ⟨consumed, before ++ consumed, next.rest, ?_, hline, ?_, hplace, by omega, ?_⟩
  · rw [hstart, hstop, hsource, hrest, slice?_append]
  · rw [hstop, ← byteSize_append, hsource, hrest, ← List.append_assoc, splitAtByte?_append]
  · rintro error rfl
    rw [← hrest]
    exact hreads.leaves

/-- A string that ends in a backslash at the end of the line: the lexer is left on the line
feed, four bytes behind the quotation mark that is blamed. -/
theorem readToken_leaves_open_string :
    (ofText ⟨.reject⟩ ['é', '"', 'é', '\\', '\n', 'x']).performAll [.readToken] =
        ⟨⟨.reject⟩, ⟨0, 1, 1⟩, ⟨2, 1, 2⟩, ['"', 'é', '\\', '\n', 'x']⟩ ∧
      readToken ⟨⟨.reject⟩, ⟨0, 1, 1⟩, ⟨2, 1, 2⟩, ['"', 'é', '\\', '\n', 'x']⟩ =
        (.error ⟨.unterminatedString, ⟨2, 1, 2⟩⟩,
          ⟨⟨.reject⟩, ⟨2, 1, 2⟩, ⟨6, 1, 5⟩, ['\n', 'x']⟩) ∧
      slice? 2 6 ['é', '"', 'é', '\\', '\n', 'x'] = some ['"', 'é', '\\'] ∧
      Cause.unterminatedString.Leaves ['"', 'é', '\\', '\n', 'x'] ['\n', 'x'] ⟨2, 1, 2⟩
        ⟨2, 1, 2⟩ ⟨6, 1, 5⟩ := by
  have hreached : (ofText ⟨.reject⟩ ['é', '"', 'é', '\\', '\n', 'x']).performAll [.readToken] =
      ⟨⟨.reject⟩, ⟨0, 1, 1⟩, ⟨2, 1, 2⟩, ['"', 'é', '\\', '\n', 'x']⟩ := rfl
  have hread : readToken ⟨⟨.reject⟩, ⟨0, 1, 1⟩, ⟨2, 1, 2⟩, ['"', 'é', '\\', '\n', 'x']⟩ =
      (.error ⟨.unterminatedString, ⟨2, 1, 2⟩⟩,
        ⟨⟨.reject⟩, ⟨2, 1, 2⟩, ⟨6, 1, 5⟩, ['\n', 'x']⟩) := rfl
  obtain ⟨consumed, passed, rest, hslice, -, hsplit, -, -, hleaves⟩ :=
    readToken_leaves hreached hread
  cases hslice
  cases hsplit
  exact ⟨hreached, hread, rfl, (hleaves _ rfl).2⟩

end Lexer

end ImpLexer
