import ImpLexer.Proofs.Restart

/-!
# One unit, and a mark behind it

A character literal is a quotation mark, one unit and a quotation mark. Where
that is not what stands in the text, the text still tells what is wrong, and
`ReadsCharacter` is the table: for each outcome, the texts that lead to it and
the place that is blamed.

The table knows of units and line ends and nothing of reading. That it decides
every text (`exists_readsCharacter`) and that whatever it decides is what the
lexer answers (`readToken_of_readsCharacter`) are shown apart; together they make
it exact, since the lexer gives one answer only.

A character literal is not a short string literal. A tab or another control
character is a unit of its own here, and so is the double quotation mark. What
ends a line ends both.
-/

namespace ImpLexer

open Text

/-- What becomes of the character literal that is opened at `place` in front of `behind`. -/
def ReadsCharacter (place : Position) (behind : Text) : Except LexError Token → Prop
  | .ok token =>
      ∃ unit r, IsCharacterUnit unit ∧ behind = unit ++ '\'' :: r ∧
        token = ⟨.character, '\'' :: unit ++ ['\''], place.offset⟩
  | .error ⟨.emptyCharacter, blamed⟩ => blamed = place ∧ ∃ r, behind = '\'' :: r
  | .error ⟨.invalidEscape code, blamed⟩ =>
      blamed = place.after ['\''] ∧ ¬isEscapeCode code ∧ ¬isLineBreak code ∧
        ∃ r, behind = '\\' :: code :: r
  | .error ⟨.multipleCharacters, blamed⟩ =>
      ∃ unit c r, IsCharacterUnit unit ∧ c ≠ '\'' ∧ ¬isLineBreak c ∧ behind = unit ++ c :: r ∧
        blamed = place.after ('\'' :: unit)
  | .error ⟨.unterminatedCharacter, blamed⟩ =>
      blamed = place ∧
        ∃ inside r, (inside = [] ∨ inside = ['\\'] ∨ IsCharacterUnit inside) ∧ AtLineEnd r ∧
          behind = inside ++ r
  | .error _ => False

theorem exists_readsCharacter (place : Position) (behind : Text) :
    ∃ result, ReadsCharacter place behind result := by
  cases hs : splitUnit? isCharacterPlain behind with
  | some split =>
      obtain ⟨unit, r⟩ := split
      have hunit := isCharacterUnit_iff.2 (isUnit_of_splitUnit? hs)
      have hbehind := (splitUnit?_append hs).symm
      by_cases hend : AtLineEnd r
      · exact ⟨.error ⟨.unterminatedCharacter, place⟩, rfl, unit, r, Or.inr (Or.inr hunit), hend,
          hbehind⟩
      · obtain ⟨c, r, rfl, hline⟩ := exists_cons_of_not_atLineEnd hend
        by_cases hquote : c = '\''
        · rw [hquote] at hbehind
          exact ⟨.ok _, unit, r, hunit, hbehind, rfl⟩
        · exact ⟨.error ⟨.multipleCharacters, _⟩, unit, c, r, hunit, hquote, hline, hbehind, rfl⟩
  | none =>
      by_cases hend : AtLineEnd behind
      · exact ⟨.error ⟨.unterminatedCharacter, place⟩, rfl, [], behind, Or.inl rfl, hend, rfl⟩
      · obtain ⟨c, t, rfl, hline⟩ := exists_cons_of_not_atLineEnd hend
        obtain ⟨hplain, hescape⟩ := splitUnit?_cons_eq_none_iff.1 hs
        by_cases hquote : c = '\''
        · exact ⟨.error ⟨.emptyCharacter, place⟩, rfl, t, by rw [hquote]⟩
        · -- What is neither plain nor the mark nor the end of the line is a backslash.
          obtain rfl : c = '\\' := by simpa [isCharacterPlain, hquote, hline] using hplain
          by_cases hlast : AtLineEnd t
          · exact ⟨.error ⟨.unterminatedCharacter, place⟩, rfl, ['\\'], t, Or.inr (Or.inl rfl),
              hlast, rfl⟩
          · obtain ⟨code, r, rfl, hbreak⟩ := exists_cons_of_not_atLineEnd hlast
            exact ⟨.error ⟨.invalidEscape code, _⟩, rfl, fun hcode => hescape ⟨rfl, hcode⟩,
              hbreak, r, rfl⟩

namespace Lexer

variable {lexer : Lexer} {behind : Text}

theorem readToken_fst_of_malformed {fault : Fault} {consumed rest : Text}
    (hrest : lexer.rest = consumed ++ rest)
    (hfault : Malformed lexer.config.leadingZeros fault consumed rest) :
    lexer.readToken.1 = .error ⟨fault.cause, lexer.position.after fault.before⟩ := by
  have hread := readLexeme_of_malformed hfault
  rw [← hrest] at hread
  rw [lexer.readToken_of_error hread]

theorem readToken_of_readsCharacter (hrest : lexer.rest = '\'' :: behind)
    {result : Except LexError Token} (h : ReadsCharacter lexer.position behind result) :
    lexer.readToken.1 = result := by
  match result, h with
  | .ok token, ⟨unit, r, hunit, hbehind, htoken⟩ =>
      have hlexeme : IsLexeme lexer.config.leadingZeros .character ('\'' :: unit ++ ['\'']) :=
        ⟨unit, hunit, rfl⟩
      have hread := @readLexeme_of_isLexeme _ _ _ r hlexeme id
      have htext : lexer.rest = '\'' :: unit ++ ['\''] ++ r := by
        rw [hrest, hbehind, List.append_assoc]
        rfl
      rw [← htext] at hread
      rw [lexer.readToken_of_found hread, htoken]
  | .error ⟨.emptyCharacter, blamed⟩, ⟨hblamed, r, hbehind⟩ =>
      rw [hbehind] at hrest
      rw [readToken_fst_of_malformed hrest .emptyCharacter, hblamed]
      rfl
  | .error ⟨.invalidEscape code, blamed⟩, ⟨hblamed, hcode, hline, r, hbehind⟩ =>
      rw [hbehind] at hrest
      rw [readToken_fst_of_malformed hrest (.invalidEscape (Or.inl rfl) hcode hline), hblamed]
  | .error ⟨.multipleCharacters, blamed⟩, ⟨unit, c, r, hunit, hquote, hline, hbehind, hblamed⟩ =>
      rw [hbehind] at hrest
      rw [readToken_fst_of_malformed hrest (.multipleCharacters hunit hquote hline), hblamed]
  | .error ⟨.unterminatedCharacter, blamed⟩, ⟨hblamed, inside, r, hinside, hend, hbehind⟩ =>
      rw [hbehind] at hrest
      rw [readToken_fst_of_malformed hrest (.unterminatedCharacter hinside hend), hblamed]
      rfl

theorem readToken_eq_iff_readsCharacter (hrest : lexer.rest = '\'' :: behind)
    (result : Except LexError Token) :
    lexer.readToken.1 = result ↔ ReadsCharacter lexer.position behind result := by
  refine ⟨fun h => ?_, readToken_of_readsCharacter hrest⟩
  obtain ⟨found, hfound⟩ := exists_readsCharacter lexer.position behind
  rw [← h, readToken_of_readsCharacter hrest hfound]
  exact hfound

/-- In front of a single quotation mark, wherever that is in the source, the text behind it
decides what comes of asking for a token, and each outcome comes of the texts in its row of
the table and of no others. -/
theorem readToken_character {config : Config} {source : Text} {actions : List Action}
    (hreached : (ofText config source).performAll actions = lexer)
    (hquote : lexer.current = some '\'') :
    ∃ behind, dropBytes? (lexer.position.offset + 1) source = some behind ∧
      ∀ result, lexer.readToken.1 = result ↔ ReadsCharacter lexer.position behind result := by
  have hat := at_of_performAll hreached
  obtain ⟨behind, hrest⟩ := exists_rest_of_current hquote
  exact ⟨behind, hat.dropBytes?_behind hrest, readToken_eq_iff_readsCharacter hrest⟩

/-- An escaped quotation mark is a unit, and the one behind it closes the literal. -/
theorem readToken_character_escaped_mark :
    (ofText ⟨.reject⟩ ['é', '\'', '\\', '\'', '\'', 'x']).performAll [.readToken] =
        ⟨⟨.reject⟩, ⟨0, 1, 1⟩, ⟨2, 1, 2⟩, ['\'', '\\', '\'', '\'', 'x']⟩ ∧
      ∃ unit r, dropBytes? 3 ['é', '\'', '\\', '\'', '\'', 'x'] = some (unit ++ '\'' :: r) ∧
        IsCharacterUnit unit ∧ ['\'', '\\', '\'', '\''] = '\'' :: unit ++ ['\''] := by
  have hreached : (ofText ⟨.reject⟩ ['é', '\'', '\\', '\'', '\'', 'x']).performAll
      [.readToken] = ⟨⟨.reject⟩, ⟨0, 1, 1⟩, ⟨2, 1, 2⟩, ['\'', '\\', '\'', '\'', 'x']⟩ := rfl
  obtain ⟨behind, hdrop, hresult⟩ := readToken_character hreached rfl
  obtain ⟨unit, r, hunit, rfl, htoken⟩ :=
    (hresult (.ok ⟨.character, ['\'', '\\', '\'', '\''], 2⟩)).1 rfl
  exact ⟨hreached, unit, r, hdrop, hunit, congrArg Token.literal htoken⟩

end Lexer

end ImpLexer
