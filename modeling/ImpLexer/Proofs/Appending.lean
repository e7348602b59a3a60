import ImpLexer.Proofs.Pieces
import ImpLexer.Proofs.Slice

/-!
# When a source that fails goes on

A source may arrive in parts, and an error in what has arrived is either there
to stay or only says that more is to come. The second is so in one case: a
literal is open where the source ends, and its line has not been ended either.
Then a line break would settle the error, and the rest of the literal would
remove it. Every other error is reported again, word for word, whatever is
written behind it.

There are two things to show. The lexemes in front of the fault stay what they
are: readers look one character ahead, or two behind a point, and what is left
of the source behind a lexeme is more than that, because it ends in a fault, and
no fault is just a point. And a fault that has been met by looking at a
character is met again; the faults that are met by looking at the end of the
source are those of the two unterminated literals.
-/

namespace ImpLexer

open Text Piece

/-- The error may go away again if the source goes on. -/
structure Incomplete (source : Text) (error : LexError) : Prop where
  cause : error.cause = .unterminatedString ∨ error.cause = .unterminatedCharacter
  line : ∃ behind, dropBytes? error.position.offset source = some behind ∧
    ∀ c ∈ behind, ¬isLineBreak c

/-! ## The lexemes in front of a fault -/

/-- Is a text so long that whatever is written behind it joins nothing that stands in
front of it? -/
def Settles (t : Text) : Prop := t ≠ [] ∧ t ≠ ['.']

theorem Settles.append_left {t : Text} (ht : Settles t) (s : Text) : Settles (s ++ t) := by
  constructor
  · intro h
    exact ht.1 (List.append_eq_nil_iff.1 h).2
  · intro h
    rcases List.append_eq_singleton_iff.1 h with ⟨-, htail⟩ | ⟨-, htail⟩
    · exact ht.2 htail
    · exact ht.1 htail

theorem Settles.print {tail : Text} (htail : Settles tail) (pieces : List Piece) :
    Settles (print pieces tail) := by
  have h := htail.append_left (Piece.print pieces [])
  rwa [← print_eq_append] at h

theorem Piece.Apart.append_text {pieces : List Piece} {tail : Text}
    (hapart : Apart pieces tail) (htail : Settles tail) (t : Text) :
    Apart pieces (tail ++ t) := by
  refine hapart.imp_tail fun kind literal ps hend => ?_
  obtain ⟨hne, hpoint⟩ := htail.print ps
  rw [← print_append_text, Kind.joins_append_iff hne hpoint t]
  exact hend

section

variable {policy : LeadingZeros}

theorem Legible.append_text {pieces : List Piece} {tail : Text}
    (hlegible : Legible policy pieces tail) (htail : Settles tail) (t : Text) :
    Legible policy pieces (tail ++ t) :=
  ⟨hlegible.fits, hlegible.apart.append_text htail t⟩

namespace Malformed

variable {fault : Fault} {consumed rest : Text}

theorem settles (hfault : Malformed policy fault consumed rest) :
    Settles (consumed ++ rest) := by
  obtain ⟨c, t, heq, -, hpoint⟩ := hfault.exists_cons
  rw [heq]
  refine ⟨List.cons_ne_nil c t, fun h => hpoint ?_⟩
  exact (List.cons.inj h).1

/-! ## Faults that are there to stay -/

theorem append_text (hfault : Malformed policy fault consumed rest) (hne : rest ≠ [])
    (t : Text) : Malformed policy fault consumed (rest ++ t) := by
  have hline : AtLineEnd rest → AtLineEnd (rest ++ t) := by
    intro hend
    have hbegins := hend.resolve_left hne
    rw [← begins_append hne t] at hbegins
    exact Or.inr hbegins
  cases hfault with
  | unexpectedCharacter hc hblank => exact .unexpectedCharacter hc hblank
  | leadingZero hpolicy hsign hdigit =>
      refine .leadingZero hpolicy hsign ?_
      rw [begins_append hne]
      exact hdigit
  | emptyCharacter => exact .emptyCharacter
  | multipleCharacters hunit hquote hbreak => exact .multipleCharacters hunit hquote hbreak
  | controlCharacter hbody hcontrol hbreak => exact .controlCharacter hbody hcontrol hbreak
  | invalidEscape hopened hcode hbreak => exact .invalidEscape hopened hcode hbreak
  | unterminatedCharacter hinside hend => exact .unterminatedCharacter hinside (hline hend)
  | unterminatedString hbody hlast hend => exact .unterminatedString hbody hlast (hline hend)

/-! ## Faults at the end of the source -/

theorem cause_of_end (hfault : Malformed policy fault consumed []) :
    fault.cause = .unterminatedString ∨ fault.cause = .unterminatedCharacter := by
  cases hfault with
  | leadingZero _ _ hdigit => cases hdigit
  | unterminatedCharacter => exact Or.inr rfl
  | unterminatedString => exact Or.inl rfl

/-- An unterminated literal is blamed on the place where it begins, and ends with its
line. -/
theorem of_unterminated (hfault : Malformed policy fault consumed rest)
    (hcause : fault.cause = .unterminatedString ∨ fault.cause = .unterminatedCharacter) :
    fault.before = [] ∧ AtLineEnd rest := by
  cases hfault with
  | unterminatedCharacter _ hend => exact ⟨rfl, hend⟩
  | unterminatedString _ _ hend => exact ⟨rfl, hend⟩
  | _ => simp at hcause

/-- The end of the line settles the fault. -/
theorem of_lineBreak (hfault : Malformed policy fault consumed []) {t : Text}
    (ht : begins isLineBreak t) : Malformed policy fault consumed t := by
  cases hfault with
  | leadingZero _ _ hdigit => cases hdigit
  | unterminatedCharacter hinside => exact .unterminatedCharacter hinside (Or.inr ht)
  | unterminatedString hbody hlast => exact .unterminatedString hbody hlast (Or.inr ht)

/-- The rest of the literal removes the fault. After a backslash that is the rest of an
escape sequence first, and between the quotation marks of a character literal there has
to be something. -/
theorem exists_isLexeme (hfault : Malformed policy fault consumed []) :
    ∃ kind t, IsLexeme policy kind (consumed ++ t) := by
  cases hfault with
  | leadingZero _ _ hdigit => cases hdigit
  | unterminatedCharacter hinside =>
      rcases hinside with rfl | rfl | hunit
      · exact ⟨.character, ['n', '\''], ['n'], isCharacterUnit_iff.2 (isUnit_plain (by decide)),
          rfl⟩
      · exact ⟨.character, ['n', '\''], ['\\', 'n'],
          isCharacterUnit_iff.2 (isUnit_escape _ (by decide)), rfl⟩
      · exact ⟨.character, ['\''], _, hunit, rfl⟩
  | @unterminatedString body _ _ hbody hlast =>
      rcases hlast with rfl | rfl
      · exact ⟨.string, ['"'], body, hbody, by rw [List.append_nil]⟩
      · have hunit : IsStringUnit ['\\', 'n'] :=
          isStringUnit_iff.2 (isUnit_escape _ (by decide))
        exact ⟨.string, ['n', '"'], body ++ ['\\', 'n'], hbody.append_unit hunit, by simp⟩

end Malformed

/-- The error that a fault gives is incomplete if the source ends with what was
consumed. -/
theorem incomplete_iff {pieces : List Piece} {gap consumed rest : Text} {fault : Fault}
    (hfault : Malformed policy fault consumed rest) :
    Incomplete (print pieces (gap ++ (consumed ++ rest)))
        ⟨fault.cause, Position.start.after (print pieces (gap ++ fault.before))⟩ ↔
      rest = [] := by
  have hsource : print pieces (gap ++ (consumed ++ rest)) =
      print pieces gap ++ (consumed ++ rest) := (print_append_text _ _ _).symm
  have hbehind : ∀ {t}, fault.before = [] →
      (dropBytes? (Position.start.after (print pieces (gap ++ fault.before))).offset
        (print pieces (gap ++ (consumed ++ rest))) = some t ↔ consumed ++ rest = t) := by
    intro t hbefore
    rw [hsource, hbefore, List.append_nil, Position.offset_start_after, dropBytes?_append,
      Option.some.injEq]
  constructor
  · intro hincomplete
    obtain ⟨hbefore, hend⟩ := hfault.of_unterminated hincomplete.cause
    obtain ⟨behind, hdrop, hline⟩ := hincomplete.line
    rcases hend with hnil | hbegins
    · exact hnil
    · cases rest with
      | nil => rfl
      | cons c t =>
          have heq := (hbehind hbefore).1 hdrop
          have hc : c ∈ behind := by rw [← heq]; simp
          exact absurd hbegins (hline c hc)
  · rintro rfl
    have hcause := hfault.cause_of_end
    obtain ⟨hbefore, -⟩ := hfault.of_unterminated hcause
    exact ⟨hcause, consumed, (hbehind hbefore).2 (List.append_nil _), hfault.not_isLineBreak⟩

end

/-! ## Whole sources -/

/-- With the rest of a literal the source has one token more, and no error. -/
theorem exists_lex_append_eq_ok {config : Config} {pieces : List Piece}
    {gap consumed : Text} {fault : Fault}
    (hlegible : Legible config.leadingZeros pieces (gap ++ (consumed ++ [])))
    (hgap : IsGap gap) (hfault : Malformed config.leadingZeros fault consumed []) :
    ∃ t tokens, lex config (print pieces (gap ++ (consumed ++ [])) ++ t) = .ok tokens := by
  obtain ⟨kind, t, hlexeme⟩ := hfault.exists_isLexeme
  have hlonger := hlegible.append_text (hfault.settles.append_left gap) t
  have hlast : Legible config.leadingZeros [⟨gap, kind, consumed ++ t⟩] [] :=
    legible_cons_iff.2 ⟨⟨⟨hgap, hlexeme⟩, Kind.not_joins (Or.inl rfl)⟩, legible_nil []⟩
  have htail : gap ++ (consumed ++ []) ++ t =
      print [⟨gap, kind, consumed ++ t⟩] [] := by
    rw [print, print, List.append_nil, List.append_nil, List.append_assoc]
  rw [htail] at hlonger
  refine ⟨t, place 0 (pieces ++ [⟨gap, kind, consumed ++ t⟩]), ?_⟩
  rw [print_append_text, htail, ← print_append]
  exact lex_print_of_isGap (legible_append_iff.2 ⟨hlonger, hlast⟩) (by simp [IsGap])

/-- An error is reported again whatever is written behind the source, unless it is
incomplete. Then the end of the line settles it, and the source can be completed to
one that has no error. -/
theorem lex_append_of_error {config : Config} {source : Text} {error : LexError}
    (h : lex config source = .error error) :
    (¬Incomplete source error → ∀ t, lex config (source ++ t) = .error error) ∧
      (Incomplete source error →
        (∀ t, begins isLineBreak t → lex config (source ++ t) = .error error) ∧
          ∃ t tokens, lex config (source ++ t) = .ok tokens) ∧
      ((∀ t, lex config (source ++ t) = .error error) ↔ ¬Incomplete source error) := by
  obtain ⟨pieces, gap, consumed, rest, fault, rfl, hlegible, hgap, hfault, rfl⟩ :=
    exists_pieces_of_lex_eq_error h
  rw [incomplete_iff hfault]
  have hagain : ∀ t, Malformed config.leadingZeros fault consumed (rest ++ t) →
      lex config (print pieces (gap ++ (consumed ++ rest)) ++ t) =
        .error ⟨fault.cause, Position.start.after (print pieces (gap ++ fault.before))⟩ := by
    intro t hfault'
    have hlonger := hlegible.append_text (hfault.settles.append_left gap) t
    rw [List.append_assoc, List.append_assoc] at hlonger
    rw [print_append_text, List.append_assoc, List.append_assoc]
    exact lex_print_of_malformed hlonger hgap hfault'
  have hcompleted : rest = [] →
      ∃ t tokens, lex config (print pieces (gap ++ (consumed ++ rest)) ++ t) = .ok tokens := by
    rintro rfl
    exact exists_lex_append_eq_ok hlegible hgap hfault
  refine ⟨fun hne t => hagain t (hfault.append_text hne t), fun hend => ⟨?_, hcompleted hend⟩,
    fun hall hend => ?_, fun hne t => hagain t (hfault.append_text hne t)⟩
  · intro t ht
    subst hend
    exact hagain t (hfault.of_lineBreak ht)
  · obtain ⟨t, tokens, hok⟩ := hcompleted hend
    rw [hall t] at hok
    cases hok

/-- A string that is cut off behind a backslash. -/
theorem lex_append_name_cut_string :
    Incomplete ['a', ' ', '"', 'b', '\\'] ⟨.unterminatedString, ⟨2, 1, 3⟩⟩ ∧
      (∀ t, begins isLineBreak t →
        lex ⟨.reject⟩ (['a', ' ', '"', 'b', '\\'] ++ t) =
          .error ⟨.unterminatedString, ⟨2, 1, 3⟩⟩) ∧
      ∃ t tokens, lex ⟨.reject⟩ (['a', ' ', '"', 'b', '\\'] ++ t) = .ok tokens := by
  have hname : (Piece.mk [] .identifier ['a']).Fits .reject :=
    ⟨by decide, 'a', [], rfl, by decide, by simp⟩
  have hlegible : Legible .reject [⟨[], .identifier, ['a']⟩]
      ([' '] ++ ('"' :: (['b'] ++ ['\\']) ++ [])) :=
    legible_cons_iff.2 ⟨⟨hname, Kind.not_joins (Or.inr (show isBlank ' ' by decide))⟩,
      legible_nil _⟩
  have hfault : Malformed .reject ⟨.unterminatedString, []⟩ ('"' :: (['b'] ++ ['\\'])) [] :=
    .unterminatedString (isStringBody_splitUnits ['b']) (Or.inr rfl) (Or.inl rfl)
  have hlex : lex ⟨.reject⟩ ['a', ' ', '"', 'b', '\\'] =
      .error ⟨.unterminatedString, ⟨2, 1, 3⟩⟩ :=
    lex_print_of_malformed hlegible (by decide) hfault
  have hincomplete :
      Incomplete ['a', ' ', '"', 'b', '\\'] ⟨.unterminatedString, ⟨2, 1, 3⟩⟩ :=
    ⟨Or.inl rfl, ['"', 'b', '\\'], by decide, by simp [isLineBreak]⟩
  exact ⟨hincomplete, (lex_append_of_error hlex).2.1 hincomplete⟩

end ImpLexer
