import ImpLexer.Proofs.Restart

/-!
# A blank keeps two sources apart

Two sources with a blank between them are lexed as if each were alone. The first
does not see beyond the blank, whatever it ends with: there is no lexeme that a
blank belongs to, and a point at the end of a number, which waits for a digit,
gets a blank. The second does not see what is in front of it. All that it has
from there is the place where it begins.

The first half is a statement about the rows of pieces: a row that is legible
stays so when a blank is written behind it. The second half is `Restart.lean`
for the lexer that has passed over the blank.
-/

namespace ImpLexer

open Text Piece

/-- What a literal does not join in the text behind it, it does not join through a
blank. -/
theorem Kind.not_joins_append_of_isBlank {kind : Kind} {literal next t : Text}
    (hend : ¬kind.Joins literal next) (ht : begins isBlank t) :
    ¬kind.Joins literal (next ++ t) := by
  by_cases hne : next = []
  · rw [hne]
    exact Kind.not_joins (Or.inr ht)
  · by_cases hpoint : next = ['.']
    · subst hpoint
      match kind with
      | .integer =>
          have hdigit : ¬begins isDigit t :=
            show ¬Kind.decimal.Joins literal t from Kind.not_joins (Or.inr ht)
          intro hjoins
          rcases hjoins with hd | hf
          · exact hend (Or.inl hd)
          · exact hdigit (by simpa [startsFraction] using hf)
      | .identifier | .decimal | .operator | .character | .string => exact hend
    · rw [Kind.joins_append_iff hne hpoint]
      exact hend

theorem utf8Size_of_isBlank {c : Char} (h : isBlank c) : c.utf8Size = 1 := by
  rcases blank_cases h with rfl | rfl | rfl | rfl | rfl <;> decide

theorem Legible.append_blank {policy : LeadingZeros} {pieces : List Piece} {tail t : Text}
    (hlegible : Legible policy pieces tail) (ht : begins isBlank t) :
    Legible policy pieces (tail ++ t) where
  fits := hlegible.fits
  apart := by
    refine hlegible.apart.imp_tail fun kind literal ps hend => ?_
    rw [← print_append_text]
    exact Kind.not_joins_append_of_isBlank hend ht

/-- In terms of results: the tokens of the first source are in front of whatever comes of
the second, carried past the first and the blank. -/
theorem lex_append_cons {config : Config} {source next : Text} {tokens : List Token}
    (h : lex config source = .ok tokens) {blank : Char} (hblank : isBlank blank) :
    lex config (source ++ blank :: next) =
      (carryResult (List.map (Token.carry (Position.start.after (source ++ [blank]))))
        (Position.start.after (source ++ [blank])) (lex config next)).map (tokens ++ ·) := by
  obtain ⟨pieces, last, rfl, hlegible, hlast, rfl⟩ := exists_pieces_of_lex_eq_ok h
  have hlonger : Legible config.leadingZeros pieces (last ++ blank :: next) :=
    hlegible.append_blank hblank
  have hgap : IsGap (last ++ [blank]) :=
    List.forall_mem_append.2 ⟨hlast, by simpa using hblank⟩
  have hrest : (Lexer.ofText config (print pieces last ++ blank :: next)).rest =
      print pieces (last ++ blank :: next) := print_append_text ..
  obtain ⟨reached, hconfig, hreached, hposition, hscan⟩ := Lexer.scan_print hlonger hrest
  have hsplit : reached.rest = (last ++ [blank]) ++ next := by
    rw [hreached, List.append_assoc, List.singleton_append]
  have hprint : print pieces [] ++ (last ++ [blank]) = print pieces last ++ [blank] := by
    rw [← print_eq_append, print_append_text]
  have hplace : (reached.move (last ++ [blank]) next).position =
      Position.start.after (print pieces last ++ [blank]) := by
    rw [Lexer.position_move, hposition, ← Position.after_append, hprint]
    rfl
  have hcarried : Lexer.Carried (Position.start.after (print pieces last ++ [blank]))
      (reached.move (last ++ [blank]) next) (Lexer.ofText config next) :=
    ⟨hconfig, rfl, hplace.trans (Position.carry_start _).symm, Position.proper_start⟩
  have htokens := hcarried.tokens
  have hresult : lex config (print pieces last ++ blank :: next) =
      reached.scan.result.map (place 0 pieces ++ ·) :=
    (congrArg Scan.result hscan).trans (reached.scan.result_behind (place 0 pieces))
  rw [hresult, (Lexer.scan_alike_move hsplit hgap).result_eq]
  exact congrArg (Except.map (place 0 pieces ++ ·)) htokens

/-- Behind a source that has no error and a blank, another source is lexed as if it were
alone, and its tokens or its error are carried to where they are. -/
theorem lex_append_blank {config : Config} {source : Text} {tokens : List Token}
    (h : lex config source = .ok tokens) {blank : Char} (hblank : isBlank blank)
    (next : Text) :
    (∀ more, lex config next = .ok more →
        lex config (source ++ blank :: next) =
          .ok (tokens ++ more.map fun token =>
            { token with offset := token.offset + (source.byteSize + 1) })) ∧
      ∀ error, lex config next = .error error →
        lex config (source ++ blank :: next) =
          .error (error.carry (Position.start.after (source ++ [blank]))) := by
  constructor
  · intro more hmore
    have hoffset : (Position.start.after (source ++ [blank])).offset = source.byteSize + 1 := by
      rw [Position.offset_start_after, byteSize_append, byteSize_cons,
        utf8Size_of_isBlank hblank]
      rfl
    have hcarry : Token.carry (Position.start.after (source ++ [blank])) =
        fun token => { token with offset := token.offset + (source.byteSize + 1) } := by
      funext token
      rw [Token.carry, hoffset, Nat.add_comm]
    rw [lex_append_cons h hblank, hmore, ← hcarry]
    rfl
  · intro error herror
    rw [lex_append_cons h hblank, herror]
    rfl

/-- A point behind a number waits for a digit, and gets a line feed; the digit comes too
late. What is wrong behind the line feed is wrong on the second line. -/
theorem lex_number_point_line :
    lex ⟨.reject⟩ ['1', '.'] = .ok [⟨.integer, ['1'], 0⟩, ⟨.operator, ['.'], 1⟩] ∧
      isBlank '\n' ∧
      lex ⟨.reject⟩ ['1', '.', '\n', '5'] =
        .ok [⟨.integer, ['1'], 0⟩, ⟨.operator, ['.'], 1⟩, ⟨.integer, ['5'], 3⟩] ∧
      lex ⟨.reject⟩ ['1', '.', '\n', '5', '\''] =
        .error ⟨.unterminatedCharacter, ⟨4, 2, 2⟩⟩ := by
  have hnumber : lex ⟨.reject⟩ ['1', '.'] =
      .ok [⟨.integer, ['1'], 0⟩, ⟨.operator, ['.'], 1⟩] := lex_eq_scanUpTo _ _
  have hdigit : lex ⟨.reject⟩ ['5'] = .ok [⟨.integer, ['5'], 0⟩] := lex_eq_scanUpTo _ _
  have hquote : lex ⟨.reject⟩ ['5', '\''] =
      .error ⟨.unterminatedCharacter, ⟨1, 1, 2⟩⟩ := lex_eq_scanUpTo _ _
  have hblank : isBlank '\n' := by decide
  exact ⟨hnumber, hblank, (lex_append_blank hnumber hblank ['5']).1 _ hdigit,
    (lex_append_blank hnumber hblank ['5', '\'']).2 _ hquote⟩

end ImpLexer
