import ImpLexer.Proofs.Pieces
import ImpLexer.Proofs.Slice

/-!
# Lexing undoes printing, where nothing is joined

Tokens that are written one behind the other, with blanks between them or
without, are read back as they were written, unless the text behind one of them
makes it longer. That condition is exact: where a literal is joined by what
follows, whatever is read there is not that literal.

The first half is `lex_print_of_isGap`. For the second, what is read is a
legible row as well, and a row is told by its text and its tokens: the offsets
give back the sizes of the gaps, and the sizes give back the gaps.

Blanks join nothing, so it is enough to leave at least one between any two
tokens (`apart_of_gap_ne_nil`); the interesting rows are those with gaps that are
empty.
-/

namespace ImpLexer

open Text Piece

/-- A row is told by the text it is printed as and the tokens it has in it. -/
theorem Piece.eq_of_print_eq_of_place_eq {ps qs : List Piece} {s t : Text} {n : Nat}
    (hprint : print ps s = print qs t) (hplace : place n ps = place n qs) :
    ps = qs ∧ s = t := by
  induction ps generalizing qs n with
  | nil =>
      cases qs with
      | nil => exact ⟨rfl, hprint⟩
      | cons q qs => cases hplace
  | cons p ps ih =>
      cases qs with
      | nil => cases hplace
      | cons q qs =>
          obtain ⟨gap, kind, literal⟩ := p
          obtain ⟨gap', kind', literal'⟩ := q
          obtain ⟨htoken, hplaces⟩ := List.cons.inj hplace
          obtain ⟨rfl, rfl, hoffset⟩ := Token.mk.inj htoken
          have hsize : gap.byteSize = gap'.byteSize := Nat.add_left_cancel hoffset
          obtain ⟨rfl, htexts⟩ := append_inj_of_byteSize hprint hsize
          obtain ⟨rfl, rfl⟩ := ih (List.append_cancel_left htexts) hplaces
          exact ⟨rfl, rfl⟩

theorem apart_of_lex_print {config : Config} {pieces : List Piece} {last : Text}
    (h : lex config (print pieces last) = .ok (place 0 pieces)) : Apart pieces last := by
  obtain ⟨read, tail, htext, hlegible, -, hplace⟩ := exists_pieces_of_lex_eq_ok h
  obtain ⟨rfl, rfl⟩ := eq_of_print_eq_of_place_eq htext hplace
  exact hlegible.apart

/-- Where there is a blank between any two lexemes, none of them is joined. -/
theorem apart_of_gap_ne_nil {pieces : List Piece} {last : Text}
    (hgaps : ∀ piece ∈ pieces, IsGap piece.gap) (hlast : IsGap last)
    (hne : ∀ piece ∈ pieces.tail, piece.gap ≠ []) : Apart pieces last := by
  have hblank : ∀ {gap : Text}, IsGap gap → gap = [] ∨ begins isBlank gap := by
    intro gap hgap
    cases gap with
    | nil => exact Or.inl rfl
    | cons c t => exact Or.inr (hgap c (List.mem_cons_self ..))
  induction pieces with
  | nil => trivial
  | cons p ps ih =>
      obtain ⟨-, hgaps'⟩ := List.forall_mem_cons.1 hgaps
      refine ⟨Kind.not_joins ?_, ih hgaps' fun q hq => hne q (List.mem_of_mem_tail hq)⟩
      cases ps with
      | nil => exact hblank hlast
      | cons q qs =>
          obtain ⟨hgap, -⟩ := List.forall_mem_cons.1 hgaps'
          have hq : q.gap ≠ [] := hne q (List.mem_cons_self ..)
          have hbegins := (hblank hgap).resolve_left hq
          rw [← begins_append hq] at hbegins
          exact Or.inr hbegins

/-- Lexemes with blanks between them, and perhaps with none, are lexed to just these
lexemes, each where it was written, if and only if none of them is joined by the text
behind it. -/
theorem lex_print_eq_ok_iff {config : Config} {pieces : List Piece} {last : Text}
    (hfits : ∀ piece ∈ pieces, piece.Fits config.leadingZeros) (hlast : IsGap last) :
    lex config (print pieces last) = .ok (place 0 pieces) ↔ Apart pieces last :=
  ⟨apart_of_lex_print, fun hapart => lex_print_of_isGap ⟨hfits, hapart⟩ hlast⟩

/-- Three tokens without a blank between them, of which the first would be a decimal
if a digit followed its point. -/
theorem lex_number_point_comparison :
    lex ⟨.reject⟩ [' ', '-', '1', '.', '=', '=', '\n'] =
      .ok [⟨.integer, ['-', '1'], 1⟩, ⟨.operator, ['.'], 3⟩, ⟨.operator, ['=', '='], 4⟩] := by
  have hnumber : (Piece.mk [' '] .integer ['-', '1']).Fits .reject :=
    ⟨by decide, ['-'], ['1'], Or.inr rfl,
      ⟨⟨List.cons_ne_nil _ _, by simp [isDigit]⟩, Or.inr (Or.inr (by decide))⟩, rfl⟩
  have hpoint : (Piece.mk [] .operator ['.']).Fits .reject :=
    ⟨by decide, Or.inr ⟨'.', by decide, rfl⟩⟩
  have hequals : (Piece.mk [] .operator ['=', '=']).Fits .reject :=
    ⟨by decide, Or.inl ⟨'=', by decide, rfl⟩⟩
  have hfits : ∀ piece ∈ [Piece.mk [' '] .integer ['-', '1'], ⟨[], .operator, ['.']⟩,
      ⟨[], .operator, ['=', '=']⟩], piece.Fits .reject := by
    simp [hnumber, hpoint, hequals]
  have hlast : IsGap ['\n'] := by decide
  have hiff : lex ⟨.reject⟩ (print _ _) = .ok (place 0 _) ↔ _ :=
    lex_print_eq_ok_iff hfits hlast
  exact hiff.2 (by simp [Apart, Kind.Joins, print, startsFraction, isDigit, isComparison])

end ImpLexer
