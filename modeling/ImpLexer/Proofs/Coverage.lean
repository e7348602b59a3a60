import ImpLexer.Proofs.Pieces
import ImpLexer.Proofs.Slice

/-!
# Nothing of a source is lost

The tokens of a source are pieces of it, in order, and between them there are
blanks and nothing else. What a token says about its place is true: its offset
counts the bytes in front of it, and the bytes from its offset to its end are
its literal. So the tokens give the source back, up to which blanks stood
between them, and no character belongs to two of them.

The row of pieces has all of this in it, and what is left is to read it off:
`Piece.place` counts along a row in the same way in which `Piece.print` writes
it. That no token begins before the one in front of it has ended holds of every
scan, also of one that fails later on.
-/

namespace ImpLexer

open Text Piece

/-- The tokens are the source, but for blanks. -/
structure Covers (source : Text) (tokens : List Token) : Prop where
  /-- The source is a row of gaps and literals. -/
  row : ∃ pieces last, source = print pieces last ∧ IsGap last ∧
    (∀ piece ∈ pieces, IsGap piece.gap) ∧ tokens.length = pieces.length ∧
    ∀ front piece back, pieces = front ++ piece :: back →
      tokens[front.length]? =
        some ⟨piece.kind, piece.literal, byteSize (print front piece.gap)⟩
  literal_ne_nil : ∀ token ∈ tokens, token.literal ≠ []
  not_begins_isBlank : ∀ token ∈ tokens, ¬begins isBlank token.literal
  not_isLineBreak : ∀ token ∈ tokens, ∀ c ∈ token.literal, ¬isLineBreak c
  slice : ∀ token ∈ tokens, slice? token.offset token.stop source = some token.literal
  offset_lt : tokens.Pairwise fun a b => a.offset < b.offset
  stop_le : tokens.Pairwise fun a b => a.stop ≤ b.offset

/-! ## Counting along a row -/

namespace Piece

theorem length_place (n : Nat) (pieces : List Piece) :
    (place n pieces).length = pieces.length := by
  induction pieces generalizing n with
  | nil => rfl
  | cons p ps ih => rw [place, List.length_cons, List.length_cons, ih]

theorem getElem?_place (n : Nat) (front : List Piece) (piece : Piece) (back : List Piece) :
    (place n (front ++ piece :: back))[front.length]? =
      some ⟨piece.kind, piece.literal, n + byteSize (print front piece.gap)⟩ := by
  have hgap : byteSize (print front piece.gap) =
      byteSize (print front []) + byteSize piece.gap := by
    rw [← byteSize_append, ← print_eq_append]
  rw [place_append, List.getElem?_append_right (Nat.le_of_eq (length_place n front)), length_place,
    Nat.sub_self, place, List.getElem?_cons_zero, hgap, Nat.add_assoc]

theorem exists_literal_of_mem_place {n : Nat} {pieces : List Piece} {token : Token}
    (h : token ∈ place n pieces) :
    ∃ piece ∈ pieces, token.kind = piece.kind ∧ token.literal = piece.literal := by
  induction pieces generalizing n with
  | nil => cases h
  | cons p ps ih =>
      rcases List.mem_cons.1 h with rfl | htail
      · exact ⟨p, List.mem_cons_self .., rfl, rfl⟩
      · obtain ⟨q, hq, heq⟩ := ih htail
        exact ⟨q, List.mem_cons_of_mem p hq, heq⟩

theorem le_offset_of_mem_place {n : Nat} {pieces : List Piece} {token : Token}
    (h : token ∈ place n pieces) : n ≤ token.offset := by
  induction pieces generalizing n with
  | nil => cases h
  | cons p ps ih =>
      rcases List.mem_cons.1 h with rfl | htail
      · exact Nat.le_add_right n _
      · have hle := ih htail
        omega

theorem pairwise_stop_le_place (n : Nat) (pieces : List Piece) :
    (place n pieces).Pairwise fun a b => a.stop ≤ b.offset := by
  induction pieces generalizing n with
  | nil => exact List.Pairwise.nil
  | cons p ps ih =>
      refine List.pairwise_cons.2 ⟨fun b hb => ?_, ih _⟩
      exact le_offset_of_mem_place hb

theorem slice?_of_mem_place {pieces : List Piece} {tail before : Text} {token : Token}
    (h : token ∈ place (byteSize before) pieces) :
    slice? token.offset token.stop (before ++ print pieces tail) = some token.literal := by
  induction pieces generalizing before with
  | nil => cases h
  | cons p ps ih =>
      rw [print, ← List.append_assoc]
      rw [place, ← byteSize_append, ← byteSize_append] at h
      rcases List.mem_cons.1 h with rfl | htail
      · exact slice?_append (before ++ p.gap) p.literal (print ps tail)
      · have hslice := ih htail
        rwa [List.append_assoc (before ++ p.gap)] at hslice

end Piece

/-! ## The tokens of a source -/

theorem covers_place {policy : LeadingZeros} {pieces : List Piece} {last : Text}
    (hlegible : Legible policy pieces last) (hlast : IsGap last) :
    Covers (print pieces last) (place 0 pieces) := by
  have hlexeme : ∀ token ∈ place 0 pieces, IsLexeme policy token.kind token.literal := by
    intro token htoken
    obtain ⟨piece, hpiece, hkind, hliteral⟩ := exists_literal_of_mem_place htoken
    rw [hkind, hliteral]
    exact (hlegible.fits piece hpiece).literal
  have hne : ∀ token ∈ place 0 pieces, token.literal ≠ [] := by
    intro token htoken
    obtain ⟨c, t, hc, -⟩ := (hlexeme token htoken).exists_cons
    rw [hc]
    exact List.cons_ne_nil c t
  refine ⟨⟨pieces, last, rfl, hlast, fun piece hpiece => (hlegible.fits piece hpiece).gap,
    length_place 0 pieces, ?_⟩, hne, ?_, fun token htoken => (hlexeme token htoken).not_isLineBreak,
    ?_, ?_, pairwise_stop_le_place 0 pieces⟩
  · intro front piece back heq
    rw [heq, getElem?_place, Nat.zero_add]
  · intro token htoken
    obtain ⟨c, t, hc, hblank⟩ := (hlexeme token htoken).exists_cons
    rw [hc]
    exact hblank
  · intro token htoken
    have hslice : slice? token.offset token.stop ([] ++ print pieces last) = _ :=
      slice?_of_mem_place htoken
    rwa [List.nil_append] at hslice
  · refine (pairwise_stop_le_place 0 pieces).imp_of_mem fun {a b} ha _ hle => ?_
    have hpos := byteSize_pos_of_ne_nil (hne a ha)
    have hstop : a.stop = a.offset + byteSize a.literal := rfl
    omega

/-- Whatever the source: its tokens cover it, if it has any, and no token that is found
begins before an earlier one has ended. -/
theorem lex_lossless (config : Config) (source : Text) :
    (∀ tokens, lex config source = .ok tokens → Covers source tokens) ∧
      (Lexer.ofText config source).scan.tokens.Pairwise fun a b => a.stop ≤ b.offset := by
  constructor
  · intro tokens h
    obtain ⟨pieces, last, rfl, hlegible, hlast, rfl⟩ := exists_pieces_of_lex_eq_ok h
    exact covers_place hlegible hlast
  · obtain ⟨pieces, tail, -, -, hscan⟩ := exists_pieces_scan (Lexer.ofText config source)
    rw [hscan]
    exact pairwise_stop_le_place _ pieces

/-- A character of two bytes moves what stands behind it by two. -/
theorem covers_symbol_number :
    lex ⟨.reject⟩ ['é', '-', '1', '\n'] =
        .ok [⟨.operator, ['é'], 0⟩, ⟨.integer, ['-', '1'], 2⟩] ∧
      Covers ['é', '-', '1', '\n'] [⟨.operator, ['é'], 0⟩, ⟨.integer, ['-', '1'], 2⟩] := by
  have hsymbol : (Piece.mk [] .operator ['é']).Fits .reject :=
    ⟨by decide, Or.inr ⟨'é', by decide, rfl⟩⟩
  have hnumber : (Piece.mk [] .integer ['-', '1']).Fits .reject :=
    ⟨by decide, ['-'], ['1'], Or.inr rfl,
      ⟨⟨List.cons_ne_nil _ _, by simp [isDigit]⟩, Or.inr (Or.inr (by decide))⟩, rfl⟩
  have hlegible : Legible .reject [⟨[], .operator, ['é']⟩, ⟨[], .integer, ['-', '1']⟩] ['\n'] :=
    ⟨by simp [hsymbol, hnumber],
      by simp [Apart, Kind.Joins, print, startsFraction, isDigit, isComparison]⟩
  have hlex : lex ⟨.reject⟩ ['é', '-', '1', '\n'] =
      .ok [⟨.operator, ['é'], 0⟩, ⟨.integer, ['-', '1'], 2⟩] :=
    lex_print_of_isGap hlegible (by decide)
  exact ⟨hlex, (lex_lossless ⟨.reject⟩ _).1 _ hlex⟩

end ImpLexer
