import ImpLexer.Proofs.Pieces
import ImpLexer.Proofs.Slice

/-!
# A source that is cut behind a token

Whoever cuts a source behind one of its tokens keeps that token and those in
front of it, as they were, and gets no error. A source that has an error can be
cut in the same way, where the token begins that could not be read: what is in
front of it is free of errors. So the error belongs to the first token that is
malformed, and nothing in front of that had a part in it.

A cut could do harm because the readers look ahead. A number that had a point
behind it now has nothing, and so has a minus sign or the first character of a
comparison. But looking ahead only ever makes a lexeme longer. What joins a
lexeme goes on doing so when more is written behind it (`Kind.Joins.append_text`),
and read backwards this says that a lexeme which is complete in front of a long
text is complete in front of a shorter one. A row that is legible is legible up
to every one of its pieces.
-/

namespace ImpLexer

open Text Piece

theorem Text.begins_append_text {p : Char → Bool} {s : Text} (h : begins p s) (t : Text) :
    begins p (s ++ t) := by
  cases s with
  | nil => simp at h
  | cons c s => exact h

theorem Kind.Joins.append_text {kind : Kind} {literal next : Text}
    (h : kind.Joins literal next) (t : Text) : kind.Joins literal (next ++ t) := by
  have hbegins : ∀ {p}, begins p next → begins p (next ++ t) :=
    fun hp => begins_append_text hp t
  match kind with
  | .identifier | .decimal => exact hbegins h
  | .integer =>
      rcases h with hdigit | hfraction
      · exact Or.inl (hbegins hdigit)
      · cases next with
        | nil => simp [startsFraction] at hfraction
        | cons c next =>
            simp only [startsFraction, Bool.and_eq_true] at hfraction
            have hpoint := begins_append_text hfraction.2 t
            right
            simp only [List.cons_append, startsFraction, Bool.and_eq_true]
            exact ⟨hfraction.1, hpoint⟩
  | .operator =>
      rcases h with ⟨hminus, hdigit⟩ | ⟨hcomparison, hequals⟩
      · exact Or.inl ⟨hminus, hbegins hdigit⟩
      · exact Or.inr ⟨hcomparison, hbegins hequals⟩
  | .character | .string => exact h

/-! ## Shorter rows -/

theorem Legible.of_append_text {policy : LeadingZeros} {pieces : List Piece} {tail t : Text}
    (h : Legible policy pieces (tail ++ t)) : Legible policy pieces tail where
  fits := h.fits
  apart := by
    refine h.apart.imp_tail fun kind literal ps hend hjoins => hend ?_
    rw [← print_append_text]
    exact hjoins.append_text t

theorem Legible.take {policy : LeadingZeros} {pieces : List Piece} {tail : Text}
    (h : Legible policy pieces tail) (k : Nat) : Legible policy (pieces.take k) [] := by
  rw [← List.take_append_drop k pieces, legible_append_iff, ← List.nil_append (print _ tail)] at h
  exact h.1.of_append_text

namespace Piece

theorem place_take (n k : Nat) (pieces : List Piece) :
    (place n pieces).take k = place n (pieces.take k) := by
  induction pieces generalizing n k with
  | nil => simp [place]
  | cons p ps ih =>
      cases k with
      | zero => rfl
      | succ k => rw [place, List.take_succ_cons, List.take_succ_cons, ih, place]

/-- A token ends where the row of the pieces up to its own ends. -/
theorem stop_of_getElem?_place {n k : Nat} {pieces : List Piece} {token : Token}
    (h : (place n pieces)[k]? = some token) :
    token.stop = n + byteSize (print (pieces.take (k + 1)) []) := by
  induction pieces generalizing n k with
  | nil => simp [place] at h
  | cons p ps ih =>
      rw [List.take_succ_cons, print, byteSize_append, byteSize_append]
      cases k with
      | zero =>
          rw [place, List.getElem?_cons_zero] at h
          cases h
          simp only [Token.stop, List.take_zero, print, byteSize_nil]
          omega
      | succ k =>
          rw [place, List.getElem?_cons_succ] at h
          rw [ih h]
          omega

end Piece

/-! ## Whole sources -/

theorem exists_slice_of_lex_eq_ok {config : Config} {source : Text} {tokens : List Token}
    (h : lex config source = .ok tokens) {k : Nat} {token : Token}
    (htoken : tokens[k]? = some token) :
    ∃ front, slice? 0 token.stop source = some front ∧
      lex config front = .ok (tokens.take (k + 1)) := by
  obtain ⟨pieces, last, rfl, hlegible, -, rfl⟩ := exists_pieces_of_lex_eq_ok h
  have hstop := stop_of_getElem?_place htoken
  have hsplit : print pieces last =
      print (pieces.take (k + 1)) [] ++ print (pieces.drop (k + 1)) last := by
    rw [← print_eq_append, ← print_append, List.take_append_drop]
  refine ⟨print (pieces.take (k + 1)) [], ?_, ?_⟩
  · rw [hstop, Nat.zero_add, hsplit, slice?_zero_append]
  · rw [place_take]
    exact lex_print_of_isGap (hlegible.take (k + 1)) (by simp [IsGap])

/-- What is in front of the lexer that could not read on is free of errors. -/
theorem exists_stopped_of_lex_eq_error {config : Config} {source : Text} {error : LexError}
    (h : lex config source = .error error) :
    ∃ stopped front behind fault,
      (Lexer.ofText config source).scan.ending = .failed stopped error ∧
      stopped.readToken.1 = .error error ∧
      source = front ++ behind ∧ stopped.position = Position.start.after front ∧
      lex config front = .ok (Lexer.ofText config source).scan.tokens ∧
      error = ⟨fault.cause, Position.start.after (front ++ fault.before)⟩ ∧
      ∃ consumed rest, behind = consumed ++ rest ∧
        Malformed config.leadingZeros fault consumed rest := by
  obtain ⟨pieces, gap, consumed, rest, fault, rfl, hlegible, hgap, hfault, rfl⟩ :=
    exists_pieces_of_lex_eq_error h
  have hrest : (Lexer.ofText config (print pieces (gap ++ (consumed ++ rest)))).rest =
      print pieces (gap ++ (consumed ++ rest)) := rfl
  obtain ⟨stopped, hconfig, hstopped, hposition, hscan⟩ :=
    Lexer.scan_print_of_malformed _ hlegible hgap hfault hrest
  have hread : readLexeme stopped.config.leadingZeros stopped.rest =
      ⟨consumed, rest, .error fault⟩ := by
    rw [hconfig, hstopped]
    exact readLexeme_of_malformed hfault
  have hblamed : stopped.position.after fault.before =
      Position.start.after (print pieces (gap ++ fault.before)) := by
    rw [hposition, ← Position.after_append, print_append_text]
    rfl
  refine ⟨stopped, print pieces gap, consumed ++ rest, fault, congrArg Scan.ending hscan, ?_,
    (print_append_text _ _ _).symm, hposition, ?_, ?_, consumed, rest, rfl, hfault⟩
  · rw [stopped.readToken_of_error hread, hblamed]
  · rw [hscan]
    exact lex_print_of_isGap hlegible.of_append_text hgap
  · rw [print_append_text]

/-- A source without an error keeps its tokens up to any one of them when it is cut behind
that. A source with an error has none in front of the place where the malformed token
begins, and the tokens there are all that were found. -/
theorem lex_slice (config : Config) (source : Text) :
    (∀ tokens, lex config source = .ok tokens → ∀ k token, tokens[k]? = some token →
        ∃ front, slice? 0 token.stop source = some front ∧
          lex config front = .ok (tokens.take (k + 1))) ∧
      ∀ error, lex config source = .error error →
        ∃ stopped, (Lexer.ofText config source).scan.ending = .failed stopped error ∧
          stopped.readToken.1 = .error error ∧
          stopped.position.offset ≤ error.position.offset ∧
          (∃ front, slice? 0 stopped.position.offset source = some front ∧
            lex config front = .ok (Lexer.ofText config source).scan.tokens) ∧
          ∃ c behind, dropBytes? stopped.position.offset source = some (c :: behind) ∧
            ¬isBlank c := by
  refine ⟨fun tokens h k token htoken => exists_slice_of_lex_eq_ok h htoken, fun error h => ?_⟩
  obtain ⟨stopped, front, behind, fault, hending, hread, hsource, hposition, hfront, herror,
    consumed, rest, hbehind, hfault⟩ := exists_stopped_of_lex_eq_error h
  obtain ⟨c, t, hc, hblank, -⟩ := hfault.exists_cons
  have hoffset : stopped.position.offset = byteSize front := by
    rw [hposition, Position.offset_start_after]
  refine ⟨stopped, hending, hread, ?_, ⟨front, ?_, hfront⟩, c, t, ?_, hblank⟩
  · rw [hoffset, herror, Position.offset_start_after, byteSize_append]
    omega
  · rw [hoffset, hsource, slice?_zero_append]
  · rw [hoffset, hsource, dropBytes?_append, hbehind, hc]

/-- A number loses the point behind it, and a comparison the string that could not be read. -/
theorem lex_slice_number_comparison :
    lex ⟨.reject⟩ ['-', '1', '.', 'x'] =
        .ok [⟨.integer, ['-', '1'], 0⟩, ⟨.operator, ['.'], 2⟩, ⟨.identifier, ['x'], 3⟩] ∧
      lex ⟨.reject⟩ ['-', '1'] = .ok [⟨.integer, ['-', '1'], 0⟩] ∧
      lex ⟨.reject⟩ ['<', '\n', '"', 'é', '\\', 'q'] =
        .error ⟨.invalidEscape 'q', ⟨5, 2, 3⟩⟩ ∧
      lex ⟨.reject⟩ ['<', '\n'] = .ok [⟨.operator, ['<'], 0⟩] := by
  have hwhole : lex ⟨.reject⟩ ['-', '1', '.', 'x'] =
      .ok [⟨.integer, ['-', '1'], 0⟩, ⟨.operator, ['.'], 2⟩, ⟨.identifier, ['x'], 3⟩] :=
    lex_eq_scanUpTo _ _
  have hbroken : lex ⟨.reject⟩ ['<', '\n', '"', 'é', '\\', 'q'] =
      .error ⟨.invalidEscape 'q', ⟨5, 2, 3⟩⟩ := lex_eq_scanUpTo _ _
  have hscan : (Lexer.ofText ⟨.reject⟩ ['<', '\n', '"', 'é', '\\', 'q']).scan =
      ⟨[⟨.operator, ['<'], 0⟩], .failed ⟨⟨.reject⟩, ⟨0, 1, 1⟩, ⟨2, 2, 1⟩, ['"', 'é', '\\', 'q']⟩
        ⟨.invalidEscape 'q', ⟨5, 2, 3⟩⟩⟩ :=
    (Lexer.scan_eq_scanUpTo (Nat.le_refl _)).trans rfl
  obtain ⟨front, hslice, hfront⟩ := (lex_slice _ _).1 _ hwhole 0 _ rfl
  obtain ⟨stopped, hending, -, -, ⟨ready, hready, hlex⟩, -⟩ := (lex_slice _ _).2 _ hbroken
  cases hslice
  rw [hscan] at hending hlex
  cases hending
  cases hready
  exact ⟨hwhole, hfront, hbroken, hlex⟩

end ImpLexer
