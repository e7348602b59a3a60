import ImpLexer.Command.Messages
import ImpLexer.Proofs.Pieces

/-!
# The style of line endings does not matter

A line may end with a line feed or with a carriage return and a line feed. A
source that is converted from the first style to the second keeps its tokens,
and if it has an error, keeps that, on the same line and in the same column. All
that changes is the count of bytes.

Two things come together. To the readers a carriage return is what a line feed
is: both are blanks, both end a line, and neither belongs to any lexeme or is
looked at behind one. So the row of pieces stays the same but for its gaps, and
a fault stays the same, since what is consumed in front of it holds no line
break. To positions the two are not alike, but a line feed makes the column in
front of it forgotten, and a converted line feed brings its carriage return just
there.
-/

namespace ImpLexer

open Text Piece

namespace Text

/-! ## Converting a text -/

/-- The text with a carriage return in front of every line feed. -/
def crlf (t : Text) : Text := t.flatMap fun c => if c = '\n' then ['\r', '\n'] else [c]

/-- How many line feeds are among the characters of a text that begin in front of
byte `n`. -/
def lineFeedsBefore : Nat → Text → Nat
  | _, [] => 0
  | n, c :: t =>
      if n = 0 then 0
      else (if c = '\n' then 1 else 0) + lineFeedsBefore (n - c.utf8Size) t

@[simp] theorem crlf_nil : crlf [] = [] := rfl

theorem crlf_cons (c : Char) (t : Text) :
    crlf (c :: t) = (if c = '\n' then ['\r', '\n'] else [c]) ++ crlf t := List.flatMap_cons

theorem crlf_append (s t : Text) : crlf (s ++ t) = crlf s ++ crlf t := List.flatMap_append

theorem crlf_cons_lineFeed (t : Text) : crlf ('\n' :: t) = '\r' :: '\n' :: crlf t := rfl

theorem crlf_cons_of_ne {c : Char} (hc : c ≠ '\n') (t : Text) : crlf (c :: t) = c :: crlf t := by
  rw [crlf_cons, if_neg hc]
  rfl

theorem crlf_eq_self {t : Text} (ht : ∀ c ∈ t, ¬isLineBreak c) : crlf t = t := by
  induction t with
  | nil => rfl
  | cons c t ih =>
      obtain ⟨hc, ht⟩ := List.forall_mem_cons.1 ht
      have hne : c ≠ '\n' := by
        rintro rfl
        exact hc (by decide)
      rw [crlf_cons_of_ne hne, ih ht]

theorem begins_crlf {p : Char → Bool} (hp : p '\r' = p '\n') (t : Text) :
    begins p (crlf t) = begins p t := by
  cases t with
  | nil => rfl
  | cons c t =>
      by_cases hc : c = '\n'
      · rw [hc, crlf_cons_lineFeed, begins_cons, begins_cons, hp]
      · rw [crlf_cons_of_ne hc, begins_cons, begins_cons]

theorem byteSize_crlf (t : Text) : (crlf t).byteSize = t.byteSize + t.count '\n' := by
  induction t with
  | nil => rfl
  | cons c t ih =>
      by_cases hc : c = '\n'
      · subst hc
        rw [crlf_cons_lineFeed, byteSize_cons, byteSize_cons, byteSize_cons, ih,
          List.count_cons_self, show '\r'.utf8Size = 1 by decide]
        omega
      · rw [crlf_cons_of_ne hc, byteSize_cons, byteSize_cons, ih, List.count_cons_of_ne hc,
          Nat.add_assoc]

theorem lineFeedsBefore_append (s t : Text) :
    lineFeedsBefore s.byteSize (s ++ t) = s.count '\n' := by
  induction s with
  | nil => cases t <;> rfl
  | cons c s ih =>
      have hpos := c.utf8Size_pos
      rw [byteSize_cons, List.cons_append, lineFeedsBefore, if_neg (by omega),
        Nat.add_sub_cancel_left, ih]
      by_cases hc : c = '\n'
      · rw [if_pos hc, hc, List.count_cons_self, Nat.add_comm]
      · rw [if_neg hc, List.count_cons_of_ne hc, Nat.zero_add]

end Text

/-! ## Converted places -/

namespace Position

/-- Where a text leads to on which line and in which column does not depend on its
bytes, nor on its carriage returns in front of line feeds. -/
theorem line_column_after_crlf {p q : Position} (hline : p.line = q.line)
    (hcolumn : p.column = q.column) (t : Text) :
    (p.after (crlf t)).line = (q.after t).line ∧
      (p.after (crlf t)).column = (q.after t).column := by
  induction t generalizing p q with
  | nil => exact ⟨hline, hcolumn⟩
  | cons c t ih =>
      by_cases hc : c = '\n'
      · subst hc
        rw [crlf_cons_lineFeed, after_cons, after_cons, after_cons]
        exact ih (congrArg (· + 1) hline) rfl
      · rw [crlf_cons_of_ne hc, after_cons, after_cons]
        refine ih ?_ ?_
        · simp only [advance, hc, if_false, hline]
        · simp only [advance, hc, if_false, hcolumn]

/-- The place in the converted source. -/
def crlf (source : Text) (p : Position) : Position :=
  { p with offset := p.offset + lineFeedsBefore p.offset source }

theorem start_after_crlf (s t : Text) :
    start.after s.crlf = (start.after s).crlf (s ++ t) := by
  obtain ⟨hline, hcolumn⟩ := @line_column_after_crlf start start rfl rfl s
  have hoffset : (start.after s.crlf).offset =
      (start.after s).offset + lineFeedsBefore (start.after s).offset (s ++ t) := by
    rw [offset_start_after, offset_start_after, byteSize_crlf, lineFeedsBefore_append]
  show Position.mk _ _ _ = Position.mk _ _ _
  rw [Position.mk.injEq]
  exact ⟨hoffset, hline, hcolumn⟩

end Position

/-! ## Converted rows

The readers cannot tell the two styles apart. -/

theorem startsFraction_crlf (t : Text) : startsFraction (crlf t) = startsFraction t := by
  cases t with
  | nil => rfl
  | cons c t =>
      by_cases hc : c = '\n'
      · subst hc
        rfl
      · rw [crlf_cons_of_ne hc, startsFraction, startsFraction, begins_crlf (by decide)]

theorem Kind.joins_crlf_iff {kind : Kind} {literal next : Text} :
    kind.Joins literal (crlf next) ↔ kind.Joins literal next := by
  have hbegins : ∀ p : Char → Bool, p '\r' = p '\n' → begins p (crlf next) = begins p next :=
    fun p hp => begins_crlf hp next
  match kind with
  | .identifier => rw [Kind.Joins, Kind.Joins, hbegins _ (by decide)]
  | .integer => rw [Kind.Joins, Kind.Joins, hbegins _ (by decide), startsFraction_crlf]
  | .decimal => rw [Kind.Joins, Kind.Joins, hbegins _ (by decide)]
  | .operator =>
      rw [Kind.Joins, Kind.Joins, hbegins isDigit (by decide), hbegins (· = '=') (by decide)]
  | .character | .string => exact Iff.rfl

theorem AtLineEnd.crlf {t : Text} (ht : AtLineEnd t) : AtLineEnd t.crlf := by
  rcases ht with rfl | hbegins
  · exact Or.inl rfl
  · exact Or.inr ((begins_crlf (by decide) t).trans hbegins)

theorem IsGap.crlf {t : Text} (ht : IsGap t) : IsGap t.crlf := by
  intro c hc
  obtain ⟨d, hd, hcd⟩ := List.mem_flatMap.1 hc
  split at hcd
  · rcases List.mem_cons.1 hcd with rfl | hcd
    · decide
    · rw [List.mem_singleton.1 hcd]
      decide
  · rw [List.mem_singleton.1 hcd]
    exact ht d hd

namespace Malformed

variable {policy : LeadingZeros} {fault : Fault} {consumed rest : Text}

theorem crlf (h : Malformed policy fault consumed rest) :
    Malformed policy fault consumed rest.crlf := by
  have hcons : ∀ {c : Char} (t : Text), ¬isLineBreak c →
      Text.crlf (c :: t) = c :: t.crlf := by
    intro c t hc
    refine crlf_cons_of_ne ?_ t
    rintro rfl
    exact hc (by decide)
  cases h with
  | unexpectedCharacter hc hblank =>
      rw [hcons _ fun h => hblank (isBlank_of_isLineBreak h)]
      exact .unexpectedCharacter hc hblank
  | leadingZero hpolicy hsign hdigit =>
      exact .leadingZero hpolicy hsign ((begins_crlf (by decide) rest).trans hdigit)
  | emptyCharacter =>
      rw [crlf_cons_of_ne (by decide)]
      exact .emptyCharacter
  | multipleCharacters hunit hquote hline =>
      rw [hcons _ hline]
      exact .multipleCharacters hunit hquote hline
  | controlCharacter hbody hcontrol hline =>
      rw [hcons _ hline]
      exact .controlCharacter hbody hcontrol hline
  | invalidEscape hopened hcode hline =>
      rw [hcons _ hline]
      exact .invalidEscape hopened hcode hline
  | unterminatedCharacter hinside hend => exact .unterminatedCharacter hinside hend.crlf
  | unterminatedString hbody hlast hend => exact .unterminatedString hbody hlast hend.crlf

end Malformed

/-- The piece in the converted source: no literal has a line feed in it. -/
def Piece.crlf (piece : Piece) : Piece := { piece with gap := piece.gap.crlf }

/-- The token in the converted source. -/
def Token.crlf (source : Text) (token : Token) : Token :=
  { token with offset := token.offset + lineFeedsBefore token.offset source }

section

variable {policy : LeadingZeros} {pieces : List Piece} {tail : Text}

theorem Piece.print_crlf (hfits : ∀ piece ∈ pieces, piece.Fits policy) (tail : Text) :
    print (pieces.map Piece.crlf) tail.crlf = (print pieces tail).crlf := by
  induction pieces with
  | nil => rfl
  | cons p ps ih =>
      obtain ⟨hfit, hfits⟩ := List.forall_mem_cons.1 hfits
      rw [List.map_cons, print, print, ih hfits, crlf_append, crlf_append,
        crlf_eq_self hfit.literal.not_isLineBreak]
      rfl

theorem Legible.crlf (hlegible : Legible policy pieces tail) :
    Legible policy (pieces.map Piece.crlf) tail.crlf := by
  induction pieces with
  | nil => exact legible_nil _
  | cons p ps ih =>
      obtain ⟨⟨hfit, hend⟩, hlegible⟩ := legible_cons_iff.1 hlegible
      refine legible_cons_iff.2 ⟨⟨⟨hfit.gap.crlf, hfit.literal⟩, ?_⟩, ih hlegible⟩
      rw [print_crlf hlegible.fits]
      exact fun hjoins => hend (Kind.joins_crlf_iff.1 hjoins)

theorem Piece.place_crlf (hfits : ∀ piece ∈ pieces, piece.Fits policy) (before tail : Text) :
    place before.crlf.byteSize (pieces.map Piece.crlf) =
      (place before.byteSize pieces).map (Token.crlf (before ++ print pieces tail)) := by
  induction pieces generalizing before with
  | nil => rfl
  | cons p ps ih =>
      obtain ⟨hfit, hfits⟩ := List.forall_mem_cons.1 hfits
      have hgap : before.crlf.byteSize + p.crlf.gap.byteSize =
          (Text.crlf (before ++ p.gap)).byteSize := by
        rw [crlf_append, byteSize_append]
        rfl
      have hliteral : before.crlf.byteSize + p.crlf.gap.byteSize + p.crlf.literal.byteSize =
          (Text.crlf (before ++ p.gap ++ p.literal)).byteSize := by
        rw [hgap, crlf_append (before ++ p.gap), crlf_eq_self hfit.literal.not_isLineBreak,
          byteSize_append]
        rfl
      have hsource : before ++ print (p :: ps) tail =
          before ++ p.gap ++ p.literal ++ print ps tail := by
        rw [print, List.append_assoc, List.append_assoc]
      rw [List.map_cons, place, place, List.map_cons, hliteral, ih hfits, hgap, byteSize_crlf,
        ← byteSize_append, ← byteSize_append, hsource, Token.crlf, List.append_assoc,
        lineFeedsBefore_append]
      rfl

end

/-- With carriage returns in front of its line feeds a source has the same tokens, or the
same error on the same line and in the same column. Offsets grow by the line feeds in front
of them. So a reader is told the same about the error. -/
theorem lex_crlf (config : Config) (source : Text) :
    (∀ tokens, lex config source = .ok tokens →
        lex config source.crlf = .ok (tokens.map fun token =>
          { token with offset := token.offset + lineFeedsBefore token.offset source })) ∧
      ∀ error, lex config source = .error error →
        ∃ error', lex config source.crlf = .error error' ∧ error'.cause = error.cause ∧
          error'.position.line = error.position.line ∧
          error'.position.column = error.position.column ∧
          error'.position.offset =
            error.position.offset + lineFeedsBefore error.position.offset source ∧
          ∀ path, (Failure.lex path error').message = (Failure.lex path error).message := by
  constructor
  · intro tokens h
    obtain ⟨pieces, last, rfl, hlegible, hlast, rfl⟩ := exists_pieces_of_lex_eq_ok h
    have hplace := place_crlf hlegible.fits [] last
    rw [← print_crlf hlegible.fits, lex_print_of_isGap hlegible.crlf hlast.crlf]
    exact congrArg Except.ok hplace
  · intro error h
    obtain ⟨pieces, gap, consumed, rest, fault, rfl, hlegible, hgap, hfault, rfl⟩ :=
      exists_pieces_of_lex_eq_error h
    obtain ⟨more, hmore⟩ := hfault.exists_eq_before_append
    have hconsumed : consumed.crlf = consumed := crlf_eq_self hfault.not_isLineBreak
    have hbefore : fault.before.crlf = fault.before :=
      crlf_eq_self fun c hc => hfault.not_isLineBreak c (by rw [hmore]; simp [hc])
    have htail : crlf (gap ++ (consumed ++ rest)) = gap.crlf ++ (consumed ++ rest.crlf) := by
      rw [crlf_append, crlf_append, hconsumed]
    have hlegible' := hlegible.crlf
    rw [htail] at hlegible'
    have hlex := lex_print_of_malformed hlegible' hgap.crlf hfault.crlf
    have hfront : print (pieces.map Piece.crlf) (gap.crlf ++ fault.before) =
        (print pieces (gap ++ fault.before)).crlf := by
      rw [← print_crlf hlegible.fits, crlf_append, hbefore]
    have hsource : print pieces (gap ++ (consumed ++ rest)) =
        print pieces (gap ++ fault.before) ++ (more ++ rest) := by
      rw [print_append_text, hmore, List.append_assoc, List.append_assoc]
    rw [← htail, print_crlf hlegible.fits, hfront,
      Position.start_after_crlf _ (more ++ rest), ← hsource] at hlex
    exact ⟨_, hlex, rfl, rfl, rfl, rfl, fun _ => rfl⟩

/-- A string is cut off behind a backslash at the end of the third line, where the
conversion writes a carriage return behind the backslash. -/
theorem lex_crlf_cut_string :
    lex ⟨.reject⟩ ['a', '\n', '\n', ' ', '"', 'é', '\\', '\n'] =
        .error ⟨.unterminatedString, ⟨4, 3, 2⟩⟩ ∧
      ∃ error, lex ⟨.reject⟩ (crlf ['a', '\n', '\n', ' ', '"', 'é', '\\', '\n']) =
          .error error ∧ error.cause = .unterminatedString ∧ error.position.line = 3 ∧
        error.position.column = 2 ∧ error.position.offset = 6 := by
  have h : lex ⟨.reject⟩ ['a', '\n', '\n', ' ', '"', 'é', '\\', '\n'] =
      .error ⟨.unterminatedString, ⟨4, 3, 2⟩⟩ := lex_eq_scanUpTo _ _
  obtain ⟨error, hlex, hcause, hline, hcolumn, hoffset, -⟩ := (lex_crlf ⟨.reject⟩ _).2 _ h
  exact ⟨h, error, hlex, hcause, hline, hcolumn, hoffset⟩

end ImpLexer
