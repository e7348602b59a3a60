import ImpLexer.Lexer.Scan
import ImpLexer.Proofs.Readers

/-!
# What a scan does to a text

A source is a row of pieces, each of them a lexeme with the blanks in front of
it, and a tail. `Piece.print` writes the row down and `Piece.place` says where
in it the lexemes are. Neither knows of lexers.

A row is `Legible` if its lexemes are in the grammar and none of them is joined
by what is written behind it. That is all it takes: a scan of a legible row
finds these pieces and goes on with the tail. Where the tail is a gap the scan
is complete, and where a fault stands in it the scan fails there. Since every
text is a legible row with a tail of one of the two sorts (`exists_pieces`),
this says what comes of scanning any text, in terms of the text alone. The
theorems about whole sources are proved from here, by induction on the pieces,
and do not look into `scan`.
-/

namespace ImpLexer

open Text

/-- Nothing but blanks. -/
def IsGap (t : Text) : Prop := ∀ c ∈ t, isBlank c

instance (t : Text) : Decidable (IsGap t) :=
  List.decidableBAll _ t

/-- A lexeme and the text in front of it. -/
structure Piece where
  gap : Text
  kind : Kind
  literal : Text
  deriving DecidableEq, Repr

namespace Piece

/-- The pieces in a row, in front of a tail. -/
def print : List Piece → Text → Text
  | [], tail => tail
  | piece :: pieces, tail => piece.gap ++ (piece.literal ++ print pieces tail)

/-- The tokens of the pieces, if `n` bytes of source stand in front of them. -/
def place (n : Nat) : List Piece → List Token
  | [] => []
  | piece :: pieces =>
      ⟨piece.kind, piece.literal, n + piece.gap.byteSize⟩ ::
        place (n + piece.gap.byteSize + piece.literal.byteSize) pieces

/-- Blanks and a lexeme. -/
structure Fits (policy : LeadingZeros) (piece : Piece) : Prop where
  gap : IsGap piece.gap
  literal : IsLexeme policy piece.kind piece.literal

/-- No literal is joined by what is printed behind it. -/
def Apart : List Piece → Text → Prop
  | [], _ => True
  | piece :: pieces, tail =>
      ¬piece.kind.Joins piece.literal (print pieces tail) ∧ Apart pieces tail

end Piece

open Piece

/-- The row can be read back. -/
structure Legible (policy : LeadingZeros) (pieces : List Piece) (tail : Text) : Prop where
  fits : ∀ piece ∈ pieces, piece.Fits policy
  apart : Apart pieces tail

/-- What may be left when no further lexeme can be read. -/
inductive Tail (policy : LeadingZeros) : Text → Prop where
  | blank {gap : Text} (hgap : IsGap gap) : Tail policy gap
  | stuck {gap consumed rest : Text} {fault : Fault} (hgap : IsGap gap)
      (hfault : Malformed policy fault consumed rest) :
      Tail policy (gap ++ (consumed ++ rest))

/-! ## Rows -/

namespace Piece

theorem print_append (ps qs : List Piece) (tail : Text) :
    print (ps ++ qs) tail = print ps (print qs tail) := by
  induction ps with
  | nil => rfl
  | cons p ps ih => rw [List.cons_append, print, print, ih]

theorem print_append_text (ps : List Piece) (tail t : Text) :
    print ps tail ++ t = print ps (tail ++ t) := by
  induction ps with
  | nil => rfl
  | cons p ps ih => rw [print, print, List.append_assoc, List.append_assoc, ih]

theorem print_eq_append (ps : List Piece) (tail : Text) :
    print ps tail = print ps [] ++ tail := by
  rw [print_append_text, List.nil_append]

/-- It depends on nothing but the text behind each literal whether a row is apart. -/
theorem Apart.imp_tail {pieces : List Piece} {tail tail' : Text} (hapart : Apart pieces tail)
    (himp : ∀ (kind : Kind) (literal : Text) (ps : List Piece),
      ¬kind.Joins literal (print ps tail) → ¬kind.Joins literal (print ps tail')) :
    Apart pieces tail' := by
  induction pieces with
  | nil => trivial
  | cons p ps ih => exact ⟨himp p.kind p.literal ps hapart.1, ih hapart.2⟩

theorem place_append (n : Nat) (ps qs : List Piece) :
    place n (ps ++ qs) = place n ps ++ place (n + (print ps []).byteSize) qs := by
  induction ps generalizing n with
  | nil => simp [place, print]
  | cons p ps ih =>
      rw [List.cons_append, place, place, print, ih, byteSize_append, byteSize_append,
        List.cons_append, Nat.add_assoc, Nat.add_assoc, Nat.add_assoc]

end Piece

section

variable {policy : LeadingZeros}

theorem legible_nil (tail : Text) : Legible policy [] tail where
  fits := by simp
  apart := trivial

theorem legible_cons_iff {piece : Piece} {pieces : List Piece} {tail : Text} :
    Legible policy (piece :: pieces) tail ↔
      (piece.Fits policy ∧ ¬piece.kind.Joins piece.literal (print pieces tail)) ∧
        Legible policy pieces tail := by
  constructor
  · intro h
    obtain ⟨hfit, hfits⟩ := List.forall_mem_cons.1 h.fits
    exact ⟨⟨hfit, h.apart.1⟩, ⟨hfits, h.apart.2⟩⟩
  · intro h
    exact ⟨List.forall_mem_cons.2 ⟨h.1.1, h.2.fits⟩, ⟨h.1.2, h.2.apart⟩⟩

theorem legible_append_iff {ps qs : List Piece} {tail : Text} :
    Legible policy (ps ++ qs) tail ↔
      Legible policy ps (print qs tail) ∧ Legible policy qs tail := by
  induction ps with
  | nil => simp [legible_nil]
  | cons p ps ih =>
      rw [List.cons_append, legible_cons_iff, legible_cons_iff, ih, print_append, and_assoc,
        and_assoc, and_assoc]

/-- Every text is a legible row. -/
theorem exists_pieces (policy : LeadingZeros) (text : Text) :
    ∃ pieces tail, text = print pieces tail ∧ Legible policy pieces tail ∧
      Tail policy tail := by
  have hgap : IsGap (text.takeWhile isBlank) := fun c hc => of_mem_takeWhile hc
  have hsplit : text.takeWhile isBlank ++ text.dropWhile isBlank = text :=
    List.takeWhile_append_dropWhile
  by_cases hne : text.dropWhile isBlank = []
  · rw [hne, List.append_nil] at hsplit
    rw [hsplit] at hgap
    exact ⟨[], text, rfl, legible_nil text, .blank hgap⟩
  · have hlawful := lawful_readLexeme policy hne (not_begins_dropWhile isBlank text)
    have htext := text_readLexeme policy (text.dropWhile isBlank)
    generalize readLexeme policy (text.dropWhile isBlank) = reading at hlawful htext
    cases hlawful with
    | @malformed fault consumed rest hfault =>
        refine ⟨[], text, rfl, legible_nil text, ?_⟩
        rw [← hsplit, ← htext]
        exact .stuck hgap hfault
    | @found kind literal next hlexeme hend =>
        have hshorter : next.length < text.length := by
          obtain ⟨c, w, rfl, -⟩ := hlexeme.exists_cons
          have hlength := congrArg List.length hsplit
          rw [← htext, Reading.text_found] at hlength
          simp only [List.length_append, List.length_cons] at hlength
          omega
        obtain ⟨pieces, tail, hnext, hlegible, htail⟩ := exists_pieces policy next
        refine ⟨⟨text.takeWhile isBlank, kind, literal⟩ :: pieces, tail, ?_, ?_, htail⟩
        · rw [Reading.text_found] at htext
          rw [print, ← hnext, htext, hsplit]
        · rw [hnext] at hend
          exact legible_cons_iff.2 ⟨⟨⟨hgap, hlexeme⟩, hend⟩, hlegible⟩
termination_by text.length

end

/-! ## Scanning a row -/

/-- The two scans have found the same tokens and have come to the same end, but for what
is known of the lexer that stopped. -/
structure Scan.Alike (scan other : Scan) : Prop where
  tokens_eq : scan.tokens = other.tokens
  result_eq : scan.result = other.result

namespace Scan.Alike

theorem refl (scan : Scan) : scan.Alike scan := ⟨rfl, rfl⟩

theorem trans {a b c : Scan} (hab : a.Alike b) (hbc : b.Alike c) : a.Alike c :=
  ⟨hab.tokens_eq.trans hbc.tokens_eq, hab.result_eq.trans hbc.result_eq⟩

theorem behind {scan other : Scan} (h : scan.Alike other) (front : List Token) :
    (scan.behind front).Alike (other.behind front) := by
  refine ⟨congrArg (front ++ ·) h.tokens_eq, ?_⟩
  rw [Scan.result_behind, Scan.result_behind, h.result_eq]

end Scan.Alike

namespace Position

theorem offset_after (p : Position) (t : Text) :
    (p.after t).offset = p.offset + t.byteSize := by
  induction t generalizing p with
  | nil => rfl
  | cons c t ih => rw [after_cons, ih, advance, byteSize_cons, Nat.add_assoc]

theorem offset_start_after (t : Text) : (start.after t).offset = t.byteSize := by
  rw [offset_after]
  exact Nat.zero_add _

end Position

namespace Lexer

section

variable {lexer : Lexer} {gap literal next consumed rest : Text}

theorem skipBlanks_of_isGap (hrest : lexer.rest = gap ++ rest) (hgap : IsGap gap)
    (hblank : ¬begins isBlank rest) : lexer.skipBlanks = lexer.move gap rest := by
  rw [skipBlanks, hrest, takeWhile_run hgap hblank, dropWhile_run hgap hblank]

theorem scan_of_isGap (hgap : IsGap lexer.rest) : lexer.scan = ⟨[], .complete⟩ := by
  have hskip := skipBlanks_of_isGap (List.append_nil _).symm hgap (by simp)
  exact scan_of_rest_eq_nil (by rw [hskip, rest_move])

/-- A scan begins with passing over the blanks and then reads on the spot, so it does not
matter how many blanks have been passed over before, nor where the last token began. -/
theorem scan_alike {other : Lexer} (hrest : lexer.skipBlanks.rest = other.skipBlanks.rest)
    (hread : lexer.skipBlanks.readToken = other.skipBlanks.readToken) :
    lexer.scan.Alike other.scan := by
  by_cases hne : lexer.skipBlanks.rest = []
  · have hne' : other.skipBlanks.rest = [] := by rw [← hrest, hne]
    rw [scan, scan]
    simp only
    rw [if_pos hne, if_pos hne']
    exact ⟨rfl, rfl⟩
  · have hne' : other.skipBlanks.rest ≠ [] := by rw [← hrest]; exact hne
    cases hresult : lexer.skipBlanks.readToken with
    | mk result next =>
        rw [hresult] at hread
        cases result with
        | ok token =>
            rw [scan_of_token hne hresult, scan_of_token hne' hread.symm]
            exact ⟨rfl, rfl⟩
        | error error =>
            rw [scan_of_error hne hresult, scan_of_error hne' hread.symm]
            exact ⟨rfl, rfl⟩

theorem move_move (lexer : Lexer) (s t r r' : Text) :
    (lexer.move s r).move t r' = lexer.move (s ++ t) r' := by
  simp only [move, Position.after_append]

theorem scan_alike_move (hrest : lexer.rest = gap ++ rest) (hgap : IsGap gap) :
    lexer.scan.Alike (lexer.move gap rest).scan := by
  have hskip : lexer.skipBlanks = (lexer.move gap rest).skipBlanks := by
    rw [skipBlanks, skipBlanks, rest_move, move_move, hrest,
      List.takeWhile_append_of_pos hgap, List.dropWhile_append_of_pos hgap]
  exact scan_alike (by rw [hskip]) (by rw [hskip])

theorem readToken_of_found (lexer : Lexer) {kind : Kind}
    (h : readLexeme lexer.config.leadingZeros lexer.rest = .found kind literal next) :
    lexer.readToken =
      (.ok ⟨kind, literal, lexer.position.offset⟩,
        ⟨lexer.config, lexer.position, lexer.position.after literal, next⟩) := by
  rw [readToken, h]
  rfl

theorem readToken_of_error (lexer : Lexer) {fault : Fault}
    (h : readLexeme lexer.config.leadingZeros lexer.rest = ⟨consumed, rest, .error fault⟩) :
    lexer.readToken =
      (.error ⟨fault.cause, lexer.position.after fault.before⟩,
        ⟨lexer.config, lexer.position, lexer.position.after consumed, rest⟩) := by
  rw [readToken, h]
  rfl

/-- A scan that has a gap and a lexeme in front of it finds the lexeme, and goes on
behind it. -/
theorem scan_of_isLexeme {kind : Kind} (hrest : lexer.rest = gap ++ (literal ++ next))
    (hgap : IsGap gap) (hlexeme : IsLexeme lexer.config.leadingZeros kind literal)
    (hend : ¬kind.Joins literal next) :
    ∃ lexer' : Lexer, lexer'.config = lexer.config ∧ lexer'.rest = next ∧
      lexer'.position = lexer.position.after (gap ++ literal) ∧
      lexer.scan =
        lexer'.scan.cons ⟨kind, literal, lexer.position.offset + gap.byteSize⟩ := by
  obtain ⟨c, t, hc, hblank⟩ := hlexeme.exists_cons
  have hskip := skipBlanks_of_isGap hrest hgap (by rw [hc]; exact hblank)
  have hne : lexer.skipBlanks.rest ≠ [] := by rw [hskip, rest_move, hc]; simp
  have hread := (lexer.move gap (literal ++ next)).readToken_of_found
    (readLexeme_of_isLexeme hlexeme hend)
  rw [← hskip] at hread
  refine ⟨⟨lexer.config, lexer.position.after gap,
    (lexer.position.after gap).after literal, next⟩, rfl, rfl,
    (Position.after_append _ _ _).symm, ?_⟩
  rw [scan_of_token hne hread, hskip, position_move, Position.offset_after]
  rfl

/-- A scan that has a gap and a fault in front of it fails, and blames what the fault
blames. -/
theorem scan_of_malformed {fault : Fault} (hrest : lexer.rest = gap ++ (consumed ++ rest))
    (hgap : IsGap gap)
    (hfault : Malformed lexer.config.leadingZeros fault consumed rest) :
    lexer.scan = ⟨[], .failed (lexer.move gap (consumed ++ rest))
      ⟨fault.cause, lexer.position.after (gap ++ fault.before)⟩⟩ := by
  obtain ⟨c, t, hc, hblank, -⟩ := hfault.exists_cons
  have hskip := skipBlanks_of_isGap hrest hgap (by rw [hc]; exact hblank)
  have hne : lexer.skipBlanks.rest ≠ [] := by rw [hskip, rest_move, hc]; simp
  have hread := (lexer.move gap (consumed ++ rest)).readToken_of_error
    (readLexeme_of_malformed hfault)
  rw [← hskip] at hread
  rw [scan_of_error hne hread, hskip, position_move, Position.after_append]

end

/-- The pieces of a legible row are found, one after the other, and the scan goes on
with the tail. -/
theorem scan_print {pieces : List Piece} {tail : Text} {lexer : Lexer}
    (hlegible : Legible lexer.config.leadingZeros pieces tail)
    (hrest : lexer.rest = print pieces tail) :
    ∃ lexer' : Lexer, lexer'.config = lexer.config ∧ lexer'.rest = tail ∧
      lexer'.position = lexer.position.after (print pieces []) ∧
      lexer.scan =
        ⟨place lexer.position.offset pieces ++ lexer'.scan.tokens, lexer'.scan.ending⟩ := by
  induction pieces generalizing lexer with
  | nil => exact ⟨lexer, rfl, hrest, rfl, rfl⟩
  | cons piece pieces ih =>
      obtain ⟨⟨hfit, hend⟩, hlegible'⟩ := legible_cons_iff.1 hlegible
      obtain ⟨next, hconfig, hnext, hposition, hscan⟩ :=
        scan_of_isLexeme hrest hfit.gap hfit.literal hend
      rw [← hconfig] at hlegible'
      obtain ⟨last, hconfig', htail, hposition', hscan'⟩ := ih hlegible' hnext
      refine ⟨last, hconfig'.trans hconfig, htail, ?_, ?_⟩
      · rw [hposition', hposition, ← Position.after_append, print, List.append_assoc]
      · rw [hscan, hscan', hposition, Position.offset_after, byteSize_append, place,
          ← Nat.add_assoc]
        rfl

/-- In a tail of blanks nothing more is found. -/
theorem scan_print_of_isGap (lexer : Lexer) {pieces : List Piece} {tail : Text}
    (hlegible : Legible lexer.config.leadingZeros pieces tail) (hgap : IsGap tail)
    (hrest : lexer.rest = print pieces tail) :
    lexer.scan = ⟨place lexer.position.offset pieces, .complete⟩ := by
  obtain ⟨last, -, htail, -, hscan⟩ := scan_print hlegible hrest
  rw [← htail] at hgap
  rw [hscan, scan_of_isGap hgap, List.append_nil]

/-- Neither is in a tail with a fault in it. The scan stops behind the blanks, where the
malformed lexeme begins. -/
theorem scan_print_of_malformed (lexer : Lexer) {pieces : List Piece}
    {gap consumed rest : Text} {fault : Fault}
    (hlegible : Legible lexer.config.leadingZeros pieces (gap ++ (consumed ++ rest)))
    (hgap : IsGap gap)
    (hfault : Malformed lexer.config.leadingZeros fault consumed rest)
    (hrest : lexer.rest = print pieces (gap ++ (consumed ++ rest))) :
    ∃ stopped : Lexer, stopped.config = lexer.config ∧ stopped.rest = consumed ++ rest ∧
      stopped.position = lexer.position.after (print pieces gap) ∧
      lexer.scan = ⟨place lexer.position.offset pieces, .failed stopped
        ⟨fault.cause, lexer.position.after (print pieces (gap ++ fault.before))⟩⟩ := by
  obtain ⟨last, hconfig, htail, hposition, hscan⟩ := scan_print hlegible hrest
  rw [← hconfig] at hfault
  refine ⟨last.move gap (consumed ++ rest), hconfig, rfl, ?_, ?_⟩
  · rw [position_move, hposition, ← Position.after_append, ← print_eq_append]
  · rw [hscan, scan_of_malformed htail hgap hfault, hposition, ← Position.after_append,
      ← print_eq_append, List.append_nil]

theorem scan_tokens_print (lexer : Lexer) {pieces : List Piece} {tail : Text}
    (hlegible : Legible lexer.config.leadingZeros pieces tail)
    (htail : Tail lexer.config.leadingZeros tail) (hrest : lexer.rest = print pieces tail) :
    lexer.scan.tokens = place lexer.position.offset pieces := by
  cases htail with
  | blank hgap => rw [lexer.scan_print_of_isGap hlegible hgap hrest]
  | stuck hgap hfault =>
      obtain ⟨stopped, -, -, -, hscan⟩ :=
        lexer.scan_print_of_malformed hlegible hgap hfault hrest
      rw [hscan]

theorem tokens_print_of_isGap (lexer : Lexer) {pieces : List Piece} {tail : Text}
    (hlegible : Legible lexer.config.leadingZeros pieces tail) (hgap : IsGap tail)
    (hrest : lexer.rest = print pieces tail) :
    lexer.tokens = .ok (place lexer.position.offset pieces) := by
  rw [tokens, lexer.scan_print_of_isGap hlegible hgap hrest]
  rfl

theorem tokens_print_of_malformed (lexer : Lexer) {pieces : List Piece}
    {gap consumed rest : Text} {fault : Fault}
    (hlegible : Legible lexer.config.leadingZeros pieces (gap ++ (consumed ++ rest)))
    (hgap : IsGap gap)
    (hfault : Malformed lexer.config.leadingZeros fault consumed rest)
    (hrest : lexer.rest = print pieces (gap ++ (consumed ++ rest))) :
    lexer.tokens =
      .error ⟨fault.cause, lexer.position.after (print pieces (gap ++ fault.before))⟩ := by
  obtain ⟨stopped, -, -, -, hscan⟩ := lexer.scan_print_of_malformed hlegible hgap hfault hrest
  rw [tokens, hscan]
  rfl

end Lexer

/-! ## Whole sources -/

theorem lex_print_of_isGap {config : Config} {pieces : List Piece} {tail : Text}
    (hlegible : Legible config.leadingZeros pieces tail) (hgap : IsGap tail) :
    lex config (print pieces tail) = .ok (place 0 pieces) :=
  (Lexer.ofText config _).tokens_print_of_isGap hlegible hgap rfl

theorem lex_print_of_malformed {config : Config} {pieces : List Piece}
    {gap consumed rest : Text} {fault : Fault}
    (hlegible : Legible config.leadingZeros pieces (gap ++ (consumed ++ rest)))
    (hgap : IsGap gap) (hfault : Malformed config.leadingZeros fault consumed rest) :
    lex config (print pieces (gap ++ (consumed ++ rest))) =
      .error ⟨fault.cause, Position.start.after (print pieces (gap ++ fault.before))⟩ :=
  (Lexer.ofText config _).tokens_print_of_malformed hlegible hgap hfault rfl

theorem exists_pieces_of_lex_eq_ok {config : Config} {source : Text} {tokens : List Token}
    (h : lex config source = .ok tokens) :
    ∃ pieces last, source = print pieces last ∧ Legible config.leadingZeros pieces last ∧
      IsGap last ∧ tokens = place 0 pieces := by
  obtain ⟨pieces, tail, rfl, hlegible, htail⟩ := exists_pieces config.leadingZeros source
  cases htail with
  | blank hgap =>
      rw [lex_print_of_isGap hlegible hgap] at h
      exact ⟨pieces, tail, rfl, hlegible, hgap, (Except.ok.inj h).symm⟩
  | stuck hgap hfault =>
      rw [lex_print_of_malformed hlegible hgap hfault] at h
      cases h

theorem exists_pieces_of_lex_eq_error {config : Config} {source : Text} {error : LexError}
    (h : lex config source = .error error) :
    ∃ pieces gap consumed rest fault,
      source = print pieces (gap ++ (consumed ++ rest)) ∧
      Legible config.leadingZeros pieces (gap ++ (consumed ++ rest)) ∧ IsGap gap ∧
      Malformed config.leadingZeros fault consumed rest ∧
      error = ⟨fault.cause, Position.start.after (print pieces (gap ++ fault.before))⟩ := by
  obtain ⟨pieces, tail, rfl, hlegible, htail⟩ := exists_pieces config.leadingZeros source
  cases htail with
  | blank hgap =>
      rw [lex_print_of_isGap hlegible hgap] at h
      cases h
  | stuck hgap hfault =>
      rw [lex_print_of_malformed hlegible hgap hfault] at h
      exact ⟨pieces, _, _, _, _, rfl, hlegible, hgap, hfault, (Except.error.inj h).symm⟩

/-- Whichever way a scan ends, the tokens that it has found are those of the row. -/
theorem exists_pieces_scan (lexer : Lexer) :
    ∃ pieces tail, lexer.rest = print pieces tail ∧
      Legible lexer.config.leadingZeros pieces tail ∧
      lexer.scan.tokens = place lexer.position.offset pieces := by
  obtain ⟨pieces, tail, hrest, hlegible, htail⟩ :=
    exists_pieces lexer.config.leadingZeros lexer.rest
  exact ⟨pieces, tail, hrest, hlegible, lexer.scan_tokens_print hlegible htail hrest⟩

end ImpLexer
