import ImpLexer.Lexer.Script
import ImpLexer.Proofs.Carry
import ImpLexer.Proofs.Pieces
import ImpLexer.Proofs.Slice

/-!
# A lexer can be started anew at any place

A lexer remembers where the last token began, and a token that could not be read
leaves it in the middle of a literal. Neither has any influence on what comes
next: from wherever a lexer has got to, by whatever actions, it goes on like a
new lexer that is given the rest of the source, except that the new one counts
its places from there.

The two lexers are `Carried`: they have the same text in front of them, and the
place of the one is that of the other, seen from the base. Nothing is said of
the token starts, and every action keeps the relation. Since it never mentions
how the first lexer got to where it is, the history does not come in at all,
but for one fact about it, that what was passed over is the source up to the
place (`At`).
-/

namespace ImpLexer

open Text Piece

/-! ## What can be seen -/

/-- What an action or the request for the rest lets one see: the answer, and of the
lexer the place and the current character. -/
inductive View where
  | acted (answer : Answer) (position : Position) (current : Option Char)
  | finished (result : Except LexError (List Token))

def Step.view : Step → View
  | .acted answer lexer => .acted answer lexer.position lexer.current
  | .finished result => .finished result

def Answer.carry (base : Position) : Answer → Answer
  | .token result => .token (carryResult (Token.carry base) base result)
  | .nothing => .nothing
  | .character c => .character c
  | .truth b => .truth b

def View.carry (base : Position) : View → View
  | .acted answer position current =>
      .acted (answer.carry base) (base.carry position) current
  | .finished result => .finished (carryResult (List.map (Token.carry base)) base result)

namespace Lexer

/-! ## Where a lexer is -/

/-- The lexer has passed over a part of the source and has the rest in front of it. -/
structure At (config : Config) (source : Text) (lexer : Lexer) : Prop where
  config_eq : lexer.config = config
  exists_passed : ∃ passed, source = passed ++ lexer.rest ∧
    lexer.position = Position.start.after passed

theorem at_ofText (config : Config) (source : Text) :
    (ofText config source).At config source := ⟨rfl, [], rfl, rfl⟩

/-- All that an action does to a lexer is to move it, and perhaps to note that a token
begins on the spot. -/
theorem perform_eq_move (lexer : Lexer) (action : Action) :
    ∃ passed rest tokenStart, lexer.rest = passed ++ rest ∧
      (tokenStart = lexer.tokenStart ∨ tokenStart = lexer.position) ∧
      (lexer.perform action).2 = { lexer.move passed rest with tokenStart } := by
  cases action with
  | readToken =>
      have htext := text_readLexeme lexer.config.leadingZeros lexer.rest
      exact ⟨_, _, lexer.position, htext.symm, Or.inr rfl, rfl⟩
  | skipBlanks =>
      exact ⟨_, _, lexer.tokenStart, List.takeWhile_append_dropWhile.symm, Or.inl rfl, rfl⟩
  | advance =>
      exact ⟨_, _, lexer.tokenStart, (List.take_append_drop 1 _).symm, Or.inl rfl, rfl⟩
  | peek | atNumber => exact ⟨[], lexer.rest, lexer.tokenStart, rfl, Or.inl rfl, rfl⟩
  | accept c =>
      rw [perform, accept]
      split
      · exact ⟨_, _, lexer.tokenStart, (List.take_append_drop 1 _).symm, Or.inl rfl, rfl⟩
      · exact ⟨[], lexer.rest, lexer.tokenStart, rfl, Or.inl rfl, rfl⟩

theorem At.perform {config : Config} {source : Text} {lexer : Lexer}
    (h : lexer.At config source) (action : Action) :
    (lexer.perform action).2.At config source := by
  obtain ⟨hconfig, before, hsource, hposition⟩ := h
  obtain ⟨passed, rest, tokenStart, hrest, -, hmove⟩ := perform_eq_move lexer action
  rw [hmove]
  refine ⟨hconfig, before ++ passed, ?_, ?_⟩
  · rw [hsource, hrest, List.append_assoc]
    rfl
  · rw [Position.after_append, ← hposition]
    rfl

theorem At.performAll {config : Config} {source : Text} {lexer : Lexer}
    (h : lexer.At config source) (actions : List Action) :
    (lexer.performAll actions).At config source := by
  induction actions generalizing lexer with
  | nil => exact h
  | cons action actions ih => exact ih (h.perform action)

theorem at_of_performAll {config : Config} {source : Text} {actions : List Action}
    {lexer : Lexer} (h : (ofText config source).performAll actions = lexer) :
    lexer.At config source := by
  rw [← h]
  exact (at_ofText config source).performAll actions

theorem At.dropBytes?_eq {config : Config} {source : Text} {lexer : Lexer}
    (h : lexer.At config source) :
    dropBytes? lexer.position.offset source = some lexer.rest := by
  obtain ⟨-, passed, hsource, hposition⟩ := h
  rw [hposition, Position.offset_start_after, hsource, dropBytes?_append]

theorem exists_rest_of_current {lexer : Lexer} {c : Char} (h : lexer.current = some c) :
    ∃ behind, lexer.rest = c :: behind := by
  obtain ⟨behind, hrest⟩ := List.head?_eq_some_iff.1 h
  exact ⟨behind, hrest⟩

theorem At.dropBytes?_behind {config : Config} {source behind : Text} {lexer : Lexer}
    (h : lexer.At config source) {c : Char} (hrest : lexer.rest = c :: behind) :
    dropBytes? (lexer.position.offset + c.utf8Size) source = some behind := by
  obtain ⟨-, passed, hsource, hposition⟩ := h
  have hoffset : lexer.position.offset + c.utf8Size = byteSize (passed ++ [c]) := by
    rw [hposition, Position.offset_start_after, byteSize_append]
    rfl
  have hcut : source = passed ++ [c] ++ behind := by
    rw [hsource, hrest, List.append_assoc, List.singleton_append]
  rw [hoffset, hcut, dropBytes?_append]

/-! ## Two lexers in front of the same text -/

/-- The two lexers have the same text in front of them, and `base` carries the place
of the second to that of the first. -/
structure Carried (base : Position) (lexer other : Lexer) : Prop where
  config_eq : lexer.config = other.config
  rest_eq : lexer.rest = other.rest
  position_eq : lexer.position = base.carry other.position
  proper : other.position.Proper

variable {base : Position} {lexer other : Lexer}

theorem Carried.move (h : Carried base lexer other) (passed rest : Text) :
    Carried base (lexer.move passed rest) (other.move passed rest) where
  config_eq := h.config_eq
  rest_eq := rfl
  position_eq := by
    rw [position_move, position_move, h.position_eq, Position.carry_after base h.proper]
  proper := h.proper.after passed

theorem Carried.advance (h : Carried base lexer other) :
    Carried base lexer.advance other.advance := by
  rw [Lexer.advance, Lexer.advance, h.rest_eq]
  exact h.move _ _

theorem Carried.skipBlanks (h : Carried base lexer other) :
    Carried base lexer.skipBlanks other.skipBlanks := by
  rw [Lexer.skipBlanks, Lexer.skipBlanks, h.rest_eq]
  exact h.move _ _

theorem Carried.current_eq (h : Carried base lexer other) : lexer.current = other.current := by
  rw [current, current, h.rest_eq]

/-- A token is read on the spot, so where the last one began does not matter. -/
theorem Carried.readToken (h : Carried base lexer other) :
    lexer.readToken.1 = carryResult (Token.carry base) base other.readToken.1 ∧
      Carried base lexer.readToken.2 other.readToken.2 := by
  have hread : readLexeme lexer.config.leadingZeros lexer.rest =
      readLexeme other.config.leadingZeros other.rest := by rw [h.config_eq, h.rest_eq]
  generalize hr : readLexeme other.config.leadingZeros other.rest = reading at hread
  obtain ⟨consumed, rest, outcome⟩ := reading
  cases outcome with
  | ok kind =>
      rw [readToken_of_found lexer hread, readToken_of_found other hr]
      refine ⟨?_, h.config_eq, rfl, ?_, h.proper.after consumed⟩
      · simp only [carryResult, Token.carry, h.position_eq]
        rfl
      · simp only [h.position_eq, Position.carry_after base h.proper]
  | error fault =>
      rw [readToken_of_error lexer hread, readToken_of_error other hr]
      refine ⟨?_, h.config_eq, rfl, ?_, h.proper.after consumed⟩
      · simp only [carryResult, LexError.carry, h.position_eq,
          Position.carry_after base h.proper]
      · simp only [h.position_eq, Position.carry_after base h.proper]

theorem Carried.accept (h : Carried base lexer other) (c : Char) :
    (lexer.accept c).1 = (other.accept c).1 ∧
      Carried base (lexer.accept c).2 (other.accept c).2 := by
  rw [Lexer.accept, Lexer.accept, h.current_eq]
  split
  · exact ⟨rfl, h.advance⟩
  · exact ⟨rfl, h⟩

/-- Whatever is done with two such lexers, they answer alike, and remain alike. -/
theorem Carried.perform (h : Carried base lexer other) (action : Action) :
    (lexer.perform action).1 = (other.perform action).1.carry base ∧
      Carried base (lexer.perform action).2 (other.perform action).2 := by
  cases action with
  | readToken =>
      obtain ⟨hanswer, hnext⟩ := h.readToken
      exact ⟨congrArg Answer.token hanswer, hnext⟩
  | skipBlanks => exact ⟨rfl, h.skipBlanks⟩
  | advance => exact ⟨congrArg Answer.character h.advance.current_eq, h.advance⟩
  | peek =>
      refine ⟨congrArg Answer.character ?_, h⟩
      rw [peek, peek, h.rest_eq]
  | atNumber =>
      refine ⟨congrArg Answer.truth ?_, h⟩
      rw [atNumber, atNumber, h.rest_eq]
  | accept c =>
      obtain ⟨hanswer, hnext⟩ := h.accept c
      exact ⟨congrArg Answer.truth hanswer, hnext⟩

theorem map_carry_place (base : Position) (n : Nat) (pieces : List Piece) :
    (place n pieces).map (Token.carry base) = place (base.offset + n) pieces := by
  induction pieces generalizing n with
  | nil => rfl
  | cons p ps ih =>
      rw [place, place, List.map_cons, ih, ← Nat.add_assoc, ← Nat.add_assoc]
      simp only [Token.carry, Nat.add_assoc]

theorem Carried.tokens (h : Carried base lexer other) :
    lexer.tokens = carryResult (List.map (Token.carry base)) base other.tokens := by
  obtain ⟨pieces, tail, hrest, hlegible, htail⟩ :=
    exists_pieces other.config.leadingZeros other.rest
  have hoffset : lexer.position.offset = base.offset + other.position.offset := by
    rw [h.position_eq]
    rfl
  cases htail with
  | blank hgap =>
      rw [tokens_print_of_isGap other hlegible hgap hrest]
      rw [← h.config_eq] at hlegible
      rw [tokens_print_of_isGap lexer hlegible hgap (h.rest_eq.trans hrest), hoffset,
        carryResult, map_carry_place]
  | stuck hgap hfault =>
      rw [tokens_print_of_malformed other hlegible hgap hfault hrest]
      rw [← h.config_eq] at hlegible hfault
      rw [tokens_print_of_malformed lexer hlegible hgap hfault (h.rest_eq.trans hrest),
        h.position_eq, carryResult, LexError.carry, Position.carry_after base h.proper]

theorem Carried.follow (h : Carried base lexer other) (instructions : List Instruction) :
    (lexer.follow instructions).map Step.view =
      (other.follow instructions).map fun step => step.view.carry base := by
  induction instructions generalizing lexer other with
  | nil => rfl
  | cons instruction more ih =>
      cases instruction with
      | finish => exact congrArg (fun result => [View.finished result]) h.tokens
      | act action =>
          obtain ⟨hanswer, hnext⟩ := h.perform action
          have hview : View.acted (lexer.perform action).1 (lexer.perform action).2.position
              (lexer.perform action).2.current =
                (View.acted (other.perform action).1 (other.perform action).2.position
                  (other.perform action).2.current).carry base := by
            rw [View.carry, hanswer, hnext.position_eq, hnext.current_eq]
          exact List.cons_eq_cons.2 ⟨hview, ih hnext⟩

/-- From wherever a lexer has got to, it goes on like a new lexer for the rest of the
source, seen from there. -/
theorem follow_performAll (config : Config) (source : Text) (actions : List Action)
    (instructions : List Instruction) :
    ∃ suffix,
      dropBytes? ((ofText config source).performAll actions).position.offset source =
        some suffix ∧
      (((ofText config source).performAll actions).follow instructions).map Step.view =
        ((ofText config suffix).follow instructions).map fun step =>
          step.view.carry ((ofText config source).performAll actions).position := by
  have hat := (at_ofText config source).performAll actions
  generalize (ofText config source).performAll actions = reached at hat ⊢
  refine ⟨reached.rest, hat.dropBytes?_eq, Carried.follow ?_ instructions⟩
  exact ⟨hat.config_eq, rfl, (Position.carry_start _).symm, Position.proper_start⟩

end Lexer

end ImpLexer
