import ImpLexer.Proofs.Restart

/-!
# A lexer knows where it is

What a lexer remembers of a source is the rest of it, the place in front of that
rest, and the place where the token begins that was last asked for. These three
have to agree, or a token would be cut out of the source at the wrong bytes, or
in the middle of a character. `Oriented` is what agreement comes to when it is
counted in bytes, and it holds wherever a lexer has got to: after any actions in
any order, also when a token could not be read and has left the lexer inside of
a literal.

What makes it hold is a statement about texts, in which no byte is counted. The
source is what stands in front of the token start, what was passed since, and
the rest (`Tracks`). All that an action can do is to take a piece off the front
of the rest, and perhaps to move the token start up to where the lexer stood.
-/

namespace ImpLexer

open Text

namespace Lexer

/-- The lexer agrees with the source about where it is. -/
structure Oriented (source : Text) (lexer : Lexer) : Prop where
  /-- It stands between two characters, behind the text that leads to its place. The
  current character and what is behind that are the text from there on. -/
  cut : ∃ passed, lexer.position = Position.start.after passed ∧
    splitAtByte? lexer.position.offset source =
      some (passed, lexer.current.toList ++ lexer.rest.tail)
  offset_le : lexer.position.offset ≤ source.byteSize
  current_eq_none_iff : lexer.current = none ↔ lexer.position.offset = source.byteSize
  cut_tokenStart : ∃ before behind, lexer.tokenStart = Position.start.after before ∧
    splitAtByte? lexer.tokenStart.offset source = some (before, behind)
  tokenStart_le : lexer.tokenStart.offset ≤ lexer.position.offset
  slice : ∃ t, slice? lexer.tokenStart.offset lexer.position.offset source = some t

/-! ## Three texts that are the source -/

/-- The source falls into what is in front of the token start, what was passed since, and
the rest. -/
def Tracks (source : Text) (lexer : Lexer) : Prop :=
  ∃ before begun, source = before ++ (begun ++ lexer.rest) ∧
    lexer.tokenStart = Position.start.after before ∧
    lexer.position = Position.start.after (before ++ begun)

theorem tracks_ofText (config : Config) (source : Text) :
    (ofText config source).Tracks source := ⟨[], [], rfl, rfl, rfl⟩

section

variable {source : Text} {lexer : Lexer}

theorem Tracks.perform (h : lexer.Tracks source) (action : Action) :
    (lexer.perform action).2.Tracks source := by
  obtain ⟨before, begun, hsource, hstart, hposition⟩ := h
  obtain ⟨passed, rest, tokenStart, hrest, hbegin, hmove⟩ := perform_eq_move lexer action
  have hplace : lexer.position.after passed =
      Position.start.after (before ++ begun ++ passed) := by
    rw [hposition, ← Position.after_append]
  rw [hmove]
  rcases hbegin with heq | heq
  · refine ⟨before, begun ++ passed, ?_, heq.trans hstart, ?_⟩
    · rw [hsource, hrest, List.append_assoc]
      rfl
    · rw [← List.append_assoc]
      exact hplace
  · refine ⟨before ++ begun, passed, ?_, heq.trans hposition, hplace⟩
    rw [hsource, hrest, List.append_assoc]
    rfl

theorem Tracks.performAll (h : lexer.Tracks source) (actions : List Action) :
    (lexer.performAll actions).Tracks source := by
  induction actions generalizing lexer with
  | nil => exact h
  | cons action actions ih => exact ih (h.perform action)

theorem current_toList_append_tail (lexer : Lexer) :
    lexer.current.toList ++ lexer.rest.tail = lexer.rest := by
  rw [current]
  cases lexer.rest <;> rfl

theorem current_eq_none : lexer.current = none ↔ lexer.rest = [] := by
  rw [current, List.head?_eq_none_iff]

theorem Tracks.oriented (h : lexer.Tracks source) : lexer.Oriented source := by
  obtain ⟨before, begun, hsource, hstart, hposition⟩ := h
  have hoffset : lexer.position.offset = byteSize before + byteSize begun := by
    rw [hposition, Position.offset_start_after, byteSize_append]
  have hstartOffset : lexer.tokenStart.offset = byteSize before := by
    rw [hstart, Position.offset_start_after]
  have hsize : byteSize source = lexer.position.offset + byteSize lexer.rest := by
    rw [hsource, byteSize_append, byteSize_append, hoffset, Nat.add_assoc]
  have hcut : splitAtByte? lexer.position.offset source =
      some (before ++ begun, lexer.current.toList ++ lexer.rest.tail) := by
    rw [current_toList_append_tail, hoffset, ← byteSize_append, hsource, ← List.append_assoc,
      splitAtByte?_append]
  have hcutStart : splitAtByte? lexer.tokenStart.offset source =
      some (before, begun ++ lexer.rest) := by
    rw [hstartOffset, hsource, splitAtByte?_append]
  have hslice : slice? lexer.tokenStart.offset lexer.position.offset source = some begun := by
    rw [hstartOffset, hoffset, hsource, slice?_append]
  have hend : lexer.rest = [] ↔ lexer.position.offset = byteSize source := by
    cases hrest : lexer.rest with
    | nil => simp [hsize, hrest]
    | cons c t =>
        have hpos := byteSize_pos_of_ne_nil (List.cons_ne_nil c t)
        rw [hrest] at hsize
        simp only [reduceCtorEq, false_iff]
        omega
  exact
    { cut := ⟨before ++ begun, hposition, hcut⟩
      offset_le := by omega
      current_eq_none_iff := current_eq_none.trans hend
      cut_tokenStart := ⟨before, _, hstart, hcutStart⟩
      tokenStart_le := by omega
      slice := ⟨begun, hslice⟩ }

/-! ## Moving on -/

theorem offset_le_perform (lexer : Lexer) (action : Action) :
    lexer.position.offset ≤ (lexer.perform action).2.position.offset := by
  obtain ⟨passed, rest, tokenStart, -, -, hmove⟩ := perform_eq_move lexer action
  have hoffset := Position.offset_after lexer.position passed
  rw [hmove]
  show lexer.position.offset ≤ (lexer.position.after passed).offset
  omega

theorem offset_le_performAll (lexer : Lexer) (actions : List Action) :
    lexer.position.offset ≤ (lexer.performAll actions).position.offset := by
  induction actions generalizing lexer with
  | nil => exact Nat.le_refl _
  | cons action actions ih =>
      exact Nat.le_trans (lexer.offset_le_perform action) (ih (lexer.perform action).2)

theorem perform_advance_of_current_eq_none (h : lexer.current = none) :
    lexer.perform .advance = (.character none, lexer) := by
  obtain ⟨config, tokenStart, position, rest⟩ := lexer
  obtain rfl : rest = [] := current_eq_none.1 h
  rfl

/-- A token is what the lexer passes over while it reads it. -/
theorem of_readToken_eq_ok {token : Token} {next : Lexer}
    (h : lexer.readToken = (.ok token, next)) :
    token.offset = lexer.position.offset ∧ token.literal ≠ [] ∧
      lexer.rest = token.literal ++ next.rest ∧
      next.position = lexer.position.after token.literal := by
  have htext := text_readLexeme lexer.config.leadingZeros lexer.rest
  have hne : ∀ kind, (readLexeme lexer.config.leadingZeros lexer.rest).outcome = .ok kind →
      (readLexeme lexer.config.leadingZeros lexer.rest).consumed ≠ [] :=
    fun _ => consumed_ne_nil_of_ok
  generalize hreading : readLexeme lexer.config.leadingZeros lexer.rest = reading at htext hne
  obtain ⟨consumed, rest, outcome⟩ := reading
  cases outcome with
  | ok kind =>
      rw [lexer.readToken_of_found hreading] at h
      cases h
      exact ⟨rfl, hne kind rfl, htext.symm, rfl⟩
  | error fault =>
      rw [lexer.readToken_of_error hreading] at h
      cases h

/-! ## Wherever it has got to -/

/-- After any actions the lexer knows where it is, and goes nowhere but forward. Looking
ahead leaves it as it is, and so does passing over a character at the end of the source. A
token that it reads is the text between the place where it was and the place where it is
then. -/
theorem oriented_performAll {config : Config} {actions : List Action}
    (hreached : (ofText config source).performAll actions = lexer) :
    lexer.Oriented source ∧
      (∀ more, lexer.position.offset ≤ (lexer.performAll more).position.offset) ∧
      (lexer.current = none → lexer.perform .advance = (.character none, lexer)) ∧
      (lexer.perform .peek).2 = lexer ∧ (lexer.perform .atNumber).2 = lexer ∧
      ∀ token next, lexer.perform .readToken = (.token (.ok token), next) →
        token.offset = lexer.position.offset ∧ token.literal ≠ [] ∧
          lexer.position.offset < next.position.offset ∧
          next.position.offset = token.stop ∧
          slice? lexer.position.offset next.position.offset source = some token.literal := by
  have htracks := (tracks_ofText config source).performAll actions
  rw [hreached] at htracks
  refine ⟨htracks.oriented, lexer.offset_le_performAll, perform_advance_of_current_eq_none, rfl,
    rfl, fun token next h => ?_⟩
  obtain ⟨hanswer, hnext⟩ := Prod.mk.inj h
  have hread : lexer.readToken = (.ok token, next) :=
    Prod.ext (Answer.token.inj hanswer) hnext
  obtain ⟨hoffset, hne, hrest, hposition⟩ := of_readToken_eq_ok hread
  obtain ⟨before, begun, hsource, -, hplace⟩ := htracks
  have hstop : next.position.offset = lexer.position.offset + byteSize token.literal := by
    rw [hposition, Position.offset_after]
  have hpos := byteSize_pos_of_ne_nil hne
  refine ⟨hoffset, hne, by omega, ?_, ?_⟩
  · rw [hstop, Token.stop, hoffset]
  · rw [hstop, hplace, Position.offset_start_after, hsource, hrest, ← List.append_assoc,
      slice?_append]

end

/-- A string that could not be read has left the lexer behind its backslash, from where it
reads a name. -/
theorem oriented_behind_backslash :
    (ofText ⟨.reject⟩ ['é', '"', '\\', 'q', '\n']).performAll [.readToken, .readToken] =
        ⟨⟨.reject⟩, ⟨2, 1, 2⟩, ⟨4, 1, 4⟩, ['q', '\n']⟩ ∧
      Oriented ['é', '"', '\\', 'q', '\n'] ⟨⟨.reject⟩, ⟨2, 1, 2⟩, ⟨4, 1, 4⟩, ['q', '\n']⟩ ∧
      slice? 4 5 ['é', '"', '\\', 'q', '\n'] = some ['q'] := by
  have hreached : (ofText ⟨.reject⟩ ['é', '"', '\\', 'q', '\n']).performAll
      [.readToken, .readToken] = ⟨⟨.reject⟩, ⟨2, 1, 2⟩, ⟨4, 1, 4⟩, ['q', '\n']⟩ := rfl
  obtain ⟨horiented, -, -, -, -, hread⟩ := oriented_performAll hreached
  obtain ⟨-, -, -, -, hslice⟩ := hread ⟨.identifier, ['q'], 4⟩
    ⟨⟨.reject⟩, ⟨4, 1, 4⟩, ⟨5, 1, 5⟩, ['\n']⟩ rfl
  exact ⟨hreached, horiented, hslice⟩

end Lexer

end ImpLexer
