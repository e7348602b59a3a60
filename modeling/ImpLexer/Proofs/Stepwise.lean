import ImpLexer.Lexer.Script
import ImpLexer.Proofs.Pieces

/-!
# Token by token, or all at once

Whoever wants the tokens of a text one at a time may ask for them in any rhythm:
pass over blanks as often as he likes, ask for a token in the middle of a run of
blanks, or at the end of the text, or right behind the last token. It makes no
difference to what he gets. The tokens come in the order of the scan, none is
lost and none comes twice, and the first error that the text is to blame for is
the error of the scan.

The other errors are answers to untimely questions. They say where the lexer is,
and leave it there (`readToken_of_isUntimely`).

What carries the proof is what is still to come. A step either leaves the
outlook as it is, or takes the first token off it, or meets the error in which
it ends (`Advances`); a run is a number of such steps.
-/

namespace ImpLexer

open Text Piece

/-! ## What is learnt from the answers -/

/-- A token was asked for where none can be: at the end of the text, or in front of a
blank. -/
def Cause.IsUntimely (cause : Cause) : Prop :=
  cause = .unexpectedEndOfInput ∨ cause = .unexpectedWhitespace

instance (cause : Cause) : Decidable cause.IsUntimely :=
  inferInstanceAs (Decidable (cause = .unexpectedEndOfInput ∨ cause = .unexpectedWhitespace))

namespace Answer

/-- The token that was read. -/
def token? : Answer → Option Token
  | .token (.ok read) => some read
  | _ => none

/-- The error that the text is to blame for. -/
def fault? : Answer → Option LexError
  | .token (.error error) => if error.cause.IsUntimely then none else some error
  | _ => none

end Answer

def Step.answer? : Step → Option Answer
  | .acted answer _ => some answer
  | .finished _ => none

/-- Reading a token, or passing over blanks. -/
def Action.IsTokenwise (action : Action) : Prop := action = .readToken ∨ action = .skipBlanks

namespace Lexer

/-- The answers to a list of actions. -/
def answers (lexer : Lexer) (actions : List Action) : List Answer :=
  (lexer.follow (actions.map .act)).filterMap Step.answer?

/-- The tokens that a list of actions reads, one after the other. -/
def tokensRead (lexer : Lexer) (actions : List Action) : List Token :=
  (lexer.answers actions).filterMap Answer.token?

/-- The errors that a list of actions meets, but for the untimely ones. -/
def faultsMet (lexer : Lexer) (actions : List Action) : List LexError :=
  (lexer.answers actions).filterMap Answer.fault?

theorem answers_cons (lexer : Lexer) (action : Action) (actions : List Action) :
    lexer.answers (action :: actions) =
      (lexer.perform action).1 :: (lexer.perform action).2.answers actions := rfl

theorem tokensRead_cons (lexer : Lexer) (action : Action) (actions : List Action) :
    lexer.tokensRead (action :: actions) =
      (lexer.perform action).1.token?.toList ++
        (lexer.perform action).2.tokensRead actions := by
  rw [tokensRead, answers_cons]
  cases h : (lexer.perform action).1.token? with
  | none => exact List.filterMap_cons_none h
  | some token => exact List.filterMap_cons_some h

theorem faultsMet_cons (lexer : Lexer) (action : Action) (actions : List Action) :
    lexer.faultsMet (action :: actions) =
      (lexer.perform action).1.fault?.toList ++
        (lexer.perform action).2.faultsMet actions := by
  rw [faultsMet, answers_cons]
  cases h : (lexer.perform action).1.fault? with
  | none => exact List.filterMap_cons_none h
  | some error => exact List.filterMap_cons_some h

/-! ## One step -/

/-- What an action does to the tokens and the error that are still to come. -/
inductive Advances (lexer : Lexer) : Answer → Lexer → Prop where
  | idle {answer : Answer} {next : Lexer} (htoken : answer.token? = none)
      (hfault : answer.fault? = none) (halike : lexer.scan.Alike next.scan) :
      Advances lexer answer next
  | token {token : Token} {next : Lexer} (hscan : lexer.scan = next.scan.behind [token]) :
      Advances lexer (.token (.ok token)) next
  | fault {error : LexError} {next : Lexer} (hcause : ¬error.cause.IsUntimely)
      (hresult : lexer.tokens = .error error) : Advances lexer (.token (.error error)) next

end Lexer

theorem Malformed.not_isUntimely {policy : LeadingZeros} {fault : Fault}
    {consumed rest : Text} (h : Malformed policy fault consumed rest) :
    ¬fault.cause.IsUntimely := by
  cases h <;> simp [Cause.IsUntimely]

namespace Lexer

variable {lexer : Lexer}

/-- An untimely question says where the lexer is, and leaves it there. -/
theorem readToken_of_isUntimely (h : lexer.rest = [] ∨ begins isBlank lexer.rest) :
    ∃ cause, cause.IsUntimely ∧
      lexer.readToken =
        (.error ⟨cause, lexer.position⟩, { lexer with tokenStart := lexer.position }) := by
  have hread : ∃ cause, cause.IsUntimely ∧
      readLexeme lexer.config.leadingZeros lexer.rest = ⟨[], lexer.rest, .error ⟨cause, []⟩⟩ := by
    cases hrest : lexer.rest with
    | nil => exact ⟨.unexpectedEndOfInput, Or.inl rfl, rfl⟩
    | cons c t =>
        rw [hrest] at h
        have hc : isBlank c := h.resolve_left (List.cons_ne_nil c t)
        exact ⟨.unexpectedWhitespace, Or.inr rfl, readLexeme_of_isBlank hc t⟩
  obtain ⟨cause, hcause, hread⟩ := hread
  exact ⟨cause, hcause, lexer.readToken_of_error hread⟩

/-- Of any other error the text is to blame. -/
theorem readToken_of_not_isUntimely (hne : lexer.rest ≠ []) (hblank : ¬begins isBlank lexer.rest) :
    (∃ token next, lexer.readToken = (.ok token, next)) ∨
      ∃ error next, lexer.readToken = (.error error, next) ∧ ¬error.cause.IsUntimely := by
  have hlawful := lawful_readLexeme lexer.config.leadingZeros hne hblank
  generalize hreading : readLexeme lexer.config.leadingZeros lexer.rest = reading at hlawful
  cases hlawful with
  | found hlexeme hend => exact Or.inl ⟨_, _, lexer.readToken_of_found hreading⟩
  | malformed hfault =>
      exact Or.inr ⟨_, _, lexer.readToken_of_error hreading, hfault.not_isUntimely⟩

theorem advances_readToken (lexer : Lexer) :
    lexer.Advances (.token lexer.readToken.1) lexer.readToken.2 := by
  by_cases huntimely : lexer.rest = [] ∨ begins isBlank lexer.rest
  · obtain ⟨cause, hcause, hread⟩ := readToken_of_isUntimely huntimely
    rw [hread]
    exact .idle rfl (if_pos hcause) (scan_alike rfl rfl)
  · obtain ⟨hne, hblank⟩ := not_or.1 huntimely
    have hskip : lexer.skipBlanks = lexer :=
      skipBlanks_of_isGap (List.nil_append _).symm (by simp [IsGap]) hblank
    have hrest : lexer.skipBlanks.rest ≠ [] := by rw [hskip]; exact hne
    rcases readToken_of_not_isUntimely hne hblank with
      ⟨token, next, hread⟩ | ⟨error, next, hread, hcause⟩
    · rw [hread]
      exact .token (scan_of_token hrest (by rw [hskip]; exact hread))
    · rw [hread]
      refine .fault hcause ?_
      rw [tokens, scan_of_error hrest (by rw [hskip]; exact hread)]
      rfl

theorem advances_skipBlanks (lexer : Lexer) : lexer.Advances .nothing lexer.skipBlanks :=
  .idle rfl rfl (scan_alike_move List.takeWhile_append_dropWhile.symm
    fun _ hc => of_mem_takeWhile hc)

theorem advances_perform (lexer : Lexer) {action : Action} (h : action.IsTokenwise) :
    lexer.Advances (lexer.perform action).1 (lexer.perform action).2 := by
  rcases h with rfl | rfl
  · exact lexer.advances_readToken
  · exact lexer.advances_skipBlanks

/-! ## A run -/

/-- As long as no fault is met, what has been read and what is still to come are what was
to come. The first fault is the error that the tokens were to end in. -/
theorem outlook_of_isTokenwise {actions : List Action}
    (hactions : ∀ action ∈ actions, action.IsTokenwise) :
    (lexer.faultsMet actions = [] →
      lexer.scan.Alike ((lexer.performAll actions).scan.behind (lexer.tokensRead actions))) ∧
      ∀ error more, lexer.faultsMet actions = error :: more → lexer.tokens = .error error := by
  induction actions generalizing lexer with
  | nil =>
      refine ⟨fun _ => .refl lexer.scan, fun error more hmet => ?_⟩
      cases hmet
  | cons action actions ih =>
      obtain ⟨haction, hactions'⟩ := List.forall_mem_cons.1 hactions
      have hstep := lexer.advances_perform haction
      have hafter : lexer.performAll (action :: actions) =
          (lexer.perform action).2.performAll actions := rfl
      rw [faultsMet_cons, tokensRead_cons, hafter]
      generalize lexer.perform action = step at hstep
      obtain ⟨answer, next⟩ := step
      obtain ⟨hnone, hmet⟩ := @ih next hactions'
      cases hstep with
      | idle htoken hfault halike =>
          simp only [htoken, hfault, Option.toList_none, List.nil_append]
          refine ⟨fun hall => halike.trans (hnone hall), fun error more hall => ?_⟩
          exact halike.result_eq.trans (hmet error more hall)
      | @token token _ hscan =>
          rw [tokens, hscan, Scan.result_behind]
          refine ⟨fun hall => (hnone hall).behind [token], fun error more hall => ?_⟩
          exact congrArg (Except.map ([token] ++ ·)) (hmet error more hall)
      | @fault error _ hcause hresult =>
          have hfault : (Answer.token (.error error)).fault? = some error := if_neg hcause
          rw [hfault]
          refine ⟨fun hall => ?_, fun first more hall => ?_⟩
          · cases hall
          · rw [hresult, (List.cons.inj hall).1]

theorem tokens_eq_of_faultsMet_eq_nil {actions : List Action}
    (hactions : ∀ action ∈ actions, action.IsTokenwise) (hnone : lexer.faultsMet actions = []) :
    lexer.tokens = (lexer.performAll actions).tokens.map (lexer.tokensRead actions ++ ·) := by
  have halike := (outlook_of_isTokenwise hactions).1 hnone
  exact halike.result_eq.trans (Scan.result_behind _ _)

theorem of_readToken_isUntimely {error : LexError} (h : lexer.readToken.1 = .error error)
    (hcause : error.cause.IsUntimely) :
    error.position = lexer.position ∧ lexer.readToken.2.position = lexer.position ∧
      lexer.readToken.2.current = lexer.current := by
  by_cases huntimely : lexer.rest = [] ∨ begins isBlank lexer.rest
  · obtain ⟨cause, -, hread⟩ := readToken_of_isUntimely huntimely
    rw [hread] at h ⊢
    cases h
    exact ⟨rfl, rfl, rfl⟩
  · obtain ⟨hne, hblank⟩ := not_or.1 huntimely
    rcases readToken_of_not_isUntimely hne hblank with
      ⟨token, next, hread⟩ | ⟨other, next, hread, hother⟩
    · rw [hread] at h
      cases h
    · rw [hread] at h
      cases h
      exact absurd hcause hother

/-- However reading tokens and passing over blanks alternate: if the text has no error, no
fault is met, what was read is the beginning of its tokens, and what is left is the rest of
them. If it has an error, the first fault is this error, and before it the error is still to
come. An untimely question says where the lexer is, and leaves it there. -/
theorem tokensRead_interleaved (config : Config) (source : Text) {actions : List Action}
    (hactions : ∀ action ∈ actions, action.IsTokenwise) :
    (∀ tokens, lex config source = .ok tokens →
        (ofText config source).faultsMet actions = [] ∧
          ∃ left, tokens = (ofText config source).tokensRead actions ++ left ∧
            ((ofText config source).performAll actions).tokens = .ok left) ∧
      (∀ error, lex config source = .error error →
        (∀ first more, (ofText config source).faultsMet actions = first :: more →
            first = error) ∧
          ((ofText config source).faultsMet actions = [] →
            ((ofText config source).performAll actions).tokens = .error error ∧
              (ofText config source).tokensRead actions <+:
                (ofText config source).scan.tokens)) ∧
      ∀ (lexer : Lexer) (error : LexError), lexer.readToken.1 = .error error →
        error.cause.IsUntimely →
          error.position = lexer.position ∧ lexer.readToken.2.position = lexer.position ∧
            lexer.readToken.2.current = lexer.current := by
  obtain ⟨hnone, hmet⟩ := @outlook_of_isTokenwise (ofText config source) actions hactions
  refine ⟨fun tokens h => ?_, fun error h => ⟨fun first more hfirst => ?_, fun hall => ?_⟩,
    fun lexer error => of_readToken_isUntimely⟩
  · have hall : (ofText config source).faultsMet actions = [] := by
      cases hfaults : (ofText config source).faultsMet actions with
      | nil => rfl
      | cons error more =>
          have herror := h.symm.trans (hmet error more hfaults)
          cases herror
    have hresult := h.symm.trans (tokens_eq_of_faultsMet_eq_nil hactions hall)
    cases hleft : ((ofText config source).performAll actions).tokens with
    | ok left =>
        rw [hleft] at hresult
        exact ⟨hall, left, Except.ok.inj hresult, rfl⟩
    | error error =>
        rw [hleft] at hresult
        cases hresult
  · have herror := h.symm.trans (hmet first more hfirst)
    exact (Except.error.inj herror).symm
  · have hresult := h.symm.trans (tokens_eq_of_faultsMet_eq_nil hactions hall)
    refine ⟨?_, ⟨_, (hnone hall).tokens_eq.symm⟩⟩
    cases hleft : ((ofText config source).performAll actions).tokens with
    | ok left =>
        rw [hleft] at hresult
        cases hresult
    | error error =>
        rw [hleft] at hresult
        rw [Except.error.inj hresult]

/-- Three tokens, of which two stand side by side, and two untimely questions: one between
two blanks, the other at the end. All three are read, and none is left. -/
theorem tokensRead_number_point_name :
    lex ⟨.reject⟩ ['-', '1', '.', ' ', '\n', 'x'] =
        .ok [⟨.integer, ['-', '1'], 0⟩, ⟨.operator, ['.'], 2⟩, ⟨.identifier, ['x'], 5⟩] ∧
      (∀ action ∈ [Action.readToken, .readToken, .readToken, .skipBlanks, .readToken,
        .readToken], action.IsTokenwise) ∧
      (ofText ⟨.reject⟩ ['-', '1', '.', ' ', '\n', 'x']).faultsMet
        [.readToken, .readToken, .readToken, .skipBlanks, .readToken, .readToken] = [] ∧
      (ofText ⟨.reject⟩ ['-', '1', '.', ' ', '\n', 'x']).tokensRead
          [.readToken, .readToken, .readToken, .skipBlanks, .readToken, .readToken] =
        [⟨.integer, ['-', '1'], 0⟩, ⟨.operator, ['.'], 2⟩, ⟨.identifier, ['x'], 5⟩] ∧
      ((ofText ⟨.reject⟩ ['-', '1', '.', ' ', '\n', 'x']).performAll
        [.readToken, .readToken, .readToken, .skipBlanks, .readToken, .readToken]).tokens =
          .ok [] := by
  have hlex : lex ⟨.reject⟩ ['-', '1', '.', ' ', '\n', 'x'] =
      .ok [⟨.integer, ['-', '1'], 0⟩, ⟨.operator, ['.'], 2⟩, ⟨.identifier, ['x'], 5⟩] :=
    lex_eq_scanUpTo _ _
  have hactions : ∀ action ∈ [Action.readToken, .readToken, .readToken, .skipBlanks, .readToken,
      .readToken], action.IsTokenwise := by simp [Action.IsTokenwise]
  have hread : (ofText ⟨.reject⟩ ['-', '1', '.', ' ', '\n', 'x']).tokensRead
      [.readToken, .readToken, .readToken, .skipBlanks, .readToken, .readToken] =
        [⟨.integer, ['-', '1'], 0⟩, ⟨.operator, ['.'], 2⟩, ⟨.identifier, ['x'], 5⟩] := by
    decide +kernel
  obtain ⟨hnone, left, hall, hleft⟩ := (tokensRead_interleaved ⟨.reject⟩ _ hactions).1 _ hlex
  obtain rfl : left = [] := by
    rw [hread] at hall
    exact (List.append_right_eq_self.1 hall.symm)
  exact ⟨hlex, hactions, hnone, hread, hleft⟩

end Lexer

end ImpLexer
