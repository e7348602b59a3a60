import Mathlib.Logic.Function.Iterate
import ImpLexer.Lexer.Walk
import ImpLexer.Proofs.Restart
import ImpLexer.Proofs.Units

/-!
# Reading is walking

A reader takes a run in one go and a string literal by all the units there are.
Nothing is different from going over the same text by one character at a time:
a walk comes to the same kind, or to the same error on the same place, and it
leaves the lexer where the reader leaves it, in the middle of a literal too
(`readToken_eq_walkToken`). Blanks are passed over as a loop would
(`skipBlanks_eq_advanceWhile`), and whatever is done with a lexer moves it by
some number of single steps (`exists_iterate_advance`).

A walk is followed through the texts that it has behind it and in front of it. A
lexer that has moved over `s` since its token began, and has `t` in front of it,
is `lexer.move s t`; a look is a look at `t`, a step takes a character from `t`
to `s`, and a loop is an induction on `t`, or on the units that `t` begins with.
The place where the token began comes in only where a failure is blamed on it,
so the walks that cannot fail in this way do not ask for it.
-/

namespace ImpLexer

open Text

namespace Lexer

variable {lexer : Lexer} {t : Text} {c : Char}

/-! ## One step, and many -/

theorem move_nil (lexer : Lexer) : lexer.move [] lexer.rest = lexer := rfl

theorem current_move (lexer : Lexer) (s t : Text) : (lexer.move s t).current = t.head? := rfl

theorem peek_move (lexer : Lexer) (s : Text) (c : Char) (t : Text) :
    (lexer.move s (c :: t)).peek = t.head? := rfl

theorem advance_move (lexer : Lexer) (s : Text) (c : Char) (t : Text) :
    (lexer.move s (c :: t)).advance = lexer.move (s ++ [c]) t := by
  rw [advance, move_move]
  rfl

theorem accept_move (lexer : Lexer) (s : Text) (c : Char) (t : Text) :
    (lexer.move s (c :: t)).accept c = (true, lexer.move (s ++ [c]) t) := by
  rw [accept, current_move, List.head?_cons, if_pos rfl, advance_move]

theorem accept_of_current_ne (h : lexer.current ≠ some c) : lexer.accept c = (false, lexer) :=
  if_neg h

theorem iterate_advance_move (lexer : Lexer) (s passed rest : Text) :
    advance^[passed.length] (lexer.move s (passed ++ rest)) = lexer.move (s ++ passed) rest := by
  induction passed generalizing s with
  | nil => simp
  | cons c passed ih =>
      rw [List.length_cons, Function.iterate_succ_apply, List.cons_append, advance_move, ih,
        List.append_assoc, List.singleton_append]

/-- A lexer that advances again and again passes over the text in front of it. -/
theorem iterate_advance (lexer : Lexer) {passed rest : Text} (h : lexer.rest = passed ++ rest) :
    advance^[passed.length] lexer = lexer.move passed rest := by
  have hmove := lexer.iterate_advance_move [] passed rest
  rwa [← h, move_nil] at hmove

/-- Whatever is done with a lexer, it is left where some number of single steps would have
left it. -/
theorem exists_iterate_advance (lexer : Lexer) (action : Action) :
    ∃ n tokenStart, (lexer.perform action).2 = { advance^[n] lexer with tokenStart } := by
  obtain ⟨passed, rest, tokenStart, hrest, -, hmove⟩ := perform_eq_move lexer action
  refine ⟨passed.length, tokenStart, ?_⟩
  rw [hmove, lexer.iterate_advance hrest]

/-! ## Runs -/

theorem advanceWhile_move (p : Char → Bool) (lexer : Lexer) (s t : Text) :
    (lexer.move s t).advanceWhile p = lexer.move (s ++ t.takeWhile p) (t.dropWhile p) := by
  induction t generalizing s with
  | nil =>
      rw [advanceWhile_of_end p rfl]
      simp
  | cons c t ih =>
      rw [advanceWhile_of_current p (current_move lexer s (c :: t)), advance_move, ih]
      by_cases hc : p c
      · rw [if_pos hc, List.takeWhile_cons_of_pos hc, List.dropWhile_cons_of_pos hc,
          List.append_assoc, List.singleton_append]
      · rw [if_neg hc, List.takeWhile_cons_of_neg hc, List.dropWhile_cons_of_neg hc,
          List.append_nil]

theorem skipBlanks_eq_advanceWhile (lexer : Lexer) :
    lexer.skipBlanks = lexer.advanceWhile isBlank :=
  (lexer.advanceWhile_move isBlank [] lexer.rest).symm

/-! ## What a reading makes of a lexer -/

/-- What comes of a reading for the lexer that was in front of the text. -/
def walkOf (lexer : Lexer) (reading : Reading) : Except LexError Kind × Lexer :=
  (reading.outcome.mapError fun fault =>
      ⟨fault.cause, lexer.position.after fault.before⟩,
    lexer.move reading.consumed reading.rest)

theorem blameStart_move (hstart : lexer.tokenStart = lexer.position) (cause : Cause)
    (s t : Text) :
    (lexer.move s t).blameStart cause = lexer.walkOf (.failedAtStart cause s t) := by
  rw [blameStart, show (lexer.move s t).tokenStart = lexer.position from hstart]
  rfl

/-! ## Words, numbers and operators -/

theorem any_head? (p : Char → Bool) (t : Text) : t.head?.any p = begins p t := by
  cases t with
  | nil | cons => rfl

theorem walkIdentifier_move (lexer : Lexer) (t : Text) :
    (lexer.move [] t).walkIdentifier = lexer.walkOf (readIdentifier t) := by
  rw [walkIdentifier, advanceWhile_move]
  rfl

theorem walkFraction_move (lexer : Lexer) (s t : Text) :
    (lexer.move s t).walkFraction =
      (.ok (if (splitFraction t).1 = [] then .integer else .decimal),
        lexer.move (s ++ (splitFraction t).1) (splitFraction t).2) := by
  match t with
  | [] | [c] => simp [walkFraction, splitFraction, current, peek]
  | c :: d :: t =>
      rw [walkFraction, splitFraction, current_move, peek_move]
      simp only [List.head?_cons, Option.some.injEq, Option.any_some, Bool.and_eq_true,
        decide_eq_true_eq]
      split
      · next hpoint =>
          rw [advance_move, advanceWhile_move, List.takeWhile_cons_of_pos hpoint.2,
            List.dropWhile_cons_of_pos hpoint.2, List.append_assoc]
          rfl
      · rw [if_pos rfl, List.append_nil]

theorem walkDigits_move (lexer : Lexer) (sign body : Text) :
    ((lexer.move sign body).advanceWhile isDigit).walkFraction =
      lexer.walkOf (.found
        (if (splitFraction (body.dropWhile isDigit)).1 = [] then .integer else .decimal)
        (sign ++ body.takeWhile isDigit ++ (splitFraction (body.dropWhile isDigit)).1)
        (splitFraction (body.dropWhile isDigit)).2) := by
  rw [advanceWhile_move, walkFraction_move]
  rfl

theorem accept_minus_move (lexer : Lexer) (t : Text) :
    ((lexer.move [] t).accept '-').2 = lexer.move (splitSign t).1 (splitSign t).2 := by
  cases t with
  | nil => rfl
  | cons c t =>
      rw [splitSign]
      split
      · next hminus =>
          rw [hminus, accept_move]
          rfl
      · next hminus => rw [accept_of_current_ne (by simpa [current_move] using hminus)]

theorem not_startsRedundantly {body : Text} (h : body.head? ≠ some '0') :
    ¬startsRedundantly body := by
  cases body with
  | nil => exact Bool.false_ne_true
  | cons c more =>
      rw [startsRedundantly_cons_iff]
      rintro ⟨rfl, -⟩
      exact h rfl

theorem walkNumber_move (lexer : Lexer) (t : Text) :
    (lexer.move [] t).walkNumber =
      lexer.walkOf (readNumber lexer.config.leadingZeros t) := by
  have hconfig : (lexer.move [] t).config = lexer.config := rfl
  rw [walkNumber, readNumber, accept_minus_move, hconfig]
  generalize splitSign t = signed
  obtain ⟨sign, body⟩ := signed
  simp only
  by_cases hzero : body.head? = some '0'
  · obtain ⟨more, rfl⟩ := List.head?_eq_some_iff.1 hzero
    rw [accept_move]
    simp only [current_move, any_head?, startsRedundantly_cons_iff, true_and]
    by_cases hredundant : begins isDigit more ∧ lexer.config.leadingZeros = .reject
    · rw [if_pos hredundant, if_pos hredundant.symm]
      rfl
    · rw [if_neg hredundant, if_neg (mt And.symm hredundant), ← walkDigits_move]
      -- The zero has been passed already, but it is a digit like those behind it.
      rw [advanceWhile_of_current isDigit (current_move lexer sign ('0' :: more)),
        if_pos (by decide), advance_move]
  · rw [accept_of_current_ne (by rwa [current_move])]
    simp only [Bool.false_eq_true, false_and, if_false, not_startsRedundantly hzero, and_false]
    rw [walkDigits_move]

theorem walkOperator_move (hstart : lexer.tokenStart = lexer.position) (c : Char) (t : Text) :
    (lexer.move [] (c :: t)).walkOperator c = lexer.walkOf (readOperator c t) := by
  unfold walkOperator readOperator
  split
  · exact blameStart_move hstart _ _ _
  · split
    · exact blameStart_move hstart _ _ _
    · rw [advance_move]
      cases t with
      | nil =>
          rw [accept_of_current_ne (by simp [current_move])]
          simp only [ite_self]
          rfl
      | cons d rest =>
          by_cases hequals : d = '='
          · rw [hequals, accept_move]
            simp only [and_true]
            split
            · rfl
            · rfl
          · rw [accept_of_current_ne (by simpa [current_move] using hequals)]
            simp only [hequals, and_false, if_false, ite_self]
            rfl

/-! ## Quoted literals -/

section

variable {unterminated : Cause}

theorem walkEscape_of_isEscapeCode {d : Char} (hd : isEscapeCode d) (s t : Text) :
    (lexer.move s ('\\' :: d :: t)).walkEscape unterminated =
      (.ok (), lexer.move (s ++ ['\\', d]) t) := by
  rw [walkEscape, advance_move, current_move]
  simp only [List.head?_cons, hd, if_true, advance_move, List.append_assoc]
  rfl

theorem walkEscape_of_not_begins (hstart : lexer.tokenStart = lexer.position)
    (ht : ¬begins isEscapeCode t) (s : Text) :
    ∃ error behind,
      (lexer.move s ('\\' :: t)).walkEscape unterminated = (.error error, behind) ∧
        lexer.walkOf (readBadEscape unterminated s t) = (.error error, behind) := by
  rw [walkEscape, advance_move, current_move]
  cases t with
  | nil => exact ⟨_, _, rfl, (blameStart_move hstart _ _ _).symm⟩
  | cons d t =>
      rw [begins_cons] at ht
      simp only [List.head?_cons, readBadEscape]
      rw [if_neg ht]
      by_cases hbreak : isLineBreak d
      · rw [if_pos hbreak, if_pos hbreak]
        exact ⟨_, _, rfl, (blameStart_move hstart _ _ _).symm⟩
      · rw [if_neg hbreak, if_neg hbreak]
        exact ⟨_, _, rfl, rfl⟩

end

/-! ### Strings -/

theorem walkUnits_of_isUnit {u : Text} (hu : IsUnit isStringPlain u) (s t : Text) :
    (lexer.move s (u ++ t)).walkUnits = (lexer.move (s ++ u) t).walkUnits := by
  rcases hu with ⟨d, hd, rfl⟩ | ⟨c, hc, rfl⟩
  · rw [List.cons_append, List.singleton_append,
      walkUnits_of_current (current_move lexer s ('\\' :: d :: t)), if_neg (by decide),
      if_pos rfl, walkEscape_of_isEscapeCode hd]
  · have hbreak := not_isLineBreak_of_isStringPlain hc
    simp only [isStringPlain, Bool.and_eq_true, decide_eq_true_eq, Bool.not_eq_true',
      ne_eq] at hc
    obtain ⟨⟨hquote, hbackslash⟩, hcontrol⟩ := hc
    rw [List.singleton_append, walkUnits_of_current (current_move lexer s (c :: t)),
      if_neg hquote, if_neg hbackslash, if_neg hbreak, hcontrol, if_neg Bool.false_ne_true,
      advance_move]

/-- The loop passes over units one after the other. -/
theorem walkUnits_flatten {units : List Text} (hunits : ∀ u ∈ units, IsUnit isStringPlain u)
    (s t : Text) :
    (lexer.move s (units.flatten ++ t)).walkUnits =
      (lexer.move (s ++ units.flatten) t).walkUnits := by
  induction units generalizing s with
  | nil => simp
  | cons u units ih =>
      obtain ⟨hu, hunits'⟩ := List.forall_mem_cons.1 hunits
      rw [List.flatten_cons, List.append_assoc, walkUnits_of_isUnit hu, ih hunits',
        List.append_assoc]

/-- Behind the last unit, the loop and the reader ask the same questions. -/
theorem walkUnits_of_splitUnits (hstart : lexer.tokenStart = lexer.position) {units rest : Text}
    (hsplit : splitUnits isStringPlain t = (units, rest)) :
    (lexer.move ('"' :: units) rest).walkUnits = lexer.walkOf (readString t) := by
  have hstop := splitUnit?_splitUnits isStringPlain t
  rw [hsplit] at hstop
  rw [readString, hsplit]
  cases rest with
  | nil =>
      rw [walkUnits_of_end rfl]
      exact blameStart_move hstart _ _ _
  | cons c rest =>
      obtain ⟨hplain, hescape⟩ := splitUnit?_cons_eq_none_iff.1 hstop
      rw [walkUnits_of_current (current_move lexer _ (c :: rest))]
      dsimp only
      by_cases hquote : c = '"'
      · rw [if_pos hquote, if_pos hquote, advance_move, hquote]
        rfl
      · rw [if_neg hquote, if_neg hquote]
        by_cases hbackslash : c = '\\'
        · subst hbackslash
          obtain ⟨error, behind, hwalk, hread⟩ := walkEscape_of_not_begins hstart
            (fun h => hescape ⟨rfl, h⟩) ('"' :: units)
          rw [if_pos rfl, if_pos rfl, hread, hwalk]
        · rw [if_neg hbackslash, if_neg hbackslash]
          by_cases hbreak : isLineBreak c
          · rw [if_pos hbreak, if_pos hbreak]
            exact blameStart_move hstart _ _ _
          · have hcontrol : isControl c := by
              simpa [isStringPlain, hquote, hbackslash] using hplain
            rw [if_neg hbreak, if_neg hbreak, if_pos hcontrol]
            rfl

theorem walkString_move (hstart : lexer.tokenStart = lexer.position) (t : Text) :
    (lexer.move [] ('"' :: t)).walkString = lexer.walkOf (readString t) := by
  obtain ⟨units, hunits, hflat⟩ := exists_units isStringPlain t
  have happend := splitUnits_append isStringPlain t
  calc (lexer.move [] ('"' :: t)).walkString
    _ = (lexer.move ['"'] ((splitUnits isStringPlain t).1 ++
          (splitUnits isStringPlain t).2)).walkUnits := by
        rw [walkString, advance_move, happend]
        rfl
    _ = (lexer.move (['"'] ++ (splitUnits isStringPlain t).1)
          (splitUnits isStringPlain t).2).walkUnits := by
        rw [hflat, walkUnits_flatten hunits]
    _ = lexer.walkOf (readString t) := walkUnits_of_splitUnits hstart rfl

/-! ### Characters -/

theorem walkUnit_of_isUnit {u : Text} (hu : IsUnit isCharacterPlain u) (s t : Text) :
    (lexer.move s (u ++ t)).walkUnit = (.ok (), lexer.move (s ++ u) t) := by
  rcases hu with ⟨d, hd, rfl⟩ | ⟨c, hc, rfl⟩
  · exact walkEscape_of_isEscapeCode hd s t
  · simp only [isCharacterPlain, Bool.and_eq_true, decide_eq_true_eq, Bool.not_eq_true',
      ne_eq] at hc
    obtain ⟨⟨hquote, hbackslash⟩, hbreak⟩ := hc
    rw [walkUnit, current_move]
    simp only [List.singleton_append, List.head?_cons, hquote, hbackslash, hbreak, if_false,
      Bool.false_eq_true, advance_move]

/-- Behind one unit, the walk and the reader ask for the closing mark. -/
theorem walkCharacter_of_unit (hstart : lexer.tokenStart = lexer.position) {unit rest : Text}
    (hsplit : splitUnit? isCharacterPlain t = some (unit, rest)) :
    (lexer.move [] ('\'' :: t)).walkCharacter = lexer.walkOf (readCharacter t) := by
  have hunit := isUnit_of_splitUnit? hsplit
  have hclosing : (lexer.move [] ('\'' :: t)).walkCharacter =
      (lexer.move ('\'' :: unit) rest).walkClosing := by
    rw [walkCharacter, advance_move, ← splitUnit?_append hsplit, walkUnit_of_isUnit hunit]
    rfl
  rw [hclosing, walkClosing, current_move]
  unfold readCharacter
  rw [hsplit]
  cases rest with
  | nil => exact blameStart_move hstart _ _ _
  | cons c rest =>
      simp only [List.head?_cons]
      split
      · next hquote =>
          rw [advance_move, hquote]
          rfl
      · split
        · exact blameStart_move hstart _ _ _
        · rfl

/-- Where there is no unit, both stop in front of what is there instead. -/
theorem walkCharacter_of_no_unit (hstart : lexer.tokenStart = lexer.position)
    (hsplit : splitUnit? isCharacterPlain t = none) :
    (lexer.move [] ('\'' :: t)).walkCharacter = lexer.walkOf (readCharacter t) := by
  rw [walkCharacter, advance_move, walkUnit, current_move]
  unfold readCharacter
  rw [hsplit]
  cases t with
  | nil => exact blameStart_move hstart _ _ _
  | cons c rest =>
      obtain ⟨hplain, hescape⟩ := splitUnit?_cons_eq_none_iff.1 hsplit
      simp only [List.head?_cons]
      by_cases hquote : c = '\''
      · rw [if_pos hquote, if_pos hquote]
        exact blameStart_move hstart _ _ _
      · rw [if_neg hquote, if_neg hquote]
        by_cases hbackslash : c = '\\'
        · subst hbackslash
          obtain ⟨error, behind, hwalk, hread⟩ := walkEscape_of_not_begins hstart
            (fun h => hescape ⟨rfl, h⟩) ['\'']
          rw [if_pos rfl, if_pos rfl, hread, List.nil_append, hwalk]
        · have hbreak : isLineBreak c := by
            simpa [isCharacterPlain, hquote, hbackslash] using hplain
          rw [if_neg hbackslash, if_neg hbackslash, if_pos hbreak]
          exact blameStart_move hstart _ _ _

theorem walkCharacter_move (hstart : lexer.tokenStart = lexer.position) (t : Text) :
    (lexer.move [] ('\'' :: t)).walkCharacter = lexer.walkOf (readCharacter t) := by
  cases hsplit : splitUnit? isCharacterPlain t with
  | some found => exact walkCharacter_of_unit hstart hsplit
  | none => exact walkCharacter_of_no_unit hstart hsplit

/-! ## Tokens -/

/-- The lexer looks for a number as the reader does. -/
theorem startsNumber_eq (lexer : Lexer) (s : Text) (c : Char) (t : Text) :
    (isDigit c || c = '-' && (lexer.move s (c :: t)).peek.any isDigit) = startsNumber (c :: t) := by
  rw [peek_move, any_head?, Bool.eq_iff_iff, startsNumber_cons_iff]
  simp

theorem walkLexeme_move (hstart : lexer.tokenStart = lexer.position) (t : Text) :
    (lexer.move [] t).walkLexeme =
      lexer.walkOf (readLexeme lexer.config.leadingZeros t) := by
  rw [walkLexeme, current_move]
  cases t with
  | nil => exact blameStart_move hstart _ _ _
  | cons c t =>
      simp only [List.head?_cons, readLexeme, startsNumber_eq]
      split
      · exact walkIdentifier_move lexer _
      · split
        · exact walkNumber_move lexer _
        · split
          · next hquote =>
              rw [hquote]
              exact walkCharacter_move hstart t
          · split
            · next hquote =>
                rw [hquote]
                exact walkString_move hstart t
            · exact walkOperator_move hstart c t

/-- Reading a token is a walk: it comes to the same kind, or to the same error, and it leaves
the lexer in the same place. What the token holds is what was walked over. -/
theorem readToken_eq_walkToken (lexer : Lexer) :
    (lexer.readToken.1.map Token.kind, lexer.readToken.2) = lexer.walkToken ∧
      ∀ token, lexer.readToken.1 = .ok token →
        token.offset = lexer.position.offset ∧
          lexer.rest = token.literal ++ lexer.walkToken.2.rest := by
  have hwalk : lexer.walkToken = walkOf { lexer with tokenStart := lexer.position }
      (readLexeme lexer.config.leadingZeros lexer.rest) :=
    @walkLexeme_move { lexer with tokenStart := lexer.position } rfl lexer.rest
  have htext := text_readLexeme lexer.config.leadingZeros lexer.rest
  generalize hreading : readLexeme lexer.config.leadingZeros lexer.rest = reading at hwalk htext
  obtain ⟨consumed, rest, outcome⟩ := reading
  rw [hwalk]
  cases outcome with
  | ok kind =>
      rw [lexer.readToken_of_found hreading]
      refine ⟨rfl, fun token h => ?_⟩
      cases h
      exact ⟨rfl, htext.symm⟩
  | error fault =>
      rw [lexer.readToken_of_error hreading]
      refine ⟨rfl, fun token h => ?_⟩
      cases h

end Lexer

end ImpLexer
