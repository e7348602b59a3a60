import ImpLexer.Proofs.Restart

/-!
# What stands behind the body decides

A string literal that has been opened may go wrong in several ways, and the text
behind the quotation mark tells which: it begins with a body, the longest there
is, and what stands behind that is the end of the literal or the reason why it
has none. Quotation marks and backslashes in the body have no say in it, however
many there are, because the body has taken each of them into a unit.

`BodyEnd` lists what can stand there. Two things make the list a classification.
Behind the longest body no unit begins, so there is nothing else that could
(`exists_bodyEnd`). And each entry leads to an outcome of its own, so no two of
them are ever there at once.
-/

namespace ImpLexer

open Text

/-- What stands behind the body of a string literal. -/
inductive BodyEnd where
  /-- The quotation mark that closes the literal. -/
  | mark
  /-- The end of the line, or a backslash that is the last thing on it. -/
  | lineEnd
  /-- A backslash and a character that it should not stand in front of. -/
  | badEscape (code : Char)
  /-- A control character that does not end the line. -/
  | controlCharacter (c : Char)
  deriving DecidableEq, Repr

namespace BodyEnd

def Begins : BodyEnd → Text → Prop
  | mark, t => ∃ r, t = '"' :: r
  | lineEnd, t => AtLineEnd t ∨ ∃ r, t = '\\' :: r ∧ AtLineEnd r
  | badEscape code, t => ¬isLineBreak code ∧ ∃ r, t = '\\' :: code :: r
  | controlCharacter c, t => isControl c ∧ ¬isLineBreak c ∧ ∃ r, t = c :: r

/-- What becomes of the literal with the given body that is opened at `place`. -/
def result (place : Position) (body : Text) : BodyEnd → Except LexError Token
  | mark => .ok ⟨.string, '"' :: body ++ ['"'], place.offset⟩
  | lineEnd => .error ⟨.unterminatedString, place⟩
  | badEscape code => .error ⟨.invalidEscape code, place.after ('"' :: body)⟩
  | controlCharacter c => .error ⟨.controlCharacter c, place.after ('"' :: body)⟩

theorem eq_of_result_eq {place : Position} {body : Text} {stop other : BodyEnd}
    (h : stop.result place body = other.result place body) : stop = other := by
  cases stop <;> cases other <;> simp_all [result]

end BodyEnd

/-- Behind all the units there are, something stands that ends the body. -/
theorem exists_bodyEnd {behind : Text} (hnone : splitUnit? isStringPlain behind = none) :
    ∃ stop : BodyEnd, stop.Begins behind := by
  by_cases hend : AtLineEnd behind
  · exact ⟨.lineEnd, Or.inl hend⟩
  · obtain ⟨c, r, rfl, hline⟩ := exists_cons_of_not_atLineEnd hend
    by_cases hquote : c = '"'
    · exact ⟨.mark, r, by rw [hquote]⟩
    · by_cases hback : c = '\\'
      · subst hback
        by_cases hlast : AtLineEnd r
        · exact ⟨.lineEnd, Or.inr ⟨r, rfl, hlast⟩⟩
        · obtain ⟨code, r, rfl, hcode⟩ := exists_cons_of_not_atLineEnd hlast
          exact ⟨.badEscape code, hcode, r, rfl⟩
      · have hplain := (splitUnit?_cons_eq_none_iff.1 hnone).1
        have hcontrol : isControl c := by simpa [isStringPlain, hquote, hback] using hplain
        exact ⟨.controlCharacter c, hcontrol, hline, r, rfl⟩

namespace Lexer

variable {lexer : Lexer} {body behind : Text}

theorem readToken_closed (hrest : lexer.rest = '"' :: (body ++ '"' :: behind))
    (hbody : IsStringBody body) :
    lexer.readToken =
      (.ok ⟨.string, '"' :: body ++ ['"'], lexer.position.offset⟩,
        ⟨lexer.config, lexer.position, lexer.position.after ('"' :: body ++ ['"']), behind⟩) := by
  refine lexer.readToken_of_found ?_
  rw [hrest, readLexeme_quotationMark, readString_append hbody]

/-- Each way to end the body has its own outcome. -/
theorem readToken_of_begins (hrest : lexer.rest = '"' :: (body ++ behind))
    (hbody : IsStringBody body) (hnone : splitUnit? isStringPlain behind = none)
    {stop : BodyEnd} (hstop : stop.Begins behind) :
    lexer.readToken.1 = stop.result lexer.position body := by
  have hread : readLexeme lexer.config.leadingZeros lexer.rest = readString (body ++ behind) := by
    rw [hrest, readLexeme_quotationMark]
  have hescape : ∀ {r}, behind = '\\' :: r → ¬begins isEscapeCode r := by
    rintro r rfl hcode
    exact (splitUnit?_cons_eq_none_iff.1 hnone).2 ⟨rfl, hcode⟩
  cases stop with
  | mark =>
      obtain ⟨r, rfl⟩ := hstop
      rw [readToken_closed hrest hbody]
      rfl
  | lineEnd =>
      rcases hstop with hend | ⟨r, rfl, hend⟩
      · rw [readString_atLineEnd hbody hend] at hread
        rw [lexer.readToken_of_error hread]
        rfl
      · rw [readString_backslash hbody (hescape rfl), readBadEscape_atLineEnd hend] at hread
        rw [lexer.readToken_of_error hread]
        rfl
  | badEscape code =>
      obtain ⟨hline, r, rfl⟩ := hstop
      rw [readString_backslash hbody (hescape rfl), readBadEscape_invalid hline] at hread
      rw [lexer.readToken_of_error hread]
      rfl
  | controlCharacter c =>
      obtain ⟨hcontrol, hline, r, rfl⟩ := hstop
      rw [readString_controlCharacter hbody hcontrol hline] at hread
      rw [lexer.readToken_of_error hread]
      rfl

/-- In front of a quotation mark, wherever that is in the source, the longest body behind it
and what stands behind the body decide what comes of asking for a token: there is exactly one
way for the body to end, and each way has its own outcome. A literal that is closed is passed
over as a whole. -/
theorem readToken_string {config : Config} {source : Text} {actions : List Action}
    (hreached : (ofText config source).performAll actions = lexer)
    (hquote : lexer.current = some '"') :
    ∃ body behind,
      dropBytes? (lexer.position.offset + 1) source = some (body ++ behind) ∧
        IsStringBody body ∧ (∀ b, b <+: body ++ behind → IsStringBody b → b <+: body) ∧
        (∃ stop : BodyEnd, stop.Begins behind ∧ ∀ other, other.Begins behind → other = stop) ∧
        (∀ stop : BodyEnd,
          lexer.readToken.1 = stop.result lexer.position body ↔ stop.Begins behind) ∧
        ∀ rest, behind = '"' :: rest →
          lexer.readToken.2.position = lexer.position.after ('"' :: body ++ ['"']) ∧
            lexer.readToken.2.rest = rest := by
  have hat := at_of_performAll hreached
  obtain ⟨t, hrest⟩ := exists_rest_of_current hquote
  have hsplit := splitUnits_append isStringPlain t
  have hbody := isStringBody_splitUnits t
  have hnone := splitUnit?_splitUnits isStringPlain t
  have hlongest := fun b => @IsStringBody.isPrefix_splitUnits b t
  generalize (splitUnits isStringPlain t).1 = body at hsplit hbody hlongest
  generalize (splitUnits isStringPlain t).2 = behind at hsplit hnone
  subst hsplit
  have hdrop : dropBytes? (lexer.position.offset + 1) source = some (body ++ behind) :=
    hat.dropBytes?_behind hrest
  have hresult := fun {stop} => @readToken_of_begins lexer body behind hrest hbody hnone stop
  obtain ⟨stop, hstop⟩ := exists_bodyEnd hnone
  have hunique : ∀ other : BodyEnd,
      lexer.readToken.1 = other.result lexer.position body → other = stop := by
    intro other hother
    rw [hresult hstop] at hother
    exact (BodyEnd.eq_of_result_eq hother).symm
  refine ⟨body, behind, hdrop, hbody, fun b hb hunits => hlongest b hunits hb,
    ⟨stop, hstop, fun other hother => hunique other (hresult hother)⟩,
    fun other => ⟨fun hother => ?_, hresult⟩, ?_⟩
  · rw [hunique other hother]
    exact hstop
  · rintro rest rfl
    rw [readToken_closed hrest hbody]
    exact ⟨rfl, rfl⟩

/-- An escaped quotation mark, an escaped backslash, and a backslash that escapes nothing. -/
theorem readToken_string_backslashes :
    (ofText ⟨.reject⟩ ['é', '"', '\\', '"', '\\', '\\', '\\', 'q', '"']).performAll
        [.readToken] =
          ⟨⟨.reject⟩, ⟨0, 1, 1⟩, ⟨2, 1, 2⟩, ['"', '\\', '"', '\\', '\\', '\\', 'q', '"']⟩ ∧
      ∃ body r, dropBytes? 3 ['é', '"', '\\', '"', '\\', '\\', '\\', 'q', '"'] =
          some (body ++ '\\' :: 'q' :: r) ∧
        IsStringBody body ∧ Position.after ⟨2, 1, 2⟩ ('"' :: body) = ⟨7, 1, 7⟩ := by
  have hreached : (ofText ⟨.reject⟩
      ['é', '"', '\\', '"', '\\', '\\', '\\', 'q', '"']).performAll [.readToken] =
        ⟨⟨.reject⟩, ⟨0, 1, 1⟩, ⟨2, 1, 2⟩, ['"', '\\', '"', '\\', '\\', '\\', 'q', '"']⟩ := rfl
  obtain ⟨body, behind, hdrop, hbody, -, ⟨stop, hstop, -⟩, hresult, -⟩ :=
    readToken_string hreached rfl
  have hread : Except.error ⟨.invalidEscape 'q', ⟨7, 1, 7⟩⟩ = stop.result ⟨2, 1, 2⟩ body :=
    (hresult stop).2 hstop
  cases stop with
  | badEscape code =>
      obtain ⟨hcode, hplace⟩ := by simpa [BodyEnd.result] using hread
      subst hcode
      obtain ⟨-, r, rfl⟩ := hstop
      exact ⟨hreached, body, r, hdrop, hbody, hplace.symm⟩
  | _ => simp [BodyEnd.result] at hread

end Lexer

end ImpLexer
