import ImpLexer.Lexeme.Quotation
import ImpLexer.Lexeme.Unquoted

/-!
# Reading a lexeme

The first character, or for a minus sign the first two, settles which reader a
text belongs to. The readers never overlap: each takes the texts that the ones
in front of it have left.

Two facts are what everything else rests on. `text_readLexeme`: a reader loses
nothing, whether it succeeds or fails. `consumed_ne_nil_of_ok`: a lexeme that
was found has at least one character, so lexing a text comes to an end.
-/

namespace ImpLexer

/-- Reads the lexeme at the front of a text. -/
def readLexeme (policy : LeadingZeros) : Text → Reading
  | [] => .failedAtStart .unexpectedEndOfInput [] []
  | c :: t =>
      if isWordStart c then readIdentifier (c :: t)
      else if startsNumber (c :: t) then readNumber policy (c :: t)
      else if c = '\'' then readCharacter t
      else if c = '"' then readString t
      else readOperator c t

@[simp] theorem text_readLexeme (policy : LeadingZeros) (t : Text) :
    (readLexeme policy t).text = t := by
  cases t with
  | nil => rfl
  | cons c t =>
      rw [readLexeme]
      split
      · simp
      · split
        · simp
        · split
          · simp_all [text_readCharacter]
          · split
            · simp_all [text_readString]
            · simp

/-! ## A lexeme is not empty -/

theorem isWordChar_of_isWordStart {c : Char} (h : isWordStart c) : isWordChar c := by
  simp [isWordChar, h]

theorem readNumber_consumed_ne_nil {policy : LeadingZeros} {t : Text}
    (h : startsNumber t) : (readNumber policy t).consumed ≠ [] := by
  match t with
  | [] => cases h
  | c :: t =>
      by_cases hc : c = '-'
      · simp only [readNumber, splitSign, hc, if_true]
        split <;> simp [Reading.found]
      · have hd : isDigit c := by
          cases t <;> simpa [startsNumber, hc] using h
        simp only [readNumber, splitSign, hc, if_false]
        split <;> simp [Reading.found, hd]

theorem readString_consumed_ne_nil (t : Text) : (readString t).consumed ≠ [] := by
  unfold readString readBadEscape Reading.found Reading.failedAtStart Reading.failedAtEnd
  grind

theorem readCharacter_consumed_ne_nil (t : Text) : (readCharacter t).consumed ≠ [] := by
  unfold readCharacter readBadEscape Reading.found Reading.failedAtStart Reading.failedAtEnd
  grind

theorem readOperator_consumed_ne_nil {c : Char} {t : Text} {kind : Kind}
    (h : (readOperator c t).outcome = .ok kind) : (readOperator c t).consumed ≠ [] := by
  unfold readOperator Reading.found Reading.failedAtStart at h ⊢
  grind

theorem consumed_ne_nil_of_ok {policy : LeadingZeros} {t : Text} {kind : Kind}
    (h : (readLexeme policy t).outcome = .ok kind) :
    (readLexeme policy t).consumed ≠ [] := by
  cases t with
  | nil => cases h
  | cons c t =>
      rw [readLexeme] at h ⊢
      split
      next hs => simp [readIdentifier, Reading.found, isWordChar_of_isWordStart hs]
      next hs =>
        rw [if_neg hs] at h
        split
        next hn => exact readNumber_consumed_ne_nil hn
        next hn =>
          rw [if_neg hn] at h
          split
          · exact readCharacter_consumed_ne_nil t
          next hq =>
            rw [if_neg hq] at h
            split
            · exact readString_consumed_ne_nil t
            next hd =>
              rw [if_neg hd] at h
              exact readOperator_consumed_ne_nil h

/-- Reading a lexeme leaves less of the text. -/
theorem length_rest_lt_of_ok {policy : LeadingZeros} {t : Text} {kind : Kind}
    (h : (readLexeme policy t).outcome = .ok kind) :
    (readLexeme policy t).rest.length < t.length := by
  have hne := List.length_pos_iff.2 (consumed_ne_nil_of_ok h)
  have ht := congrArg List.length (text_readLexeme policy t)
  rw [Reading.text, List.length_append] at ht
  omega

end ImpLexer
