import ImpLexer.Lexeme.Read
import ImpLexer.Proofs.Lawful

/-!
# Readers are lawful

Each reader is met twice. Once from the text: whatever it says of a text of its
own, the grammar says as well. And once from the grammar: a lexeme that nothing
behind it joins, or a fault, is read as just that, however the text goes on.
The two together make `readLexeme` the only lawful reading of its text, so from
here on nobody has to look into a reader again.

The second half needs the dispatch to send every lexeme to its own reader. It
does because the first character of a lexeme tells its kind, but for the minus
sign, which is an operator, or the sign of a number if a digit follows. That is
the case of `Kind.Joins` that speaks about `-`.
-/

namespace ImpLexer

open Text

variable {policy : LeadingZeros}

/-! ## Identifiers -/

theorem readLexeme_of_isWordStart {c : Char} (hc : isWordStart c) (t : Text) :
    readLexeme policy (c :: t) = readIdentifier (c :: t) := by
  rw [readLexeme, if_pos hc]

theorem lawful_readIdentifier {c : Char} (hc : isWordStart c) (t : Text) :
    (readIdentifier (c :: t)).Lawful policy := by
  have hw := isWordChar_of_isWordStart hc
  have hend := not_begins_dropWhile isWordChar (c :: t)
  rw [List.dropWhile_cons_of_pos hw] at hend
  rw [readIdentifier, List.takeWhile_cons_of_pos hw, List.dropWhile_cons_of_pos hw]
  exact .found ⟨c, _, rfl, hc, fun d hd => of_mem_takeWhile hd⟩ hend

theorem readIdentifier_append {l r : Text} (hl : ∀ c ∈ l, isWordChar c)
    (hr : ¬begins isWordChar r) : readIdentifier (l ++ r) = .found .identifier l r := by
  rw [readIdentifier, takeWhile_run hl hr, dropWhile_run hl hr]

/-! ## Numbers -/

theorem startsNumber_cons_iff {c : Char} {t : Text} :
    startsNumber (c :: t) ↔ isDigit c ∨ c = '-' ∧ begins isDigit t := by
  cases t <;> simp [startsNumber]

theorem readLexeme_of_startsNumber {t : Text} (h : startsNumber t) :
    readLexeme policy t = readNumber policy t := by
  cases t with
  | nil => cases h
  | cons c t =>
      have hc : ¬isWordStart c := by
        rcases startsNumber_cons_iff.1 h with hd | ⟨rfl, -⟩
        · exact not_isWordStart_of_isDigit hd
        · decide
      rw [readLexeme, if_neg hc, if_pos h]

theorem exists_cons_of_isDigits {t : Text} (h : IsDigits t) :
    ∃ c w, t = c :: w ∧ isDigit c ∧ ∀ d ∈ w, isDigit d := by
  obtain ⟨c, w, rfl⟩ := List.exists_cons_of_ne_nil h.1
  obtain ⟨hc, hw⟩ := List.forall_mem_cons.1 h.2
  exact ⟨c, w, rfl, hc, hw⟩

theorem begins_append_of_isDigits {t : Text} (h : IsDigits t) (r : Text) :
    begins isDigit (t ++ r) := by
  obtain ⟨c, w, rfl, hc, hw⟩ := exists_cons_of_isDigits h
  exact hc

theorem startsNumber_append {sign body : Text} (hs : IsSign sign)
    (hb : begins isDigit body) : startsNumber (sign ++ body) := by
  rcases hs with rfl | rfl
  · cases body with
    | nil => cases hb
    | cons c t => exact startsNumber_cons_iff.2 (Or.inl hb)
  · exact startsNumber_cons_iff.2 (Or.inr ⟨rfl, hb⟩)

theorem splitSign_append_of_isSign {sign body : Text} (hs : IsSign sign)
    (hb : begins isDigit body) : splitSign (sign ++ body) = (sign, body) := by
  rcases hs with rfl | rfl
  · cases body with
    | nil => cases hb
    | cons c t =>
        have hc : c ≠ '-' := by
          rintro rfl
          rw [begins_cons] at hb
          exact absurd hb (by decide)
        rw [List.nil_append, splitSign, if_neg hc]
  · rfl

/-- A digit is no sign, so a text is signed in one way only. -/
theorem sign_append_inj {sign sign' body body' : Text} (hs : IsSign sign)
    (hs' : IsSign sign') (hb : begins isDigit body) (hb' : begins isDigit body')
    (h : sign ++ body = sign' ++ body') : sign = sign' ∧ body = body' := by
  have hsplit := splitSign_append_of_isSign hs hb
  rw [h, splitSign_append_of_isSign hs' hb'] at hsplit
  cases hsplit
  exact ⟨rfl, rfl⟩

theorem begins_isDigit_zero (t : Text) : begins isDigit ('0' :: t) := by
  rw [begins_cons]
  decide

/-- What `splitSign` does to the texts that the number reader is given. -/
theorem exists_sign {t : Text} (h : startsNumber t) :
    ∃ sign body, t = sign ++ body ∧ IsSign sign ∧ begins isDigit body := by
  cases t with
  | nil => cases h
  | cons c t =>
      rcases startsNumber_cons_iff.1 h with hd | ⟨rfl, ht⟩
      · exact ⟨[], c :: t, rfl, Or.inl rfl, hd⟩
      · exact ⟨['-'], t, rfl, Or.inr rfl, ht⟩

theorem startsRedundantly_cons_iff {c : Char} {t : Text} :
    startsRedundantly (c :: t) ↔ c = '0' ∧ begins isDigit t := by
  cases t <;> simp [startsRedundantly]

theorem splitFraction_of_not {t : Text} (h : ¬startsFraction t) :
    splitFraction t = ([], t) := by
  match t with
  | [] | [_] => rfl
  | c :: d :: t =>
      rw [splitFraction]
      exact if_neg h

theorem splitFraction_of_isDigits {fraction r : Text} (hf : IsDigits fraction)
    (hr : ¬begins isDigit r) :
    splitFraction ('.' :: fraction ++ r) = ('.' :: fraction, r) := by
  obtain ⟨d, w, rfl, hd, hw⟩ := exists_cons_of_isDigits hf
  have hrun := takeWhile_run hw hr
  have hrest := dropWhile_run hw hr
  simp [splitFraction, hd, hrun, hrest]

theorem exists_fraction {t : Text} (h : startsFraction t) :
    ∃ fraction r, t = '.' :: fraction ++ r ∧ IsDigits fraction ∧ ¬begins isDigit r := by
  cases t with
  | nil => cases h
  | cons c t =>
      simp only [startsFraction, Bool.and_eq_true, decide_eq_true_eq] at h
      obtain ⟨rfl, hd⟩ := h
      refine ⟨t.takeWhile isDigit, t.dropWhile isDigit, by simp, ⟨?_, ?_⟩,
        not_begins_dropWhile isDigit t⟩
      · cases t with
        | nil => cases hd
        | cons d t =>
            rw [begins_cons] at hd
            rw [List.takeWhile_cons_of_pos hd]
            exact List.cons_ne_nil _ _
      · exact fun d hd => of_mem_takeWhile hd

/-- A number without a redundant zero, read in its three parts. -/
theorem readNumber_append {sign whole fraction r : Text} (hs : IsSign sign)
    (hw : IsWhole policy whole) (hend : ¬begins isDigit (fraction ++ r))
    (hf : splitFraction (fraction ++ r) = (fraction, r)) :
    readNumber policy (sign ++ (whole ++ (fraction ++ r))) =
      .found (if fraction = [] then .integer else .decimal) (sign ++ whole ++ fraction) r := by
  have hzero : ¬(policy = .reject ∧ startsRedundantly (whole ++ (fraction ++ r))) := by
    rintro ⟨rfl, hz⟩
    obtain ⟨c, w, rfl, -, -⟩ := exists_cons_of_isDigits hw.1
    obtain ⟨rfl, hb⟩ := startsRedundantly_cons_iff.1 hz
    rcases hw.2 with h | h | h
    · cases h
    · rw [(List.cons.inj h).2] at hb
      exact hend hb
    · exact h rfl
  rw [readNumber, splitSign_append_of_isSign hs (begins_append_of_isDigits hw.1 _)]
  simp only
  rw [if_neg hzero, takeWhile_run hw.1.2 hend, dropWhile_run hw.1.2 hend, hf]

theorem readNumber_redundant {sign t : Text} (hs : IsSign sign) (ht : begins isDigit t) :
    readNumber .reject (sign ++ ['0'] ++ t) = ⟨sign ++ ['0'], t, .error ⟨.leadingZero, sign⟩⟩ := by
  have hz : startsRedundantly ('0' :: t) := startsRedundantly_cons_iff.2 ⟨rfl, ht⟩
  rw [List.append_assoc, List.singleton_append, readNumber,
    splitSign_append_of_isSign hs (begins_isDigit_zero t)]
  exact if_pos ⟨rfl, hz⟩

theorem isWhole_takeWhile {body : Text} (hb : begins isDigit body)
    (hz : ¬(policy = .reject ∧ startsRedundantly body)) :
    IsWhole policy (body.takeWhile isDigit) := by
  cases body with
  | nil => cases hb
  | cons c t =>
      rw [begins_cons] at hb
      rw [List.takeWhile_cons_of_pos hb]
      refine ⟨⟨List.cons_ne_nil _ _, ?_⟩, ?_⟩
      · exact List.forall_mem_cons.2 ⟨hb, fun d hd => of_mem_takeWhile hd⟩
      · cases policy with
        | allow => exact Or.inl rfl
        | reject =>
            by_cases hc : c = '0'
            · -- The zero stands alone, since what follows it is no digit.
              subst hc
              have ht : ¬begins isDigit t := fun h =>
                hz ⟨rfl, startsRedundantly_cons_iff.2 ⟨rfl, h⟩⟩
              have hnil : t.takeWhile isDigit = [] := takeWhile_run (s := []) (by simp) ht
              rw [hnil]
              exact Or.inr (Or.inl rfl)
            · exact Or.inr (Or.inr fun h => hc (Option.some.inj h))

theorem lawful_readNumber {t : Text} (h : startsNumber t) :
    (readNumber policy t).Lawful policy := by
  obtain ⟨sign, body, rfl, hs, hb⟩ := exists_sign h
  by_cases hz : policy = .reject ∧ startsRedundantly body
  · obtain ⟨rfl, hr⟩ := hz
    obtain ⟨r, rfl, hd⟩ : ∃ r, body = '0' :: r ∧ begins isDigit r := by
      cases body with
      | nil => cases hb
      | cons c r =>
          obtain ⟨rfl, hd⟩ := startsRedundantly_cons_iff.1 hr
          exact ⟨r, rfl, hd⟩
    have hread := readNumber_redundant hs hd
    rw [List.append_assoc, List.singleton_append] at hread
    rw [hread]
    exact .malformed (.leadingZero rfl hs hd)
  · have hw := isWhole_takeWhile hb hz
    have hend := not_begins_dropWhile isDigit body
    have hsplit : body.takeWhile isDigit ++ body.dropWhile isDigit = body :=
      List.takeWhile_append_dropWhile
    by_cases hf : startsFraction (body.dropWhile isDigit)
    · obtain ⟨fraction, r, hfr, hdigits, hr⟩ := exists_fraction hf
      rw [hfr] at hend hsplit
      have hread := readNumber_append hs hw hend (splitFraction_of_isDigits hdigits hr)
      rw [hsplit] at hread
      rw [hread, if_neg (List.cons_ne_nil _ _)]
      exact .found ⟨sign, _, fraction, hs, hw, hdigits, rfl⟩ hr
    · have hnone : splitFraction ([] ++ body.dropWhile isDigit) = ([], body.dropWhile isDigit) :=
        splitFraction_of_not hf
      have hread := readNumber_append hs hw hend hnone
      rw [List.nil_append, hsplit] at hread
      rw [hread, if_pos rfl, List.append_nil]
      exact .found ⟨sign, _, hs, hw, rfl⟩ (not_or.2 ⟨hend, hf⟩)

/-! ## Escapes that are none -/

theorem readBadEscape_invalid {c : Char} (hline : ¬isLineBreak c) (cause : Cause)
    (opened t : Text) :
    readBadEscape cause opened (c :: t) =
      ⟨opened ++ ['\\'], c :: t, .error ⟨.invalidEscape c, opened⟩⟩ := by
  rw [readBadEscape]
  exact if_neg hline

theorem readBadEscape_atLineEnd {t : Text} (ht : AtLineEnd t) (cause : Cause)
    (opened : Text) :
    readBadEscape cause opened t = .failedAtStart cause (opened ++ ['\\']) t := by
  cases t with
  | nil => rfl
  | cons c t =>
      rw [readBadEscape]
      exact if_pos (atLineEnd_cons_iff.1 ht)

/-- The escape is at fault, or else the literal, if the line ends behind the
backslash. -/
theorem lawful_readBadEscape {cause : Cause} {opened t : Text} (hopened : IsOpened opened)
    (ht : ¬begins isEscapeCode t)
    (hopen : AtLineEnd t → Malformed policy ⟨cause, []⟩ (opened ++ ['\\']) t) :
    (readBadEscape cause opened t).Lawful policy := by
  by_cases hend : AtLineEnd t
  · rw [readBadEscape_atLineEnd hend]
    exact .malformed (hopen hend)
  · obtain ⟨c, t, rfl, hline⟩ := exists_cons_of_not_atLineEnd hend
    rw [readBadEscape_invalid hline]
    exact .malformed (.invalidEscape hopened ht hline)

/-! ## String literals

The units behind the quotation mark are the body, and the character behind the
body decides. -/

theorem readLexeme_quotationMark (t : Text) :
    readLexeme policy ('"' :: t) = readString t := by
  have hn : ¬startsNumber ('"' :: t) := by
    rw [startsNumber_cons_iff]
    simp [isDigit]
  rw [readLexeme, if_neg (by decide), if_neg hn, if_neg (by decide), if_pos rfl]

section

variable {body : Text}

theorem readString_append (hbody : IsStringBody body) (r : Text) :
    readString (body ++ '"' :: r) = .found .string ('"' :: body ++ ['"']) r := by
  have hnone : splitUnit? isStringPlain ('"' :: r) = none :=
    splitUnit?_of_not_plain (by decide) (by decide) r
  rw [readString, splitUnits_append_of_isStringBody hbody hnone]
  rfl

theorem readString_backslash (hbody : IsStringBody body) {t : Text}
    (ht : ¬begins isEscapeCode t) :
    readString (body ++ '\\' :: t) = readBadEscape .unterminatedString ('"' :: body) t := by
  have hnone := splitUnit?_backslash isStringPlain_backslash ht
  rw [readString, splitUnits_append_of_isStringBody hbody hnone]
  rfl

theorem readString_atLineEnd (hbody : IsStringBody body) {t : Text} (ht : AtLineEnd t) :
    readString (body ++ t) = .failedAtStart .unterminatedString ('"' :: body) t := by
  cases t with
  | nil => rw [readString, splitUnits_append_of_isStringBody hbody rfl]
  | cons c t =>
      have hline := atLineEnd_cons_iff.1 ht
      have hnone : splitUnit? isStringPlain (c :: t) = none := by
        refine splitUnit?_of_not_plain (fun h => not_isLineBreak_of_isStringPlain h hline) ?_ t
        rintro rfl
        exact absurd hline (by decide)
      rw [readString, splitUnits_append_of_isStringBody hbody hnone]
      rcases lineBreak_cases hline with rfl | rfl <;> rfl

theorem readString_controlCharacter (hbody : IsStringBody body) {c : Char}
    (hcontrol : isControl c) (hline : ¬isLineBreak c) (t : Text) :
    readString (body ++ c :: t) =
      .failedAtEnd (.controlCharacter c) ('"' :: body) (c :: t) := by
  have hquote : c ≠ '"' := by
    rintro rfl
    exact absurd hcontrol (by decide)
  have hback : c ≠ '\\' := by
    rintro rfl
    exact absurd hcontrol (by decide)
  have hplain : ¬isStringPlain c := by simp [isStringPlain, hcontrol]
  rw [readString, splitUnits_append_of_isStringBody hbody
    (splitUnit?_of_not_plain hplain hback t)]
  simp only
  rw [if_neg hquote, if_neg hback, if_neg hline]

end

theorem lawful_readString (t : Text) : (readString t).Lawful policy := by
  have hbody := isStringBody_splitUnits t
  have hnone := splitUnit?_splitUnits isStringPlain t
  rw [← splitUnits_append isStringPlain t]
  generalize (splitUnits isStringPlain t).1 = body at hbody ⊢
  generalize (splitUnits isStringPlain t).2 = r at hnone ⊢
  have hopen : ∀ {last s : Text}, last = [] ∨ last = ['\\'] → AtLineEnd s →
      Malformed policy ⟨.unterminatedString, []⟩ ('"' :: (body ++ last)) s :=
    fun hlast hs => .unterminatedString hbody hlast hs
  by_cases hend : AtLineEnd r
  · rw [readString_atLineEnd hbody hend]
    have h := hopen (Or.inl rfl) hend
    rw [List.append_nil] at h
    exact .malformed h
  · obtain ⟨c, r, rfl, hline⟩ := exists_cons_of_not_atLineEnd hend
    obtain ⟨hplain, hescape⟩ := splitUnit?_cons_eq_none_iff.1 hnone
    by_cases hquote : c = '"'
    · subst hquote
      rw [readString_append hbody]
      exact .found ⟨body, hbody, rfl⟩ id
    · by_cases hback : c = '\\'
      · subst hback
        have ht : ¬begins isEscapeCode r := fun h => hescape ⟨rfl, h⟩
        rw [readString_backslash hbody ht]
        exact lawful_readBadEscape (Or.inr ⟨body, hbody, rfl⟩) ht (hopen (Or.inr rfl))
      · have hcontrol : isControl c := by
          simpa [isStringPlain, hquote, hback] using hplain
        rw [readString_controlCharacter hbody hcontrol hline]
        exact .malformed (.controlCharacter hbody hcontrol hline)

/-! ## Character literals

One unit behind the quotation mark, and the character behind the unit decides.
Without a unit the first character does. -/

theorem readLexeme_apostrophe (t : Text) :
    readLexeme policy ('\'' :: t) = readCharacter t := by
  have hn : ¬startsNumber ('\'' :: t) := by
    rw [startsNumber_cons_iff]
    simp [isDigit]
  rw [readLexeme, if_neg (by decide), if_neg hn, if_pos rfl]

section

variable {unit : Text}

theorem splitUnit?_append_of_isCharacterUnit (hunit : IsCharacterUnit unit) (r : Text) :
    splitUnit? isCharacterPlain (unit ++ r) = some (unit, r) :=
  splitUnit?_append_of_isUnit isCharacterPlain_backslash (isCharacterUnit_iff.1 hunit) r

theorem readCharacter_append (hunit : IsCharacterUnit unit) (r : Text) :
    readCharacter (unit ++ '\'' :: r) = .found .character ('\'' :: unit ++ ['\'']) r := by
  unfold readCharacter
  rw [splitUnit?_append_of_isCharacterUnit hunit]
  rfl

theorem readCharacter_multiple (hunit : IsCharacterUnit unit) {c : Char}
    (hquote : c ≠ '\'') (hline : ¬isLineBreak c) (t : Text) :
    readCharacter (unit ++ c :: t) = .failedAtEnd .multipleCharacters ('\'' :: unit) (c :: t) := by
  unfold readCharacter
  rw [splitUnit?_append_of_isCharacterUnit hunit]
  simp only
  rw [if_neg hquote, if_neg hline]

theorem readCharacter_unit_atLineEnd (hunit : IsCharacterUnit unit) {t : Text}
    (ht : AtLineEnd t) :
    readCharacter (unit ++ t) = .failedAtStart .unterminatedCharacter ('\'' :: unit) t := by
  unfold readCharacter
  rw [splitUnit?_append_of_isCharacterUnit hunit]
  cases t with
  | nil => rfl
  | cons c t =>
      have hline := atLineEnd_cons_iff.1 ht
      rcases lineBreak_cases hline with rfl | rfl <;> rfl

end

theorem readCharacter_backslash {t : Text} (ht : ¬begins isEscapeCode t) :
    readCharacter ('\\' :: t) = readBadEscape .unterminatedCharacter ['\''] t := by
  have hnone := splitUnit?_backslash isCharacterPlain_backslash ht
  rw [readCharacter, hnone]
  rfl

theorem readCharacter_atLineEnd {t : Text} (ht : AtLineEnd t) :
    readCharacter t = .failedAtStart .unterminatedCharacter ['\''] t := by
  cases t with
  | nil => rfl
  | cons c t =>
      have hline := atLineEnd_cons_iff.1 ht
      have hnone : splitUnit? isCharacterPlain (c :: t) = none := by
        rcases lineBreak_cases hline with rfl | rfl
        · exact splitUnit?_of_not_plain (by decide) (by decide) t
        · exact splitUnit?_of_not_plain (by decide) (by decide) t
      rw [readCharacter, hnone]
      rcases lineBreak_cases hline with rfl | rfl <;> rfl

theorem readCharacter_empty (t : Text) :
    readCharacter ('\'' :: t) = .failedAtStart .emptyCharacter ['\''] ('\'' :: t) := by
  have hnone : splitUnit? isCharacterPlain ('\'' :: t) = none :=
    splitUnit?_of_not_plain (by decide) (by decide) t
  rw [readCharacter, hnone]
  rfl

theorem lawful_readCharacter (t : Text) : (readCharacter t).Lawful policy := by
  cases hs : splitUnit? isCharacterPlain t with
  | some split =>
      obtain ⟨unit, r⟩ := split
      have hunit := isCharacterUnit_iff.2 (isUnit_of_splitUnit? hs)
      rw [← splitUnit?_append hs]
      by_cases hend : AtLineEnd r
      · rw [readCharacter_unit_atLineEnd hunit hend]
        exact .malformed (.unterminatedCharacter (Or.inr (Or.inr hunit)) hend)
      · obtain ⟨c, r, rfl, hline⟩ := exists_cons_of_not_atLineEnd hend
        by_cases hquote : c = '\''
        · rw [hquote, readCharacter_append hunit]
          exact .found ⟨unit, hunit, rfl⟩ id
        · rw [readCharacter_multiple hunit hquote hline]
          exact .malformed (.multipleCharacters hunit hquote hline)
  | none =>
      by_cases hend : AtLineEnd t
      · rw [readCharacter_atLineEnd hend]
        exact .malformed (.unterminatedCharacter (Or.inl rfl) hend)
      · obtain ⟨c, t, rfl, hline⟩ := exists_cons_of_not_atLineEnd hend
        obtain ⟨hplain, hescape⟩ := splitUnit?_cons_eq_none_iff.1 hs
        by_cases hquote : c = '\''
        · rw [hquote, readCharacter_empty]
          exact .malformed .emptyCharacter
        · have hback : c = '\\' := by simpa [isCharacterPlain, hquote, hline] using hplain
          rw [hback] at hescape ⊢
          have ht : ¬begins isEscapeCode t := fun h => hescape ⟨rfl, h⟩
          rw [readCharacter_backslash ht]
          exact lawful_readBadEscape (Or.inl rfl) ht
            (.unterminatedCharacter (Or.inr (Or.inl rfl)))

/-! ## Operators -/

theorem readOperator_unexpected {c : Char} (hc : isControl c ∨ isWhiteSpace c)
    (hblank : ¬isBlank c) (t : Text) :
    readOperator c t = .failedAtStart (.unexpectedCharacter c) [] (c :: t) := by
  unfold readOperator
  rw [if_neg hblank, if_pos (by simpa using hc)]

theorem readOperator_comparison {c : Char} (hc : isComparison c) (t : Text) :
    readOperator c ('=' :: t) = .found .operator [c, '='] t := by
  rcases comparison_cases hc with rfl | rfl | rfl | rfl <;> rfl

theorem readOperator_symbol {c : Char} (hc : IsSymbol c) {t : Text}
    (ht : isComparison c → ¬begins (· = '=') t) :
    readOperator c t = .found .operator [c] t := by
  have hblank := not_isBlank_of_isSymbol hc
  obtain ⟨-, -, -, -, -, hcontrol, hwhite⟩ := hc
  unfold readOperator
  rw [if_neg hblank, if_neg (by simp [hcontrol, hwhite])]
  cases t with
  | nil => rfl
  | cons d t =>
      have hd : ¬(isComparison c ∧ d = '=') := fun h => ht h.1 (by simp [h.2])
      simp only
      rw [if_neg hd]

theorem isSymbol_of_isComparison {c : Char} (hc : isComparison c) : IsSymbol c := by
  rcases comparison_cases hc with rfl | rfl | rfl | rfl <;> decide

/-- The operator reader gets what no other reader takes. -/
theorem readLexeme_of_others {c : Char} {t : Text} (hword : ¬isWordStart c)
    (hnumber : ¬startsNumber (c :: t)) (hsingle : c ≠ '\'') (hdouble : c ≠ '"') :
    readLexeme policy (c :: t) = readOperator c t := by
  rw [readLexeme, if_neg hword, if_neg hnumber, if_neg hsingle, if_neg hdouble]

theorem readLexeme_of_not_isWordChar {c : Char} (hword : ¬isWordChar c) (hsingle : c ≠ '\'')
    (hdouble : c ≠ '"') (t : Text) : readLexeme policy (c :: t) = readOperator c t := by
  refine readLexeme_of_others (fun h => hword (isWordChar_of_isWordStart h)) (fun h => ?_)
    hsingle hdouble
  rcases startsNumber_cons_iff.1 h with hd | ⟨heq, -⟩
  · exact hword (isWordChar_of_isDigit hd)
  · exact hword (by simp [isWordChar, heq])

theorem readLexeme_of_isBlank {c : Char} (hc : isBlank c) (t : Text) :
    readLexeme policy (c :: t) = .failedAtStart .unexpectedWhitespace [] (c :: t) := by
  have hsingle : c ≠ '\'' := fun h => by rw [h] at hc; exact absurd hc (by decide)
  have hdouble : c ≠ '"' := fun h => by rw [h] at hc; exact absurd hc (by decide)
  rw [readLexeme_of_not_isWordChar (not_isWordChar_of_isBlank hc) hsingle hdouble]
  unfold readOperator
  exact if_pos hc

theorem readLexeme_of_isSymbol {c : Char} (hc : IsSymbol c) {t : Text}
    (ht : c = '-' → ¬begins isDigit t) : readLexeme policy (c :: t) = readOperator c t := by
  obtain ⟨hletter, hlow, hdigit, hsingle, hdouble, -, -⟩ := hc
  refine readLexeme_of_others (by simp [isWordStart, hletter, hlow]) ?_ hsingle hdouble
  intro hn
  rcases startsNumber_cons_iff.1 hn with hd | ⟨heq, hd⟩
  · exact hdigit hd
  · exact ht heq hd

theorem lawful_readOperator {c : Char} {t : Text} (hword : ¬isWordStart c)
    (hnumber : ¬startsNumber (c :: t)) (hsingle : c ≠ '\'') (hdouble : c ≠ '"')
    (hblank : ¬isBlank c) : (readOperator c t).Lawful policy := by
  by_cases hinvisible : isControl c ∨ isWhiteSpace c
  · rw [readOperator_unexpected hinvisible hblank]
    exact .malformed (.unexpectedCharacter hinvisible hblank)
  · obtain ⟨hcontrol, hwhite⟩ := not_or.1 hinvisible
    have hletter : ¬isLetter c := fun h => hword (by simp [isWordStart, h])
    have hlow : c ≠ '_' := fun h => hword (by simp [isWordStart, h])
    have hdigit : ¬isDigit c := fun h => hnumber (startsNumber_cons_iff.2 (Or.inl h))
    have hsymbol : IsSymbol c := ⟨hletter, hlow, hdigit, hsingle, hdouble, hcontrol, hwhite⟩
    by_cases hpair : isComparison c ∧ begins (· = '=') t
    · obtain ⟨hc, ht⟩ := hpair
      cases t with
      | nil => cases ht
      | cons d t =>
          rw [show d = '=' from by simpa using ht, readOperator_comparison hc]
          exact .found (Or.inl ⟨c, hc, rfl⟩) (by simp [Kind.Joins])
    · rw [readOperator_symbol hsymbol fun hc ht => hpair ⟨hc, ht⟩]
      refine .found (Or.inr ⟨c, hsymbol, rfl⟩) fun hjoins => ?_
      rcases hjoins with ⟨heq, hd⟩ | ⟨⟨d, hd, heq⟩, ht⟩
      · have hminus : c = '-' := (List.cons.inj heq).1
        exact hnumber (startsNumber_cons_iff.2 (Or.inr ⟨hminus, hd⟩))
      · rw [← (List.cons.inj heq).1] at hd
        exact hpair ⟨hd, ht⟩

/-! ## All of them -/

/-- What is read of a text without a blank in front is lawful. -/
theorem lawful_readLexeme (policy : LeadingZeros) {t : Text} (hne : t ≠ [])
    (hblank : ¬begins isBlank t) : (readLexeme policy t).Lawful policy := by
  cases t with
  | nil => exact absurd rfl hne
  | cons c t =>
      by_cases hword : isWordStart c
      · rw [readLexeme_of_isWordStart hword]
        exact lawful_readIdentifier hword t
      · by_cases hnumber : startsNumber (c :: t)
        · rw [readLexeme_of_startsNumber hnumber]
          exact lawful_readNumber hnumber
        · by_cases hsingle : c = '\''
          · rw [hsingle, readLexeme_apostrophe]
            exact lawful_readCharacter t
          · by_cases hdouble : c = '"'
            · rw [hdouble, readLexeme_quotationMark]
              exact lawful_readString t
            · rw [readLexeme_of_others hword hnumber hsingle hdouble]
              exact lawful_readOperator hword hnumber hsingle hdouble hblank

theorem readLexeme_of_isLexeme {kind : Kind} {l r : Text} (hl : IsLexeme policy kind l)
    (hend : ¬kind.Joins l r) : readLexeme policy (l ++ r) = .found kind l r := by
  match kind with
  | .identifier =>
      obtain ⟨c, w, rfl, hc, hw⟩ := hl
      rw [List.cons_append, readLexeme_of_isWordStart hc, ← List.cons_append]
      exact readIdentifier_append (isWordChar_of_mem_isIdentifier hc hw) hend
  | .integer =>
      obtain ⟨sign, whole, hs, hw, rfl⟩ := hl
      obtain ⟨hdigit, hfraction⟩ := not_or.1 hend
      have hstart := startsNumber_append hs (begins_append_of_isDigits hw.1 r)
      have hnone : splitFraction ([] ++ r) = ([], r) := splitFraction_of_not hfraction
      have hread := readNumber_append hs hw (show ¬begins isDigit ([] ++ r) from hdigit) hnone
      rw [List.nil_append, if_pos rfl, List.append_nil] at hread
      rw [List.append_assoc, readLexeme_of_startsNumber hstart, hread]
  | .decimal =>
      obtain ⟨sign, whole, fraction, hs, hw, hf, rfl⟩ := hl
      have hstart := startsNumber_append hs
        (begins_append_of_isDigits hw.1 ('.' :: fraction ++ r))
      have hpoint : ¬begins isDigit ('.' :: fraction ++ r) := by simp [isDigit]
      have hread := readNumber_append hs hw hpoint (splitFraction_of_isDigits hf hend)
      rw [if_neg (List.cons_ne_nil _ _)] at hread
      rw [List.append_assoc, List.append_assoc, readLexeme_of_startsNumber hstart, hread]
  | .character =>
      obtain ⟨unit, hunit, rfl⟩ := hl
      rw [List.append_assoc, List.cons_append, readLexeme_apostrophe]
      exact readCharacter_append hunit r
  | .string =>
      obtain ⟨body, hbody, rfl⟩ := hl
      rw [List.append_assoc, List.cons_append, readLexeme_quotationMark]
      exact readString_append hbody r
  | .operator =>
      obtain ⟨hminus, hequals⟩ := not_or.1 hend
      rcases hl with ⟨c, hc, rfl⟩ | ⟨c, hc, rfl⟩
      · have hne : c = '-' → ¬begins isDigit ('=' :: r) := fun _ => by simp [isDigit]
        rw [List.cons_append, List.singleton_append,
          readLexeme_of_isSymbol (isSymbol_of_isComparison hc) hne]
        exact readOperator_comparison hc r
      · rw [List.singleton_append,
          readLexeme_of_isSymbol hc fun heq hd => hminus ⟨by rw [heq], hd⟩]
        exact readOperator_symbol hc fun hcmp ht => hequals ⟨⟨c, hcmp, rfl⟩, ht⟩

theorem readLexeme_of_malformed {fault : Fault} {consumed rest : Text}
    (h : Malformed policy fault consumed rest) :
    readLexeme policy (consumed ++ rest) = ⟨consumed, rest, .error fault⟩ := by
  cases h with
  | @unexpectedCharacter c t hc hblank =>
      have hsingle : c ≠ '\'' := fun h => by rw [h] at hc; exact absurd hc (by decide)
      have hdouble : c ≠ '"' := fun h => by rw [h] at hc; exact absurd hc (by decide)
      rw [List.nil_append,
        readLexeme_of_not_isWordChar (not_isWordChar_of_invisible hc) hsingle hdouble]
      exact readOperator_unexpected hc hblank t
  | @leadingZero sign t hpolicy hsign hdigit =>
      have hstart := startsNumber_append hsign (begins_isDigit_zero rest)
      rw [← List.singleton_append, ← List.append_assoc] at hstart
      rw [readLexeme_of_startsNumber hstart, hpolicy]
      exact readNumber_redundant hsign hdigit
  | emptyCharacter =>
      rw [List.singleton_append, readLexeme_apostrophe]
      exact readCharacter_empty _
  | multipleCharacters hunit hquote hline =>
      rw [List.cons_append, readLexeme_apostrophe]
      exact readCharacter_multiple hunit hquote hline _
  | controlCharacter hbody hcontrol hline =>
      rw [List.cons_append, readLexeme_quotationMark]
      exact readString_controlCharacter hbody hcontrol hline _
  | @invalidEscape opened t c hopened hcode hline =>
      have ht : ¬begins isEscapeCode (c :: t) := hcode
      rcases hopened with rfl | ⟨body, hbody, rfl⟩
      · rw [List.append_assoc, List.singleton_append, readLexeme_apostrophe,
          List.singleton_append, readCharacter_backslash ht]
        exact readBadEscape_invalid hline _ _ _
      · rw [List.append_assoc, List.cons_append, readLexeme_quotationMark,
          List.singleton_append, readString_backslash hbody ht]
        exact readBadEscape_invalid hline _ _ _
  | unterminatedCharacter hinside hend =>
      rw [List.cons_append, readLexeme_apostrophe]
      rcases hinside with rfl | rfl | hunit
      · exact readCharacter_atLineEnd hend
      · rw [List.singleton_append,
          readCharacter_backslash (not_begins_isEscapeCode_of_atLineEnd hend)]
        exact readBadEscape_atLineEnd hend _ _
      · exact readCharacter_unit_atLineEnd hunit hend
  | unterminatedString hbody hlast hend =>
      rw [List.cons_append, List.append_assoc, readLexeme_quotationMark]
      rcases hlast with rfl | rfl
      · rw [List.append_nil]
        exact readString_atLineEnd hbody hend
      · rw [List.singleton_append,
          readString_backslash hbody (not_begins_isEscapeCode_of_atLineEnd hend)]
        exact readBadEscape_atLineEnd hend _ _

end ImpLexer
