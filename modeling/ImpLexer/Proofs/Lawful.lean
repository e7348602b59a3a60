import ImpLexer.Lexeme.Basic
import ImpLexer.Proofs.Units

/-!
# What may be said of the front of a text

The grammar of tokens says which texts are lexemes and leaves two things open.
The same text may begin with several lexemes, and with none. This module closes
both, still without reading anything, and so says what any reading has to be.

Of the lexemes that begin a text the right one is the one that nothing behind
it `Joins`. Whether a text joins a lexeme depends on its first character, and
for an integer on the first two, since a point needs a digit behind it.

Where no lexeme begins a text, the text is `Malformed`, and there are eight ways
to be: one constructor each, except that the two unterminated literals and the
two kinds of opened literal differ in little else than the cause. The relation
also says how far reading goes before the fault is seen, and what is blamed.

`Reading.Lawful` puts the two together. That every reading of a text without a
blank in front is lawful, and that every lawful reading is what is read, is
shown in `Readers.lean`.
-/

namespace ImpLexer

open Text

/-! ## Where a lexeme ends -/

/-- Does a point with a digit behind it stand at the front of a text? -/
def startsFraction : Text → Bool
  | [] => false
  | c :: t => c = '.' && begins isDigit t

/-- Would the text `next` make the lexeme that it stands behind longer? -/
def Kind.Joins : Kind → (literal next : Text) → Prop
  | .identifier, _, next => begins isWordChar next
  | .integer, _, next => begins isDigit next ∨ startsFraction next
  | .decimal, _, next => begins isDigit next
  | .operator, literal, next =>
      literal = ['-'] ∧ begins isDigit next ∨
        (∃ c, isComparison c ∧ literal = [c]) ∧ begins (· = '=') next
  | .character, _, _ | .string, _, _ => False

/-- Neither the end of the text nor a blank belongs to any lexeme. -/
theorem Kind.not_joins {kind : Kind} {literal next : Text}
    (h : next = [] ∨ begins isBlank next) : ¬kind.Joins literal next := by
  have hword : ¬begins isWordChar next := by
    rcases h with rfl | hb
    · simp
    · cases next with
      | nil => simp
      | cons c t => exact not_isWordChar_of_isBlank hb
  have hdigit : ¬begins isDigit next := fun hd =>
    hword (begins_mono (fun _ => isWordChar_of_isDigit) hd)
  have hfirst : ∀ c, begins (· = c) next → isBlank c := by
    intro c hc
    cases next with
    | nil => cases hc
    | cons d t =>
        rw [begins_cons, decide_eq_true_eq] at hc
        rw [← hc]
        simpa using h
  match kind with
  | .identifier => exact hword
  | .integer =>
      intro hjoins
      rcases hjoins with hd | hf
      · exact hdigit hd
      · cases next with
        | nil => cases hf
        | cons c t =>
            rw [startsFraction, Bool.and_eq_true] at hf
            exact absurd (hfirst '.' hf.1) (by decide)
  | .decimal => exact hdigit
  | .operator =>
      intro hjoins
      rcases hjoins with ⟨-, hd⟩ | ⟨-, heq⟩
      · exact hdigit hd
      · exact absurd (hfirst '=' heq) (by decide)
  | .character | .string => exact id

/-- The text behind a lexeme may go on in any way, once it goes on far enough: a
point at the very end could still become a fraction. -/
theorem Kind.joins_append_iff {kind : Kind} {literal next : Text} (hne : next ≠ [])
    (hpoint : next ≠ ['.']) (t : Text) :
    kind.Joins literal (next ++ t) ↔ kind.Joins literal next := by
  have hbegins : ∀ p, begins p (next ++ t) = begins p next := fun p => begins_append hne t
  have hfraction : startsFraction (next ++ t) = startsFraction next := by
    cases next with
    | nil => exact absurd rfl hne
    | cons c r =>
        rw [List.cons_append, startsFraction, startsFraction]
        by_cases hr : r = []
        · have hc : c ≠ '.' := fun h => hpoint (by rw [h, hr])
          simp [hc]
        · rw [begins_append hr]
  match kind with
  | .identifier | .decimal => rw [Kind.Joins, Kind.Joins, hbegins]
  | .integer => rw [Kind.Joins, Kind.Joins, hbegins, hfraction]
  | .operator => rw [Kind.Joins, Kind.Joins, hbegins, hbegins]
  | .character | .string => exact Iff.rfl

/-! ## Where there is no lexeme -/

instance (c : Char) : Decidable (IsSymbol c) :=
  inferInstanceAs (Decidable (¬isLetter c ∧ c ≠ '_' ∧ ¬isDigit c ∧ c ≠ '\'' ∧ c ≠ '"' ∧
    ¬isControl c ∧ ¬isWhiteSpace c))

/-- Is nothing left of the line? -/
def AtLineEnd (t : Text) : Prop := t = [] ∨ begins isLineBreak t

theorem atLineEnd_cons_iff {c : Char} {t : Text} : AtLineEnd (c :: t) ↔ isLineBreak c := by
  simp [AtLineEnd]

theorem exists_cons_of_not_atLineEnd {t : Text} (ht : ¬AtLineEnd t) :
    ∃ c r, t = c :: r ∧ ¬isLineBreak c := by
  cases t with
  | nil => exact absurd (Or.inl rfl) ht
  | cons c r => exact ⟨c, r, rfl, fun hl => ht (atLineEnd_cons_iff.2 hl)⟩

theorem not_begins_isEscapeCode_of_atLineEnd {t : Text} (ht : AtLineEnd t) :
    ¬begins isEscapeCode t := by
  cases t with
  | nil => simp
  | cons c t =>
      intro hc
      exact not_isLineBreak_of_isEscapeCode hc (atLineEnd_cons_iff.1 ht)

/-- A literal as far as it goes up to a backslash: with its first quotation
mark only, if it is a character literal. -/
def IsOpened (t : Text) : Prop :=
  t = ['\''] ∨ ∃ body, IsStringBody body ∧ t = '"' :: body

/-- The fault in `consumed ++ rest`, where `rest` begins with what cannot be
right. -/
inductive Malformed (policy : LeadingZeros) : Fault → (consumed rest : Text) → Prop where
  | unexpectedCharacter {c : Char} {t : Text} (hc : isControl c ∨ isWhiteSpace c)
      (hblank : ¬isBlank c) : Malformed policy ⟨.unexpectedCharacter c, []⟩ [] (c :: t)
  | leadingZero {sign t : Text} (hpolicy : policy = .reject) (hsign : IsSign sign)
      (hdigit : begins isDigit t) :
      Malformed policy ⟨.leadingZero, sign⟩ (sign ++ ['0']) t
  | emptyCharacter {t : Text} : Malformed policy ⟨.emptyCharacter, []⟩ ['\''] ('\'' :: t)
  | multipleCharacters {unit t : Text} {c : Char} (hunit : IsCharacterUnit unit)
      (hquote : c ≠ '\'') (hline : ¬isLineBreak c) :
      Malformed policy ⟨.multipleCharacters, '\'' :: unit⟩ ('\'' :: unit) (c :: t)
  | controlCharacter {body t : Text} {c : Char} (hbody : IsStringBody body)
      (hcontrol : isControl c) (hline : ¬isLineBreak c) :
      Malformed policy ⟨.controlCharacter c, '"' :: body⟩ ('"' :: body) (c :: t)
  | invalidEscape {opened t : Text} {c : Char} (hopened : IsOpened opened)
      (hcode : ¬isEscapeCode c) (hline : ¬isLineBreak c) :
      Malformed policy ⟨.invalidEscape c, opened⟩ (opened ++ ['\\']) (c :: t)
  | unterminatedCharacter {inside t : Text}
      (hinside : inside = [] ∨ inside = ['\\'] ∨ IsCharacterUnit inside)
      (hend : AtLineEnd t) :
      Malformed policy ⟨.unterminatedCharacter, []⟩ ('\'' :: inside) t
  | unterminatedString {body last t : Text} (hbody : IsStringBody body)
      (hlast : last = [] ∨ last = ['\\']) (hend : AtLineEnd t) :
      Malformed policy ⟨.unterminatedString, []⟩ ('"' :: (body ++ last)) t

/-- The reading is the one that the grammar asks for. -/
inductive Reading.Lawful (policy : LeadingZeros) : Reading → Prop where
  | found {kind : Kind} {literal next : Text} (hlexeme : IsLexeme policy kind literal)
      (hend : ¬kind.Joins literal next) : Lawful policy (.found kind literal next)
  | malformed {fault : Fault} {consumed rest : Text}
      (hfault : Malformed policy fault consumed rest) :
      Lawful policy ⟨consumed, rest, .error fault⟩

theorem Reading.Lawful.of_found {policy : LeadingZeros} {kind : Kind} {literal next : Text}
    (h : (Reading.found kind literal next).Lawful policy) :
    IsLexeme policy kind literal ∧ ¬kind.Joins literal next := by
  generalize hr : Reading.found kind literal next = reading at h
  cases h with
  | found hlexeme hend => cases hr; exact ⟨hlexeme, hend⟩
  | malformed => cases hr

/-! ## How lexemes and faults begin

Neither begins with a blank, which is why the blanks in front of them can be
passed over without looking further. -/

theorem not_isBlank_of_isSymbol {c : Char} (hc : IsSymbol c) : ¬isBlank c := by
  obtain ⟨-, -, -, -, -, hcontrol, hwhite⟩ := hc
  intro hb
  rcases invisible_of_isBlank hb with h | h
  · exact hcontrol h
  · exact hwhite h

theorem comparison_cases {c : Char} (h : isComparison c) :
    c = '<' ∨ c = '>' ∨ c = '=' ∨ c = '!' := by
  simpa [isComparison, or_assoc] using h

theorem isWordChar_of_mem_isIdentifier {c : Char} {w : Text} (hc : isWordStart c)
    (hw : ∀ d ∈ w, isWordChar d) : ∀ d ∈ c :: w, isWordChar d :=
  List.forall_mem_cons.2 ⟨by simp [isWordChar, hc], hw⟩

theorem isWordChar_of_mem_sign_append {sign t : Text} (hs : IsSign sign)
    (ht : IsDigits t) : ∀ c ∈ sign ++ t, isWordChar c := by
  have hdigits : ∀ c ∈ t, isWordChar c := fun c hc => isWordChar_of_isDigit (ht.2 c hc)
  rcases hs with rfl | rfl
  · exact hdigits
  · exact List.forall_mem_cons.2 ⟨by decide, hdigits⟩

theorem exists_cons_of_isWordChar {t : Text} (hne : t ≠ []) (h : ∀ c ∈ t, isWordChar c) :
    ∃ c w, t = c :: w ∧ ¬isBlank c := by
  obtain ⟨c, w, rfl⟩ := List.exists_cons_of_ne_nil hne
  exact ⟨c, w, rfl, fun hb => not_isWordChar_of_isBlank hb (h c (List.mem_cons_self ..))⟩

theorem exists_cons_of_sign_append {sign t : Text} (hs : IsSign sign) (ht : IsDigits t) :
    ∃ c w, sign ++ t = c :: w ∧ ¬isBlank c :=
  exists_cons_of_isWordChar (fun h => ht.1 (List.append_eq_nil_iff.1 h).2)
    (isWordChar_of_mem_sign_append hs ht)

/-- Whatever opens a literal is neither a blank nor a point. -/
theorem not_isBlank_of_opens {c : Char} (h : c = '\'' ∨ c = '"') : ¬isBlank c ∧ c ≠ '.' := by
  rcases h with rfl | rfl
  · decide
  · decide

theorem IsLexeme.exists_cons {policy : LeadingZeros} {kind : Kind} {l : Text}
    (h : IsLexeme policy kind l) : ∃ c t, l = c :: t ∧ ¬isBlank c := by
  match kind with
  | .identifier =>
      obtain ⟨c, w, rfl, hc, hw⟩ := h
      exact exists_cons_of_isWordChar (List.cons_ne_nil c w)
        (isWordChar_of_mem_isIdentifier hc hw)
  | .integer =>
      obtain ⟨sign, whole, hs, hw, rfl⟩ := h
      exact exists_cons_of_sign_append hs hw.1
  | .decimal =>
      obtain ⟨sign, whole, fraction, hs, hw, -, rfl⟩ := h
      obtain ⟨c, t, heq, hc⟩ := exists_cons_of_sign_append hs hw.1
      exact ⟨c, t ++ '.' :: fraction, by rw [heq]; rfl, hc⟩
  | .character =>
      obtain ⟨unit, -, rfl⟩ := h
      exact ⟨'\'', unit ++ ['\''], rfl, (not_isBlank_of_opens (Or.inl rfl)).1⟩
  | .string =>
      obtain ⟨body, -, rfl⟩ := h
      exact ⟨'"', body ++ ['"'], rfl, (not_isBlank_of_opens (Or.inr rfl)).1⟩
  | .operator =>
      rcases h with ⟨c, hc, rfl⟩ | ⟨c, hc, rfl⟩
      · refine ⟨c, ['='], rfl, fun hb => ?_⟩
        rcases comparison_cases hc with rfl | rfl | rfl | rfl <;> exact absurd hb (by decide)
      · exact ⟨c, [], rfl, not_isBlank_of_isSymbol hc⟩

theorem Malformed.exists_cons {policy : LeadingZeros} {fault : Fault} {consumed rest : Text}
    (h : Malformed policy fault consumed rest) :
    ∃ c t, consumed ++ rest = c :: t ∧ ¬isBlank c ∧ c ≠ '.' := by
  cases h with
  | @unexpectedCharacter c t hc hblank =>
      refine ⟨c, t, rfl, hblank, fun heq => ?_⟩
      rw [heq] at hc
      exact absurd hc (by decide)
  | leadingZero _ hsign _ =>
      rcases hsign with rfl | rfl
      · exact ⟨'0', rest, rfl, by decide, by decide⟩
      · exact ⟨'-', '0' :: rest, rfl, by decide, by decide⟩
  | emptyCharacter | multipleCharacters | unterminatedCharacter =>
      exact ⟨'\'', _, rfl, not_isBlank_of_opens (Or.inl rfl)⟩
  | controlCharacter | unterminatedString =>
      exact ⟨'"', _, rfl, not_isBlank_of_opens (Or.inr rfl)⟩
  | invalidEscape hopened =>
      rcases hopened with rfl | ⟨body, -, rfl⟩
      · exact ⟨'\'', _, rfl, not_isBlank_of_opens (Or.inl rfl)⟩
      · exact ⟨'"', _, rfl, not_isBlank_of_opens (Or.inr rfl)⟩

/-! ## No lexeme goes over the end of a line -/

theorem not_isLineBreak_of_isWordChar {c : Char} (h : isWordChar c) : ¬isLineBreak c :=
  fun hl => not_isWordChar_of_isBlank (isBlank_of_isLineBreak hl) h

theorem not_isLineBreak_of_mem_quoted {quote : Char} (hquote : ¬isLineBreak quote)
    {inside : Text} (hinside : ∀ c ∈ inside, ¬isLineBreak c) :
    ∀ c ∈ quote :: inside ++ [quote], ¬isLineBreak c := by
  intro c hc
  rcases List.mem_append.1 hc with hc | hc
  · rcases List.mem_cons.1 hc with rfl | hc
    · exact hquote
    · exact hinside c hc
  · rw [List.mem_singleton.1 hc]
    exact hquote

theorem IsLexeme.not_isLineBreak {policy : LeadingZeros} {kind : Kind} {l : Text}
    (h : IsLexeme policy kind l) : ∀ c ∈ l, ¬isLineBreak c := by
  match kind with
  | .identifier =>
      obtain ⟨c, w, rfl, hc, hw⟩ := h
      exact fun d hd => not_isLineBreak_of_isWordChar (isWordChar_of_mem_isIdentifier hc hw d hd)
  | .integer =>
      obtain ⟨sign, whole, hs, hw, rfl⟩ := h
      exact fun d hd => not_isLineBreak_of_isWordChar (isWordChar_of_mem_sign_append hs hw.1 d hd)
  | .decimal =>
      obtain ⟨sign, whole, fraction, hs, hw, hf, rfl⟩ := h
      intro d hd
      rcases List.mem_append.1 hd with hd | hd
      · exact not_isLineBreak_of_isWordChar (isWordChar_of_mem_sign_append hs hw.1 d hd)
      · rcases List.mem_cons.1 hd with rfl | hd
        · decide
        · exact not_isLineBreak_of_isWordChar (isWordChar_of_isDigit (hf.2 d hd))
  | .character =>
      obtain ⟨unit, hunit, rfl⟩ := h
      exact not_isLineBreak_of_mem_quoted (by decide)
        fun _ => not_isLineBreak_of_mem_isCharacterUnit hunit
  | .string =>
      obtain ⟨body, hbody, rfl⟩ := h
      exact not_isLineBreak_of_mem_quoted (by decide)
        fun _ => not_isLineBreak_of_mem_isStringBody hbody
  | .operator =>
      intro d hd hl
      rcases h with ⟨c, hc, rfl⟩ | ⟨c, hc, rfl⟩
      · rcases List.mem_cons.1 hd with rfl | hd
        · rcases lineBreak_cases hl with rfl | rfl <;> exact absurd hc (by decide)
        · rw [List.mem_singleton.1 hd] at hl
          exact absurd hl (by decide)
      · rw [List.mem_singleton.1 hd] at hl
        exact not_isBlank_of_isSymbol hc (isBlank_of_isLineBreak hl)

/-! ## What is consumed in front of a fault

It is a part of one line, and what is blamed lies in it or behind it. -/

theorem IsOpened.not_isLineBreak {t : Text} (h : IsOpened t) : ∀ c ∈ t, ¬isLineBreak c := by
  rcases h with rfl | ⟨body, hbody, rfl⟩
  · simp [isLineBreak]
  · exact List.forall_mem_cons.2
      ⟨by decide, fun _ => not_isLineBreak_of_mem_isStringBody hbody⟩

theorem not_isLineBreak_of_mem_backslash {t : Text} (h : t = [] ∨ t = ['\\']) :
    ∀ c ∈ t, ¬isLineBreak c := by
  rcases h with rfl | rfl
  · simp
  · simp [isLineBreak]

theorem Malformed.not_isLineBreak {policy : LeadingZeros} {fault : Fault}
    {consumed rest : Text} (h : Malformed policy fault consumed rest) :
    ∀ c ∈ consumed, ¬isLineBreak c := by
  cases h with
  | unexpectedCharacter => simp
  | leadingZero _ hsign _ =>
      have hzero : IsDigits ['0'] := ⟨List.cons_ne_nil _ _, by simp [isDigit]⟩
      exact fun c hc =>
        not_isLineBreak_of_isWordChar (isWordChar_of_mem_sign_append hsign hzero c hc)
  | emptyCharacter => simp [isLineBreak]
  | multipleCharacters hunit =>
      exact List.forall_mem_cons.2
        ⟨by decide, fun _ => not_isLineBreak_of_mem_isCharacterUnit hunit⟩
  | controlCharacter hbody =>
      exact List.forall_mem_cons.2
        ⟨by decide, fun _ => not_isLineBreak_of_mem_isStringBody hbody⟩
  | invalidEscape hopened =>
      exact List.forall_mem_append.2
        ⟨hopened.not_isLineBreak, not_isLineBreak_of_mem_backslash (Or.inr rfl)⟩
  | unterminatedCharacter hinside =>
      refine List.forall_mem_cons.2 ⟨by decide, ?_⟩
      rcases hinside with h | h | hunit
      · exact not_isLineBreak_of_mem_backslash (Or.inl h)
      · exact not_isLineBreak_of_mem_backslash (Or.inr h)
      · exact fun _ => not_isLineBreak_of_mem_isCharacterUnit hunit
  | unterminatedString hbody hlast =>
      refine List.forall_mem_cons.2 ⟨by decide, List.forall_mem_append.2 ⟨?_, ?_⟩⟩
      · exact fun _ => not_isLineBreak_of_mem_isStringBody hbody
      · exact not_isLineBreak_of_mem_backslash hlast

theorem Malformed.exists_eq_before_append {policy : LeadingZeros} {fault : Fault}
    {consumed rest : Text} (h : Malformed policy fault consumed rest) :
    ∃ more, consumed = fault.before ++ more := by
  cases h with
  | unexpectedCharacter | emptyCharacter | unterminatedCharacter | unterminatedString =>
      exact ⟨_, rfl⟩
  | multipleCharacters | controlCharacter => exact ⟨[], (List.append_nil _).symm⟩
  | leadingZero => exact ⟨['0'], rfl⟩
  | invalidEscape => exact ⟨['\\'], rfl⟩

end ImpLexer
