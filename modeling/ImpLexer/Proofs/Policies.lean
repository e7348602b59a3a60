import ImpLexer.Proofs.Coverage

/-!
# The two policies differ in redundant zeros and in nothing else

Rejecting redundant zeros is a check on numbers, and it should be no more than
that: a source without a redundant zero has the same tokens or the same error
under both policies, and one that has such a zero is cut off at the first of
them, whatever may be wrong behind it.

The grammars differ in one place. A lexeme of the policy that allows is one of
the policy that rejects unless it is a number with a redundant zero
(`isLexeme_reject_iff`), and a fault of either is one of the other unless it is
the redundant zero itself. So the row that a source is under rejection is its
row under allowance as well, as far as it goes. Either it goes to the end, or
it stops in front of a zero with a digit behind it, where the other policy
finds a number. `underRejection` tells the two apart, and the theorem is
read off it.
-/

namespace ImpLexer

open Text Piece

/-! ## Redundant zeros -/

/-- Behind the sign, if there is one, stand a zero and another digit. -/
def IsRedundant (literal : Text) : Prop :=
  ∃ sign tail, IsSign sign ∧ begins isDigit tail ∧ literal = sign ++ '0' :: tail

/-- A kind of number. -/
def Kind.IsNumber (kind : Kind) : Prop := kind = .integer ∨ kind = .decimal

/-- A number with a redundant zero. -/
def Token.Redundant (token : Token) : Prop :=
  token.kind.IsNumber ∧ IsRedundant token.literal

/-- The first digit of the token, which is a token of the source, is a zero that
stands at `p`. -/
def Token.ZeroAt (source : Text) (token : Token) (p : Position) : Prop :=
  ∃ before sign tail behind, source = before ++ (token.literal ++ behind) ∧
    token.offset = before.byteSize ∧ IsSign sign ∧ token.literal = sign ++ '0' :: tail ∧
    p = Position.start.after (before ++ sign)

theorem Token.ZeroAt.unique {source : Text} {token : Token} {p q : Position}
    (hp : token.ZeroAt source p) (hq : token.ZeroAt source q) : p = q := by
  obtain ⟨before, sign, tail, behind, hsource, hoffset, hs, hliteral, rfl⟩ := hp
  obtain ⟨before', sign', tail', behind', hsource', hoffset', hs', hliteral', rfl⟩ := hq
  have hbefore := (append_inj_of_byteSize (hsource.symm.trans hsource')
    (hoffset.symm.trans hoffset')).1
  have hsign := (sign_append_inj hs hs' (begins_isDigit_zero tail) (begins_isDigit_zero tail')
    (hliteral.symm.trans hliteral')).1
  rw [hbefore, hsign]

/-! ## Two grammars -/

/-- What rejection asks of the digits in front of a fraction, seen in the whole
number. -/
theorem isWhole_reject_iff {sign whole : Text} (hs : IsSign sign) (hw : IsDigits whole)
    (rest : Text) (hrest : ¬begins isDigit rest) :
    IsWhole .reject whole ↔ ¬IsRedundant (sign ++ (whole ++ rest)) := by
  obtain ⟨c, w, rfl, hc, hdigits⟩ := exists_cons_of_isDigits hw
  constructor
  · rintro ⟨-, hzero⟩ ⟨sign', tail, hs', htail, heq⟩
    have hfirst : begins isDigit (c :: w ++ rest) := hc
    have hbody := (sign_append_inj hs hs' hfirst (begins_isDigit_zero tail) heq).2
    obtain ⟨rfl, rfl⟩ := List.cons.inj hbody
    rcases hzero with h | h | h
    · cases h
    · rw [(List.cons.inj h).2] at htail
      exact hrest htail
    · exact h rfl
  · intro hredundant
    refine ⟨hw, Or.inr ?_⟩
    by_cases hzero : c = '0'
    · subst hzero
      cases w with
      | nil => exact Or.inl rfl
      | cons d w =>
          have hd : isDigit d := hdigits d (List.mem_cons_self ..)
          exact absurd ⟨sign, d :: w ++ rest, hs, hd, rfl⟩ hredundant
    · exact Or.inr fun h => hzero (Option.some.inj h)

theorem isWhole_allow_iff {whole : Text} : IsWhole .allow whole ↔ IsDigits whole := by
  simp [IsWhole]

theorem isLexeme_reject_iff {kind : Kind} {l : Text} :
    IsLexeme .reject kind l ↔ IsLexeme .allow kind l ∧ ¬(kind.IsNumber ∧ IsRedundant l) := by
  match kind with
  | .identifier | .character | .string | .operator =>
      simp [IsLexeme, Kind.IsNumber]
  | .integer =>
      have hnumber : Kind.integer.IsNumber := Or.inl rfl
      constructor
      · rintro ⟨sign, whole, hs, hw, rfl⟩
        refine ⟨⟨sign, whole, hs, isWhole_allow_iff.2 hw.1, rfl⟩, fun h => ?_⟩
        have hnot := (isWhole_reject_iff hs hw.1 [] (by simp)).1 hw
        rw [List.append_nil] at hnot
        exact hnot h.2
      · rintro ⟨⟨sign, whole, hs, hw, rfl⟩, hnot⟩
        refine ⟨sign, whole, hs, ?_, rfl⟩
        rw [isWhole_reject_iff hs hw.1 [] (by simp), List.append_nil]
        exact fun h => hnot ⟨hnumber, h⟩
  | .decimal =>
      have hnumber : Kind.decimal.IsNumber := Or.inr rfl
      have hpoint : ∀ fraction, ¬begins isDigit ('.' :: fraction) := by simp [isDigit]
      constructor
      · rintro ⟨sign, whole, fraction, hs, hw, hf, rfl⟩
        refine ⟨⟨sign, whole, fraction, hs, isWhole_allow_iff.2 hw.1, hf, rfl⟩, fun h => ?_⟩
        have hnot := (isWhole_reject_iff hs hw.1 _ (hpoint fraction)).1 hw
        rw [← List.append_assoc] at hnot
        exact hnot h.2
      · rintro ⟨⟨sign, whole, fraction, hs, hw, hf, rfl⟩, hnot⟩
        refine ⟨sign, whole, fraction, hs, ?_, hf, rfl⟩
        rw [isWhole_reject_iff hs hw.1 _ (hpoint fraction), ← List.append_assoc]
        exact fun h => hnot ⟨hnumber, h⟩

theorem Malformed.change_policy {policy : LeadingZeros} {fault : Fault}
    {consumed rest : Text} (h : Malformed policy fault consumed rest)
    (hcause : fault.cause ≠ .leadingZero) (policy' : LeadingZeros) :
    Malformed policy' fault consumed rest := by
  cases h with
  | leadingZero => exact absurd rfl hcause
  | unexpectedCharacter hc hblank => exact .unexpectedCharacter hc hblank
  | emptyCharacter => exact .emptyCharacter
  | multipleCharacters hunit hquote hline => exact .multipleCharacters hunit hquote hline
  | controlCharacter hbody hcontrol hline => exact .controlCharacter hbody hcontrol hline
  | invalidEscape hopened hcode hline => exact .invalidEscape hopened hcode hline
  | unterminatedCharacter hinside hend => exact .unterminatedCharacter hinside hend
  | unterminatedString hbody hlast hend => exact .unterminatedString hbody hlast hend

theorem Malformed.cause_ne_leadingZero {fault : Fault} {consumed rest : Text}
    (h : Malformed .allow fault consumed rest) : fault.cause ≠ .leadingZero := by
  cases h with
  | leadingZero hpolicy => cases hpolicy
  | _ => simp

/-! ## Where rejection stops -/

theorem exists_readNumber_allow {sign body : Text} (hs : IsSign sign)
    (hb : begins isDigit body) :
    ∃ kind fraction next, kind.IsNumber ∧
      readNumber .allow (sign ++ body) =
        .found kind (sign ++ body.takeWhile isDigit ++ fraction) next := by
  rw [readNumber, splitSign_append_of_isSign hs hb]
  simp only
  rw [if_neg (by simp)]
  refine ⟨_, _, _, ?_, rfl⟩
  split
  · exact Or.inl rfl
  · exact Or.inr rfl

/-- Where rejection stops, allowance goes on with a number. -/
theorem exists_redundant_number {sign t : Text} (hs : IsSign sign) (ht : begins isDigit t) :
    ∃ kind tail next, sign ++ ['0'] ++ t = sign ++ '0' :: tail ++ next ∧
      kind.IsNumber ∧ begins isDigit tail ∧ IsLexeme .allow kind (sign ++ '0' :: tail) ∧
      ¬kind.Joins (sign ++ '0' :: tail) next := by
  have hzero := begins_isDigit_zero t
  obtain ⟨kind, fraction, next, hkind, hread⟩ := exists_readNumber_allow hs hzero
  have hlawful : (readNumber .allow (sign ++ '0' :: t)).Lawful .allow :=
    lawful_readNumber (startsNumber_append hs hzero)
  have htext := text_readNumber .allow (sign ++ '0' :: t)
  rw [hread] at hlawful htext
  cases t with
  | nil => cases ht
  | cons d t =>
      have hrun : ('0' :: d :: t).takeWhile isDigit = '0' :: d :: t.takeWhile isDigit := by
        have hd : isDigit d := ht
        rw [List.takeWhile_cons_of_pos (by decide), List.takeWhile_cons_of_pos hd]
      rw [hrun, List.append_assoc] at hlawful htext
      obtain ⟨hlexeme, hend⟩ := hlawful.of_found
      refine ⟨kind, d :: t.takeWhile isDigit ++ fraction, next, ?_, hkind, ht, hlexeme, hend⟩
      rw [List.append_assoc]
      exact htext.symm

/-! ## Whole sources -/

theorem Legible.allow {pieces : List Piece} {tail : Text}
    (h : Legible .reject pieces tail) : Legible .allow pieces tail where
  fits piece hpiece :=
    ⟨(h.fits piece hpiece).gap, (isLexeme_reject_iff.1 (h.fits piece hpiece).literal).1⟩
  apart := h.apart

theorem Legible.not_redundant {pieces : List Piece} {tail : Text}
    (h : Legible .reject pieces tail) (n : Nat) : ∀ token ∈ place n pieces, ¬token.Redundant := by
  rintro token htoken ⟨hkind, hredundant⟩
  obtain ⟨piece, hpiece, hkind', hliteral⟩ := exists_literal_of_mem_place htoken
  rw [hkind'] at hkind
  rw [hliteral] at hredundant
  exact (isLexeme_reject_iff.1 (h.fits piece hpiece).literal).2 ⟨hkind, hredundant⟩

/-- What is found of a source if redundant zeros are allowed, be it free of errors or
not. -/
def allowedTokens (source : Text) : List Token := (Lexer.ofText ⟨.allow⟩ source).scan.tokens

/-- The first of the tokens that is a number with a redundant zero. -/
def FirstRedundant (tokens : List Token) (token : Token) : Prop :=
  ∃ front back, tokens = front ++ token :: back ∧ (∀ other ∈ front, ¬other.Redundant) ∧
    token.Redundant

theorem FirstRedundant.exists_mem {tokens : List Token} {token : Token}
    (h : FirstRedundant tokens token) : ∃ token ∈ tokens, token.Redundant := by
  obtain ⟨front, back, rfl, -, hredundant⟩ := h
  exact ⟨token, List.mem_append_right front (List.mem_cons_self ..), hredundant⟩

theorem FirstRedundant.unique {tokens : List Token} {a b : Token}
    (ha : FirstRedundant tokens a) (hb : FirstRedundant tokens b) : a = b := by
  obtain ⟨front, back, rfl, hfront, ha⟩ := ha
  obtain ⟨front', back', heq, hfront', hb⟩ := hb
  induction front generalizing front' with
  | nil =>
      cases front' with
      | nil => exact (List.cons.inj heq).1
      | cons c front' =>
          rw [(List.cons.inj heq).1] at ha
          exact absurd ha (hfront' c (List.mem_cons_self ..))
  | cons c front ih =>
      obtain ⟨hc, hfront⟩ := List.forall_mem_cons.1 hfront
      cases front' with
      | nil =>
          rw [← (List.cons.inj heq).1] at hb
          exact absurd hb hc
      | cons d front' =>
          exact ih hfront front' (List.cons.inj heq).2 (List.forall_mem_cons.1 hfront').2

/-- What rejection makes of a source: the same as allowance, or it stops at the first
redundant zero. -/
inductive UnderRejection (source : Text) : Prop where
  | same (heq : lex ⟨.reject⟩ source = lex ⟨.allow⟩ source)
      (hnone : ∀ token ∈ allowedTokens source, ¬token.Redundant)
  | cut {token : Token} {p : Position} (hfirst : FirstRedundant (allowedTokens source) token)
      (hzero : token.ZeroAt source p)
      (hlex : lex ⟨.reject⟩ source = .error ⟨.leadingZero, p⟩)

theorem exists_allowedTokens_print {pieces : List Piece} {tail : Text}
    (h : Legible .allow pieces tail) :
    ∃ more, allowedTokens (print pieces tail) = place 0 pieces ++ more := by
  have hrest : (Lexer.ofText ⟨.allow⟩ (print pieces tail)).rest = print pieces tail := rfl
  obtain ⟨last, -, -, -, hscan⟩ := Lexer.scan_print h hrest
  exact ⟨last.scan.tokens, congrArg Scan.tokens hscan⟩

theorem UnderRejection.of_redundant {pieces : List Piece} {gap sign t : Text}
    (hlegible : Legible .reject pieces (gap ++ (sign ++ ['0'] ++ t))) (hgap : IsGap gap)
    (hs : IsSign sign) (ht : begins isDigit t) :
    UnderRejection (print pieces (gap ++ (sign ++ ['0'] ++ t))) := by
  obtain ⟨kind, tail, next, htext, hkind, htail, hlexeme, hend⟩ := exists_redundant_number hs ht
  have hreject : lex ⟨.reject⟩ (print pieces (gap ++ (sign ++ ['0'] ++ t))) = _ :=
    lex_print_of_malformed hlegible hgap (.leadingZero rfl hs ht)
  have hallow := hlegible.allow
  rw [htext] at hreject hallow ⊢
  have hnumber : Legible .allow [⟨gap, kind, sign ++ '0' :: tail⟩] next :=
    legible_cons_iff.2 ⟨⟨⟨hgap, hlexeme⟩, hend⟩, legible_nil next⟩
  obtain ⟨more, htokens⟩ := exists_allowedTokens_print (legible_append_iff.2 ⟨hallow, hnumber⟩)
  rw [print_append, place_append, place, List.append_assoc, List.cons_append, Nat.zero_add,
    ← byteSize_append, ← print_eq_append] at htokens
  refine .cut ⟨_, more, htokens, hlegible.not_redundant 0, hkind, sign, tail, hs, htail, rfl⟩
    ?_ hreject
  exact ⟨print pieces gap, sign, tail, next, (print_append_text ..).symm, rfl, hs, rfl,
    by rw [print_append_text]⟩

theorem underRejection (source : Text) : UnderRejection source := by
  obtain ⟨pieces, tail, rfl, hlegible, htail⟩ := exists_pieces .reject source
  have hallow := hlegible.allow
  have hsame : Tail .allow tail →
      lex ⟨.reject⟩ (print pieces tail) = lex ⟨.allow⟩ (print pieces tail) →
        UnderRejection (print pieces tail) := by
    intro htail' heq
    refine .same heq ?_
    rw [allowedTokens, (Lexer.ofText ⟨.allow⟩ _).scan_tokens_print hallow htail' rfl]
    exact hlegible.not_redundant 0
  cases htail with
  | blank hgap =>
      have hreject : lex ⟨.reject⟩ (print pieces tail) = _ := lex_print_of_isGap hlegible hgap
      have hallow' : lex ⟨.allow⟩ (print pieces tail) = _ := lex_print_of_isGap hallow hgap
      exact hsame (.blank hgap) (hreject.trans hallow'.symm)
  | @stuck gap consumed rest fault hgap hfault =>
      by_cases hcause : fault.cause = .leadingZero
      · cases hfault with
        | leadingZero _ hs ht => exact .of_redundant hlegible hgap hs ht
        | _ => cases hcause
      · have hfault' := hfault.change_policy hcause .allow
        have hreject : lex ⟨.reject⟩ (print pieces (gap ++ (consumed ++ rest))) = _ :=
          lex_print_of_malformed hlegible hgap hfault
        have hallow' : lex ⟨.allow⟩ (print pieces (gap ++ (consumed ++ rest))) = _ :=
          lex_print_of_malformed hallow hgap hfault'
        exact hsame (.stuck hgap hfault') (hreject.trans hallow'.symm)

theorem cause_ne_of_lex_allow {source : Text} {error : LexError}
    (h : lex ⟨.allow⟩ source = .error error) : error.cause ≠ .leadingZero := by
  obtain ⟨pieces, gap, consumed, rest, fault, -, -, -, hfault, rfl⟩ :=
    exists_pieces_of_lex_eq_error h
  exact hfault.cause_ne_leadingZero

theorem allowedTokens_of_lex_eq_ok {source : Text} {tokens : List Token}
    (h : lex ⟨.allow⟩ source = .ok tokens) : allowedTokens source = tokens :=
  Scan.tokens_eq_of_result_eq_ok h

/-- Rejection gives the same tokens as allowance if none of them has a redundant zero, and
no tokens otherwise; the same error, unless it is a redundant zero; and this error exactly
at the first redundant zero that allowance finds, whatever comes of the source behind it.
Allowance never gives this error. -/
theorem lex_reject_compared_with_allow (source : Text) :
    (∀ tokens, lex ⟨.reject⟩ source = .ok tokens ↔
        lex ⟨.allow⟩ source = .ok tokens ∧ ∀ token ∈ tokens, ¬token.Redundant) ∧
      (∀ error, lex ⟨.reject⟩ source = .error error → error.cause ≠ .leadingZero →
        lex ⟨.allow⟩ source = .error error) ∧
      (∀ p, lex ⟨.reject⟩ source = .error ⟨.leadingZero, p⟩ ↔
        ∃ token, FirstRedundant (allowedTokens source) token ∧ token.ZeroAt source p) ∧
      ∀ error, lex ⟨.allow⟩ source = .error error → error.cause ≠ .leadingZero := by
  refine ⟨fun tokens => ?_, ?_, fun p => ?_, fun error => cause_ne_of_lex_allow⟩
  · cases underRejection source with
    | same heq hnone =>
        rw [heq]
        refine ⟨fun h => ⟨h, ?_⟩, fun h => h.1⟩
        rw [← allowedTokens_of_lex_eq_ok h]
        exact hnone
    | cut hfirst _ hlex =>
        rw [hlex]
        constructor
        · intro h
          cases h
        · rintro ⟨h, hnone⟩
          rw [allowedTokens_of_lex_eq_ok h] at hfirst
          obtain ⟨other, hmem, hredundant⟩ := hfirst.exists_mem
          exact absurd hredundant (hnone other hmem)
  · intro error h hcause
    cases underRejection source with
    | same heq _ => rwa [heq] at h
    | cut _ _ hlex =>
        rw [hlex] at h
        cases h
        exact absurd rfl hcause
  · cases underRejection source with
    | same heq hnone =>
        rw [heq]
        constructor
        · intro h
          exact absurd rfl (cause_ne_of_lex_allow h)
        · rintro ⟨token, hfirst, -⟩
          obtain ⟨other, hmem, hredundant⟩ := hfirst.exists_mem
          exact absurd hredundant (hnone other hmem)
    | @cut token q hfirst hzero hlex =>
        rw [hlex]
        constructor
        · intro h
          cases h
          exact ⟨token, hfirst, hzero⟩
        · rintro ⟨other, hother, hzero'⟩
          rw [hother.unique hfirst] at hzero'
          rw [hzero'.unique hzero]

/-- The redundant zero is met before the quotation mark that is never closed, and it stands
behind the sign of a number that has a fraction. -/
theorem lex_reject_name_number_quote :
    lex ⟨.reject⟩ ['x', ' ', '-', '0', '0', '.', '5', ' ', '\''] =
        .error ⟨.leadingZero, ⟨3, 1, 4⟩⟩ ∧
      ∃ token,
        FirstRedundant (allowedTokens ['x', ' ', '-', '0', '0', '.', '5', ' ', '\'']) token ∧
          token.ZeroAt ['x', ' ', '-', '0', '0', '.', '5', ' ', '\''] ⟨3, 1, 4⟩ := by
  have h : lex ⟨.reject⟩ ['x', ' ', '-', '0', '0', '.', '5', ' ', '\''] =
      .error ⟨.leadingZero, ⟨3, 1, 4⟩⟩ := lex_eq_scanUpTo _ _
  exact ⟨h, ((lex_reject_compared_with_allow _).2.2.1 _).1 h⟩

end ImpLexer
