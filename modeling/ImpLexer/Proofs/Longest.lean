import Mathlib.Data.List.Basic
import ImpLexer.Proofs.Policies
import ImpLexer.Proofs.Restart

/-!
# The longest lexeme is read

A text may begin with many lexemes, of more than one kind: `-1.5x` begins with an
operator, an integer and a decimal. The token that is read is the longest of
them, and no other kind has a text that long. If no lexeme begins the text, none
is read. The policy on leading zeros takes nothing from this but the texts that
begin with a redundant zero.

That a reader stops where nothing joins its lexeme does not say that the lexeme
is the longest, since what a reader refuses to go on with could still begin a
lexeme of another kind. What closes the gap is that a lexeme which is joined by
the text behind it begins a longer one (`Kind.Joins.exists_longer`). So every
lexeme at the front of a text can be made longer until nothing joins it any more,
and then it is the one that is read. It is the grammar that makes this true:
`1.` is no lexeme, but neither does a point join `1` without a digit behind it.
-/

namespace ImpLexer

open Text

/-- The text begins with a lexeme of the kind, no lexeme at its front is longer, and the
lexeme is of no other kind. Whole numbers may begin with any digit. -/
structure IsLongest (text : Text) (kind : Kind) (literal : Text) : Prop where
  isPrefix : literal <+: text
  isLexeme : IsLexeme .allow kind literal
  longest : ∀ other l, l <+: text → IsLexeme .allow other l → l.length ≤ literal.length
  kind_unique : ∀ other, IsLexeme .allow other literal → other = kind

/-! ## A lexeme that is joined begins a longer one -/

theorem IsDigits.append {s t : Text} (hs : IsDigits s) (ht : IsDigits t) :
    IsDigits (s ++ t) := by
  refine ⟨fun h => hs.1 (List.append_eq_nil_iff.1 h).1, ?_⟩
  exact List.forall_mem_append.2 ⟨hs.2, ht.2⟩

theorem isDigits_singleton {c : Char} (hc : isDigit c) : IsDigits [c] :=
  ⟨List.cons_ne_nil _ _, by simpa using hc⟩

theorem exists_cons_of_begins {p : Char → Bool} {t : Text} (h : begins p t) :
    ∃ c r, t = c :: r ∧ p c := by
  cases t with
  | nil => cases h
  | cons c r => exact ⟨c, r, rfl, h⟩

theorem Kind.Joins.exists_longer {kind : Kind} {l next : Text}
    (hjoins : kind.Joins l next) (hl : IsLexeme .allow kind l) :
    ∃ other more rest, more ≠ [] ∧ next = more ++ rest ∧ IsLexeme .allow other (l ++ more) := by
  match kind with
  | .identifier =>
      obtain ⟨c, w, rfl, hc, hw⟩ := hl
      obtain ⟨d, rest, rfl, hd⟩ := exists_cons_of_begins hjoins
      have hword : ∀ e ∈ w ++ [d], isWordChar e := by
        simpa using fun e he => he.elim (hw e) (fun heq => heq ▸ hd)
      exact ⟨.identifier, [d], rest, List.cons_ne_nil _ _, rfl, c, w ++ [d], rfl, hc, hword⟩
  | .integer =>
      obtain ⟨sign, whole, hs, hw, rfl⟩ := hl
      rcases hjoins with hdigit | hfraction
      · obtain ⟨d, rest, rfl, hd⟩ := exists_cons_of_begins hdigit
        have hdigits := (isWhole_allow_iff.1 hw).append (isDigits_singleton hd)
        exact ⟨.integer, [d], rest, List.cons_ne_nil _ _, rfl, sign, whole ++ [d], hs,
          isWhole_allow_iff.2 hdigits, List.append_assoc ..⟩
      · obtain ⟨fraction, rest, rfl, hdigits, -⟩ := exists_fraction hfraction
        exact ⟨.decimal, '.' :: fraction, rest, List.cons_ne_nil _ _, rfl, sign, whole,
          fraction, hs, hw, hdigits, rfl⟩
  | .decimal =>
      obtain ⟨sign, whole, fraction, hs, hw, hf, rfl⟩ := hl
      obtain ⟨d, rest, rfl, hd⟩ := exists_cons_of_begins hjoins
      exact ⟨.decimal, [d], rest, List.cons_ne_nil _ _, rfl, sign, whole, fraction ++ [d], hs,
        hw, hf.append (isDigits_singleton hd), List.append_assoc ..⟩
  | .operator =>
      rcases hjoins with ⟨rfl, hdigit⟩ | ⟨⟨c, hc, rfl⟩, hequals⟩
      · obtain ⟨d, rest, rfl, hd⟩ := exists_cons_of_begins hdigit
        exact ⟨.integer, [d], rest, List.cons_ne_nil _ _, rfl, ['-'], [d], Or.inr rfl,
          isWhole_allow_iff.2 (isDigits_singleton hd), rfl⟩
      · obtain ⟨d, rest, rfl, hd⟩ := exists_cons_of_begins hequals
        obtain rfl : d = '=' := by simpa using hd
        exact ⟨.operator, ['='], rest, List.cons_ne_nil _ _, rfl, Or.inl ⟨c, hc, rfl⟩⟩
  | .character | .string => exact hjoins.elim

/-- A lexeme can be made longer until nothing joins it. -/
theorem IsLexeme.exists_not_joins {kind : Kind} {l : Text} (hl : IsLexeme .allow kind l)
    (next : Text) :
    ∃ other more rest, next = more ++ rest ∧ IsLexeme .allow other (l ++ more) ∧
      ¬other.Joins (l ++ more) rest := by
  by_cases hjoins : kind.Joins l next
  · obtain ⟨longer, more, rest, hne, rfl, hlonger⟩ := hjoins.exists_longer hl
    have hshorter : rest.length < (more ++ rest).length := by
      have hpos := List.length_pos_iff.2 hne
      rw [List.length_append]
      omega
    obtain ⟨other, more', rest', rfl, hother, hend⟩ := hlonger.exists_not_joins rest
    rw [List.append_assoc] at hother hend
    exact ⟨other, more ++ more', rest', (List.append_assoc ..).symm, hother, hend⟩
  · refine ⟨kind, [], next, rfl, ?_, ?_⟩
    · rwa [List.append_nil]
    · rwa [List.append_nil]
termination_by next.length

/-- Where a lexeme begins a text, one that is at least as long is read. -/
theorem exists_readLexeme_of_isLexeme {kind : Kind} {l : Text} (hl : IsLexeme .allow kind l)
    (next : Text) :
    ∃ other more rest, next = more ++ rest ∧
      readLexeme .allow (l ++ next) = .found other (l ++ more) rest := by
  obtain ⟨other, more, rest, rfl, hother, hend⟩ := hl.exists_not_joins next
  have hread := readLexeme_of_isLexeme hother hend
  rw [List.append_assoc] at hread
  exact ⟨other, more, rest, rfl, hread⟩

/-! ## What is read is the longest -/

/-- The six kinds share no text. -/
theorem IsLexeme.kind_eq {policy : LeadingZeros} {kind other : Kind} {l : Text}
    (h : IsLexeme policy kind l) (h' : IsLexeme policy other l) : kind = other := by
  have hread := readLexeme_of_isLexeme h (Kind.not_joins (Or.inl rfl))
  rw [readLexeme_of_isLexeme h' (Kind.not_joins (Or.inl rfl))] at hread
  exact Except.ok.inj (congrArg Reading.outcome hread.symm)

theorem of_readLexeme_eq_found {policy : LeadingZeros} {text literal next : Text} {kind : Kind}
    (h : readLexeme policy text = .found kind literal next) :
    text = literal ++ next ∧ IsLexeme policy kind literal ∧ ¬kind.Joins literal next := by
  have htext := text_readLexeme policy text
  rw [h, Reading.text_found] at htext
  cases text with
  | nil => cases h
  | cons c t =>
      have hblank : ¬isBlank c := by
        intro hc
        rw [readLexeme_of_isBlank hc] at h
        cases h
      have hlawful := lawful_readLexeme policy (List.cons_ne_nil c t) hblank
      rw [h] at hlawful
      exact ⟨htext.symm, hlawful.of_found⟩

theorem isLongest_of_readLexeme {text literal next : Text} {kind : Kind}
    (h : readLexeme .allow text = .found kind literal next) : IsLongest text kind literal := by
  obtain ⟨htext, hlexeme, -⟩ := of_readLexeme_eq_found h
  refine ⟨⟨next, htext.symm⟩, hlexeme, fun other l hprefix hl => ?_,
    fun other hother => hother.kind_eq hlexeme⟩
  obtain ⟨behind, rfl⟩ := hprefix
  obtain ⟨longer, more, rest, -, hread⟩ := exists_readLexeme_of_isLexeme hl behind
  rw [h] at hread
  have hliteral : literal = l ++ more := congrArg Reading.consumed hread
  rw [hliteral, List.length_append]
  omega

theorem exists_readLexeme_eq_found_iff {text : Text} :
    (∃ kind literal next, readLexeme .allow text = .found kind literal next) ↔
      ∃ kind l, l ≠ [] ∧ l <+: text ∧ IsLexeme .allow kind l := by
  constructor
  · rintro ⟨kind, literal, next, h⟩
    obtain ⟨htext, hlexeme, -⟩ := of_readLexeme_eq_found h
    obtain ⟨c, t, rfl, -⟩ := hlexeme.exists_cons
    exact ⟨kind, c :: t, List.cons_ne_nil _ _, ⟨next, htext.symm⟩, hlexeme⟩
  · rintro ⟨kind, l, -, ⟨behind, rfl⟩, hl⟩
    obtain ⟨other, more, rest, -, hread⟩ := exists_readLexeme_of_isLexeme hl behind
    exact ⟨other, _, rest, hread⟩

/-! ## What the policy changes -/

theorem readLexeme_of_isRedundant {text : Text} (h : IsRedundant text) :
    ∃ consumed rest sign,
      readLexeme .reject text = ⟨consumed, rest, .error ⟨.leadingZero, sign⟩⟩ := by
  obtain ⟨sign, t, hs, ht, rfl⟩ := h
  have hread := readLexeme_of_malformed (.leadingZero rfl hs ht)
  rw [List.append_assoc] at hread
  exact ⟨_, _, sign, hread⟩

theorem readLexeme_eq_allow {policy : LeadingZeros} {text : Text}
    (h : ¬(policy = .reject ∧ IsRedundant text)) :
    readLexeme policy text = readLexeme .allow text := by
  by_cases hnumber : startsNumber text
  · rw [readLexeme_of_startsNumber hnumber, readLexeme_of_startsNumber hnumber]
    obtain ⟨sign, body, rfl, hs, hb⟩ := exists_sign hnumber
    have hbody : ¬(policy = .reject ∧ startsRedundantly body) := by
      rintro ⟨hpolicy, hzero⟩
      obtain ⟨c, t, rfl, -⟩ := exists_cons_of_begins hb
      obtain ⟨rfl, ht⟩ := startsRedundantly_cons_iff.1 hzero
      exact h ⟨hpolicy, sign, t, hs, ht, rfl⟩
    have hallow : ¬(LeadingZeros.allow = .reject ∧ startsRedundantly body) := by simp
    rw [readNumber, readNumber, splitSign_append_of_isSign hs hb]
    simp only
    rw [if_neg hbody, if_neg hallow]
  · cases text with
    | nil => rfl
    | cons c t => rw [readLexeme, readLexeme, if_neg hnumber, if_neg hnumber]

theorem cause_ne_of_readLexeme_allow {text consumed rest : Text} {fault : Fault}
    (h : readLexeme .allow text = ⟨consumed, rest, .error fault⟩) :
    fault.cause ≠ .leadingZero := by
  cases text with
  | nil =>
      cases h
      simp
  | cons c t =>
      by_cases hblank : isBlank c
      · rw [readLexeme_of_isBlank hblank] at h
        cases h
        simp
      · have hlawful := lawful_readLexeme .allow (List.cons_ne_nil c t) hblank
        rw [h] at hlawful
        generalize hr : Reading.mk consumed rest (.error fault) = reading at hlawful
        cases hlawful with
        | found => cases hr
        | malformed hfault =>
            cases hr
            exact hfault.cause_ne_leadingZero

/-! ## Points -/

/-- In a number, a point has a digit behind it. -/
theorem IsLexeme.begins_isDigit_of_point {policy : LeadingZeros} {kind : Kind}
    (hkind : kind.IsNumber) {s t : Text} (h : IsLexeme policy kind (s ++ '.' :: t)) :
    begins isDigit t := by
  have hpoint : ∀ {front : Text}, (∀ c ∈ front, isWordChar c) → '.' ∉ front :=
    fun hfront hmem => absurd (hfront _ hmem) (by decide)
  rcases hkind with rfl | rfl
  · obtain ⟨sign, whole, hs, hw, heq⟩ := h
    have hmem : '.' ∈ sign ++ whole := by simp [← heq]
    exact absurd hmem (hpoint (isWordChar_of_mem_sign_append hs hw.1))
  · obtain ⟨sign, whole, fraction, hs, hw, hf, heq⟩ := h
    have hfront := hpoint (isWordChar_of_mem_sign_append hs hw.1)
    have hback := hpoint fun c hc => isWordChar_of_isDigit (hf.2 c hc)
    obtain ⟨-, -, rfl⟩ := (List.append_cons_inj_of_notMem hfront hback).1 heq.symm
    obtain ⟨d, w, rfl, hd, -⟩ := exists_cons_of_isDigits hf
    exact hd

/-! ## Tokens -/

/-- What is to be said of the outcome, and of the text behind it, when a token is asked for
in front of `text`. -/
structure ReadsLongest (policy : LeadingZeros) (text : Text) (result : Except LexError Token)
    (rest : Text) : Prop where
  /-- The redundant zero comes first, whatever the text goes on with. -/
  leadingZero_iff :
    (∃ place, result = .error ⟨.leadingZero, place⟩) ↔ policy = .reject ∧ IsRedundant text
  ok_iff : (∃ token, result = .ok token) ↔
    ¬(policy = .reject ∧ IsRedundant text) ∧
      ∃ kind l, l ≠ [] ∧ l <+: text ∧ IsLexeme .allow kind l
  isLongest : ∀ token, result = .ok token → IsLongest text token.kind token.literal
  text_eq : ∀ token, result = .ok token → text = token.literal ++ rest
  minus : ∀ token, result = .ok token → token.kind = .operator → token.literal = ['-'] →
    ¬begins isDigit rest
  point : ∀ token, result = .ok token → token.kind.IsNumber →
    ∀ s t, token.literal = s ++ '.' :: t → begins isDigit t

theorem ReadsLongest.of_error {policy : LeadingZeros} {text rest : Text} {error : LexError}
    (hcause : error.cause = .leadingZero ↔ policy = .reject ∧ IsRedundant text)
    (hnone : ¬(policy = .reject ∧ IsRedundant text) →
      ¬∃ kind l, l ≠ [] ∧ l <+: text ∧ IsLexeme .allow kind l) :
    ReadsLongest policy text (.error error) rest := by
  have hfailed : ¬∃ token, (Except.error error : Except LexError Token) = .ok token := by simp
  have hplace : (∃ place, (Except.error error : Except LexError Token) =
      .error ⟨.leadingZero, place⟩) ↔ error.cause = .leadingZero := by
    obtain ⟨cause, position⟩ := error
    simp
  exact
    { leadingZero_iff := hplace.trans hcause
      ok_iff := iff_of_false hfailed fun h => hnone h.1 h.2
      isLongest := fun token h => absurd ⟨token, h⟩ hfailed
      text_eq := fun token h => absurd ⟨token, h⟩ hfailed
      minus := fun token h => absurd ⟨token, h⟩ hfailed
      point := fun token h => absurd ⟨token, h⟩ hfailed }

namespace Lexer

theorem readsLongest_readToken (lexer : Lexer) :
    ReadsLongest lexer.config.leadingZeros lexer.rest lexer.readToken.1
      lexer.readToken.2.rest := by
  by_cases hredundant : lexer.config.leadingZeros = .reject ∧ IsRedundant lexer.rest
  · obtain ⟨consumed, rest, sign, hreading⟩ := readLexeme_of_isRedundant hredundant.2
    rw [← hredundant.1] at hreading
    rw [lexer.readToken_of_error hreading]
    exact .of_error (iff_of_true rfl hredundant) fun h => absurd hredundant h
  · have hsame := readLexeme_eq_allow hredundant
    have hfound := @exists_readLexeme_eq_found_iff lexer.rest
    generalize hreading : readLexeme .allow lexer.rest = reading at hsame hfound
    obtain ⟨consumed, rest, outcome⟩ := reading
    cases outcome with
    | error fault =>
        have hcause := cause_ne_of_readLexeme_allow hreading
        rw [lexer.readToken_of_error hsame]
        refine .of_error (iff_of_false hcause hredundant) fun _ h => ?_
        obtain ⟨kind, literal, next, heq⟩ := hfound.2 h
        cases heq
    | ok kind =>
        obtain ⟨htext, hlexeme, hend⟩ := of_readLexeme_eq_found hreading
        rw [lexer.readToken_of_found hsame]
        refine
          { leadingZero_iff := iff_of_false (by simp) hredundant
            ok_iff := iff_of_true ⟨_, rfl⟩ ⟨hredundant, hfound.1 ⟨kind, consumed, rest, rfl⟩⟩
            isLongest := fun token h => ?_
            text_eq := fun token h => ?_
            minus := fun token h hkind hliteral hdigit => ?_
            point := fun token h hnumber s t hliteral => ?_ }
        · cases h
          exact isLongest_of_readLexeme hreading
        · cases h
          exact htext
        · cases h
          rw [show kind = .operator from hkind] at hend
          exact hend (Or.inl ⟨hliteral, hdigit⟩)
        · cases h
          rw [show consumed = s ++ '.' :: t from hliteral] at hlexeme
          exact hlexeme.begins_isDigit_of_point hnumber

/-- Wherever a lexer has got to, it reads the longest lexeme of the text from there on, if
there is any, and the policy stops it at a redundant zero and nowhere else. No text is a
lexeme of two kinds. -/
theorem readToken_longest (config : Config) (source : Text) (actions : List Action) :
    (∃ text,
      dropBytes? ((ofText config source).performAll actions).position.offset source =
          some text ∧
        ReadsLongest config.leadingZeros text
          ((ofText config source).performAll actions).readToken.1
          ((ofText config source).performAll actions).readToken.2.rest) ∧
      ∀ kind other l, IsLexeme .allow kind l → IsLexeme .allow other l → kind = other := by
  have hat := (at_ofText config source).performAll actions
  generalize (ofText config source).performAll actions = reached at hat ⊢
  refine ⟨⟨reached.rest, hat.dropBytes?_eq, ?_⟩, fun kind other l h h' => h.kind_eq h'⟩
  rw [← hat.config_eq]
  exact reached.readsLongest_readToken

end Lexer

end ImpLexer
