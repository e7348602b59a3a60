import Mathlib.Data.Option.Basic
import Mathlib.Logic.Function.Basic
import Mathlib.Tactic.SplitIfs
import ImpLexer.Proofs.Beginning
import ImpLexer.Proofs.Visible

/-!
# What was made visible can be read back

A character that is made visible can be read back, whatever stands behind it. A
form that begins with a backslash says itself how far it goes: one character, or
up to the brace that closes a code. Any other form is the character. So forms
that stand side by side fall apart in one way only, and neither a digit behind a
code nor a backslash behind a backslash is ever taken for a part of the form in
front of it.

`reveal?` reads one form, and reads both kinds of forms, the quoted and the
ASCII one. They disagree about which characters can be shown as they are and
about NUL, but whatever either of them writes means the same in the other. That
is all that a decoder has to get right here: it may read texts that nobody
writes as it likes.

Where parts of a text are put side by side without being made visible, a
separator tells them apart, if it is in none of the parts on one of its sides.
-/

namespace ImpLexer

namespace Text

/-! ## Separators -/

section

variable {a : Char} {s s' t t' : Text}

/-- The parts around the first separator. -/
theorem append_cons_inj_left (hs : a ∉ s) (hs' : a ∉ s') (h : s ++ a :: t = s' ++ a :: t') :
    s = s' ∧ t = t' := by
  have hrun : ∀ {u v : Text}, a ∉ u → (u ++ a :: v).takeWhile (· ≠ a) = u := by
    intro u v hu
    refine takeWhile_run (fun c hc => ?_) (by simp)
    rw [decide_eq_true_eq]
    rintro rfl
    exact hu hc
  have hfront : s = s' := by
    rw [← hrun (v := t) hs, h, hrun hs']
  subst hfront
  exact ⟨rfl, (List.cons.inj (List.append_cancel_left h)).2⟩

/-- The parts around the last separator. -/
theorem append_cons_inj_right (ht : a ∉ t) (ht' : a ∉ t') (h : s ++ a :: t = s' ++ a :: t') :
    s = s' ∧ t = t' := by
  have hreverse := congrArg List.reverse h
  simp only [List.reverse_append, List.reverse_cons, List.append_assoc, List.singleton_append]
    at hreverse
  obtain ⟨hback, hfront⟩ := append_cons_inj_left (mt List.mem_reverse.1 ht)
    (mt List.mem_reverse.1 ht') hreverse
  exact ⟨List.reverse_inj.1 hfront, List.reverse_inj.1 hback⟩

end

/-! ## Numerals -/

theorem decimal_injective : Function.Injective decimal := by
  intro m n h
  have hvalue := congrArg (Nat.ofDigitChars 10 · 0) h
  simpa only [decimal, Nat.ofDigitChars_ten_toDigits] using hvalue

def hexadecimalDigit (c : Char) : Nat := "0123456789abcdef".toList.idxOf c

def ofHexadecimal (t : Text) : Nat := t.foldl (fun n c => 16 * n + hexadecimalDigit c) 0

theorem hexadecimalDigit_digitChar : ∀ n < 16, hexadecimalDigit n.digitChar = n := by decide

theorem ofHexadecimal_hexadecimal (n : Nat) : ofHexadecimal (hexadecimal n) = n := by
  induction n using Nat.strongRecOn with
  | ind n ih =>
      rw [hexadecimal, Nat.toDigits_eq_if (by decide)]
      split
      · next hn => simp [ofHexadecimal, hexadecimalDigit_digitChar n hn]
      · have hfront : ofHexadecimal (Nat.toDigits 16 (n / 16)) = n / 16 := ih (n / 16) (by omega)
        have hlast := hexadecimalDigit_digitChar (n % 16) (Nat.mod_lt n (by decide))
        rw [ofHexadecimal] at hfront ⊢
        rw [List.foldl_append, hfront, List.foldl_cons, List.foldl_nil, hlast]
        omega

/-! ## One character -/

/-- The character that is meant by `c` behind a backslash. -/
def escaped (c : Char) : Char :=
  if c = '0' then '\x00'
  else if c = 't' then '\t'
  else if c = 'r' then '\r'
  else if c = 'n' then '\n'
  else c

/-- The character that is told of behind a backslash, and what follows. -/
def revealEscape? : Text → Option (Char × Text)
  | [] => none
  | c :: t =>
      if c = 'u' then
        let digits := (t.drop 1).takeWhile (· ≠ '\x7d')
        let rest := (t.drop 1).dropWhile (· ≠ '\x7d')
        some (Char.ofNat (ofHexadecimal digits), rest.drop 1)
      else some (escaped c, t)

/-- The character whose visible form stands at the front of a text, and what follows. -/
def reveal? : Text → Option (Char × Text)
  | [] => none
  | c :: t => if c = '\\' then revealEscape? t else some (c, t)

theorem reveal?_plain {c : Char} (hc : c ≠ '\\') (t : Text) : reveal? (c :: t) = some (c, t) :=
  if_neg hc

theorem reveal?_codePoint (c : Char) (t : Text) : reveal? (codePoint c ++ t) = some (c, t) := by
  have hdigits : ∀ d ∈ hexadecimal c.toNat, decide (d ≠ '\x7d') = true := by
    intro d hd
    rw [decide_eq_true_eq]
    rintro rfl
    exact absurd (mem_hexadecimal hd) (by decide)
  have hend : ¬begins (· ≠ '\x7d') ('\x7d' :: t) := by simp
  have hform : codePoint c ++ t =
      '\\' :: 'u' :: '\x7b' :: (hexadecimal c.toNat ++ '\x7d' :: t) := by
    simp [codePoint]
  rw [hform, reveal?, if_pos rfl, revealEscape?, if_pos rfl]
  simp only [List.drop_succ_cons, List.drop_zero]
  rw [takeWhile_run hdigits hend, dropWhile_run hdigits hend, ofHexadecimal_hexadecimal,
    Char.ofNat_toNat]
  rfl

/-- A mark that a text may be enclosed in. Behind a backslash it is no letter of an escape. -/
def IsMark (c : Char) : Prop := c = '\'' ∨ c = '"'

theorem IsMark.ne_backslash {c : Char} (hc : IsMark c) : c ≠ '\\' := by
  rcases hc with rfl | rfl <;> decide

theorem reveal?_self {c : Char} (hc : c = '\\' ∨ IsMark c) (t : Text) :
    reveal? ('\\' :: c :: t) = some (c, t) := by
  rcases hc with rfl | rfl | rfl <;> rfl

theorem reveal?_visible {quote : Char} (hquote : IsMark quote) (c : Char) (t : Text) :
    reveal? (visible quote c ++ t) = some (c, t) := by
  unfold visible
  split_ifs with hnul htab hreturn hfeed hself hobscure
  · rw [hnul]; rfl
  · rw [htab]; rfl
  · rw [hreturn]; rfl
  · rw [hfeed]; rfl
  · exact reveal?_self (hself.imp_right fun h => h ▸ hquote) t
  · exact reveal?_codePoint c t
  · exact reveal?_plain (fun h => hself (Or.inl h)) t

theorem reveal?_ascii (c : Char) (t : Text) : reveal? (ascii c ++ t) = some (c, t) := by
  unfold ascii
  split_ifs with htab hreturn hfeed hself hprintable
  · rw [htab]; rfl
  · rw [hreturn]; rfl
  · rw [hfeed]; rfl
  · have hmark : c = '\\' ∨ IsMark c := by
      rcases hself with h | h | h
      · exact Or.inr (Or.inl h)
      · exact Or.inr (Or.inr h)
      · exact Or.inl h
    exact reveal?_self hmark t
  · exact reveal?_plain (fun h => hself (Or.inr (Or.inr h))) t
  · exact reveal?_codePoint c t

/-- The character that is shown at the front of a text. -/
def shown? (t : Text) : Option Char := (reveal? t).map Prod.fst

theorem shown?_visible {quote : Char} (hquote : IsMark quote) (c : Char) (t : Text) :
    shown? (visible quote c ++ t) = some c := by
  rw [shown?, reveal?_visible hquote]
  rfl

theorem shown?_ascii (c : Char) (t : Text) : shown? (ascii c ++ t) = some c := by
  rw [shown?, reveal?_ascii]
  rfl

theorem ascii_injective : Function.Injective ascii := by
  have hshown : shown? ∘ ascii = some := by
    funext c
    rw [Function.comp_apply, ← List.append_nil (ascii c)]
    exact shown?_ascii c []
  exact .of_comp (hshown ▸ Option.some_injective Char)

/-! ## Quotations -/

theorem visible_append_inj {quote : Char} (hquote : IsMark quote) {c d : Char} {s t : Text}
    (h : visible quote c ++ s = visible quote d ++ t) : c = d ∧ s = t := by
  have hc := reveal?_visible hquote c s
  rw [h, reveal?_visible hquote] at hc
  exact ⟨(Prod.mk.inj (Option.some.inj hc)).1.symm, (Prod.mk.inj (Option.some.inj hc)).2.symm⟩

/-- No form begins with the mark that would close the quotation. -/
theorem visible_append_ne_cons {quote : Char} (hquote : IsMark quote) (c : Char) (s t : Text) :
    visible quote c ++ s ≠ quote :: t := by
  intro h
  have hc := reveal?_visible hquote c s
  rw [h, reveal?_plain hquote.ne_backslash] at hc
  obtain rfl : quote = c := (Prod.mk.inj (Option.some.inj hc)).1
  rcases hquote with rfl | rfl
  · exact absurd (List.cons.inj h).1 (by decide)
  · exact absurd (List.cons.inj h).1 (by decide)

theorem flatMap_visible_append_inj {quote : Char} (hquote : IsMark quote) {s s' t t' : Text}
    (h : s.flatMap (visible quote) ++ quote :: t = s'.flatMap (visible quote) ++ quote :: t') :
    s = s' ∧ t = t' := by
  induction s generalizing s' with
  | nil =>
      cases s' with
      | nil => exact ⟨rfl, (List.cons.inj h).2⟩
      | cons d s' =>
          rw [List.flatMap_cons, List.append_assoc] at h
          exact absurd h.symm (visible_append_ne_cons hquote d _ _)
  | cons c s ih =>
      rw [List.flatMap_cons, List.append_assoc] at h
      cases s' with
      | nil => exact absurd h (visible_append_ne_cons hquote c _ _)
      | cons d s' =>
          rw [List.flatMap_cons, List.append_assoc] at h
          obtain ⟨rfl, hmore⟩ := visible_append_inj hquote h
          obtain ⟨rfl, rfl⟩ := ih hmore
          exact ⟨rfl, rfl⟩

/-- A quotation tells where it ends. -/
theorem quoted_append_inj {s s' t t' : Text} (h : quoted s ++ t = quoted s' ++ t') :
    s = s' ∧ t = t' := by
  simp only [quoted, List.append_assoc, List.cons_append, List.nil_append] at h
  exact flatMap_visible_append_inj (Or.inr rfl) (List.cons.inj h).2

theorem quotedChar_injective : Function.Injective quotedChar := by
  intro c d h
  exact (visible_append_inj (Or.inl rfl) (List.cons.inj h).2).1

end Text

end ImpLexer
