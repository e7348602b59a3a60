import Mathlib.Tactic.SplitIfs
import ImpLexer.Token.Basic

/-!
# Visible text stays on its line

Whatever the characters of a text are, none of those that stand for them is a
line feed. So a token takes one line of a listing, and the line feeds of a
listing count its tokens.
-/

namespace ImpLexer

namespace Text

variable {c : Char} {n : Nat}

theorem mem_hexadecimal (h : c ∈ hexadecimal n) : c ∈ "0123456789abcdef".toList := by
  have hdigit : ∀ n < 16, Nat.digitChar n ∈ "0123456789abcdef".toList := by decide
  induction n using Nat.strongRecOn with
  | ind n ih =>
      rw [hexadecimal, Nat.toDigits_eq_if (by decide)] at h
      split at h
      · next hn =>
          rw [List.mem_singleton.1 h]
          exact hdigit n hn
      · rcases List.mem_append.1 h with hfront | hlast
        · exact ih (n / 16) (by omega) hfront
        · rw [List.mem_singleton.1 hlast]
          exact hdigit (n % 16) (Nat.mod_lt n (by decide))

theorem isDigit_of_mem_decimal (h : c ∈ decimal n) : c.isDigit = true :=
  Nat.isDigit_of_mem_toDigits (by decide) (by decide) h

theorem notMem_decimal (hc : c.isDigit = false) (n : Nat) : c ∉ decimal n := by
  intro h
  rw [isDigit_of_mem_decimal h] at hc
  cases hc

theorem newline_notMem_codePoint (c : Char) : '\n' ∉ codePoint c := by
  intro h
  rcases List.mem_append.1 h with hfront | hlast
  · rcases List.mem_append.1 hfront with hopening | hdigits
    · revert hopening
      decide
    · have hmem := mem_hexadecimal hdigits
      revert hmem
      decide
  · revert hlast
    decide

theorem newline_notMem_visible (quote c : Char) : '\n' ∉ visible quote c := by
  unfold visible
  split_ifs with hnul htab hreturn hfeed hself hobscure
  · decide
  · decide
  · decide
  · decide
  · simp [Ne.symm hfeed]
  · exact newline_notMem_codePoint c
  · simp [Ne.symm hfeed]

theorem newline_notMem_ascii (c : Char) : '\n' ∉ ascii c := by
  unfold ascii
  split_ifs with htab hreturn hfeed hself hprintable
  · decide
  · decide
  · decide
  · simp [Ne.symm hfeed]
  · simp [Ne.symm hfeed]
  · exact newline_notMem_codePoint c

theorem newline_notMem_quotedChar (c : Char) : '\n' ∉ quotedChar c := by
  rw [quotedChar]
  simp [newline_notMem_visible]

theorem newline_notMem_quoted (t : Text) : '\n' ∉ t.quoted := by
  have hvisible : '\n' ∉ t.flatMap (visible '"') := by
    intro h
    obtain ⟨c, -, hc⟩ := List.mem_flatMap.1 h
    exact newline_notMem_visible '"' c hc
  rw [quoted]
  simp [hvisible]

end Text

theorem Kind.newline_notMem_name (kind : Kind) : '\n' ∉ kind.name := by
  cases kind with
  | character | decimal | identifier | integer | operator | string => decide

theorem Token.newline_notMem_render (token : Token) : '\n' ∉ token.render := by
  have hname := token.kind.newline_notMem_name
  have hliteral := Text.newline_notMem_quoted token.literal
  have hoffset : '\n' ∉ Text.decimal token.offset := Text.notMem_decimal rfl token.offset
  rw [render]
  simp [hname, hliteral, hoffset]

theorem Text.count_line {t : Text} (h : '\n' ∉ t) : t.line.count '\n' = 1 := by
  rw [line, List.count_append, List.count_eq_zero.2 h]
  rfl

/-- A listing has a line for each token. -/
theorem Token.count_newline (tokens : List Token) :
    (tokens.flatMap fun token => token.render.line).count '\n' = tokens.length := by
  induction tokens with
  | nil => rfl
  | cons token tokens ih =>
      rw [List.flatMap_cons, List.count_append, ih, Text.count_line token.newline_notMem_render,
        List.length_cons, Nat.add_comm]

end ImpLexer
