import ImpLexer.Text.Class

/-!
# How a text begins

Every reader stops at the first character that it has no use for, and asks
nothing about the characters behind it. So whether a reader stops between two
texts is a question about the beginning of the second, and `Text.begins` asks
it of a class of characters. An empty text begins with no class at all, which
is how the end of the source comes to stop a reader as well.

The second half says which classes share no character. Most of them are finite,
and there it is enough to look at each member.
-/

namespace ImpLexer

namespace Text

/-- Is there a first character, and does it belong to the class `p`? -/
def begins (p : Char → Bool) : Text → Bool
  | [] => false
  | c :: _ => p c

@[simp] theorem begins_nil (p : Char → Bool) : begins p [] = false := rfl

@[simp] theorem begins_cons (p : Char → Bool) (c : Char) (t : Text) :
    begins p (c :: t) = p c := rfl

theorem begins_append {p : Char → Bool} {s : Text} (hs : s ≠ []) (t : Text) :
    begins p (s ++ t) = begins p s := by
  cases s with
  | nil => exact absurd rfl hs
  | cons c s => rfl

theorem begins_mono {p q : Char → Bool} (hpq : ∀ c, p c → q c) {t : Text}
    (h : begins p t) : begins q t := by
  cases t with
  | nil => cases h
  | cons c t => exact hpq c h

/-! ## Runs

A run of a class ends where the rest does not begin with it. -/

theorem not_begins_dropWhile (p : Char → Bool) (t : Text) :
    ¬begins p (t.dropWhile p) := by
  have h := List.head?_dropWhile_not p t
  cases hd : t.dropWhile p with
  | nil => simp
  | cons c r => rw [hd] at h; simpa using h

theorem takeWhile_run {p : Char → Bool} {s r : Text} (hs : ∀ c ∈ s, p c)
    (hr : ¬begins p r) : (s ++ r).takeWhile p = s := by
  rw [List.takeWhile_append_of_pos hs]
  cases r with
  | nil => simp
  | cons c r => rw [List.takeWhile_cons_of_neg (by simpa using hr), List.append_nil]

theorem dropWhile_run {p : Char → Bool} {s r : Text} (hs : ∀ c ∈ s, p c)
    (hr : ¬begins p r) : (s ++ r).dropWhile p = r := by
  rw [List.dropWhile_append_of_pos hs]
  cases r with
  | nil => rfl
  | cons c r => exact List.dropWhile_cons_of_neg (by simpa using hr)

theorem of_mem_takeWhile {p : Char → Bool} {t : Text} {c : Char}
    (h : c ∈ t.takeWhile p) : p c :=
  List.all_eq_true.1 List.all_takeWhile c h

end Text

/-! ## Classes that share no character -/

theorem blank_cases {c : Char} (h : isBlank c) :
    c = ' ' ∨ c = '\t' ∨ c = '\n' ∨ c = '\r' ∨ c = '\x08' := by
  simpa [isBlank, or_assoc] using h

theorem lineBreak_cases {c : Char} (h : isLineBreak c) : c = '\n' ∨ c = '\r' := by
  simpa [isLineBreak] using h

theorem isBlank_of_isLineBreak {c : Char} (h : isLineBreak c) : isBlank c := by
  rcases lineBreak_cases h with rfl | rfl <;> decide

theorem isControl_of_isLineBreak {c : Char} (h : isLineBreak c) : isControl c := by
  rcases lineBreak_cases h with rfl | rfl <;> decide

theorem invisible_of_isBlank {c : Char} (h : isBlank c) : isControl c ∨ isWhiteSpace c := by
  rcases blank_cases h with rfl | rfl | rfl | rfl | rfl <;> decide

theorem not_isWordChar_of_isBlank {c : Char} (h : isBlank c) : ¬isWordChar c := by
  rcases blank_cases h with rfl | rfl | rfl | rfl | rfl <;> decide

theorem not_isLineBreak_of_isEscapeCode {c : Char} (h : isEscapeCode c) :
    ¬isLineBreak c := by
  intro hl
  rcases lineBreak_cases hl with rfl | rfl <;> exact absurd h (by decide)

theorem isWordChar_of_isDigit {c : Char} (h : isDigit c) : isWordChar c := by
  simp [isWordChar, h]

theorem isDigit_iff {c : Char} : isDigit c ↔ 0x30 ≤ c.toNat ∧ c.toNat ≤ 0x39 := by
  simp [isDigit, Char.le_def, UInt32.le_iff_toNat_le]

theorem isLetter_iff {c : Char} :
    isLetter c ↔ 0x61 ≤ c.toNat ∧ c.toNat ≤ 0x7a ∨ 0x41 ≤ c.toNat ∧ c.toNat ≤ 0x5a := by
  simp [isLetter, Char.le_def, UInt32.le_iff_toNat_le]

theorem not_isWordStart_of_isDigit {c : Char} (h : isDigit c) : ¬isWordStart c := by
  intro hw
  simp only [isWordStart, Bool.or_eq_true, decide_eq_true_eq] at hw
  rcases hw with hl | rfl
  · have hn := isDigit_iff.1 h
    have hm := isLetter_iff.1 hl
    omega
  · exact absurd h (by decide)

theorem not_isWordChar_of_invisible {c : Char} (h : isControl c ∨ isWhiteSpace c) :
    ¬isWordChar c := by
  intro hw
  simp only [isControl, isWhiteSpace, Bool.or_eq_true, Bool.and_eq_true,
    decide_eq_true_eq] at h
  simp only [isWordChar, isWordStart, Bool.or_eq_true, decide_eq_true_eq, isLetter_iff,
    isDigit_iff] at hw
  rcases hw with ((hw | rfl) | hw) | rfl
  · omega
  · exact absurd h (by decide)
  · omega
  · exact absurd h (by decide)

end ImpLexer
