import ImpLexer.LexError
import ImpLexer.Token.Basic

/-!
# Places seen from another place

Who starts in the middle of a source and counts from there finds other offsets,
lines and columns. `Position.carry` puts a place that was counted from `base`
back into the source: offsets add up, lines add up and meet in one line, and a
column moves only if it is on that line, since every later line begins by
itself.

Carrying goes along with moving (`carry_after`), and that is all that is to be
known about it. It needs lines and columns to be counted from one, which every
place does that is reached from the start of a text.
-/

namespace ImpLexer

open Text

namespace Position

/-- The place that `p` is, if it was counted from `base` on. -/
def carry (base p : Position) : Position where
  offset := base.offset + p.offset
  line := base.line + p.line - 1
  column := if p.line = 1 then base.column + p.column - 1 else p.column

/-- Lines and columns are counted from one. -/
def Proper (p : Position) : Prop := 1 ≤ p.line ∧ 1 ≤ p.column

theorem proper_start : start.Proper := ⟨Nat.le_refl 1, Nat.le_refl 1⟩

theorem Proper.advance {p : Position} (h : p.Proper) (c : Char) : (p.advance c).Proper := by
  obtain ⟨hline, hcolumn⟩ := h
  unfold Proper Position.advance
  simp only
  split <;> omega

theorem Proper.after {p : Position} (h : p.Proper) (t : Text) : (p.after t).Proper := by
  induction t generalizing p with
  | nil => exact h
  | cons c t ih => exact ih (h.advance c)

theorem carry_start (base : Position) : base.carry start = base := by
  obtain ⟨offset, line, column⟩ := base
  simp [carry, start]

theorem carry_advance (base : Position) {p : Position} (h : p.Proper) (c : Char) :
    base.carry (p.advance c) = (base.carry p).advance c := by
  obtain ⟨hline, hcolumn⟩ := h
  unfold carry advance
  by_cases hc : c = '\n'
  · simp only [hc, if_true, Position.mk.injEq]
    refine ⟨by omega, by omega, ?_⟩
    rw [if_neg (by omega)]
  · simp only [hc, if_false, Position.mk.injEq]
    refine ⟨by omega, trivial, ?_⟩
    by_cases hone : p.line = 1
    · rw [if_pos hone, if_pos hone]
      omega
    · rw [if_neg hone, if_neg hone]

theorem carry_after (base : Position) {p : Position} (h : p.Proper) (t : Text) :
    base.carry (p.after t) = (base.carry p).after t := by
  induction t generalizing p with
  | nil => rfl
  | cons c t ih => rw [after_cons, ih (h.advance c), carry_advance base h, after_cons]

end Position

/-! ## What carries a place -/

/-- The token, if its source begins at `base`. -/
def Token.carry (base : Position) (token : Token) : Token :=
  { token with offset := base.offset + token.offset }

/-- The error, if its source begins at `base`. -/
def LexError.carry (base : Position) (error : LexError) : LexError :=
  { error with position := base.carry error.position }

/-- An outcome, with the values carried by `value` and the errors as errors are. -/
def carryResult {α : Type} (value : α → α) (base : Position) :
    Except LexError α → Except LexError α
  | .ok a => .ok (value a)
  | .error error => .error (error.carry base)

end ImpLexer
