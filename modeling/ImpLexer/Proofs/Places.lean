import Mathlib.Data.List.DropRight
import Mathlib.Data.Prod.Lex
import ImpLexer.Proofs.Carry
import ImpLexer.Proofs.Diagnostics
import ImpLexer.Proofs.Stopping

/-!
# A place is known by its line and its column

A position is kept up to date character by character, and a reader finds it by
looking at the text: the bytes in front of it, the line feeds in front of it, and
what stands between the last of these and the place. `start_after_eq` says that
the two agree.

A reader is told lines and columns only, and a column falls back at every line
feed. Taken together they still grow with every character, as numbers of two
digits do, so they are in the order of the offsets and no two places of a text
have both in common.
-/

namespace ImpLexer

/-- What stands behind the last line feed of a text. -/
def Text.lastLine (t : Text) : Text := t.rtakeWhile (· ≠ '\n')

theorem Text.lastLine_concat (t : Text) (c : Char) :
    Text.lastLine (t ++ [c]) = if c = '\n' then [] else t.lastLine ++ [c] := by
  by_cases hc : c = '\n'
  · rw [if_pos hc]
    exact List.rtakeWhile_concat_neg _ _ _ (by simp [hc])
  · rw [if_neg hc]
    exact List.rtakeWhile_concat_pos _ _ _ (by simp [hc])

namespace Position

/-- What a reader is told of a place, in the order in which places are looked for:
line by line, and column by column within a line. -/
def coordinates (p : Position) : ℕ ×ₗ ℕ := toLex (p.line, p.column)

variable {p q : Position} {s s' t : Text}

theorem coordinates_lt_iff : p.coordinates < q.coordinates ↔
    p.line < q.line ∨ p.line = q.line ∧ p.column < q.column :=
  Prod.Lex.toLex_lt_toLex

/-! ## Looking at the text -/

theorem start_after_eq (t : Text) :
    start.after t = ⟨t.byteSize, 1 + t.count '\n', 1 + t.lastLine.length⟩ := by
  induction t using List.reverseRecOn with
  | nil => rfl
  | append_singleton t c ih =>
      rw [after_append, ih, after_cons, after_nil, advance, Text.lastLine_concat]
      by_cases hc : c = '\n'
      · subst hc
        simp [Nat.add_assoc]
      · simp [hc, Nat.add_assoc]

theorem line_start_after_eq_one_iff : (start.after t).line = 1 ↔ '\n' ∉ t := by
  rw [start_after_eq, Nat.add_eq_left, List.count_eq_zero]

/-! ## The order of the places in a text -/

theorem coordinates_lt_advance (p : Position) (c : Char) :
    p.coordinates < (p.advance c).coordinates := by
  rw [coordinates_lt_iff, advance]
  by_cases hc : c = '\n'
  · left
    simp [hc]
  · right
    simp [hc]

theorem coordinates_lt_after (p : Position) (ht : t ≠ []) :
    p.coordinates < (p.after t).coordinates := by
  induction t generalizing p with
  | nil => exact absurd rfl ht
  | cons c t ih =>
      have hfirst := p.coordinates_lt_advance c
      rw [after_cons]
      by_cases hnil : t = []
      · rwa [hnil]
      · exact hfirst.trans (ih (p.advance c) hnil)

/-- Of two places in a text one comes first, and does so by bytes and for a reader. -/
theorem eq_or_lt_of_isPrefix (hs : s <+: t) (hs' : s' <+: t) :
    s = s' ∨
      (start.after s).offset < (start.after s').offset ∧
        (start.after s).coordinates < (start.after s').coordinates ∨
      (start.after s').offset < (start.after s).offset ∧
        (start.after s').coordinates < (start.after s).coordinates := by
  have further : ∀ {u v : Text}, u <+: v → u = v ∨
      (start.after u).offset < (start.after v).offset ∧
        (start.after u).coordinates < (start.after v).coordinates := by
    rintro u v ⟨w, rfl⟩
    by_cases hw : w = []
    · simp [hw]
    · rw [after_append]
      exact Or.inr ⟨offset_lt_after _ hw, coordinates_lt_after _ hw⟩
  rcases List.prefix_or_prefix_of_prefix hs hs' with hprefix | hprefix
  · rcases further hprefix with heq | hlt
    · exact Or.inl heq
    · exact Or.inr (Or.inl hlt)
  · rcases further hprefix with heq | hlt
    · exact Or.inl heq.symm
    · exact Or.inr (Or.inr hlt)

theorem offset_lt_iff_of_isPrefix (hs : s <+: t) (hs' : s' <+: t) :
    (start.after s).offset < (start.after s').offset ↔
      (start.after s).coordinates < (start.after s').coordinates := by
  rcases eq_or_lt_of_isPrefix hs hs' with rfl | ⟨hoffset, hcoordinates⟩ | ⟨hoffset, hcoordinates⟩
  · simp
  · exact iff_of_true hoffset hcoordinates
  · exact iff_of_false hoffset.asymm hcoordinates.asymm

theorem coordinates_ne_of_isPrefix (hs : s <+: t) (hs' : s' <+: t) (hne : s ≠ s') :
    (start.after s).coordinates ≠ (start.after s').coordinates := by
  rcases eq_or_lt_of_isPrefix hs hs' with rfl | ⟨-, hlt⟩ | ⟨-, hlt⟩
  · exact absurd rfl hne
  · exact hlt.ne
  · exact hlt.ne'

theorem coordinates_eq_of_render_eq (h : p.render = q.render) : p.coordinates = q.coordinates := by
  have hbehind : [] ++ ':' :: p.render = [] ++ ':' :: q.render := by rw [h]
  obtain ⟨-, hline, hcolumn⟩ := append_render_inj hbehind
  rw [coordinates, coordinates, hline, hcolumn]

/-! ## One text behind another -/

theorem start_after_append (s t : Text) :
    start.after (s ++ t) = (start.after s).carry (start.after t) := by
  rw [carry_after _ proper_start, carry_start, after_append]

/-! ## Places in a text -/

/-- The place behind a part of a text is found by looking at that part. Places in one text
are in the same order by offset and by line and column, which are never the same for two of
them, nor is what is shown of them. And the place behind two texts is the one behind the
second, counted from behind the first. -/
theorem start_after_identifies_place (hs : s <+: t) (hs' : s' <+: t) :
    start.after s = ⟨s.byteSize, 1 + s.count '\n', 1 + s.lastLine.length⟩ ∧
    ((start.after s).offset < (start.after s').offset ↔
      (start.after s).coordinates < (start.after s').coordinates) ∧
    (s ≠ s' → (start.after s).coordinates ≠ (start.after s').coordinates ∧
      (start.after s).render ≠ (start.after s').render) ∧
    ∀ front back : Text, start.after (front ++ back) =
      { offset := (start.after front).offset + (start.after back).offset
        line := (start.after front).line + (start.after back).line - 1
        column :=
          if '\n' ∈ back then (start.after back).column
          else (start.after front).column + (start.after back).column - 1 } := by
  refine ⟨start_after_eq s, offset_lt_iff_of_isPrefix hs hs', ?_, ?_⟩
  · intro hne
    have hcoordinates := coordinates_ne_of_isPrefix hs hs' hne
    exact ⟨hcoordinates, fun h => hcoordinates (coordinates_eq_of_render_eq h)⟩
  · intro front back
    rw [start_after_append, carry]
    simp only [line_start_after_eq_one_iff, ite_not]

/-- The column falls back behind the line feed, and the carriage return, the tab and the
accent are columns like any other. -/
theorem start_after_identifies_behind_lineFeed :
    "é\r".toList <+: "é\r\n\tx".toList ∧ "é\r\n\t".toList <+: "é\r\n\tx".toList ∧
    start.after "é\r".toList = ⟨3, 1, 3⟩ ∧ start.after "é\r\n\t".toList = ⟨5, 2, 2⟩ ∧
    (start.after "é\r".toList).coordinates < (start.after "é\r\n\t".toList).coordinates ∧
    (start.after "é\r".toList).render ≠ (start.after "é\r\n\t".toList).render := by
  have hs : "é\r".toList <+: "é\r\n\tx".toList := ⟨"\n\tx".toList, rfl⟩
  have hs' : "é\r\n\t".toList <+: "é\r\n\tx".toList := ⟨"x".toList, rfl⟩
  obtain ⟨hplace, horder, hdiffers, -⟩ := start_after_identifies_place hs hs'
  obtain ⟨hplace', -, -, -⟩ := start_after_identifies_place hs' hs
  have hp : start.after "é\r".toList = ⟨3, 1, 3⟩ := hplace
  have hq : start.after "é\r\n\t".toList = ⟨5, 2, 2⟩ := hplace'
  refine ⟨hs, hs', hp, hq, horder.1 ?_, (hdiffers (by decide)).2⟩
  rw [hp, hq]
  decide

end Position

end ImpLexer
