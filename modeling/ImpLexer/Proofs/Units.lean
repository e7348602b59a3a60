import ImpLexer.Lexeme.Quotation
import ImpLexer.Proofs.Beginning
import ImpLexer.Token.Grammar

/-!
# Units are read one way only

The grammar says what a unit is, and that the inside of a string literal is any
number of them. The readers take units off the front of a text. What joins the
two is that there is never a choice: where a unit begins a text, no other does,
because a backslash is not a plain character. So a text that was put together
from units is taken apart into the same ones, and a text without a unit in
front is left alone.

Both literals are covered at once. `IsUnit` is the grammar's notion for any
class of plain characters, and the two notions of the grammar are instances.
-/

namespace ImpLexer

open Text

/-- An escape sequence, or one plain character. -/
def IsUnit (plain : Char → Bool) (u : Text) : Prop :=
  IsEscape u ∨ ∃ c, plain c ∧ u = [c]

theorem isUnit_escape (plain : Char → Bool) {d : Char} (hd : isEscapeCode d) :
    IsUnit plain ['\\', d] := Or.inl ⟨d, hd, rfl⟩

theorem isUnit_plain {plain : Char → Bool} {c : Char} (hc : plain c) :
    IsUnit plain [c] := Or.inr ⟨c, hc, rfl⟩

theorem isCharacterUnit_iff {u : Text} :
    IsCharacterUnit u ↔ IsUnit isCharacterPlain u := by
  simp [IsCharacterUnit, IsUnit, isCharacterPlain, isLineBreak, and_assoc]

theorem isStringUnit_iff {u : Text} : IsStringUnit u ↔ IsUnit isStringPlain u := by
  simp [IsStringUnit, IsUnit, isStringPlain, and_assoc]

theorem isCharacterPlain_backslash : isCharacterPlain '\\' = false := by decide

theorem isStringPlain_backslash : isStringPlain '\\' = false := by decide

theorem not_isLineBreak_of_isStringPlain {c : Char} (h : isStringPlain c) :
    ¬isLineBreak c := by
  intro hl
  simp [isStringPlain, isControl_of_isLineBreak hl] at h

/-- No unit of either kind goes over the end of a line, since a character that
would have to be plain or an escape code for that is neither. -/
theorem IsUnit.not_isLineBreak {plain : Char → Bool}
    (hplain : ∀ c, plain c → ¬isLineBreak c) {u : Text} (hu : IsUnit plain u)
    {c : Char} (hc : c ∈ u) : ¬isLineBreak c := by
  rcases hu with ⟨d, hd, rfl⟩ | ⟨d, hd, rfl⟩
  · rcases List.mem_cons.1 hc with rfl | hc
    · decide
    · rw [List.mem_singleton.1 hc]
      exact not_isLineBreak_of_isEscapeCode hd
  · rw [List.mem_singleton.1 hc]
    exact hplain d hd

/-! ## One unit -/

section

variable {plain : Char → Bool}

theorem splitUnit?_append_of_isUnit (hplain : plain '\\' = false) {u : Text}
    (hu : IsUnit plain u) (r : Text) : splitUnit? plain (u ++ r) = some (u, r) := by
  rcases hu with ⟨d, hd, rfl⟩ | ⟨c, hc, rfl⟩
  · simp [splitUnit?, hd]
  · have hne : c ≠ '\\' := by
      rintro rfl
      simp [hplain] at hc
    cases r <;> simp [splitUnit?, hc, hne]

theorem isUnit_of_splitUnit? {t u r : Text} (h : splitUnit? plain t = some (u, r)) :
    IsUnit plain u := by
  match t with
  | [] => cases h
  | [c] =>
      rw [splitUnit?] at h
      split at h
      · next hc => cases h; exact isUnit_plain hc
      · cases h
  | c :: d :: t =>
      rw [splitUnit?] at h
      split at h
      · next he =>
          obtain ⟨rfl, hd⟩ := he
          cases h
          exact isUnit_escape plain hd
      · split at h
        · next hc => cases h; exact isUnit_plain hc
        · cases h

theorem splitUnit?_cons_eq_none_iff {c : Char} {t : Text} :
    splitUnit? plain (c :: t) = none ↔
      ¬plain c ∧ ¬(c = '\\' ∧ begins isEscapeCode t) := by
  cases t with
  | nil => simp [splitUnit?]
  | cons d t =>
      rw [splitUnit?, begins_cons]
      split
      · next he => simp [he]
      · next he => split <;> simp_all

theorem splitUnit?_of_not_plain {c : Char} (hc : ¬plain c) (hne : c ≠ '\\') (t : Text) :
    splitUnit? plain (c :: t) = none :=
  splitUnit?_cons_eq_none_iff.2 ⟨hc, fun h => hne h.1⟩

theorem splitUnit?_backslash (hplain : plain '\\' = false) {t : Text}
    (ht : ¬begins isEscapeCode t) : splitUnit? plain ('\\' :: t) = none :=
  splitUnit?_cons_eq_none_iff.2 ⟨by simp [hplain], fun h => ht h.2⟩

/-! ## All units -/

theorem splitUnits_of_none {t : Text} (h : splitUnit? plain t = none) :
    splitUnits plain t = ([], t) := by
  match t with
  | [] => rfl
  | [c] =>
      have hc := (splitUnit?_cons_eq_none_iff.1 h).1
      rw [splitUnits, if_neg hc]
  | c :: d :: t =>
      obtain ⟨hc, he⟩ := splitUnit?_cons_eq_none_iff.1 h
      rw [begins_cons] at he
      rw [splitUnits, if_neg he, if_neg hc]

theorem splitUnits_append_of_isUnit (hplain : plain '\\' = false) {u : Text}
    (hu : IsUnit plain u) (t : Text) :
    splitUnits plain (u ++ t) =
      (u ++ (splitUnits plain t).1, (splitUnits plain t).2) := by
  rcases hu with ⟨d, hd, rfl⟩ | ⟨c, hc, rfl⟩
  · simp [splitUnits, hd]
  · have hne : c ≠ '\\' := by
      rintro rfl
      simp [hplain] at hc
    cases t <;> simp [splitUnits, hc, hne]

/-- Units that were put together are taken apart again, and then those behind them. -/
theorem splitUnits_flatten_append (hplain : plain '\\' = false) {units : List Text}
    (hunits : ∀ u ∈ units, IsUnit plain u) (t : Text) :
    splitUnits plain (units.flatten ++ t) =
      (units.flatten ++ (splitUnits plain t).1, (splitUnits plain t).2) := by
  induction units with
  | nil => rfl
  | cons u units ih =>
      have hu := hunits u (by simp)
      have htail := ih fun v hv => hunits v (by simp [hv])
      rw [List.flatten_cons, List.append_assoc, splitUnits_append_of_isUnit hplain hu, htail,
        List.append_assoc]

theorem splitUnits_flatten (hplain : plain '\\' = false) {units : List Text}
    (hunits : ∀ u ∈ units, IsUnit plain u) {r : Text} (hr : splitUnit? plain r = none) :
    splitUnits plain (units.flatten ++ r) = (units.flatten, r) := by
  rw [splitUnits_flatten_append hplain hunits, splitUnits_of_none hr, List.append_nil]

theorem exists_units (plain : Char → Bool) (t : Text) :
    ∃ units : List Text, (∀ u ∈ units, IsUnit plain u) ∧
      (splitUnits plain t).1 = units.flatten := by
  fun_induction splitUnits plain t with
  | case1 | case3 | case6 => exact ⟨[], by simp, rfl⟩
  | case2 c hc => exact ⟨[[c]], by simpa using isUnit_plain hc, rfl⟩
  | case4 c d t he units rest hs ih =>
      obtain ⟨us, hus, hflat⟩ := ih
      obtain ⟨rfl, hd⟩ := he
      rw [hs] at hflat
      refine ⟨['\\', d] :: us, ?_, congrArg (['\\', d] ++ ·) hflat⟩
      exact List.forall_mem_cons.2 ⟨isUnit_escape plain hd, hus⟩
  | case5 c d t _ hc units rest hs ih =>
      obtain ⟨us, hus, hflat⟩ := ih
      rw [hs] at hflat
      refine ⟨[c] :: us, ?_, congrArg ([c] ++ ·) hflat⟩
      exact List.forall_mem_cons.2 ⟨isUnit_plain hc, hus⟩

theorem splitUnit?_splitUnits (plain : Char → Bool) (t : Text) :
    splitUnit? plain (splitUnits plain t).2 = none := by
  fun_induction splitUnits plain t with
  | case1 | case2 => rfl
  | case3 c hc => simp [splitUnit?, hc]
  | case4 c d t _ units rest hs ih => rwa [hs] at ih
  | case5 c d t _ _ units rest hs ih => rwa [hs] at ih
  | case6 c d t he hc => rw [splitUnit?, if_neg he, if_neg hc]

end

/-! ## The inside of a string literal -/

theorem isStringBody_splitUnits (t : Text) :
    IsStringBody (splitUnits isStringPlain t).1 := by
  obtain ⟨units, hunits, hflat⟩ := exists_units isStringPlain t
  exact ⟨units, fun u hu => isStringUnit_iff.2 (hunits u hu), hflat⟩

theorem IsStringBody.append_unit {body u : Text} (hbody : IsStringBody body)
    (hu : IsStringUnit u) : IsStringBody (body ++ u) := by
  obtain ⟨units, hunits, rfl⟩ := hbody
  refine ⟨units ++ [u], fun v hv => ?_, by simp⟩
  rcases List.mem_append.1 hv with hv | hv
  · exact hunits v hv
  · rw [List.mem_singleton.1 hv]
    exact hu

theorem splitUnits_append_of_isStringBody {body : Text} (hbody : IsStringBody body)
    {r : Text} (hr : splitUnit? isStringPlain r = none) :
    splitUnits isStringPlain (body ++ r) = (body, r) := by
  obtain ⟨units, hunits, rfl⟩ := hbody
  exact splitUnits_flatten isStringPlain_backslash
    (fun u hu => isStringUnit_iff.1 (hunits u hu)) hr

/-- No body at the front of a text is longer than all the units there. -/
theorem IsStringBody.isPrefix_splitUnits {body t : Text} (hbody : IsStringBody body)
    (ht : body <+: t) : body <+: (splitUnits isStringPlain t).1 := by
  obtain ⟨units, hunits, rfl⟩ := hbody
  obtain ⟨behind, rfl⟩ := ht
  rw [splitUnits_flatten_append isStringPlain_backslash
    fun u hu => isStringUnit_iff.1 (hunits u hu)]
  exact List.prefix_append _ _

theorem not_isLineBreak_of_mem_isStringBody {body : Text} (hbody : IsStringBody body)
    {c : Char} (hc : c ∈ body) : ¬isLineBreak c := by
  obtain ⟨units, hunits, rfl⟩ := hbody
  obtain ⟨u, hu, hcu⟩ := List.mem_flatten.1 hc
  exact (isStringUnit_iff.1 (hunits u hu)).not_isLineBreak
    (fun _ => not_isLineBreak_of_isStringPlain) hcu

theorem not_isLineBreak_of_mem_isCharacterUnit {u : Text} (hu : IsCharacterUnit u)
    {c : Char} (hc : c ∈ u) : ¬isLineBreak c := by
  refine (isCharacterUnit_iff.1 hu).not_isLineBreak (fun d hd hl => ?_) hc
  simp [isCharacterPlain, hl] at hd

end ImpLexer
