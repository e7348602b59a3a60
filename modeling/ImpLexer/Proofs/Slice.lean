import ImpLexer.Text.Basic

/-!
# Cutting a text at a byte

Offsets count bytes and texts are made of characters, so not every number below
the size of a text is a place in it: it may point into the middle of a
character. `splitAtByte?` cuts where there is a place and refuses elsewhere.
The places of a text are the sizes of its beginnings, and a beginning is told by
its size.
-/

namespace ImpLexer

namespace Text

/-- The first `n` bytes of a text and what follows them, if they are whole
characters. -/
def splitAtByte? : Nat → Text → Option (Text × Text)
  | 0, t => some ([], t)
  | _ + 1, [] => none
  | n + 1, c :: t =>
      if c.utf8Size ≤ n + 1 then
        (splitAtByte? (n + 1 - c.utf8Size) t).map fun (s, r) => (c :: s, r)
      else none

/-- What follows the first `n` bytes. -/
def dropBytes? (n : Nat) (t : Text) : Option Text := (splitAtByte? n t).map Prod.snd

/-- The bytes from `start` on and in front of `stop`. -/
def slice? (start stop : Nat) (t : Text) : Option Text :=
  if start ≤ stop then
    (dropBytes? start t).bind fun r => (splitAtByte? (stop - start) r).map Prod.fst
  else none

theorem splitAtByte?_append (s t : Text) :
    splitAtByte? s.byteSize (s ++ t) = some (s, t) := by
  induction s with
  | nil => rw [byteSize_nil, List.nil_append, splitAtByte?]
  | cons c s ih =>
      have hpos := c.utf8Size_pos
      obtain ⟨n, hn⟩ : ∃ n, c.utf8Size + byteSize s = n + 1 :=
        ⟨c.utf8Size + byteSize s - 1, by omega⟩
      rw [byteSize_cons, hn, List.cons_append, splitAtByte?, if_pos (by omega),
        show n + 1 - c.utf8Size = byteSize s by omega, ih]
      rfl

theorem dropBytes?_append (s t : Text) : dropBytes? s.byteSize (s ++ t) = some t := by
  rw [dropBytes?, splitAtByte?_append]
  rfl

theorem slice?_append (s l t : Text) :
    slice? s.byteSize (s.byteSize + l.byteSize) (s ++ (l ++ t)) = some l := by
  rw [slice?, if_pos (Nat.le_add_right _ _), dropBytes?_append, Option.bind_some,
    Nat.add_sub_cancel_left, splitAtByte?_append]
  rfl

/-- The first bytes of a text are a slice that begins at none. -/
theorem slice?_zero_append (s t : Text) : slice? 0 s.byteSize (s ++ t) = some s := by
  have h := slice?_append [] s t
  rwa [byteSize_nil, Nat.zero_add, List.nil_append] at h

/-- Two beginnings of the same size are one. -/
theorem append_inj_of_byteSize {s s' t t' : Text} (h : s ++ t = s' ++ t')
    (hsize : s.byteSize = s'.byteSize) : s = s' ∧ t = t' := by
  have hsplit := splitAtByte?_append s t
  rw [h, hsize, splitAtByte?_append] at hsplit
  cases hsplit
  exact ⟨rfl, rfl⟩

theorem byteSize_pos_of_ne_nil {t : Text} (h : t ≠ []) : 0 < t.byteSize := by
  cases t with
  | nil => exact absurd rfl h
  | cons c t =>
      have hpos := c.utf8Size_pos
      rw [byteSize_cons]
      omega

end Text

end ImpLexer
