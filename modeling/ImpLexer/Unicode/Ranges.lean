/-!
# Sets of code points

A property of Unicode characters is a set of code points, and its sets are few
long runs: a list of ranges, in ascending order, is both the plainest form and
short enough to be searched from the front. Ascending ranges make it safe to end
the search early, which is what `contains_iff` says: a character is found if and
only if one of the ranges covers it.
-/

namespace ImpLexer.Unicode

/-- A set of code points, as ranges of which both ends belong to it. -/
abbrev Ranges := List (Nat × Nat)

namespace Ranges

/-- Is a character in the set? None of the ranges that begin behind the character
is looked at. -/
def contains : Ranges → Char → Bool
  | [], _ => false
  | (first, last) :: more, c =>
      first ≤ c.toNat && (c.toNat ≤ last || contains more c)

/-- The character is in one of the ranges, wherever that stands among them. -/
def Covers (ranges : Ranges) (c : Char) : Prop :=
  ∃ range ∈ ranges, range.1 ≤ c.toNat ∧ c.toNat ≤ range.2

/-- Do the ranges begin no earlier than at `n`, and none before the end of the one
in front of it? -/
def ascendsFrom (n : Nat) : Ranges → Bool
  | [] => true
  | (first, last) :: more => n ≤ first && first ≤ last && ascendsFrom last more

theorem le_of_ascendsFrom {n : Nat} {ranges : Ranges} (h : ascendsFrom n ranges)
    {range : Nat × Nat} (hr : range ∈ ranges) : n ≤ range.1 := by
  induction ranges generalizing n with
  | nil => cases hr
  | cons head more ih =>
      simp only [ascendsFrom, Bool.and_eq_true, decide_eq_true_eq] at h
      rcases List.mem_cons.1 hr with rfl | hr
      · exact h.1.1
      · have := ih h.2 hr
        omega

theorem covers_cons_iff {head : Nat × Nat} {more : Ranges} {c : Char} :
    Covers (head :: more) c ↔
      head.1 ≤ c.toNat ∧ c.toNat ≤ head.2 ∨ more.Covers c := by
  simp only [Covers, List.mem_cons, exists_eq_or_imp]

theorem contains_iff {n : Nat} {ranges : Ranges} (h : ascendsFrom n ranges) (c : Char) :
    ranges.contains c ↔ ranges.Covers c := by
  induction ranges generalizing n with
  | nil => simp [contains, Covers]
  | cons head more ih =>
      simp only [ascendsFrom, Bool.and_eq_true, decide_eq_true_eq] at h
      simp only [contains, Bool.and_eq_true, Bool.or_eq_true, decide_eq_true_eq, ih h.2,
        covers_cons_iff]
      constructor
      · rintro ⟨hfirst, hlast | hmore⟩
        · exact Or.inl ⟨hfirst, hlast⟩
        · exact Or.inr hmore
      · rintro (⟨hfirst, hlast⟩ | hmore)
        · exact ⟨hfirst, Or.inl hlast⟩
        · have hfirst : head.1 ≤ c.toNat := by
            obtain ⟨range, hrange, hrangeFirst, -⟩ := hmore
            have hle := le_of_ascendsFrom h.2 hrange
            omega
          exact ⟨hfirst, Or.inr hmore⟩

end Ranges

end ImpLexer.Unicode
