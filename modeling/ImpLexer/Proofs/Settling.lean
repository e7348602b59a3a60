import ImpLexer.Proofs.Arguments

/-!
# Settling early and late

What is pending is settled by whatever comes next, an option or the end of the
list, so the reading passes through states that say the same in different ways:
paths that are still pending, or the same paths, final. This module says that
the difference does not matter to a list that can be read. Two states that
settle to one state are read on with one outcome (`read_eq_ok_of_settle`), and a
state that is read on to an end settles, unless it waits for a word
(`exists_settle_of_read`). So what is pending may be settled at any time
(`read_eq_ok_iff_exists_settle`).

It also says where the reading stands behind some arguments: whether they hold a
`--`, and whether the last of them still waits for its word.
-/

namespace ImpLexer

namespace Progress

variable {progress other settled later : Progress} {given word : Text} {more : List Text}
  {arguments : Arguments}

/-! ## Reading on -/

/-- What a list comes to that goes on with `more`. -/
def read (progress : Progress) (more : List Text) : Except Stop Arguments := do
  let progress ← more.foldlM next progress
  progress.finish

theorem parse_eq_read (given : List Text) : Arguments.parse given = ({} : Progress).read given :=
  rfl

theorem read_append_eq_ok_iff {front back : List Text} :
    progress.read (front ++ back) = .ok arguments ↔
      ∃ later, front.foldlM next progress = .ok later ∧ later.read back = .ok arguments := by
  rw [read, List.foldlM_append, bind_assoc]
  constructor
  · intro h
    exact exists_of_bind_eq_ok h
  · rintro ⟨later, hfront, hback⟩
    rw [hfront]
    exact hback

theorem read_cons_eq_ok_iff : progress.read (given :: more) = .ok arguments ↔
    ∃ later, progress.Takes given later ∧ later.read more = .ok arguments := by
  rw [read, List.foldlM_cons, bind_assoc]
  constructor
  · intro h
    obtain ⟨later, hnext, hmore⟩ := exists_of_bind_eq_ok h
    exact ⟨later, next_eq_ok_iff.1 hnext, hmore⟩
  · rintro ⟨later, htakes, hmore⟩
    rw [next_eq_ok_iff.2 htakes]
    exact hmore

theorem read_cons_of_takes (h : progress.Takes given later) (more : List Text) :
    progress.read (given :: more) = later.read more := by
  rw [read, List.foldlM_cons, bind_assoc, next_eq_ok_iff.2 h]
  rfl

theorem finish_eq_ok_iff : progress.finish = .ok arguments ↔
    ∃ settled, progress.settle = .ok settled ∧ settled.paths ≠ [] ∧
      arguments = ⟨settled.paths, (settled.policy.map Config.mk).getD {}, settled.verbose⟩ := by
  rw [finish]
  constructor
  · intro h
    obtain ⟨settled, hsettled, h⟩ := exists_of_bind_eq_ok h
    refine ⟨settled, eq_ok_of_mapError_eq_ok hsettled, ?_⟩
    split at h
    · cases h
    · next hpaths =>
        cases h
        exact ⟨hpaths, rfl⟩
  · rintro ⟨settled, hsettle, hpaths, rfl⟩
    rw [settled_eq_ok hsettle]
    exact if_neg hpaths

/-! ## What settling leaves alone -/

theorem settle_of_nothing (hnothing : progress.pending = .nothing) :
    progress.settle = .ok progress := by
  rw [settle, hnothing]

theorem settle_with (verbose separated : Bool) (h : progress.settle = .ok settled) :
    { progress with verbose := verbose, separated := separated }.settle =
      .ok { settled with verbose := verbose, separated := separated } := by
  rw [settle] at h ⊢
  split at h
  · next hpending =>
      cases h
      simp [hpending]
  · cases h
  · next hpending =>
      simp only [hpending]
      obtain ⟨hnone, policy, hword, rfl⟩ := choose_eq_ok_iff.1 h
      exact choose_eq_ok_iff.2 ⟨hnone, policy, hword, rfl⟩
  · next hpending =>
      split at h
      · cases h
      · next hgiven =>
          cases h
          simp [hpending, hgiven]

theorem settle_separated (separated : Bool) (h : progress.settle = .ok settled) :
    { progress with separated := separated }.settle =
      .ok { settled with separated := separated } := by
  have hverbose := (settle_eq_ok h).2.2.1
  simpa [hverbose] using settle_with progress.verbose separated h

theorem settle_verbose (verbose : Bool) (h : progress.settle = .ok settled) :
    { progress with verbose := verbose }.settle = .ok { settled with verbose := verbose } := by
  have hseparated := (settle_eq_ok h).2.2.2
  simpa [hseparated] using settle_with verbose progress.separated h

theorem path_verbose (verbose : Bool) (h : progress.path given = .ok later) :
    { progress with verbose := verbose }.path given =
      .ok { later with verbose := verbose } := by
  rw [path_eq_ok_iff] at h ⊢
  rcases h with ⟨before, hbefore, rfl⟩ | ⟨hpending, settled, hsettle, rfl⟩
  · exact Or.inl ⟨before, hbefore, rfl⟩
  · exact Or.inr ⟨hpending, _, settle_verbose verbose hsettle, rfl⟩

/-! ## Settling around a path -/

theorem pending_of_path (h : progress.path given = .ok later) :
    later.pending ≠ .policy none := by
  rcases path_eq_ok_iff.1 h with ⟨before, -, rfl⟩ | ⟨-, settled, -, rfl⟩
  · simp
  · simp

theorem path_keeps (h : progress.path given = .ok later) :
    later.verbose = progress.verbose ∧ later.separated = progress.separated := by
  rcases path_eq_ok_iff.1 h with ⟨before, -, rfl⟩ | ⟨-, settled, hsettle, rfl⟩
  · exact ⟨rfl, rfl⟩
  · obtain ⟨-, -, hverbose, hseparated⟩ := settle_eq_ok hsettle
    exact ⟨hverbose, hseparated⟩

theorem settle_of_path (hpath : progress.path given = .ok later)
    (hsettle : later.settle = .ok settled) :
    given ≠ [] ∧ ∃ before, progress.settle = .ok before ∧
      settled = { before with paths := before.paths ++ [given] } := by
  rcases path_eq_ok_iff.1 hpath with ⟨before, hbefore, rfl⟩ | ⟨-, before, hbefore, rfl⟩
  · obtain ⟨hmem, rfl⟩ := (settle_paths_eq_ok_iff rfl).1 hsettle
    simp only [List.mem_append, List.mem_singleton, not_or] at hmem
    exact ⟨Ne.symm hmem.2, _, (settle_paths_eq_ok_iff hbefore).2 ⟨hmem.1, rfl⟩, by simp⟩
  · obtain ⟨hmem, rfl⟩ := (settle_paths_eq_ok_iff rfl).1 hsettle
    obtain ⟨-, hnothing, -, -⟩ := settle_eq_ok hbefore
    refine ⟨fun hnil => hmem (by simp [hnil]), before, hbefore, ?_⟩
    rw [← hnothing]

theorem exists_path_of_settle (hsettle : progress.settle = .ok settled) (hgiven : given ≠ []) :
    ∃ later, progress.path given = .ok later ∧
      later.settle = .ok { settled with paths := settled.paths ++ [given] } := by
  by_cases hbefore : ∃ before, progress.pending = .paths before
  · obtain ⟨before, hbefore⟩ := hbefore
    obtain ⟨hmem, rfl⟩ := (settle_paths_eq_ok_iff hbefore).1 hsettle
    have hnil : [] ∉ before ++ [given] := by simp [hmem, Ne.symm hgiven]
    refine ⟨_, path_eq_ok_iff.2 (Or.inl ⟨before, hbefore, rfl⟩), ?_⟩
    exact (settle_paths_eq_ok_iff rfl).2 ⟨hnil, by simp⟩
  · have hpending : ∀ before, progress.pending ≠ .paths before := fun before h =>
      hbefore ⟨before, h⟩
    obtain ⟨-, hnothing, -, -⟩ := settle_eq_ok hsettle
    have hnil : [] ∉ [given] := by simp [Ne.symm hgiven]
    refine ⟨_, path_eq_ok_iff.2 (Or.inr ⟨hpending, settled, hsettle, rfl⟩), ?_⟩
    exact (settle_paths_eq_ok_iff rfl).2 ⟨hnil, by simp [hnothing]⟩

/-! ## What is pending makes no difference -/

/-- What can be read to an end settles, unless it waits for a word. -/
theorem exists_settle_of_read (hpending : progress.pending ≠ .policy none)
    (h : progress.read more = .ok arguments) : ∃ settled, progress.settle = .ok settled := by
  induction more generalizing progress with
  | nil =>
      obtain ⟨settled, hsettle, -⟩ := finish_eq_ok_iff.1 h
      exact ⟨settled, hsettle⟩
  | cons given more ih =>
      obtain ⟨later, htakes, hmore⟩ := read_cons_eq_ok_iff.1 h
      cases htakes with
      | separator hopen =>
          obtain ⟨settled, hsettle⟩ := ih (by simpa using hpending) hmore
          have hback := settle_separated progress.separated hsettle
          exact ⟨_, hback⟩
      | word hopen hplain hwaiting => exact absurd hwaiting hpending
      | path hplace hpath =>
          obtain ⟨settled, hsettle⟩ := ih (pending_of_path hpath) hmore
          obtain ⟨-, before, hbefore, -⟩ := settle_of_path hpath hsettle
          exact ⟨before, hbefore⟩
      | policy hopen hsettle => exact ⟨_, hsettle⟩
      | policyWord hopen hform hsettle hchoose => exact ⟨_, hsettle⟩
      | verbose hopen hflag hsettle hquiet => exact ⟨_, hsettle⟩

/-- Two states that settle to the same are read on to the same. -/
theorem read_eq_ok_of_settle (hprogress : progress.settle = .ok settled)
    (hother : other.settle = .ok settled) (h : progress.read more = .ok arguments) :
    other.read more = .ok arguments := by
  induction more generalizing progress other settled with
  | nil =>
      obtain ⟨settled', hsettle, hrest⟩ := finish_eq_ok_iff.1 h
      rw [hprogress] at hsettle
      cases hsettle
      exact finish_eq_ok_iff.2 ⟨settled, hother, hrest⟩
  | cons given more ih =>
      obtain ⟨hpending, -, -, hseparated⟩ := settle_eq_ok hprogress
      obtain ⟨hpending', -, -, hseparated'⟩ := settle_eq_ok hother
      have hopen' : progress.separated = false → other.separated = false := by
        rw [← hseparated', hseparated]
        exact id
      obtain ⟨later, htakes, hmore⟩ := read_cons_eq_ok_iff.1 h
      rw [read_cons_eq_ok_iff]
      cases htakes with
      | separator hopen =>
          exact ⟨_, .separator (hopen' hopen),
            ih (settle_separated true hprogress) (settle_separated true hother) hmore⟩
      | word hopen hplain hwaiting => exact absurd hwaiting hpending
      | path hplace hpath =>
          have hlater := pending_of_path hpath
          obtain ⟨settled', hsettle⟩ := exists_settle_of_read hlater hmore
          obtain ⟨hgiven, before, hbefore, rfl⟩ := settle_of_path hpath hsettle
          rw [hprogress] at hbefore
          cases hbefore
          obtain ⟨later', hpath', hsettle'⟩ := exists_path_of_settle hother hgiven
          refine ⟨later', .path ?_ hpath', ih hsettle hsettle' hmore⟩
          rcases hplace with hclosed | ⟨hplain, -⟩
          · exact Or.inl (by rw [← hseparated', hseparated, hclosed])
          · exact Or.inr ⟨hplain, hpending'⟩
      | policy hopen hsettle =>
          rw [hprogress] at hsettle
          cases hsettle
          exact ⟨_, .policy (hopen' hopen) hother, hmore⟩
      | policyWord hopen hform hsettle hchoose =>
          rw [hprogress] at hsettle
          cases hsettle
          exact ⟨_, .policyWord (hopen' hopen) hform hother hchoose, hmore⟩
      | verbose hopen hflag hsettle hquiet =>
          rw [hprogress] at hsettle
          cases hsettle
          exact ⟨_, .verbose (hopen' hopen) hflag hother hquiet, hmore⟩

/-- What is pending can be settled before the list goes on. -/
theorem read_eq_ok_iff_exists_settle (hpending : progress.pending ≠ .policy none) :
    progress.read more = .ok arguments ↔
      ∃ settled, progress.settle = .ok settled ∧ settled.read more = .ok arguments := by
  have hagain : ∀ {settled}, progress.settle = .ok settled → settled.settle = .ok settled :=
    fun h => settle_of_nothing (settle_eq_ok h).2.1
  constructor
  · intro h
    obtain ⟨settled, hsettle⟩ := exists_settle_of_read hpending h
    exact ⟨settled, hsettle, read_eq_ok_of_settle hsettle (hagain hsettle) h⟩
  · rintro ⟨settled, hsettle, h⟩
    exact read_eq_ok_of_settle (hagain hsettle) hsettle h

/-! ## Where the reading stands -/

theorem Takes.separated_iff (h : progress.Takes given later) :
    later.separated = true ↔ progress.separated = true ∨ given = "--".toList := by
  rw [Form.eq_separator_iff]
  cases h with
  | separator hopen =>
      have hform : Form.of "--".toList = .separator := rfl
      simp only [hform, or_true]
  | word hopen hplain hwaiting => simp [hplain]
  | path hplace hpath =>
      rw [(path_keeps hpath).2]
      rcases hplace with hclosed | ⟨hplain, -⟩
      · simp [hclosed]
      · simp [hplain]
  | policy hopen hsettle =>
      have hform : Form.of "--leading-zeros".toList = .long "leading-zeros".toList none := rfl
      rw [hform]
      simp [(settle_eq_ok hsettle).2.2.2]
  | policyWord hopen hform hsettle hchoose =>
      obtain ⟨-, policy, -, rfl⟩ := choose_eq_ok_iff.1 hchoose
      simp [(settle_eq_ok hsettle).2.2.2, hform]
  | verbose hopen hflag hsettle hquiet =>
      rcases isVerboseFlag_iff.1 hflag with hform | hform
      · simp [(settle_eq_ok hsettle).2.2.2, hform]
      · simp [(settle_eq_ok hsettle).2.2.2, hform]

theorem Takes.verbose_iff (h : progress.Takes given later) :
    later.verbose = true ↔
      progress.verbose = true ∨ progress.separated = false ∧ IsVerboseFlag given := by
  cases h with
  | separator hopen =>
      have hflag : ¬IsVerboseFlag "--".toList := by decide
      simp only [hflag, and_false, or_false]
  | word hopen hplain hwaiting => simp [isVerboseFlag_iff, hplain]
  | path hplace hpath =>
      rw [(path_keeps hpath).1]
      rcases hplace with hclosed | ⟨hplain, -⟩
      · simp [hclosed]
      · simp [isVerboseFlag_iff, hplain]
  | policy hopen hsettle =>
      have hflag : ¬IsVerboseFlag "--leading-zeros".toList := by decide
      simp only [(settle_eq_ok hsettle).2.2.1, hflag, and_false, or_false]
  | policyWord hopen hform hsettle hchoose =>
      obtain ⟨-, policy, -, rfl⟩ := choose_eq_ok_iff.1 hchoose
      simp [(settle_eq_ok hsettle).2.2.1, isVerboseFlag_iff, hform]
  | verbose hopen hflag hsettle hquiet => simp [hopen, hflag]

/-- Only the option for a policy itself waits for a word. -/
theorem Takes.waits_iff (h : progress.Takes given later) (hlater : later.separated = false) :
    later.pending = .policy none ↔ given = "--leading-zeros".toList := by
  rw [Form.eq_leadingZeros_iff]
  cases h with
  | separator hopen => cases hlater
  | word hopen hplain hwaiting => simp [hplain]
  | path hplace hpath =>
      rw [(path_keeps hpath).2] at hlater
      rcases hplace with hclosed | ⟨hplain, -⟩
      · rw [hclosed] at hlater
        cases hlater
      · simp [pending_of_path hpath, hplain]
  | policy hopen hsettle =>
      have hform : Form.of "--leading-zeros".toList = .long "leading-zeros".toList none := rfl
      simp only [hform]
  | policyWord hopen hform hsettle hchoose =>
      obtain ⟨-, policy, -, rfl⟩ := choose_eq_ok_iff.1 hchoose
      simp [(settle_eq_ok hsettle).2.1, hform]
  | verbose hopen hflag hsettle hquiet =>
      rcases isVerboseFlag_iff.1 hflag with hform | hform
      · simp [(settle_eq_ok hsettle).2.1, hform]
      · simp [(settle_eq_ok hsettle).2.1, hform]

theorem separated_iff_of_foldlM {front : List Text}
    (h : front.foldlM next progress = .ok later) :
    later.separated = true ↔ progress.separated = true ∨ "--".toList ∈ front := by
  induction front generalizing progress with
  | nil =>
      cases h
      simp only [List.not_mem_nil, or_false]
  | cons given front ih =>
      rw [List.foldlM_cons] at h
      obtain ⟨middle, hnext, hfront⟩ := exists_of_bind_eq_ok h
      rw [ih hfront, (next_eq_ok_iff.1 hnext).separated_iff, List.mem_cons, or_assoc,
        @eq_comm _ given]

/-- Where no `--` has gone by, the last argument tells whether a word is waited for. -/
theorem waits_iff_of_foldlM {front : List Text} (h : front.foldlM next {} = .ok later)
    (hlater : later.separated = false) :
    later.pending = .policy none ↔ front.getLast? = some "--leading-zeros".toList := by
  rcases List.eq_nil_or_concat front with rfl | ⟨front, given, rfl⟩
  · cases h
    simp
  · rw [List.concat_eq_append, List.foldlM_append] at h
    obtain ⟨middle, -, hlast⟩ := exists_of_bind_eq_ok h
    rw [List.foldlM_cons] at hlast
    obtain ⟨last, hnext, hlast⟩ := exists_of_bind_eq_ok hlast
    cases hlast
    rw [(next_eq_ok_iff.1 hnext).waits_iff hlater, List.concat_eq_append, List.getLast?_concat,
      Option.some.injEq]

/-- What is read to an end is talkative if a flag for it stands in front of the `--`. -/
theorem verbose_iff_of_read (h : progress.read more = .ok arguments) :
    arguments.verbose = true ↔ progress.verbose = true ∨
      progress.separated = false ∧
        ∃ flag ∈ more.takeWhile (· ≠ "--".toList), IsVerboseFlag flag := by
  induction more generalizing progress with
  | nil =>
      obtain ⟨settled, hsettle, -, rfl⟩ := finish_eq_ok_iff.1 h
      simp [(settle_eq_ok hsettle).2.2.1]
  | cons given more ih =>
      obtain ⟨later, htakes, hmore⟩ := read_cons_eq_ok_iff.1 h
      have hlater : later.separated = false ↔
          progress.separated = false ∧ given ≠ "--".toList := by
        rw [← Bool.not_eq_true, htakes.separated_iff, not_or, Bool.not_eq_true]
      rw [ih hmore, htakes.verbose_iff, hlater]
      by_cases hdash : given = "--".toList
      · subst hdash
        have hflag : ¬IsVerboseFlag "--".toList := by decide
        have hnone : ("--".toList :: more).takeWhile (· ≠ "--".toList) = [] :=
          List.takeWhile_cons_of_neg (by simp)
        rw [hnone]
        simp only [hflag, ne_eq, not_true, List.not_mem_nil, and_false, false_and, exists_false,
          or_false]
      · have hsome : (given :: more).takeWhile (· ≠ "--".toList) =
            given :: more.takeWhile (· ≠ "--".toList) :=
          List.takeWhile_cons_of_pos (by simpa using hdash)
        rw [hsome]
        simp only [List.mem_cons, exists_eq_or_imp, and_or_left, or_assoc, hdash, ne_eq,
          not_false_eq_true, and_true]

/-- Nothing takes a flag back. -/
theorem verbose_eq_false_of_read (h : progress.read more = .ok arguments)
    (hquiet : arguments.verbose = false) : progress.verbose = false := by
  rw [← Bool.not_eq_true]
  intro hverbose
  have hloud := (verbose_iff_of_read h).2 (Or.inl hverbose)
  rw [hquiet] at hloud
  cases hloud

end Progress

end ImpLexer
