import ImpLexer.Command.Arguments

/-!
# What an argument does to a list

An argument may be refused, and one that is not does one of a few things: it
separates, it is the word that an option has been waiting for, it is a path, or
it is an option. `Progress.Takes` is that list, with what each of them leaves
behind, and `next_eq_ok_iff` says that nothing is missing from it. What holds
of every list that can be read is shown by going through it.
-/

namespace ImpLexer

variable {ε δ α β : Type}

theorem exists_of_bind_eq_ok {x : Except ε α} {f : α → Except ε β} {b : β}
    (h : x >>= f = .ok b) : ∃ a, x = .ok a ∧ f a = .ok b := by
  cases x with
  | error e => cases h
  | ok a => exact ⟨a, rfl, h⟩

theorem eq_ok_of_mapError_eq_ok {f : ε → δ} {x : Except ε α} {a : α}
    (h : x.mapError f = .ok a) : x = .ok a := by
  cases x with
  | error e => cases h
  | ok b => exact congrArg Except.ok (Except.ok.inj h)

/-! ## The form of an argument -/

namespace Form

/-- An argument of the form. -/
def text : Form → Text
  | separator => "--".toList
  | long name none => '-' :: '-' :: name
  | long name (some value) => '-' :: '-' :: (name ++ '=' :: value)
  | short letters => '-' :: letters
  | plain text => text

theorem takeWhile_ne_append_dropWhile {c : Char} {given : Text} (h : c ∈ given) :
    given.takeWhile (· ≠ c) ++ c :: (given.dropWhile (· ≠ c)).tail = given := by
  induction given with
  | nil => cases h
  | cons d given ih =>
      by_cases hd : d = c
      · simp [hd]
      · have hmem : c ∈ given := by
          rcases List.mem_cons.1 h with rfl | hmem
          · exact absurd rfl hd
          · exact hmem
        simpa [hd] using ih hmem

theorem takeWhile_ne_of_not_mem {c : Char} {given : Text} (h : c ∉ given) :
    given.takeWhile (· ≠ c) = given := by
  induction given with
  | nil => rfl
  | cons d given ih =>
      simp only [List.mem_cons, not_or] at h
      rw [List.takeWhile_cons, if_pos (by simpa using Ne.symm h.1), ih h.2]

theorem text_of (given : Text) : (Form.of given).text = given := by
  match given with
  | [] | [c] => rfl
  | c :: d :: more =>
      rw [Form.of]
      split
      · rfl
      · next hc =>
          obtain rfl : c = '-' := by simpa using hc
          split
          · rfl
          · next hd =>
              obtain rfl : d = '-' := by simpa using hd
              split
              · next hmore =>
                  rw [hmore]
                  rfl
              · split
                · next hequals => rw [text, takeWhile_ne_append_dropWhile hequals]
                · next hequals => rw [text, takeWhile_ne_of_not_mem hequals]

theorem eq_of_of_eq_plain {given text : Text} (h : Form.of given = .plain text) :
    text = given := by
  have ht := text_of given
  rwa [h] at ht

/-- Arguments that look alike are the same. -/
theorem eq_iff_of_eq {given text : Text} {form : Form} (h : Form.of text = form) :
    given = text ↔ Form.of given = form := by
  constructor
  · intro hgiven
    rw [hgiven, h]
  · intro hform
    rw [← text_of given, ← text_of text, hform, h]

theorem eq_separator_iff {given : Text} :
    given = "--".toList ↔ Form.of given = .separator := eq_iff_of_eq rfl

theorem eq_leadingZeros_iff {given : Text} :
    given = "--leading-zeros".toList ↔ Form.of given = .long "leading-zeros".toList none :=
  eq_iff_of_eq rfl

theorem of_eq_plain {text : Text} (h : text.head? ≠ some '-') : Form.of text = .plain text := by
  match text with
  | [] | [c] => rfl
  | c :: d :: more =>
      have hc : c ≠ '-' := fun heq => h (congrArg some heq)
      rw [Form.of, if_pos hc]

theorem of_eq_plain_iff {given : Text} :
    Form.of given = .plain given ↔ given = "-".toList ∨ given.head? ≠ some '-' := by
  constructor
  · intro h
    by_cases hdash : given.head? = some '-'
    · obtain ⟨more, rfl⟩ := List.head?_eq_some_iff.1 hdash
      cases more with
      | nil => exact Or.inl rfl
      | cons d more =>
          rw [Form.of, if_neg (by simp)] at h
          split at h
          · cases h
          · split at h
            · cases h
            · cases h
    · exact Or.inr hdash
  · rintro (rfl | hdash)
    · rfl
    · exact of_eq_plain hdash

end Form

theorem LeadingZeros.ofWord_eq_ok_iff {word : Text} {policy : LeadingZeros} :
    ofWord false word = .ok policy ↔ word = policy.word := by
  constructor
  · intro h
    rw [ofWord] at h
    simp only [Bool.false_eq_true, if_false] at h
    split at h
    · next hword =>
        cases h
        exact hword
    · split at h
      · next hword =>
          cases h
          exact hword
      · cases h
  · rintro rfl
    cases policy with
    | reject | allow => rfl

/-! ## What an argument does -/

/-- The argument asks for a talkative run. -/
def IsVerboseFlag (given : Text) : Prop := given = "-v".toList ∨ given = "--verbose".toList

instance (given : Text) : Decidable (IsVerboseFlag given) :=
  inferInstanceAs (Decidable (given = "-v".toList ∨ given = "--verbose".toList))

theorem isVerboseFlag_iff {given : Text} : IsVerboseFlag given ↔
    Form.of given = .short ['v'] ∨ Form.of given = .long "verbose".toList none :=
  or_congr (Form.eq_iff_of_eq rfl) (Form.eq_iff_of_eq rfl)

namespace Progress

variable {progress settled later : Progress} {given word : Text}

/-- The argument is taken, and leads to the progress that comes last. -/
inductive Takes (progress : Progress) : Text → Progress → Prop where
  | separator (hopen : progress.separated = false) :
      Takes progress "--".toList { progress with separated := true }
  | word {given : Text} (hopen : progress.separated = false)
      (hplain : Form.of given = .plain given) (hpending : progress.pending = .policy none) :
      Takes progress given { progress with pending := .policy (some given) }
  | path {given : Text} {later : Progress}
      (hplace : progress.separated = true ∨
        Form.of given = .plain given ∧ progress.pending ≠ .policy none)
      (hpath : progress.path given = .ok later) : Takes progress given later
  | policy {settled : Progress} (hopen : progress.separated = false)
      (hsettle : progress.settle = .ok settled) :
      Takes progress "--leading-zeros".toList { settled with pending := .policy none }
  | policyWord {given word : Text} {settled later : Progress}
      (hopen : progress.separated = false)
      (hform : Form.of given = .long "leading-zeros".toList (some word))
      (hsettle : progress.settle = .ok settled) (hchoose : settled.choose word = .ok later) :
      Takes progress given later
  | verbose {given : Text} {settled : Progress} (hopen : progress.separated = false)
      (hflag : IsVerboseFlag given) (hsettle : progress.settle = .ok settled)
      (hquiet : settled.verbose = false) :
      Takes progress given { settled with verbose := true }

/-! ### The parts of a step -/

theorem choose_eq_ok_iff : progress.choose word = .ok later ↔
    progress.policy = none ∧
      ∃ policy, LeadingZeros.ofWord false word = .ok policy ∧
        later = { progress with policy := some policy } := by
  constructor
  · intro h
    rw [choose] at h
    split at h
    · cases h
    · next hnone =>
        split at h
        · cases h
        · split at h
          · next policy hword =>
              cases h
              exact ⟨by simpa using hnone, policy, hword, rfl⟩
          · cases h
  · rintro ⟨hnone, policy, hword, rfl⟩
    have hne : word ≠ [] := by
      intro hnil
      rw [hnil] at hword
      cases hword
    rw [choose, hnone, Option.isSome_none, if_neg Bool.false_ne_true, if_neg hne, hword]

/-- Settling changes nothing but what was pending, the policy and the paths. -/
theorem settle_eq_ok (h : progress.settle = .ok settled) :
    progress.pending ≠ .policy none ∧ settled.pending = .nothing ∧
      settled.verbose = progress.verbose ∧ settled.separated = progress.separated := by
  rw [settle] at h
  split at h
  · next hpending =>
      cases h
      exact ⟨by simp [hpending], hpending, rfl, rfl⟩
  · cases h
  · next hpending =>
      obtain ⟨-, policy, -, rfl⟩ := choose_eq_ok_iff.1 h
      exact ⟨by simp [hpending], rfl, rfl, rfl⟩
  · next hpending =>
      split at h
      · cases h
      · cases h
        exact ⟨by simp [hpending], rfl, rfl, rfl⟩

theorem settle_paths_eq_ok_iff {before : List Text} (hpending : progress.pending = .paths before) :
    progress.settle = .ok settled ↔
      [] ∉ before ∧
        settled = { progress with paths := progress.paths ++ before, pending := .nothing } := by
  rw [settle, hpending]
  simp only
  split
  · next hmem => simp [hmem]
  · next hmem => simp [hmem, eq_comm]

theorem settled_eq_ok (h : progress.settle = .ok settled) : progress.settled = .ok settled := by
  rw [Progress.settled, h]
  rfl

theorem path_eq_ok_iff : progress.path given = .ok later ↔
    (∃ before, progress.pending = .paths before ∧
        later = { progress with pending := .paths (before ++ [given]) }) ∨
      (∀ before, progress.pending ≠ .paths before) ∧
        ∃ settled, progress.settle = .ok settled ∧
          later = { settled with pending := .paths [given] } := by
  rw [path]
  split
  · next before hpending => simp [hpending, eq_comm]
  · next hpending =>
      constructor
      · intro h
        obtain ⟨settled, hsettled, h⟩ := exists_of_bind_eq_ok h
        cases h
        exact Or.inr ⟨hpending, settled, eq_ok_of_mapError_eq_ok hsettled, rfl⟩
      · rintro (⟨before, hbefore, -⟩ | ⟨-, settled, hsettle, rfl⟩)
        · exact absurd hbefore (hpending before)
        · rw [settled_eq_ok hsettle]
          rfl

theorem raise_eq_ok {detail : Detail} {flag : Flag} (h : progress.raise detail flag = .ok later) :
    flag = .verbose ∧ ∃ settled, progress.settle = .ok settled ∧ settled.verbose = false ∧
      later = { settled with verbose := true } := by
  obtain ⟨settled, hsettled, h⟩ := exists_of_bind_eq_ok h
  cases flag with
  | verbose =>
      simp only at h
      split at h
      · cases h
      · next hquiet =>
          cases h
          exact ⟨rfl, settled, eq_ok_of_mapError_eq_ok hsettled, by simpa using hquiet, rfl⟩
  | help | version => cases h

theorem eq_of_ofLetter_verbose {letter : Char} (h : Flag.ofLetter? letter = some .verbose) :
    letter = 'v' := by
  unfold Flag.ofLetter? at h
  split at h
  · rfl
  · cases h
  · cases h
  · cases h

theorem short_eq_ok {letter : Char} (h : progress.short letter = .ok later) :
    letter = 'v' ∧ ∃ settled, progress.settle = .ok settled ∧ settled.verbose = false ∧
      later = { settled with verbose := true } := by
  rw [short] at h
  split at h
  · next flag hletter =>
      obtain ⟨rfl, hsettled⟩ := raise_eq_ok h
      exact ⟨eq_of_ofLetter_verbose hletter, hsettled⟩
  · cases h

/-- Of letters behind one dash only a single `v` lets the reading go on. -/
theorem foldlM_short_eq_ok {letters : List Char} (hne : letters ≠ [])
    (h : letters.foldlM short progress = .ok later) :
    letters = ['v'] ∧ ∃ settled, progress.settle = .ok settled ∧ settled.verbose = false ∧
      later = { settled with verbose := true } := by
  obtain ⟨letter, letters, rfl⟩ := List.exists_cons_of_ne_nil hne
  rw [List.foldlM_cons] at h
  obtain ⟨first, hfirst, h⟩ := exists_of_bind_eq_ok h
  obtain ⟨rfl, settled, hsettle, hquiet, rfl⟩ := short_eq_ok hfirst
  cases letters with
  | nil =>
      cases h
      exact ⟨rfl, settled, hsettle, hquiet, rfl⟩
  | cons letter letters =>
      rw [List.foldlM_cons] at h
      obtain ⟨second, hsecond, -⟩ := exists_of_bind_eq_ok h
      obtain ⟨-, again, hagain, hverbose, -⟩ := short_eq_ok hsecond
      rw [(settle_eq_ok hagain).2.2.1] at hverbose
      cases hverbose

theorem eq_of_ofName {name : Text} {flag : Flag} (h : Flag.ofName? name = some flag) :
    flag.name = name := by
  have hname := List.find?_some h
  exact of_decide_eq_true hname

theorem long_eq_ok {name : Text} {value : Option Text}
    (h : progress.long name value = .ok later) :
    ∃ settled, progress.settle = .ok settled ∧
      (name = "leading-zeros".toList ∧ value = none ∧
          later = { settled with pending := .policy none } ∨
        (∃ word, name = "leading-zeros".toList ∧ value = some word ∧
          settled.choose word = .ok later) ∨
        name = "verbose".toList ∧ value = none ∧ settled.verbose = false ∧
          later = { settled with verbose := true }) := by
  unfold long at h
  split at h
  · next hname =>
      obtain ⟨settled, hsettled, h⟩ := exists_of_bind_eq_ok h
      refine ⟨settled, eq_ok_of_mapError_eq_ok hsettled, ?_⟩
      cases value with
      | some word => exact Or.inr (Or.inl ⟨word, hname, rfl, eq_ok_of_mapError_eq_ok h⟩)
      | none =>
          cases h
          exact Or.inl ⟨hname, rfl, rfl⟩
  · split at h
    · cases h
    · next flag hflag =>
        obtain ⟨rfl, settled, hsettle, hquiet, hlater⟩ := raise_eq_ok h
        have hname : "verbose".toList = name := eq_of_ofName hflag
        exact ⟨settled, hsettle, Or.inr (Or.inr ⟨hname.symm, rfl, hquiet, hlater⟩)⟩
    · cases h

/-! ### The step -/

theorem takes_of_next (h : progress.next given = .ok later) : progress.Takes given later := by
  have htext := Form.text_of given
  rw [next] at h
  split at h
  · next hseparated => exact .path (Or.inl hseparated) h
  · next hopen =>
      replace hopen : progress.separated = false := by simpa using hopen
      split at h
      · next hform =>
          cases h
          rw [hform] at htext
          rw [← htext]
          exact .separator hopen
      · next name value hform =>
          rw [hform] at htext
          obtain ⟨settled, hsettle, hcases⟩ := long_eq_ok h
          rcases hcases with
            ⟨rfl, rfl, rfl⟩ | ⟨word, rfl, rfl, hchoose⟩ | ⟨rfl, rfl, hquiet, rfl⟩
          · rw [← htext]
            exact .policy hopen hsettle
          · exact .policyWord hopen hform hsettle hchoose
          · exact .verbose hopen (Or.inr htext.symm) hsettle hquiet
      · next letters hform =>
          rw [hform] at htext
          have hne : letters ≠ [] := by
            rintro rfl
            rw [← htext] at hform
            cases hform
          obtain ⟨rfl, settled, hsettle, hquiet, rfl⟩ := foldlM_short_eq_ok hne h
          exact .verbose hopen (Or.inl htext.symm) hsettle hquiet
      · next text hform =>
          obtain rfl : text = given := Form.eq_of_of_eq_plain hform
          split at h
          · next hpending =>
              cases h
              exact .word hopen hform hpending
          · next hpending => exact .path (Or.inr ⟨hform, hpending⟩) h

theorem next_of_takes (h : progress.Takes given later) : progress.next given = .ok later := by
  cases h with
  | separator hopen =>
      rw [next, hopen]
      rfl
  | word hopen hplain hpending =>
      rw [next, hopen, hplain]
      exact if_pos hpending
  | path hplace hpath =>
      rcases hplace with hseparated | ⟨hplain, hpending⟩
      · rw [next, if_pos hseparated, hpath]
      · rw [next, hplain]
        show (if progress.separated then _ else
          if progress.pending = .policy none then _ else _) = _
        rw [if_neg hpending, ite_self, hpath]
  | policy hopen hsettle =>
      have hform : Form.of "--leading-zeros".toList = .long "leading-zeros".toList none := rfl
      rw [next, hopen, if_neg Bool.false_ne_true, hform]
      show progress.long _ _ = _
      unfold long
      rw [if_pos rfl, settled_eq_ok hsettle]
      rfl
  | policyWord hopen hform hsettle hchoose =>
      rw [next, hopen, if_neg Bool.false_ne_true, hform]
      show progress.long _ _ = _
      unfold long
      rw [if_pos rfl, settled_eq_ok hsettle]
      show Except.mapError _ _ = _
      rw [hchoose]
      rfl
  | @verbose _ settled hopen hflag hsettle hquiet =>
      have hraise (detail : Detail) :
          progress.raise detail .verbose = .ok { settled with verbose := true } := by
        rw [raise, settled_eq_ok hsettle]
        show (if _ then _ else _) = _
        rw [hquiet]
        rfl
      rcases hflag with rfl | rfl
      · have hform : Form.of "-v".toList = .short ['v'] := rfl
        rw [next, hopen, if_neg Bool.false_ne_true, hform]
        show [_].foldlM short progress = _
        rw [List.foldlM_cons, short]
        show progress.raise .brief .verbose >>= _ = _
        rw [hraise]
        rfl
      · have hform : Form.of "--verbose".toList = .long "verbose".toList none := rfl
        rw [next, hopen, if_neg Bool.false_ne_true, hform]
        exact hraise .full

theorem next_eq_ok_iff : progress.next given = .ok later ↔ progress.Takes given later :=
  ⟨takes_of_next, next_of_takes⟩

end Progress

end ImpLexer
