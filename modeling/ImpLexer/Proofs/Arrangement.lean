import Mathlib.Tactic.Tauto
import ImpLexer.Command.Run
import ImpLexer.Proofs.Settling

/-!
# Options among the paths

Whoever writes an argument list thinks of it as paths in an order, with options
put among them wherever they came to mind. `IsArrangement` is that view: it says
which lists are written for given paths and options, and it knows nothing of what
is pending, of repetitions or of the order in which things are checked.

The two views agree (`parse_eq_ok_iff`). A list is read to a run exactly if it is
an arrangement of at least one path and none that is empty, and it is read to what
it is an arrangement of. So no path is ever taken for the word of an option or lost
behind a `--`, and where the options stand makes no difference to the run.

Both directions go through the arguments one after another, always from a state in
which nothing is pending. What settles behind an argument is settled there and
then, which changes nothing (`read_eq_ok_iff_exists_settle`).
-/

namespace ImpLexer

namespace Arguments

/-- The arguments are the paths, in their order, with the options put anywhere among them:
the one for the policy if there is a policy, and a flag if the run is to be talkative. A path
in front of a `--` has to look like one. A `--` stands behind all options, and what is behind
it are paths, whatever they look like. -/
inductive IsArrangement : Option LeadingZeros → Bool → List Text → List Text → Prop where
  | nil : IsArrangement none false [] []
  | separator (paths : List Text) : IsArrangement none false paths ("--".toList :: paths)
  | path {policy : Option LeadingZeros} {verbose : Bool} {path : Text} {paths given : List Text}
      (hplain : path = "-".toList ∨ path.head? ≠ some '-')
      (hmore : IsArrangement policy verbose paths given) :
      IsArrangement policy verbose (path :: paths) (path :: given)
  | policy {chosen : LeadingZeros} {verbose : Bool} {paths given : List Text}
      (hmore : IsArrangement none verbose paths given) :
      IsArrangement (some chosen) verbose paths
        ("--leading-zeros".toList :: chosen.word :: given)
  | policyWord {chosen : LeadingZeros} {verbose : Bool} {paths given : List Text}
      (hmore : IsArrangement none verbose paths given) :
      IsArrangement (some chosen) verbose paths
        (("--leading-zeros=".toList ++ chosen.word) :: given)
  | verbose {policy : Option LeadingZeros} {flag : Text} {paths given : List Text}
      (hflag : IsVerboseFlag flag) (hmore : IsArrangement policy false paths given) :
      IsArrangement policy true paths (flag :: given)

end Arguments

namespace Progress

open Arguments (IsArrangement)

variable {progress later : Progress} {policy : Option LeadingZeros} {chosen : LeadingZeros}
  {verbose : Bool} {argument path word : Text} {paths given more : List Text}
  {arguments : Arguments}

/-! ## Reading one argument -/

theorem choose_word_eq_ok_iff : progress.choose word = .ok later ↔
    progress.policy = none ∧
      ∃ chosen : LeadingZeros, word = chosen.word ∧
        later = { progress with policy := some chosen } := by
  simp only [choose_eq_ok_iff, LeadingZeros.ofWord_eq_ok_iff]

theorem read_path_eq_ok_iff (hnothing : progress.pending = .nothing)
    (hplace : progress.separated = true ∨ Form.of path = .plain path) :
    progress.read (path :: more) = .ok arguments ↔
      path ≠ [] ∧ { progress with paths := progress.paths ++ [path] }.read more =
        .ok arguments := by
  have hpath : progress.path path = .ok { progress with pending := .paths [path] } :=
    path_eq_ok_iff.2 (Or.inr ⟨by simp [hnothing], progress, settle_of_nothing hnothing, rfl⟩)
  have htakes := Takes.path (hplace.imp_right fun h => ⟨h, by simp [hnothing]⟩) hpath
  have hsettle : ∀ settled, { progress with pending := .paths [path] }.settle = .ok settled ↔
      path ≠ [] ∧ settled = { progress with paths := progress.paths ++ [path] } := by
    intro settled
    rw [settle_paths_eq_ok_iff rfl, List.mem_singleton, hnothing, ne_comm]
  rw [read_cons_of_takes htakes, read_eq_ok_iff_exists_settle (by simp)]
  simp only [hsettle, and_assoc, exists_and_left, exists_eq_left]

theorem read_policy_eq_ok_iff (hnothing : progress.pending = .nothing)
    (hopen : progress.separated = false) (hplain : Form.of word = .plain word) :
    progress.read ("--leading-zeros".toList :: word :: more) = .ok arguments ↔
      progress.policy = none ∧ ∃ chosen : LeadingZeros, word = chosen.word ∧
        { progress with policy := some chosen }.read more = .ok arguments := by
  have hoption := Takes.policy hopen (settle_of_nothing hnothing)
  have hword : { progress with pending := .policy none }.Takes word
      { progress with pending := .policy (some word) } := .word hopen hplain rfl
  have hsettle : { progress with pending := .policy (some word) }.settle =
      progress.choose word := by
    rw [settle, ← hnothing]
  rw [read_cons_of_takes hoption, read_cons_of_takes hword,
    read_eq_ok_iff_exists_settle (by simp), hsettle]
  simp only [choose_word_eq_ok_iff, and_assoc, exists_and_left]
  refine and_congr_right fun _ => ⟨?_, ?_⟩
  · rintro ⟨settled, ⟨chosen, hword, rfl⟩, h⟩
    exact ⟨chosen, hword, h⟩
  · rintro ⟨chosen, hword, h⟩
    exact ⟨_, ⟨chosen, hword, rfl⟩, h⟩

/-! ## A word that is waited for -/

theorem settle_ne_ok_of_waiting (hwaiting : progress.pending = .policy none) :
    progress.settle ≠ .ok later :=
  fun h => (settle_eq_ok h).1 hwaiting

theorem path_ne_ok_of_waiting (hwaiting : progress.pending = .policy none) :
    progress.path path ≠ .ok later := by
  intro h
  rcases path_eq_ok_iff.1 h with ⟨before, hbefore, -⟩ | ⟨-, settled, hsettle, -⟩
  · rw [hwaiting] at hbefore
    cases hbefore
  · exact settle_ne_ok_of_waiting hwaiting hsettle

/-- Behind a `--` a word is waited for in vain. -/
theorem read_ne_ok_of_waiting (hwaiting : progress.pending = .policy none)
    (hclosed : progress.separated = true) : progress.read given ≠ .ok arguments := by
  intro h
  cases given with
  | nil =>
      obtain ⟨settled, hsettle, -⟩ := finish_eq_ok_iff.1 h
      exact settle_ne_ok_of_waiting hwaiting hsettle
  | cons argument more =>
      obtain ⟨later, htakes, -⟩ := read_cons_eq_ok_iff.1 h
      cases htakes with
      | path hplace hpath => exact path_ne_ok_of_waiting hwaiting hpath
      | separator hopen | word hopen | policy hopen | policyWord hopen | verbose hopen =>
          rw [hclosed] at hopen
          cases hopen

/-- A word that is waited for comes at once. -/
theorem exists_word_of_read (hwaiting : progress.pending = .policy none)
    (h : progress.read given = .ok arguments) :
    ∃ word more, given = word :: more ∧ Form.of word = .plain word := by
  cases given with
  | nil =>
      obtain ⟨settled, hsettle, -⟩ := finish_eq_ok_iff.1 h
      exact absurd hsettle (settle_ne_ok_of_waiting hwaiting)
  | cons word more =>
      obtain ⟨later, htakes, hmore⟩ := read_cons_eq_ok_iff.1 h
      cases htakes with
      | separator hopen => exact absurd hmore (read_ne_ok_of_waiting hwaiting rfl)
      | word hopen hplain => exact ⟨word, more, rfl, hplain⟩
      | path hplace hpath => exact absurd hpath (path_ne_ok_of_waiting hwaiting)
      | policy hopen hsettle | policyWord hopen hform hsettle | verbose hopen hflag hsettle =>
          exact absurd hsettle (settle_ne_ok_of_waiting hwaiting)

/-! ## What is settled and what is still to come -/

/-- What has been settled makes up `arguments`, together with a policy, a flag and paths
that are still to come. No option is given twice. -/
def AddsUp (settled : Progress) (policy : Option LeadingZeros) (verbose : Bool)
    (paths : List Text) (arguments : Arguments) : Prop :=
  (settled.policy = none ∨ policy = none) ∧ (settled.verbose = false ∨ verbose = false) ∧
    [] ∉ paths ∧ settled.paths ++ paths ≠ [] ∧
    arguments = ⟨settled.paths ++ paths, ((settled.policy.or policy).map Config.mk).getD {},
      settled.verbose || verbose⟩

theorem addsUp_path_iff : progress.AddsUp policy verbose (path :: paths) arguments ↔
    path ≠ [] ∧ { progress with paths := progress.paths ++ [path] }.AddsUp policy verbose paths
      arguments := by
  simp only [AddsUp, List.mem_cons, not_or, List.append_assoc, List.singleton_append, ne_eq,
    @eq_comm _ [] path]
  tauto

theorem addsUp_policy_iff : progress.AddsUp (some chosen) verbose paths arguments ↔
    progress.policy = none ∧
      { progress with policy := some chosen }.AddsUp none verbose paths arguments := by
  constructor
  · rintro ⟨hpolicy, hrest⟩
    have hnone : progress.policy = none := by simpa using hpolicy
    rw [hnone] at hrest
    exact ⟨hnone, Or.inr rfl, hrest⟩
  · rintro ⟨hnone, -, hrest⟩
    refine ⟨Or.inl hnone, ?_⟩
    rw [hnone]
    exact hrest

theorem addsUp_verbose_iff : progress.AddsUp policy true paths arguments ↔
    progress.verbose = false ∧
      { progress with verbose := true }.AddsUp policy false paths arguments := by
  constructor
  · rintro ⟨hpolicy, hverbose, hrest⟩
    have hquiet : progress.verbose = false := by simpa using hverbose
    rw [hquiet] at hrest
    exact ⟨hquiet, hpolicy, Or.inr rfl, hrest⟩
  · rintro ⟨hquiet, hpolicy, -, hrest⟩
    refine ⟨hpolicy, Or.inl hquiet, ?_⟩
    rw [hquiet]
    exact hrest

theorem AddsUp.policy_eq_none (h : progress.AddsUp policy verbose paths arguments)
    (hsome : progress.policy = some chosen) : policy = none := by
  simpa [hsome] using h.1

theorem AddsUp.verbose_eq_false (h : progress.AddsUp policy verbose paths arguments)
    (htalk : progress.verbose = true) : verbose = false := by
  simpa [htalk] using h.2.1

theorem read_nil_eq_ok_iff (hnothing : progress.pending = .nothing) :
    progress.read [] = .ok arguments ↔ progress.AddsUp none false [] arguments := by
  have hfinish : progress.read [] = progress.finish := rfl
  rw [hfinish, finish_eq_ok_iff, settle_of_nothing hnothing]
  simp [AddsUp]

/-- Behind a `--` every argument is a path. -/
theorem read_eq_ok_iff_of_separated (hnothing : progress.pending = .nothing)
    (hclosed : progress.separated = true) :
    progress.read paths = .ok arguments ↔ progress.AddsUp none false paths arguments := by
  induction paths generalizing progress with
  | nil => exact read_nil_eq_ok_iff hnothing
  | cons path paths ih =>
      rw [read_path_eq_ok_iff hnothing (Or.inl hclosed), addsUp_path_iff]
      exact and_congr_right fun _ => ih hnothing hclosed

theorem read_separator_eq_ok_iff (hnothing : progress.pending = .nothing)
    (hopen : progress.separated = false) :
    progress.read ("--".toList :: paths) = .ok arguments ↔
      progress.AddsUp none false paths arguments := by
  rw [read_cons_of_takes (.separator hopen)]
  exact @read_eq_ok_iff_of_separated { progress with separated := true } _ _ hnothing rfl

/-! ## Reading an arrangement -/

theorem read_of_isArrangement (h : IsArrangement policy verbose paths given)
    (hnothing : progress.pending = .nothing) (hopen : progress.separated = false)
    (hadds : progress.AddsUp policy verbose paths arguments) :
    progress.read given = .ok arguments := by
  induction h generalizing progress with
  | nil => exact (read_nil_eq_ok_iff hnothing).2 hadds
  | separator paths => exact (read_separator_eq_ok_iff hnothing hopen).2 hadds
  | path hplain hmore ih =>
      obtain ⟨hne, hadds⟩ := addsUp_path_iff.1 hadds
      have hform := Form.of_eq_plain_iff.2 hplain
      exact (read_path_eq_ok_iff hnothing (Or.inr hform)).2 ⟨hne, ih hnothing hopen hadds⟩
  | @policy chosen verbose paths given hmore ih =>
      obtain ⟨hnone, hadds⟩ := addsUp_policy_iff.1 hadds
      have hform : Form.of chosen.word = .plain chosen.word := by cases chosen <;> rfl
      exact (read_policy_eq_ok_iff hnothing hopen hform).2
        ⟨hnone, chosen, rfl, ih hnothing hopen hadds⟩
  | @policyWord chosen verbose paths given hmore ih =>
      obtain ⟨hnone, hadds⟩ := addsUp_policy_iff.1 hadds
      have hform : Form.of ("--leading-zeros=".toList ++ chosen.word) =
          .long "leading-zeros".toList (some chosen.word) := by cases chosen <;> rfl
      have hsettle := settle_of_nothing hnothing
      have hchoose := choose_word_eq_ok_iff.2 ⟨hnone, chosen, rfl, rfl⟩
      rw [read_cons_of_takes (.policyWord hopen hform hsettle hchoose)]
      exact ih hnothing hopen hadds
  | verbose hflag hmore ih =>
      obtain ⟨hquiet, hadds⟩ := addsUp_verbose_iff.1 hadds
      have hsettle := settle_of_nothing hnothing
      rw [read_cons_of_takes (.verbose hopen hflag hsettle hquiet)]
      exact ih hnothing hopen hadds

/-- What can be read to an end is an arrangement. The recursion is on the list, from which
an option and its word are taken together. -/
theorem exists_isArrangement_of_read {progress : Progress} {given : List Text}
    (h : progress.read given = .ok arguments) (hnothing : progress.pending = .nothing)
    (hopen : progress.separated = false) :
    ∃ policy verbose paths, IsArrangement policy verbose paths given ∧
      progress.AddsUp policy verbose paths arguments := by
  have hsettle := settle_of_nothing hnothing
  match given with
  | [] => exact ⟨none, false, [], .nil, (read_nil_eq_ok_iff hnothing).1 h⟩
  | argument :: more =>
      obtain ⟨later, htakes, hmore⟩ := read_cons_eq_ok_iff.1 h
      cases htakes with
      | separator =>
          exact ⟨none, false, more, .separator more, (read_separator_eq_ok_iff hnothing hopen).1 h⟩
      | word _ _ hwaiting =>
          rw [hnothing] at hwaiting
          cases hwaiting
      | path hplace =>
          have hplain : Form.of argument = .plain argument := by
            simpa [hopen, hnothing] using hplace
          obtain ⟨hne, hrest⟩ := (read_path_eq_ok_iff hnothing (Or.inr hplain)).1 h
          obtain ⟨policy, verbose, paths, harranged, hadds⟩ :=
            exists_isArrangement_of_read hrest hnothing hopen
          exact ⟨policy, verbose, argument :: paths,
            .path (Form.of_eq_plain_iff.1 hplain) harranged, addsUp_path_iff.2 ⟨hne, hadds⟩⟩
      | policy =>
          obtain ⟨word, more, rfl, hplain⟩ := exists_word_of_read rfl hmore
          obtain ⟨hnone, chosen, rfl, hrest⟩ := (read_policy_eq_ok_iff hnothing hopen hplain).1 h
          obtain ⟨policy, verbose, paths, harranged, hadds⟩ :=
            exists_isArrangement_of_read hrest hnothing hopen
          obtain rfl := hadds.policy_eq_none rfl
          exact ⟨some chosen, verbose, paths, .policy harranged,
            addsUp_policy_iff.2 ⟨hnone, hadds⟩⟩
      | policyWord _ hform hsettled hchoose =>
          rw [hsettle] at hsettled
          cases hsettled
          obtain ⟨hnone, chosen, rfl, rfl⟩ := choose_word_eq_ok_iff.1 hchoose
          obtain ⟨policy, verbose, paths, harranged, hadds⟩ :=
            exists_isArrangement_of_read hmore hnothing hopen
          obtain rfl := hadds.policy_eq_none rfl
          have hargument : "--leading-zeros=".toList ++ chosen.word = argument := by
            rw [← Form.text_of argument, hform]
            rfl
          subst hargument
          exact ⟨some chosen, verbose, paths, .policyWord harranged,
            addsUp_policy_iff.2 ⟨hnone, hadds⟩⟩
      | verbose _ hflag hsettled hquiet =>
          rw [hsettle] at hsettled
          cases hsettled
          obtain ⟨policy, verbose, paths, harranged, hadds⟩ :=
            exists_isArrangement_of_read hmore hnothing hopen
          obtain rfl := hadds.verbose_eq_false rfl
          exact ⟨policy, true, paths, .verbose hflag harranged,
            addsUp_verbose_iff.2 ⟨hquiet, hadds⟩⟩
termination_by given.length

end Progress

/-! ## What a list is read to -/

/-- A list is read to a run if it is an arrangement of paths that can be read, and to what
it is an arrangement of. -/
theorem Arguments.parse_eq_ok_iff {given : List Text} {arguments : Arguments} :
    parse given = .ok arguments ↔
      ∃ policy verbose paths, IsArrangement policy verbose paths given ∧ paths ≠ [] ∧
        [] ∉ paths ∧ arguments = ⟨paths, (policy.map Config.mk).getD {}, verbose⟩ := by
  rw [Progress.parse_eq_read]
  constructor
  · intro h
    obtain ⟨policy, verbose, paths, hgiven, -, -, hnamed, hsome, heq⟩ :=
      Progress.exists_isArrangement_of_read h rfl rfl
    exact ⟨policy, verbose, paths, hgiven, hsome, hnamed, heq⟩
  · rintro ⟨policy, verbose, paths, hgiven, hsome, hnamed, heq⟩
    exact Progress.read_of_isArrangement hgiven rfl rfl
      ⟨Or.inl rfl, Or.inl rfl, hnamed, hsome, heq⟩

/-- The option that selects a policy, if one is selected. -/
def LeadingZeros.option : Option LeadingZeros → List Text
  | none => []
  | some policy => ["--leading-zeros".toList, policy.word]

namespace Arguments

variable {policy : Option LeadingZeros} {verbose : Bool} {paths given : List Text}

/-- A list of arguments that asks for one path to be lexed. -/
def single (policy : Option LeadingZeros) (path : Text) : List Text :=
  LeadingZeros.option policy ++
    if path.head? = some '-' then ["--".toList, path] else [path]

/-- A list of arguments in good order: the options, and behind a `--` the paths. -/
def canonical (policy : Option LeadingZeros) (verbose : Bool) (paths : List Text) : List Text :=
  LeadingZeros.option policy ++
    ((if verbose then ["--verbose".toList] else []) ++ "--".toList :: paths)

theorem IsArrangement.option_append (policy : Option LeadingZeros)
    (h : IsArrangement none verbose paths given) :
    IsArrangement policy verbose paths (LeadingZeros.option policy ++ given) := by
  cases policy with
  | none => exact h
  | some chosen => exact .policy h

theorem isArrangement_canonical (policy : Option LeadingZeros) (verbose : Bool)
    (paths : List Text) : IsArrangement policy verbose paths (canonical policy verbose paths) := by
  refine .option_append policy ?_
  cases verbose with
  | false => exact .separator paths
  | true => exact .verbose (Or.inr rfl) (.separator paths)

end Arguments

/-! ## The run -/

open Arguments (IsArrangement canonical)

/-- Wherever the options stand, the run sees the paths in their order, and does what it does
for the options and, behind a `--`, the paths. -/
theorem command_of_isArrangement {policy : Option LeadingZeros} {verbose : Bool}
    {paths given : List Text} (hgiven : IsArrangement policy verbose paths given)
    (hsome : paths ≠ []) (hnamed : [] ∉ paths) :
    Arguments.parse given = .ok ⟨paths, (policy.map Config.mk).getD {}, verbose⟩ ∧
    ∀ read sink,
      command given read sink = command (canonical policy verbose paths) read sink := by
  have hparse : ∀ {list}, IsArrangement policy verbose paths list →
      Arguments.parse list = .ok ⟨paths, (policy.map Config.mk).getD {}, verbose⟩ :=
    fun h => Arguments.parse_eq_ok_iff.2 ⟨policy, verbose, paths, h, hsome, hnamed, rfl⟩
  refine ⟨hparse hgiven, fun read sink => ?_⟩
  rw [command, command, hparse hgiven, hparse (Arguments.isArrangement_canonical _ _ _)]

/-- A lone dash and the word of an option are paths here, and so are a flag and a `--` that
stand behind the `--`. -/
theorem command_of_isArrangement_scattered :
    IsArrangement (some .allow) true (["-", "allow", "-v", "--"].map String.toList)
      (["-", "--leading-zeros=allow", "allow", "-v", "--", "-v", "--"].map String.toList) ∧
    ["-", "allow", "-v", "--"].map String.toList ≠ [] ∧
    [] ∉ ["-", "allow", "-v", "--"].map String.toList ∧
    Arguments.parse
        (["-", "--leading-zeros=allow", "allow", "-v", "--", "-v", "--"].map String.toList) =
      .ok ⟨["-", "allow", "-v", "--"].map String.toList, ⟨.allow⟩, true⟩ ∧
    ∀ read sink,
      command (["-", "--leading-zeros=allow", "allow", "-v", "--", "-v", "--"].map String.toList)
          read sink =
        command (["--leading-zeros", "allow", "--verbose", "--", "-", "allow", "-v", "--"].map
          String.toList) read sink := by
  have hgiven : IsArrangement (some .allow) true
      (["-", "allow", "-v", "--"].map String.toList)
      (["-", "--leading-zeros=allow", "allow", "-v", "--", "-v", "--"].map String.toList) :=
    .path (Or.inl rfl) (.policyWord (.path (Or.inr (by decide))
      (.verbose (Or.inl rfl) (.separator (["-v", "--"].map String.toList)))))
  have hsome : ["-", "allow", "-v", "--"].map String.toList ≠ [] := by decide
  have hnamed : [] ∉ ["-", "allow", "-v", "--"].map String.toList := by decide
  obtain ⟨hparse, hsame⟩ := command_of_isArrangement hgiven hsome hnamed
  exact ⟨hgiven, hsome, hnamed, hparse, hsame⟩

end ImpLexer
