import ImpLexer.Files.Tree
import ImpLexer.Proofs.Concatenation
import ImpLexer.Proofs.Settling
import ImpLexer.Proofs.Visible

/-!
# A talkative run

A flag asks for a log, and it changes nothing else: the run behind it goes the
same way, to the same output and the same status, and what it tells of its
failures stands behind the log word for word. This is so wherever the flag is
put, as long as it is read as a flag there; behind a `--` it is a path, and
behind `--leading-zeros` it is in the way of the word.

The log has a line for the arguments, two for each file that is lexed and one for
each that fails to be. It is written before any listing is, and yet it says how
many lines a listing has.
-/

namespace ImpLexer

/-! ## Where a flag is read -/

/-- Behind these arguments an option is read as one: no `--` is among them, and the
last one does not wait for its word. -/
def TakesOptions (front : List Text) : Prop :=
  "--".toList ∉ front ∧ front.getLast? ≠ some "--leading-zeros".toList

instance (front : List Text) : Decidable (TakesOptions front) :=
  inferInstanceAs (Decidable (_ ∧ _))

namespace Progress

variable {progress later : Progress} {given flag : Text} {front back more : List Text}
  {arguments : Arguments}

theorem Takes.talk (h : progress.Takes given later) (hquiet : later.verbose = false) :
    { progress with verbose := true }.Takes given { later with verbose := true } := by
  cases h with
  | separator hopen => exact .separator hopen
  | word hopen hplain hwaiting => exact .word hopen hplain hwaiting
  | path hplace hpath => exact .path hplace (path_verbose true hpath)
  | policy hopen hsettle =>
      refine .policy ?_ (settle_verbose true hsettle)
      exact hopen
  | policyWord hopen hform hsettle hchoose =>
      refine .policyWord hopen hform (settle_verbose true hsettle) ?_
      obtain ⟨hnone, policy, hword, rfl⟩ := choose_eq_ok_iff.1 hchoose
      exact choose_eq_ok_iff.2 ⟨hnone, policy, hword, rfl⟩
  | verbose hopen hflag hsettle hbefore => cases hquiet

theorem read_talk (h : progress.read more = .ok arguments) (hquiet : arguments.verbose = false) :
    { progress with verbose := true }.read more = .ok { arguments with verbose := true } := by
  induction more generalizing progress with
  | nil =>
      obtain ⟨settled, hsettle, hpaths, rfl⟩ := finish_eq_ok_iff.1 h
      exact finish_eq_ok_iff.2 ⟨_, settle_verbose true hsettle, hpaths, rfl⟩
  | cons given more ih =>
      obtain ⟨later, htakes, hmore⟩ := read_cons_eq_ok_iff.1 h
      have hlater := verbose_eq_false_of_read hmore hquiet
      exact read_cons_eq_ok_iff.2 ⟨_, htakes.talk hlater, ih hmore⟩

/-- A flag makes talkative what can be read without it. -/
theorem read_flag (hflag : IsVerboseFlag flag) (hopen : progress.separated = false)
    (hpending : progress.pending ≠ .policy none) (h : progress.read back = .ok arguments)
    (hquiet : arguments.verbose = false) :
    progress.read (flag :: back) = .ok { arguments with verbose := true } := by
  obtain ⟨settled, hsettle, hread⟩ := (read_eq_ok_iff_exists_settle hpending).1 h
  have hbefore := verbose_eq_false_of_read hread hquiet
  exact read_cons_eq_ok_iff.2 ⟨_, .verbose hopen hflag hsettle hbefore, read_talk hread hquiet⟩

/-- A flag settles what it meets. -/
theorem Takes.exists_settle_of_flag (h : progress.Takes flag later) (hflag : IsVerboseFlag flag)
    (hopen : progress.separated = false) : ∃ settled, progress.settle = .ok settled := by
  rw [isVerboseFlag_iff] at hflag
  cases h with
  | separator =>
      have hform : Form.of "--".toList = .separator := rfl
      simp only [hform, reduceCtorEq, or_self] at hflag
  | word hopen hplain hwaiting => simp [hplain] at hflag
  | path hplace hpath =>
      rcases hplace with hclosed | ⟨hplain, -⟩
      · rw [hopen] at hclosed
        cases hclosed
      · simp [hplain] at hflag
  | policy hopen hsettle => exact ⟨_, hsettle⟩
  | policyWord hopen hform hsettle hchoose => exact ⟨_, hsettle⟩
  | verbose hopen hflag hsettle hbefore => exact ⟨_, hsettle⟩

end Progress

namespace Arguments

variable {front back : List Text} {flag : Text} {arguments : Arguments}

theorem parse_flag (hflag : IsVerboseFlag flag) (hplace : TakesOptions front)
    (h : parse (front ++ back) = .ok arguments) (hquiet : arguments.verbose = false) :
    parse (front ++ flag :: back) = .ok { arguments with verbose := true } := by
  rw [Progress.parse_eq_read, Progress.read_append_eq_ok_iff] at h ⊢
  obtain ⟨later, hfront, hback⟩ := h
  have hopen : later.separated = false := by
    rw [← Bool.not_eq_true, Progress.separated_iff_of_foldlM hfront]
    simp only [Bool.false_eq_true, false_or]
    exact hplace.1
  have hpending : later.pending ≠ .policy none := by
    rw [Ne, Progress.waits_iff_of_foldlM hfront hopen]
    exact hplace.2
  exact ⟨later, hfront, Progress.read_flag hflag hopen hpending hback hquiet⟩

/-- Where a flag is not read as one, it makes nothing talkative. -/
theorem takesOptions_of_parse_flag {loud : Arguments} (hflag : IsVerboseFlag flag)
    (h : parse (front ++ back) = .ok arguments) (hquiet : arguments.verbose = false)
    (hloud : parse (front ++ flag :: back) = .ok loud) (hverbose : loud.verbose = true) :
    TakesOptions front := by
  obtain ⟨later, hfront, hback⟩ := Progress.read_append_eq_ok_iff.1 h
  obtain ⟨later', hfront', hflagged⟩ := Progress.read_append_eq_ok_iff.1 hloud
  rw [hfront] at hfront'
  cases hfront'
  have hbefore := Progress.verbose_eq_false_of_read hback hquiet
  have hopen : later.separated = false := by
    rcases (Progress.verbose_iff_of_read hflagged).1 hverbose with hlater | ⟨hopen, -⟩
    · rw [hbefore] at hlater
      cases hlater
    · exact hopen
  obtain ⟨middle, htakes, -⟩ := Progress.read_cons_eq_ok_iff.1 hflagged
  obtain ⟨settled, hsettle⟩ := htakes.exists_settle_of_flag hflag hopen
  constructor
  · intro hdashes
    rw [(Progress.separated_iff_of_foldlM hfront).2 (Or.inr hdashes)] at hopen
    cases hopen
  · rw [Ne, ← Progress.waits_iff_of_foldlM hfront hopen]
    exact (Progress.settle_eq_ok hsettle).1

/-! ## What the log adds -/

/-- A run is the quiet run, with the log in front if one is wanted. -/
theorem run_eq_log (arguments : Arguments) (read : Reader) (sink : Sink) :
    arguments.run read sink =
      { { arguments with verbose := false }.run read sink with
        stderr := (if arguments.verbose then arguments.log read else []) ++
          ({ arguments with verbose := false }.run read sink).stderr } := by
  rfl

end Arguments

/-- What a talkative run says of a path. The lines of its listing are counted in what
the run for it alone writes. -/
def pathEvents (config : Config) (read : Reader) (path : Text) : List Event :=
  match read path with
  | .error _ => []
  | .ok source =>
      match lex config source with
      | .error error => [.failed error]
      | .ok _ =>
          let lines := (outputAlone config read path).stdout.count '\n'
          [.lexedSource lines source.byteSize, .lexedFile path lines]

theorem events_lexFile (config : Config) (read : Reader) (path : Text) :
    (lexFile config read path).events = pathEvents config read path := by
  rw [lexFile, pathEvents, outputAlone]
  cases read path with
  | error error => rfl
  | ok source =>
      cases hlex : lex config source with
      | error error => simp only [hlex]
      | ok tokens => simp only [hlex, Token.count_newline]

theorem Arguments.log_eq (arguments : Arguments) (read : Reader) :
    arguments.log read =
      (Event.begun arguments.paths.length arguments.config).record ++
        arguments.paths.flatMap fun path =>
          (pathEvents arguments.config read path).flatMap Event.record := by
  rw [log, events, List.flatMap_cons, List.flatMap_assoc, results, List.flatMap_map]
  simp only [events_lexFile]

/-- The text of a file has as many bytes as the file. -/
theorem Tree.byteSize_of_decode {bytes : ByteArray} {source : Text}
    (h : decode bytes = .ok source) : source.byteSize = bytes.size := by
  rw [decode, String.fromUTF8?] at h
  split at h
  · next text htext =>
      split at htext
      · cases htext
        cases h
        rw [Text.byteSize_eq, String.ofList_toList]
        rfl
      · cases htext
  · cases h

/-! ## Two runs -/

/-- A flag for the log, put where it is read as one, adds the log in front of what is
told of failures and leaves output and status as they are. The log has the lines that
are spelt out here, and counts the lines that each listing has where every line is
taken. -/
theorem command_verbose {front back : List Text} {flag : Text} {arguments : Arguments}
    (hparse : Arguments.parse (front ++ back) = .ok arguments)
    (hquiet : arguments.verbose = false) (hflag : IsVerboseFlag flag) :
    (TakesOptions front ↔
      ∃ loud, Arguments.parse (front ++ flag :: back) = .ok loud ∧ loud.verbose = true) ∧
    (TakesOptions front → ∀ read sink,
      command (front ++ flag :: back) read sink =
        { command (front ++ back) read sink with
          stderr :=
            (Event.begun arguments.paths.length arguments.config).record ++
              (arguments.paths.flatMap fun path =>
                (pathEvents arguments.config read path).flatMap Event.record) ++
              (command (front ++ back) read sink).stderr }) ∧
    (∀ read, (command (front ++ back) read .accepting).stdout =
      arguments.paths.flatMap fun path =>
        (if 1 < arguments.paths.length then (heading path).line else []) ++
          (outputAlone arguments.config read path).stdout) ∧
    (∀ bytes source, Tree.decode bytes = .ok source → source.byteSize = bytes.size) ∧
    (∀ files config, (Event.begun files config).record =
      "DEBUG lexing files=".toList ++ Text.decimal files ++
        " config=LexerConfig \x7b leading_zeros: ".toList ++
        (if config.leadingZeros = .reject then "Reject".toList else "Allow".toList) ++
        " \x7d\n".toList) ∧
    (∀ tokens bytes, (Event.lexedSource tokens bytes).record =
      "DEBUG lexed source tokens=".toList ++ Text.decimal tokens ++
        " bytes=".toList ++ Text.decimal bytes ++ ['\n']) ∧
    (∀ path tokens, (Event.lexedFile path tokens).record =
      "DEBUG lexed file path=".toList ++ path ++
        " tokens=".toList ++ Text.decimal tokens ++ ['\n']) ∧
    ∀ error, (Event.failed error).record =
      "DEBUG lexing failed offset=".toList ++ Text.decimal error.position.offset ++
        " error=".toList ++ error.cause.message ++ ['\n'] := by
  refine ⟨⟨?_, ?_⟩, ?_, ?_, fun _ _ => Tree.byteSize_of_decode, Event.record_begun,
    Event.record_lexedSource, Event.record_lexedFile, Event.record_failed⟩
  · intro hplace
    exact ⟨_, Arguments.parse_flag hflag hplace hparse hquiet, rfl⟩
  · rintro ⟨loud, hloud, hverbose⟩
    exact Arguments.takesOptions_of_parse_flag hflag hparse hquiet hloud hverbose
  · intro hplace read sink
    have hsame : { arguments with verbose := false } = arguments := by rw [← hquiet]
    have hloud := Arguments.run_eq_log { arguments with verbose := true } read sink
    simp only [if_true, hsame] at hloud
    rw [command, command, hparse, Arguments.parse_flag hflag hplace hparse hquiet]
    show Arguments.run _ read sink = _
    rw [hloud, Arguments.log_eq]
  · intro read
    rw [command, hparse]
    show (arguments.run read .accepting).stdout = _
    rw [Arguments.run_accepting arguments read hquiet fun _ _ => rfl]

/-- A flag in front of three paths, none of which has its listing written: the log tells of
the file that was lexed and of the one that could not be, and is silent about the missing
one. -/
theorem command_verbose_full :
    TakesOptions ["a".toList, "--leading-zeros".toList, "allow".toList] ∧
    command ["a".toList, "--leading-zeros".toList, "allow".toList, "-v".toList, "--".toList,
        "-b".toList, "c".toList]
        (fun path => if path = ['a'] then .ok "007".toList
          else if path = ['c'] then .ok "x '".toList else .error .notFound)
        (.refusing "full".toList) =
      { status := 1
        stdout := []
        stderr :=
          "DEBUG lexing files=3 config=LexerConfig \x7b leading_zeros: Allow \x7d\n".toList ++
            "DEBUG lexed source tokens=1 bytes=3\n".toList ++
            "DEBUG lexed file path=a tokens=1\n".toList ++
            "DEBUG lexing failed offset=2 error=unterminated character literal\n".toList ++
            "error: failed to write to stdout: full\n".toList ++
            "error: failed to write to stdout: full\n".toList ++
            "error: failed to write to stdout: full\n".toList } := by
  have hplace : TakesOptions ["a".toList, "--leading-zeros".toList, "allow".toList] := by decide
  refine ⟨hplace, ?_⟩
  generalize hread : (fun path => if path = ['a'] then Except.ok "007".toList
    else if path = ['c'] then Except.ok "x '".toList
    else Except.error ReadError.notFound : Reader) = read
  have hparse : Arguments.parse (["a".toList, "--leading-zeros".toList, "allow".toList] ++
      ["--".toList, "-b".toList, "c".toList]) =
        .ok ⟨[['a'], ['-', 'b'], ['c']], ⟨.allow⟩, false⟩ := rfl
  have hflag : IsVerboseFlag "-v".toList := Or.inl rfl
  have hlex : lex ⟨.allow⟩ "007".toList = .ok [⟨.integer, "007".toList, 0⟩] :=
    lex_eq_scanUpTo _ _
  have hopen : lex ⟨.allow⟩ "x '".toList = .error ⟨.unterminatedCharacter, ⟨2, 1, 3⟩⟩ :=
    lex_eq_scanUpTo _ _
  have hlexed : pathEvents ⟨.allow⟩ read ['a'] = [.lexedSource 1 3, .lexedFile ['a'] 1] := by
    have hfile : read ['a'] = .ok "007".toList := by
      rw [← hread]
      rfl
    rw [pathEvents, outputAlone, hfile]
    simp only [hlex]
    rfl
  have hmissing : pathEvents ⟨.allow⟩ read ['-', 'b'] = [] := by
    rw [pathEvents, ← hread]
    rfl
  have hfailed : pathEvents ⟨.allow⟩ read ['c'] =
      [.failed ⟨.unterminatedCharacter, ⟨2, 1, 3⟩⟩] := by
    have hfile : read ['c'] = .ok "x '".toList := by
      rw [← hread]
      rfl
    rw [pathEvents, hfile]
    simp only [hopen]
  have hquiet : command (["a".toList, "--leading-zeros".toList, "allow".toList] ++
      ["--".toList, "-b".toList, "c".toList]) read (.refusing "full".toList) =
        ⟨1, [], "error: failed to write to stdout: full\n".toList ++
          ("error: failed to write to stdout: full\n".toList ++
            "error: failed to write to stdout: full\n".toList)⟩ := by
    rw [command, hparse]
    rfl
  have hloud := (command_verbose hparse rfl hflag).2.1 hplace read (.refusing "full".toList)
  refine hloud.trans ?_
  have hbegun : (Event.begun 3 ⟨.allow⟩).record =
      "DEBUG lexing files=3 config=LexerConfig \x7b leading_zeros: Allow \x7d\n".toList := by
    decide +kernel
  have hsource : (Event.lexedSource 1 3).record =
      "DEBUG lexed source tokens=1 bytes=3\n".toList := by decide +kernel
  have hfile : (Event.lexedFile ['a'] 1).record =
      "DEBUG lexed file path=a tokens=1\n".toList := by decide +kernel
  have hfault : (Event.failed ⟨.unterminatedCharacter, ⟨2, 1, 3⟩⟩).record =
      "DEBUG lexing failed offset=2 error=unterminated character literal\n".toList := by
    decide +kernel
  simp only [List.flatMap_cons, List.flatMap_nil, List.length_cons, List.length_nil, hlexed,
    hmissing, hfailed, hbegun, hsource, hfile, hfault, hquiet, List.append_assoc, List.nil_append]

end ImpLexer
