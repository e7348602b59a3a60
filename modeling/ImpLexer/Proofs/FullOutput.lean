import ImpLexer.Proofs.Concatenation

/-!
# A run whose output is refused

A run that may not write tells so, once for each path that it had something to
write for. That takes the place of what else was wrong with the path; a path
with nothing to write, which is one without heading and tokens, is reported on as
ever. So the run ends well only if nothing had been said at all.
-/

namespace ImpLexer

theorem Text.line_ne_nil (t : Text) : t.line ≠ [] := by
  rw [line]
  simp

/-! ## What is reported of a path -/

/-- Where no line is taken, the first one that is written decides. -/
theorem FileResult.report_refusing (reason : Text) (headed : Bool) (path : Text)
    (result : FileResult) :
    result.report (.refusing reason) headed path =
      ⟨[], if (result.report .accepting headed path).written = [] then result.failure
        else some (.write reason)⟩ := by
  rw [report_accepting]
  obtain ⟨events, outcome⟩ := result
  cases headed with
  | true =>
      have hheading (listing : Text) : (heading path).line ++ listing ≠ [] := by
        simp [Text.line_ne_nil]
      simp only [if_true, if_neg (hheading _)]
      rfl
  | false =>
      simp only [Bool.false_eq_true, if_false, List.nil_append]
      match outcome with
      | .error failure => rfl
      | .ok [] => rfl
      | .ok (token :: tokens) =>
          have hlisting (more : Text) : token.render.line ++ more ≠ [] := by
            simp [Text.line_ne_nil]
          simp only [listing, List.flatMap_cons, if_neg (hlisting _)]
          rfl

namespace Arguments

variable (arguments : Arguments) (read : Reader)

/-- What is written for a path where every line is taken. -/
def written (path : Text) : Text :=
  (if 1 < arguments.paths.length then (heading path).line else []) ++
    (lexFile arguments.config read path).listing

/-- What is wrong with a path where every line is taken. -/
def failure (path : Text) : Option Failure := (lexFile arguments.config read path).failure

/-- What is wrong with a path where every line is refused, for the reason given. -/
def refusal (reason path : Text) : Option Failure :=
  if arguments.written read path = [] then arguments.failure read path
  else some (.write reason)

theorem report_lexFile_accepting (path : Text) :
    (lexFile arguments.config read path).report .accepting (1 < arguments.paths.length) path =
      ⟨arguments.written read path, arguments.failure read path⟩ := by
  rw [FileResult.report_accepting, written, failure]
  simp only [decide_eq_true_eq]

theorem report_lexFile_refusing (reason path : Text) :
    (lexFile arguments.config read path).report (.refusing reason)
      (1 < arguments.paths.length) path = ⟨[], arguments.refusal read reason path⟩ := by
  rw [FileResult.report_refusing, report_lexFile_accepting]
  rfl

theorem refusal_eq_none_iff {reason path : Text} :
    arguments.refusal read reason path = none ↔
      arguments.failure read path = none ∧ arguments.written read path = [] := by
  rw [refusal]
  split
  · next hnothing => simp [hnothing]
  · next hsomething => simp [hsomething]

theorem failure_ne_write (path reason : Text) :
    arguments.failure read path ≠ some (.write reason) := by
  rw [failure, lexFile]
  cases read path with
  | error error => simp [FileResult.failure]
  | ok source =>
      cases hlex : lex arguments.config source with
      | error error => simp [FileResult.failure, hlex]
      | ok tokens => simp [FileResult.failure, hlex]

theorem refusal_eq_write_iff {reason path why : Text} :
    arguments.refusal read reason path = some (.write why) ↔
      why = reason ∧ arguments.written read path ≠ [] := by
  rw [refusal]
  split
  · next hnothing => simp [hnothing, failure_ne_write]
  · next hsomething => simp [hsomething, eq_comm]

end Arguments

/-! ## Two runs -/

/-- The same run, once with every line taken and once with every line refused, and the
texts of the failures that it tells of. -/
theorem command_refusing {given : List Text} {arguments : Arguments}
    (hparse : Arguments.parse given = .ok arguments) (read : Reader) (reason : Text) :
    command given read .accepting =
      { status := if ∀ path ∈ arguments.paths, arguments.failure read path = none then 0 else 1
        stdout := arguments.paths.flatMap (arguments.written read)
        stderr := (if arguments.verbose then arguments.log read else []) ++
          (arguments.paths.filterMap (arguments.failure read)).flatMap Failure.report } ∧
    command given read (.refusing reason) =
      { status :=
          if ∀ path ∈ arguments.paths, arguments.refusal read reason path = none then 0 else 1
        stdout := []
        stderr := (if arguments.verbose then arguments.log read else []) ++
          (arguments.paths.filterMap (arguments.refusal read reason)).flatMap
            Failure.report } ∧
    (∀ path why, arguments.refusal read reason path = some (.write why) ↔
      why = reason ∧ arguments.written read path ≠ []) ∧
    ((command given read (.refusing reason)).status = 0 ↔
      (command given read .accepting).status = 0 ∧
        (command given read .accepting).stdout = []) ∧
    (∀ why, (Failure.write why).report =
      "error: failed to write to stdout: ".toList ++ why ++ ['\n']) ∧
    (∀ path error, (Failure.read path error).report =
      "error: failed to read ".toList ++ path ++ ": ".toList ++ error.message ++ ['\n']) ∧
    ∀ path error, (Failure.lex path error).report =
      "error: ".toList ++ error.cause.message ++ "\n --> ".toList ++ path ++
        ':' :: Text.decimal error.position.line ++
        ':' :: Text.decimal error.position.column ++ ['\n'] := by
  have haccepting := arguments.run_eq_of_report read
    fun path _ => arguments.report_lexFile_accepting read path
  have hrefusing := arguments.run_eq_of_report read
    fun path _ => arguments.report_lexFile_refusing read reason path
  have hnothing : (arguments.paths.flatMap fun _ => ([] : Text)) = [] := by simp
  rw [hnothing] at hrefusing
  rw [command, command, hparse]
  refine ⟨haccepting, hrefusing, fun _ _ => arguments.refusal_eq_write_iff read, ?_,
    Failure.report_write, Failure.report_read, Failure.report_lex⟩
  show (arguments.run read (.refusing reason)).status = 0 ↔
    (arguments.run read .accepting).status = 0 ∧ (arguments.run read .accepting).stdout = []
  rw [haccepting, hrefusing]
  simp only [ite_eq_left_iff, Nat.one_ne_zero, imp_false, not_not, List.flatMap_eq_nil_iff,
    Arguments.refusal_eq_none_iff]
  exact forall₂_and

/-- Two files are missing, and a third holds a quotation mark: each has a heading, and so
each is told not to be written. -/
theorem command_refusing_missing :
    command ["b".toList, "c".toList, "d".toList]
        (fun path => if path = ['d'] then .ok "x \"".toList else .error .notFound) .accepting =
      { status := 1
        stdout := "==> b <==\n==> c <==\n==> d <==\n".toList
        stderr :=
          "error: failed to read b: No such file or directory (os error 2)\n".toList ++
            "error: failed to read c: No such file or directory (os error 2)\n".toList ++
            "error: unterminated string literal\n --> d:1:3\n".toList } ∧
    command ["b".toList, "c".toList, "d".toList]
        (fun path => if path = ['d'] then .ok "x \"".toList else .error .notFound)
        (.refusing "full".toList) =
      { status := 1
        stdout := []
        stderr :=
          "error: failed to write to stdout: full\n".toList ++
            "error: failed to write to stdout: full\n".toList ++
            "error: failed to write to stdout: full\n".toList } := by
  generalize hread : (fun path => if path = ['d'] then Except.ok "x \"".toList
    else Except.error ReadError.notFound : Reader) = read
  have hparse : Arguments.parse ["b".toList, "c".toList, "d".toList] =
      .ok ⟨[['b'], ['c'], ['d']], {}, false⟩ := rfl
  have hlex : lex {} "x \"".toList = .error ⟨.unterminatedString, ⟨2, 1, 3⟩⟩ :=
    lex_eq_scanUpTo _ _
  obtain ⟨haccepting, hrefusing, hrefusal, -⟩ := command_refusing hparse read "full".toList
  generalize hthree : (⟨[['b'], ['c'], ['d']], {}, false⟩ : Arguments) = three at *
  have hmissing : ∀ path, path ≠ ['d'] → three.failure read path = some (.read path .notFound) ∧
      three.written read path = (heading path).line := by
    intro path hpath
    have hfile : lexFile {} read path = ⟨[], .error (.read path .notFound)⟩ := by
      rw [lexFile, ← hread]
      simp only [if_neg hpath]
    rw [← hthree, Arguments.failure, Arguments.written, hfile]
    exact ⟨rfl, List.append_nil _⟩
  have hopen : three.failure read ['d'] =
        some (.lex ['d'] ⟨.unterminatedString, ⟨2, 1, 3⟩⟩) ∧
      three.written read ['d'] = (heading ['d']).line := by
    have hfile : lexFile {} read ['d'] = ⟨[.failed ⟨.unterminatedString, ⟨2, 1, 3⟩⟩],
        .error (.lex ['d'] ⟨.unterminatedString, ⟨2, 1, 3⟩⟩)⟩ := by
      rw [lexFile, ← hread]
      simp only [if_true, hlex]
    rw [← hthree, Arguments.failure, Arguments.written, hfile]
    exact ⟨rfl, List.append_nil _⟩
  have hheading : ∀ path, three.written read path ≠ [] := by
    rw [← hthree]
    simp [Arguments.written, heading, Text.line]
  have hrefused := fun path => (hrefusal path "full".toList).2 ⟨rfl, hheading path⟩
  obtain ⟨hb, hbLine⟩ := hmissing ['b'] (by decide)
  obtain ⟨hc, hcLine⟩ := hmissing ['c'] (by decide)
  obtain ⟨hd, hdLine⟩ := hopen
  have hpaths : three.paths = [['b'], ['c'], ['d']] := by rw [← hthree]
  have hquiet : three.verbose = false := by rw [← hthree]
  rw [hpaths, hquiet] at haccepting hrefusing
  refine ⟨haccepting.trans ?_, hrefusing.trans ?_⟩
  · rw [if_neg fun hnone => absurd (hnone ['b'] List.mem_cons_self) (by simp [hb])]
    simp only [List.flatMap_cons, List.flatMap_nil, List.filterMap_cons, List.filterMap_nil,
      hb, hbLine, hc, hcLine, hd, hdLine, Bool.false_eq_true, if_false]
    decide +kernel
  · simp only [List.filterMap_cons, List.filterMap_nil, hrefused, Bool.false_eq_true, if_false]
    rw [if_neg fun hnone => Option.some_ne_none _ (hnone ['b'] List.mem_cons_self)]
    decide +kernel

end ImpLexer
