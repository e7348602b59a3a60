import Mathlib.Data.List.Basic
import ImpLexer.Proofs.Arrangement

/-!
# A run over several files

A run could keep its files apart by running once for each of them, and this
module says that it does as well without. What it writes is what the runs for
the single paths write, one behind another, under a heading each if there is
more than one path; it fails if one of them fails. So a path that stands twice
is listed twice, a file that cannot be lexed takes nothing from the others, and
its error is told under its own name.

The single run is the one to look at closely, and there are three ways for it
to go (`outputAlone`). None of them writes part of a listing.
-/

namespace ImpLexer

/-! ## What a path contributes -/

theorem Sink.putAll_accepting (lines : List Text) :
    accepting.putAll lines = (lines.flatMap Text.line, none) := by
  induction lines with
  | nil => rfl
  | cons line lines ih =>
      rw [putAll]
      simp only [put, ih]
      rfl

namespace FileResult

/-- The lines for a file's tokens, of which there are none if it has an error. -/
def listing (result : FileResult) : Text :=
  match result.tokens with
  | .ok tokens => tokens.flatMap fun token => token.render.line
  | .error _ => []

def failure (result : FileResult) : Option Failure :=
  match result.tokens with
  | .ok _ => none
  | .error failure => some failure

/-- Where every line is taken, a report is heading, listing and failure. -/
theorem report_accepting (headed : Bool) (path : Text) (result : FileResult) :
    result.report .accepting headed path =
      ⟨(if headed then (heading path).line else []) ++ result.listing, result.failure⟩ := by
  have habove : Sink.accepting.putAll (if headed then [heading path] else []) =
      (if headed then (heading path).line else [], none) := by
    cases headed with
    | false => rfl
    | true =>
        rw [Sink.putAll_accepting]
        simp
  obtain ⟨events, outcome⟩ := result
  rw [report, habove]
  cases outcome with
  | error failure => simp [listing, FileResult.failure]
  | ok tokens => simp [listing, FileResult.failure, Sink.putAll_accepting, List.flatMap_map]

end FileResult

/-! ## The output for one path -/

/-- What a run for a single path leaves behind. -/
def outputAlone (config : Config) (read : Reader) (path : Text) : Output :=
  match read path with
  | .error error => ⟨1, [], (Failure.read path error).report⟩
  | .ok source =>
      match lex config source with
      | .error error => ⟨1, [], (Failure.lex path error).report⟩
      | .ok tokens => ⟨0, tokens.flatMap fun token => token.render.line, []⟩

theorem outputAlone_eq (config : Config) (read : Reader) (path : Text) :
    outputAlone config read path =
      { status := if (lexFile config read path).failure = none then 0 else 1
        stdout := (lexFile config read path).listing
        stderr := (lexFile config read path).failure.toList.flatMap Failure.report } := by
  rw [outputAlone, lexFile]
  cases read path with
  | error error => simp [FileResult.failure, FileResult.listing]
  | ok source =>
      cases hlex : lex config source with
      | error error => simp [FileResult.failure, FileResult.listing, hlex]
      | ok tokens => simp [FileResult.failure, FileResult.listing, hlex]

namespace Arguments

variable (arguments : Arguments) (read : Reader)

/-- The log of a talkative run. -/
def log : Text := (arguments.events read).flatMap Event.record

/-- A run, told by what it reports of each path. -/
theorem run_eq_of_report {sink : Sink} {written : Text → Text}
    {failure : Text → Option Failure}
    (h : ∀ path ∈ arguments.paths, (lexFile arguments.config read path).report sink
      (1 < arguments.paths.length) path = ⟨written path, failure path⟩) :
    arguments.run read sink =
      { status := if ∀ path ∈ arguments.paths, failure path = none then 0 else 1
        stdout := arguments.paths.flatMap written
        stderr := (if arguments.verbose then arguments.log read else []) ++
          (arguments.paths.filterMap failure).flatMap Failure.report } := by
  have hreports : arguments.reports read sink =
      arguments.paths.map fun path => ⟨written path, failure path⟩ := by
    rw [reports_eq_map]
    exact List.map_congr_left h
  have hfailures : (arguments.reports read sink).filterMap Report.failure =
      arguments.paths.filterMap failure := by
    rw [hreports, List.filterMap_map]
    rfl
  have hstdout : (arguments.reports read sink).flatMap Report.written =
      arguments.paths.flatMap written := by
    rw [hreports, List.flatMap_map]
  rw [run]
  simp only [hfailures, hstdout, List.filterMap_eq_nil_iff]
  rfl

/-- A run, told by what the runs for its paths would leave behind. -/
theorem run_accepting (hquiet : arguments.verbose = false) {alone : Text → Output}
    (halone : ∀ path ∈ arguments.paths, alone path = outputAlone arguments.config read path) :
    arguments.run read .accepting =
      { status := if ∀ path ∈ arguments.paths, (alone path).status = 0 then 0 else 1
        stdout := arguments.paths.flatMap fun path =>
          (if 1 < arguments.paths.length then (heading path).line else []) ++ (alone path).stdout
        stderr := arguments.paths.flatMap fun path => (alone path).stderr } := by
  have hreport : ∀ path ∈ arguments.paths, (lexFile arguments.config read path).report .accepting
      (1 < arguments.paths.length) path =
        ⟨(if 1 < arguments.paths.length then (heading path).line else []) ++ (alone path).stdout,
          (lexFile arguments.config read path).failure⟩ := by
    intro path hpath
    simp [FileResult.report_accepting, halone path hpath, outputAlone_eq]
  have hnone : (∀ path ∈ arguments.paths, (lexFile arguments.config read path).failure = none) ↔
      ∀ path ∈ arguments.paths, (alone path).status = 0 := by
    refine forall₂_congr fun path hpath => ?_
    simp [halone path hpath, outputAlone_eq]
  -- At most one failure a path, so that those of the run are the paths' own in a row.
  have hstderr : (arguments.paths.filterMap fun path =>
      (lexFile arguments.config read path).failure).flatMap Failure.report =
        arguments.paths.flatMap fun path => (alone path).stderr := by
    rw [List.filterMap_eq_flatMap_toList, List.flatMap_assoc]
    refine List.flatMap_congr fun path hpath => ?_
    simp [halone path hpath, outputAlone_eq]
  rw [run_eq_of_report arguments read hreport, hquiet]
  simp only [hnone, hstderr]
  rfl

end Arguments

/-! ## Single runs put together -/

end ImpLexer
