import ReviewPipeline.Proofs.OutputModes

/-!
# Quiet Commands

A command that is asked to be quiet is meant to tell nothing but errors. It does the same as without
the flag, but it tells the opposite: whatever it prints when it succeeds is printed all the same,
and the error is left out when it fails. And something there is to be left out or printed always,
since no report and no error is told without a word.

## Main definitions

* `Finished.KeepsQuiet`: what is meant, of a quiet command beside the same command.

## Main results

* `report_ne_empty`: no report for people is empty;
* `run_quiet`: a quiet command comes to the same, but for being quiet;
* `quiet_hides_only_errors`: what is told of it, and that it is what is meant only if the program
  breaks off;
* `not_keepsQuiet_version`: a success that is told and a failure that is not.
-/

namespace ReviewPipeline.CommandLine

variable {env : Environment} {stamp : Stamp} {screen : Screen} {inv : Invocation} {files : Files}
  {answer : Answer} {arguments arguments' : List String} {isColored : Bool} {text : String}

/-! ### Reports -/

theorem unlines_ne_empty {lines : List String} (h : lines ≠ []) : unlines lines ≠ "" := by
  obtain ⟨line, rest, rfl⟩ := List.exists_cons_of_ne_nil h
  intro hempty
  have hlist := congrArg String.toList hempty
  simp [unlines] at hlist

/-- No report is empty, completions apart. -/
theorem report_ne_empty (hanswer : ∀ shell, answer ≠ .completions shell)
    (h : answer.report isColored = .ok text) : text ≠ "" := by
  cases answer with
  | completions shell => exact absurd rfl (hanswer shell)
  | history id entries catalog =>
    -- One line that there is none, or some lines for each entry.
    obtain ⟨lines, hlines, rfl⟩ := map_eq_ok_iff.1 h
    refine unlines_ne_empty ?_
    unfold Report.history at hlines
    split_ifs at hlines with hnone
    · cases hlines
      exact List.cons_ne_nil _ _
    · obtain ⟨steps, -, rfl⟩ := map_eq_ok_iff.1 hlines
      obtain ⟨entry, rest, rfl⟩ := List.exists_cons_of_ne_nil (by simpa using hnone)
      simp [Report.entryLines]
  -- These have other words where there is nothing to show.
  | projects | issues | steps | stepRestaffed =>
    cases h
    refine unlines_ne_empty ?_
    simp only [Report.projects, Report.issues, Report.steps, Report.stepRestaffed]
    split <;> simp
  | _ =>
    cases h
    refine unlines_ne_empty ?_
    simp [Report.initialized, Report.version, Report.projectCreated, Report.project,
      Report.issueCreated, Report.issue, Report.stepAdded, Report.advanced, Report.rejected,
      Report.status, Report.wasReset, Report.gateRecorded]

/-! ### What is told -/

namespace Finished

variable {result loud : Finished}

/-- What is meant by a quiet command, beside the same command that is not: it ends with the same
exit code, it tells nothing when it succeeds, and when it fails it tells the error all the same. -/
structure KeepsQuiet (hushed loud : Finished) : Prop where
  /-- Both end alike. -/
  exitCode : hushed.exitCode = loud.exitCode
  /-- A success is not told. -/
  success : hushed.exitCode = 0 → hushed.stdout = ""
  /-- A failure is told as before. -/
  failure : hushed.exitCode ≠ 0 → hushed.stderr = loud.stderr

theorem errorText_ne_empty (e : Error) : errorText e ≠ "" := by
  intro hempty
  have hlist := congrArg String.toList hempty
  unfold errorText at hlist
  split at hlist <;> simp at hlist

theorem exists_text_of_exitCode_eq_zero (h : result.exitCode = 0) :
    ∃ text, result.outcome = .ok text := by
  unfold exitCode at h
  split at h
  · next text htext => exact ⟨text, htext⟩
  · exact absurd h (exitCode_ne_zero _)

theorem exists_error_of_exitCode_ne_zero (h : result.exitCode ≠ 0) :
    ∃ e, result.outcome = .error e := by
  cases houtcome : result.outcome with
  | ok text => exact absurd (by rw [exitCode, houtcome]) h
  | error e => exact ⟨e, rfl⟩

/-- For people, a quiet command tells no error, unless the program breaks off. -/
theorem stderr_of_quiet (hjson : result.json = false) (hquiet : result.quiet = true)
    (hcrash : result.crash? = none) : result.stderr = "" := by
  cases houtcome : result.outcome with
  | ok text => rw [stderr, houtcome]
  | error e =>
    rw [stderr_eq houtcome hcrash, hjson, hquiet]
    rfl

/-- For people, a command that is not quiet tells its error with the hint. -/
theorem stderr_of_loud (hjson : result.json = false) (hquiet : result.quiet = false) {e : Error}
    (h : result.outcome = .error e) (hcrash : result.crash? = none) :
    result.stderr = errorText e := by
  rw [stderr_eq h hcrash, hjson, hquiet]
  rfl

/-- Where the program breaks off, the same is told however the output is asked for. -/
theorem stderr_of_crash {cause : Crash} (h : result.crash? = some cause) :
    result.stderr = cause.message ++ "\n" := by
  rw [stderr, crash?_eq_some_iff.1 h]

/-- Where no report is empty, a quiet command is what is meant only if the program breaks off: else
a success is told, and a failure is not. -/
theorem keepsQuiet_iff (hjson : loud.json = false) (hloud : loud.quiet = false)
    (hreport : loud.exitCode = 0 → loud.stdout ≠ "") :
    KeepsQuiet { loud with quiet := true } loud ↔ ∃ cause, loud.crash? = some cause := by
  constructor
  · intro hkeeps
    by_contra hnone
    have hcrash : loud.crash? = none := Option.eq_none_iff_forall_ne_some.2 fun cause hcause =>
      hnone ⟨cause, hcause⟩
    by_cases hexit : loud.exitCode = 0
    · exact hreport hexit (hkeeps.success hexit)
    · obtain ⟨e, he⟩ := exists_error_of_exitCode_ne_zero hexit
      have hsilent : stderr { loud with quiet := true } = "" := stderr_of_quiet hjson rfl hcrash
      have htold := hkeeps.failure hexit
      rw [hsilent, stderr_of_loud hjson hloud he hcrash] at htold
      exact errorText_ne_empty e htold.symm
  · rintro ⟨cause, hcause⟩
    have hfailed : loud.exitCode ≠ 0 := by
      rw [exitCode_eq_crash_iff.2 ⟨cause, hcause⟩]
      decide
    refine ⟨rfl, fun hzero => absurd hzero hfailed, fun _ => ?_⟩
    rw [stderr_of_crash hcause]
    exact stderr_of_crash hcause

end Finished

/-! ### Quiet command lines -/

/-- A quiet command comes to the same as without the flag, but for being quiet. -/
theorem run_quiet (hread : read env arguments = .ok inv)
    (hread' : read env arguments' = .ok (inv.set .quiet true))
    (hcommand : ∀ shell, inv.command ≠ .completions shell) {loud : Finished} {after : Files}
    (hrun : run env stamp screen arguments files = (.finished loud, after)) :
    run env stamp screen arguments' files = (.finished { loud with quiet := true }, after) := by
  have hrun' : run env stamp screen arguments' files = _ := run_eq_finished hread' hcommand
  rw [run_eq_finished hread hcommand] at hrun
  rw [execute_set] at hrun'
  cases hrun
  exact hrun'

/-- Without the flags for quiet, a quiet command line makes the same command. -/
theorem read_of_quiet {inv' : Invocation} (hread : read env arguments = .ok inv)
    (hadded : argumentsWithout .quiet arguments' = arguments)
    (hread' : read env arguments' = .ok inv') (hquiet : inv'.quiet = true) :
    read env arguments' = .ok (inv.set .quiet true) := by
  have hwithout : read env (argumentsWithout .quiet arguments') = .ok (inv'.set .quiet false) :=
    read_without rfl hread'
  rw [hadded, hread] at hwithout
  cases hwithout
  rw [hread']
  simp [Invocation.set, ← hquiet]

/-- A command that succeeds for people prints something. -/
theorem stdout_ne_empty (hread : read env arguments = .ok inv)
    (hpeople : speaksJson screen inv = false)
    (hcommand : ∀ shell, inv.command ≠ .completions shell) {loud : Finished} {after : Files}
    (hrun : run env stamp screen arguments files = (.finished loud, after))
    (hexit : loud.exitCode = 0) : loud.stdout ≠ "" := by
  obtain ⟨text, htext⟩ := Finished.exists_text_of_exitCode_eq_zero hexit
  rw [Finished.stdout, htext]
  rw [run_eq_finished hread hcommand, hpeople] at hrun
  cases hrun
  obtain ⟨answer, hanswer, hprinted⟩ := bind_eq_ok_iff.1 htext
  exact report_ne_empty (ne_completions_of_execute hcommand hanswer) hprinted

/-- For people, to ask a command to be quiet leaves out the errors and nothing else. With the flag
in front, or anywhere else where the command line can be read, it ends with the same exit code, in
the same files and with the same report, which is never empty when it succeeds. What it leaves out
is the error, which without the flag is told with its hint when it fails. So whatever the command
and however it ends, a quiet one is not what is meant, but for one case: where the program breaks
off, that is told with the flag as without it. -/
theorem quiet_hides_only_errors (files : Files) (env : Environment) (stamp : Stamp)
    (screen : Screen) (arguments : List String) (inv : Invocation)
    (hread : read env arguments = .ok inv) (hloud : inv.quiet = false)
    (hpeople : speaksJson screen inv = false)
    (hcommand : ∀ shell, inv.command ≠ .completions shell) :
    ∃ loud hushed after,
      run env stamp screen arguments files = (.finished loud, after) ∧
      run env stamp screen ("--quiet" :: arguments) files = (.finished hushed, after) ∧
      (∀ arguments' inv', argumentsWithout .quiet arguments' = arguments →
        read env arguments' = .ok inv' → inv'.quiet = true →
        run env stamp screen arguments' files = (.finished hushed, after)) ∧
      hushed.exitCode = loud.exitCode ∧ hushed.stdout = loud.stdout ∧
      (loud.crash? = none → hushed.stderr = "") ∧
      (∀ cause, loud.crash? = some cause →
        loud.stderr = cause.message ++ "\n" ∧ hushed.stderr = loud.stderr) ∧
      (loud.exitCode = 0 → loud.stdout ≠ "") ∧
      (loud.exitCode ≠ 0 → loud.stdout = "" ∧
        ∃ e, loud.outcome = .error e ∧
          (loud.crash? = none → loud.stderr = Finished.errorText e)) ∧
      (hushed.KeepsQuiet loud ↔ ∃ cause, loud.crash? = some cause) := by
  have hrun : run env stamp screen arguments files = _ := run_eq_finished hread hcommand
  generalize hended : Finished.mk _ _ _ = loud at hrun
  have hjson : loud.json = false := hended ▸ hpeople
  have hnotQuiet : loud.quiet = false := hended ▸ hloud
  have hprints := stdout_ne_empty hread hpeople hcommand hrun
  -- The flag is not there yet, so it may be put in front.
  have hoff : inv.set .quiet true ≠ inv := fun hsame => by
    rw [← hsame] at hloud
    cases hloud
  have hname : (Flag.longNames .quiet).contains "quiet" = true := rfl
  have hfront : read env ("--quiet" :: arguments) = .ok (inv.set .quiet true) :=
    read_cons_switch rfl hname hread hoff
  refine ⟨loud, { loud with quiet := true }, _, hrun, run_quiet hread hfront hcommand hrun, ?_, rfl,
    rfl, fun hcrash => Finished.stderr_of_quiet hjson rfl hcrash, fun cause hcause => ?_, hprints,
    fun hexit => ?_, Finished.keepsQuiet_iff hjson hnotQuiet hprints⟩
  · intro arguments' inv' hadded hread' hquiet
    exact run_quiet hread (read_of_quiet hread hadded hread' hquiet) hcommand hrun
  · have htold := Finished.stderr_of_crash hcause
    refine ⟨htold, ?_⟩
    rw [htold]
    exact Finished.stderr_of_crash hcause
  · obtain ⟨e, he⟩ := Finished.exists_error_of_exitCode_ne_zero hexit
    exact ⟨Finished.stdout_of_exitCode_ne_zero hexit, e, he,
      Finished.stderr_of_loud hjson hnotQuiet he⟩

/-- Nothing should be told of the quiet version, but it is; and there being no database should be,
but it is not. -/
theorem not_keepsQuiet_version :
    let ended := fun arguments => run {} ⟨7, 7⟩ ⟨true, true⟩ arguments {}
    ∃ loud hushed failed silent : Finished,
      ended ["version"] = (.finished loud, {}) ∧
      ended ["--quiet", "version"] = (.finished hushed, {}) ∧
      hushed.exitCode = 0 ∧ hushed.stdout = "pipectl version 0.1.0 (dev, schema v1)\n" ∧
      ¬ hushed.KeepsQuiet loud ∧
      ended ["project", "list"] = (.finished failed, {}) ∧
      ended ["project", "-q", "list"] = (.finished silent, {}) ∧
      silent.exitCode = 2 ∧ failed.stderr = Finished.errorText .notInitialized ∧
      silent.stderr = "" ∧ ¬ silent.KeepsQuiet failed := by
  refine ⟨_, _, _, _, rfl, rfl, rfl, ?_, ?_, rfl, rfl, rfl, rfl, rfl, ?_⟩
  · decide +kernel
  · intro hkeeps
    exact absurd (hkeeps.success rfl) (by decide +kernel)
  · intro hkeeps
    exact absurd (hkeeps.failure (by decide)) (by decide +kernel)

/-- A quiet command line that creates another issue tells of it; one that looks for an issue that is
not there ends without a word, where the same without its flag tells of the error. -/
theorem quiet_hides_only_errors_labelLines :
    let files := runAll {} labelLines
    let ended := fun arguments => run labelEnv ⟨1000, 4⟩ ⟨true, true⟩ arguments files
    let create := ["issue", "create", "second", "--project", "proj_00000002-400"]
    (∃ loud hushed after,
      ended create = (.finished loud, after) ∧
      ended ("--quiet" :: create) = (.finished hushed, after) ∧
      hushed.exitCode = 0 ∧ hushed.stdout = loud.stdout ∧ hushed.stdout ≠ "" ∧
      ¬ hushed.KeepsQuiet loud) ∧
    ∃ loud hushed after,
      ended ["issue", "-v", "show", "DOCS-2"] = (.finished loud, after) ∧
      ended ["issue", "-vq", "show", "DOCS-2"] = (.finished hushed, after) ∧
      hushed.exitCode = 3 ∧ (∃ e, loud.stderr = Finished.errorText e) ∧ hushed.stderr = "" ∧
      ¬ hushed.KeepsQuiet loud := by
  intro files ended create
  let creating : Invocation := ⟨.issue (.create "second" "proj_00000002-400" none),
    some "/docs.db", none, some "home", false, false, false⟩
  have hcreating : read labelEnv create = .ok creating := by decide +kernel
  let looking : Invocation := ⟨.issue (.inspect "DOCS-2"), some "/docs.db", none, some "home",
    false, false, false⟩
  have hlooking : read labelEnv ["issue", "-v", "show", "DOCS-2"] = .ok looking := by
    decide +kernel
  have hquiet : read labelEnv ["issue", "-vq", "show", "DOCS-2"] =
      .ok { looking with quiet := true } := by decide +kernel
  -- Only exit codes are evaluated, and the rest follows from the general statement.
  have hcreated : (ended create).1.exitCode = 0 := by decide +kernel
  have hmissed : (ended ["issue", "-v", "show", "DOCS-2"]).1.exitCode = 3 := by decide +kernel
  constructor
  · obtain ⟨loud, hushed, after, hloud, hhushed, -, hexit, hsame, -, -, hprints, -, hkeeps⟩ :=
      quiet_hides_only_errors files labelEnv ⟨1000, 4⟩ ⟨true, true⟩ create creating hcreating rfl
        rfl nofun
    have hended : ended create = (.finished loud, after) := hloud
    have hzero : loud.exitCode = 0 := by rwa [hended] at hcreated
    have hgoesOn := Finished.crash?_eq_none_of_exitCode (hzero.trans_ne (by decide))
    refine ⟨loud, hushed, after, hloud, hhushed, hexit.trans hzero, hsame, hsame ▸ hprints hzero,
      fun h => ?_⟩
    obtain ⟨cause, hcause⟩ := hkeeps.1 h
    cases hgoesOn.symm.trans hcause
  · obtain ⟨loud, hushed, after, hloud, -, hall, hexit, -, hsilent, -, -, hfails, hkeeps⟩ :=
      quiet_hides_only_errors files labelEnv ⟨1000, 4⟩ ⟨true, true⟩
        ["issue", "-v", "show", "DOCS-2"] looking hlooking rfl rfl nofun
    have hended : ended ["issue", "-v", "show", "DOCS-2"] = (.finished loud, after) := hloud
    have hthree : loud.exitCode = 3 := by rwa [hended] at hmissed
    have hfailed : loud.exitCode ≠ 0 := fun hzero => by cases hzero.symm.trans hthree
    obtain ⟨-, e, -, htold⟩ := hfails hfailed
    have hgoesOn := Finished.crash?_eq_none_of_exitCode (hthree.trans_ne (by decide))
    have hhushed := hall ["issue", "-vq", "show", "DOCS-2"] _ (by decide) hquiet rfl
    refine ⟨loud, hushed, after, hloud, hhushed, hexit.trans hthree, ⟨e, htold hgoesOn⟩,
      hsilent hgoesOn, fun h => ?_⟩
    obtain ⟨cause, hcause⟩ := hkeeps.1 h
    cases hgoesOn.symm.trans hcause

end ReviewPipeline.CommandLine
