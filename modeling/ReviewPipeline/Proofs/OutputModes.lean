import ReviewPipeline.Proofs.Decoding
import ReviewPipeline.Proofs.Interchange
import ReviewPipeline.Proofs.JsonFlags

/-!
# The Same Command in Two Modes

A command speaks JSON if that is asked for or if its output is no terminal, and otherwise to people.
What it does and answers is settled before either is looked at. But the answer still has to be put
into words, and the words for people need more than those for a machine: a ledger is shown with the
names of its steps. So the modes come to the same only where a catalog can be read, as it can in any
database that command lines have made. A machine, for its part, can be told only what is text, which
the path of a database need not be; and where the program breaks off, nobody is told in JSON.

## Main definitions

* `Answered`: what a command can answer;
* `Finished.SpeaksJson`: what a command prints is one line of JSON;
* `Finished.Matches`: what is promised of a command in two modes, `BothModes`: what becomes of it.

## Main results

* `execute_set`: what a command does does not depend on a switch, `execute_json`: so neither does it
  on whether JSON is asked for;
* `exists_printed`: on a labelled database, every answer can be put into words for people;
* `told_eq_error_iff`: the one answer that a machine is not told is a path that is no text;
* `sameCommand_in_both_modes`: a command ends alike in both modes, and tells a machine in JSON, but
  for two cases;
* `not_matches_overtaxed`: both cases there are.
-/

namespace ReviewPipeline

open CommandLine Json

/-! ### Records have whole numbers only -/

@[simp] theorem Position.isExact_toJson (p : Position) : p.toJson.IsExact := by
  cases p <;> simp [toJson]

@[simp] theorem StatusView.isExact_toJson (v : StatusView) : v.toJson.IsExact := by
  cases hstep : v.currentStep <;> simp [toJson, members, issueSummary, hstep]

/-- The JSON form of an answer has whole numbers only. -/
theorem CommandLine.Answer.isExact_toJson (answer : Answer) : answer.toJson.IsExact := by
  cases answer with
  | initialized database workspace => cases workspace <;> simp [toJson]
  | _ => simp [toJson, projectMembers, countMember, Completion.toJson, Rejection.toJson]

/-- The JSON of an error has whole numbers only. -/
theorem Error.isExact_toJson (e : Error) : e.toJson.IsExact := by
  cases hhint : e.hint <;> simp [toJson, hhint]

namespace CommandLine

variable {env : Environment} {stamp : Stamp} {screen screen' : Screen} {inv inv' : Invocation}
  {files files' : Files} {place : Location} {answer : Answer} {arguments arguments' : List String}

/-! ### What a command does -/

/-- Working with the database does not depend on a switch. -/
theorem withDatabase_set (switch : Flag) (on : Bool)
    {work : Context → Database → Except Error (Answer × Database)} :
    withDatabase env stamp (inv.set switch on) files work =
      withDatabase env stamp inv files work := by
  cases switch <;> rfl

/-- Making a database does not depend on switches. -/
theorem initDatabase_set (switch : Flag) (on : Bool) {force : Bool} {workspace : Option String} :
    initDatabase env stamp (inv.set switch on) files force workspace =
      initDatabase env stamp inv files force workspace := by
  cases switch <;> rfl

/-- Which command is meant does not depend on switches. -/
theorem command_set (switch : Flag) (on : Bool) : (inv.set switch on).command = inv.command := by
  cases switch <;> rfl

/-- What a command does and answers does not depend on a switch. -/
theorem execute_set (switch : Flag) (on : Bool) :
    execute env stamp (inv.set switch on) files = execute env stamp inv files := by
  unfold execute
  simp only [command_set, withDatabase_set, initDatabase_set]

/-- What a command does and answers does not depend on whether JSON is asked for. -/
theorem execute_json (json : Bool) :
    execute env stamp { inv with json := json } files = execute env stamp inv files :=
  execute_set .json json

/-- An answer about the database was worked out on what was opened. -/
theorem exists_opened_of_withDatabase
    {work : Context → Database → Except Error (Answer × Database)}
    (h : (withDatabase env stamp inv files work).1 = .ok answer) :
    ∃ ctx opened files' db', openExisting env stamp.now inv files = (.ok opened, files') ∧
      work ctx opened.database = .ok (answer, db') := by
  unfold withDatabase at h
  split at h
  · cases h
  · next opened files' hopen =>
    extract_lets ctx at h
    split at h
    · cases h
    · next answer db' hdone =>
      cases h
      exact ⟨ctx, opened, files', db', hopen, hdone⟩

/-- What a command can answer. -/
inductive Answered (env : Environment) (stamp : Stamp) (inv : Invocation) (files : Files) :
    Answer → Prop
  /-- An answer that is put into words by itself. -/
  | plain {answer : Answer} (hplain : answer.isPlain = true) : Answered env stamp inv files answer
  /-- The path of a database that was to be made. -/
  | initialized {force : Bool} {workspace : Option String} {path : String} {saved : Option String}
      (hcommand : inv.command = .init force workspace)
      (hpath : env.databasePath inv.database = some path) :
      Answered env stamp inv files (.initialized path saved)
  /-- Completions that were asked for. -/
  | completions {shell : Shell} (hcommand : inv.command = .completions shell) :
      Answered env stamp inv files (.completions shell)
  /-- The ledger of an issue as it stands in the database. -/
  | history {opened : Opened} {files' : Files} {found : Issue}
      (hopen : openExisting env stamp.now inv files = (.ok opened, files')) :
      Answered env stamp inv files
        (.history found.id (opened.database.history found.id)
          (opened.database.catalog found.projectId))

/-- What a command answers that makes a database: its path. -/
theorem answered_init {force : Bool} {workspace : Option String}
    (hcommand : inv.command = .init force workspace)
    (h : (execute env stamp inv files).1 = .ok answer) :
    ∃ path saved, env.databasePath inv.database = some path ∧
      answer = .initialized path saved := by
  rw [execute, hcommand] at h
  exact initDatabase_eq_ok (Prod.ext h rfl)

/-- That is all that a command can answer. -/
theorem answered_execute (h : (execute env stamp inv files).1 = .ok answer) :
    Answered env stamp inv files answer := by
  -- Most commands answer the same kind of thing, whatever they work on.
  have hplain : ∀ {work : Context → Database → Except Error (Answer × Database)},
      (∀ ctx db, Plain (work ctx db)) → (withDatabase env stamp inv files work).1 = .ok answer →
        Answered env stamp inv files answer := fun hwork hdone => by
    obtain ⟨ctx, opened, -, db', -, hdone⟩ := exists_opened_of_withDatabase hdone
    exact .plain (hwork ctx _ answer db' hdone)
  cases hcommand : inv.command with
  | init force workspace =>
    obtain ⟨path, saved, hpath, rfl⟩ := answered_init hcommand h
    exact .initialized hcommand hpath
  | version =>
    rw [execute, hcommand] at h
    cases h
    exact .plain rfl
  | completions shell =>
    rw [execute, hcommand] at h
    cases h
    exact .completions hcommand
  | project command =>
    rw [execute, hcommand] at h
    exact hplain (fun _ _ => plain_project command) h
  | issue command =>
    rw [execute, hcommand] at h
    exact hplain (fun _ _ => plain_issue command) h
  | step command =>
    rw [execute, hcommand] at h
    exact hplain (fun _ _ => plain_step command) h
  | pipeline command =>
    rw [execute, hcommand] at h
    -- Only the command that tells a ledger answers what may not be put into words.
    by_cases hhistory : ∃ issue, command = .history issue
    · obtain ⟨issue, rfl⟩ := hhistory
      obtain ⟨ctx, opened, files', db', hopen, hdone⟩ := exists_opened_of_withDatabase h
      obtain ⟨found, rfl, -⟩ := history_eq_ok hdone
      exact .history hopen
    · exact hplain (fun _ _ => plain_pipeline fun issue hsame => hhistory ⟨issue, hsame⟩) h
  | recordGate issue status error =>
    rw [execute, hcommand] at h
    dsimp only at h
    split at h
    · cases h
    · exact hplain (fun _ _ => plain_recordGate issue _ error) h

/-! ### What a command prints -/

/-- On a labelled database, every answer can be put into words for people. -/
theorem exists_printed (hlabelled : (files.rows place).Labelled)
    (hplace : ∀ location ∈ placeOf env inv files, location = place)
    (h : (execute env stamp inv files).1 = .ok answer) (isColored : Bool) :
    ∃ text, printed env false isColored answer = .ok text := by
  cases answered_execute h with
  | plain hplain =>
    cases hprinted : printed env false isColored answer with
    | ok text => exact ⟨text, rfl⟩
    | error e => cases hplain.symm.trans (not_isPlain_of_printed_eq_error hprinted)
  | initialized | completions => exact ⟨_, rfl⟩
  | history hopen =>
    -- The catalog that the ledger is shown with can be read.
    have hdb := labelled_of_openExisting hlabelled hplace hopen
    rw [Database.catalog_eq_ok hdb.toConsistent, printed, if_neg Bool.false_ne_true]
    unfold Answer.report Report.history
    dsimp only
    split <;> exact ⟨_, rfl⟩

/-- Only where completions are asked for, they are the answer. -/
theorem ne_completions_of_execute (hcommand : ∀ shell, inv.command ≠ .completions shell)
    (h : (execute env stamp inv files).1 = .ok answer) (shell : Shell) :
    answer ≠ .completions shell := by
  rintro rfl
  cases answered_execute h with
  | plain hplain => cases hplain
  | completions hsame => exact hcommand shell hsame

/-- What a command comes to, other than completions. -/
theorem run_eq_finished (hread : read env arguments = .ok inv)
    (hcommand : ∀ shell, inv.command ≠ .completions shell) :
    run env stamp screen arguments files =
      (.finished
        { outcome := (execute env stamp inv files).1.bind
            (printed env (speaksJson screen inv) (screen.hasColors && !inv.noColor))
          json := speaksJson screen inv
          quiet := inv.quiet },
        (execute env stamp inv files).2) := by
  rw [run, hread]
  dsimp only
  unfold runInvocation
  dsimp only
  split
  · next shell hshell => exact absurd rfl (ne_completions_of_execute hcommand hshell shell)
  · rfl

/-- A command line that is read is carried out. -/
theorem exists_finished (hread : read env arguments = .ok inv)
    (hcommand : ∀ shell, inv.command ≠ .completions shell) (stamp : Stamp) (screen : Screen)
    (files : Files) : ∃ result, (run env stamp screen arguments files).1 = .finished result :=
  ⟨_, congrArg Prod.fst (run_eq_finished hread hcommand)⟩

namespace Finished

variable {result : Finished} {e : Error}

/-- What is printed for a machine: one line of JSON. -/
structure SpeaksJson (result : Finished) : Prop where
  /-- A success is one value on the standard output. -/
  success : result.exitCode = 0 → ∃ value, IsLine result.stdout value
  /-- A failure is one object on the standard error output, which tells the exit code. -/
  failure : result.exitCode ≠ 0 → result.stdout = "" ∧ ∃ members error,
    IsLine result.stderr (.obj members) ∧ members.lookup "error" = some error ∧
      error.member? "exit_code" = some (.int result.exitCode)

/-- What is promised of a command, run for people and for a machine. -/
structure Matches (shown told : Finished) : Prop where
  /-- Both end with the same exit code. -/
  exitCode : told.exitCode = shown.exitCode
  /-- A machine is told in JSON. -/
  speaksJson : told.SpeaksJson
  /-- What fails for people leaves nothing on the standard output. -/
  silent : shown.exitCode ≠ 0 → shown.stdout = ""

/-- The exit code is that of the error. -/
theorem exitCode_eq (h : result.outcome = .error e) : result.exitCode = e.exitCode := by
  rw [exitCode, h]

/-- The program breaks off if that is what the outcome is. -/
theorem crash?_eq_some_iff {cause : Crash} :
    result.crash? = some cause ↔ result.outcome = .error (.crashed cause) := by
  unfold crash?
  split
  · next other h =>
    rw [h]
    simp
  · next h => exact ⟨nofun, fun hcrashed => absurd hcrashed (h cause)⟩

/-- An error that is reported, as the program does not break off, is told as the output asks for. -/
theorem stderr_eq (h : result.outcome = .error e) (hcrash : result.crash? = none) :
    result.stderr =
      if result.json then e.toJson.compact ++ "\n"
      else if result.quiet then ""
      else errorText e := by
  unfold stderr
  split
  · next text htext => cases htext.symm.trans h
  · next cause hcause => cases hcrash.symm.trans (crash?_eq_some_iff.2 hcause)
  · next other _ hother =>
    obtain rfl := Except.error.inj (hother.symm.trans h)
    rfl

/-- The exit code tells whether the program broke off. -/
theorem exitCode_eq_crash_iff :
    result.exitCode = Crash.exitCode ↔ ∃ cause, result.crash? = some cause := by
  constructor
  · intro hexit
    unfold exitCode at hexit
    split at hexit
    · cases hexit
    · next e he =>
      cases e with
      | crashed cause => exact ⟨cause, crash?_eq_some_iff.2 he⟩
      | _ => cases hexit
  · rintro ⟨cause, hcause⟩
    rw [exitCode_eq (crash?_eq_some_iff.1 hcause)]
    rfl

/-- With any other exit code, it has not broken off. -/
theorem crash?_eq_none_of_exitCode (h : result.exitCode ≠ Crash.exitCode) :
    result.crash? = none :=
  Option.eq_none_iff_forall_ne_some.2 fun cause hcause =>
    h (exitCode_eq_crash_iff.2 ⟨cause, hcause⟩)

/-- What fails leaves nothing on the standard output. -/
theorem stdout_of_exitCode_ne_zero (h : result.exitCode ≠ 0) : result.stdout = "" := by
  unfold stdout
  split
  · next text htext =>
    refine absurd ?_ h
    rw [exitCode, htext]
  · rfl

/-- What the program breaks off with is no JSON. -/
theorem not_speaksJson_of_crash {cause : Crash} (h : result.crash? = some cause) :
    ¬ result.SpeaksJson := by
  rw [crash?_eq_some_iff] at h
  intro hspeaks
  have hexit : result.exitCode ≠ 0 := by
    rw [exitCode_eq h]
    exact exitCode_ne_zero _
  obtain ⟨-, members, -, ⟨line, hline, -, hparse⟩, -⟩ := hspeaks.failure hexit
  rw [stderr, h, String.append_left_inj] at hline
  subst hline
  have hnoJson : Json.parse? cause.message = none := by cases cause <;> decide +kernel
  cases hnoJson.symm.trans hparse

/-- Where the program breaks off, nothing is as is promised. -/
theorem not_matches_of_exitCode {shown told : Finished} (h : told.exitCode = Crash.exitCode) :
    ¬ told.SpeaksJson ∧ ¬ shown.Matches told := by
  obtain ⟨cause, hcause⟩ := exitCode_eq_crash_iff.1 h
  have hspeaks := not_speaksJson_of_crash hcause
  exact ⟨hspeaks, fun hmatches => hspeaks hmatches.speaksJson⟩

end Finished

/-! ### What a machine is told -/

/-- What a machine is told that is not told is a path that is no text. -/
theorem told_eq_error {e : Error} (h : answer.told env = .error e) :
    e = .pathNoText ∧ ∃ path saved, answer = .initialized path saved ∧ env.isText path = false := by
  unfold Answer.told at h
  split at h
  · next path saved =>
    split at h
    · cases h
    · next hforeign =>
      cases h
      exact ⟨rfl, path, saved, rfl, Bool.eq_false_iff.2 hforeign⟩
  · cases h

/-- What a machine is told is the JSON form of the answer. -/
theorem told_eq_ok {value : Json} (h : answer.told env = .ok value) : value = answer.toJson := by
  unfold Answer.told at h
  split at h
  · split at h
    · exact (Except.ok.inj h).symm
    · cases h
  · exact (Except.ok.inj h).symm

/-- Whatever a command answers, it is told to a machine in JSON, unless the program breaks off. -/
theorem speaksJson_printed (env : Environment) (answered : Except Error Answer)
    (isColored quiet : Bool) {told : Finished}
    (htold : told = ⟨answered.bind (printed env true isColored), true, quiet⟩) :
    told.SpeaksJson ↔ told.crash? = none := by
  constructor
  · intro hspeaks
    cases hcrash : told.crash? with
    | none => rfl
    | some cause => exact absurd hspeaks (Finished.not_speaksJson_of_crash hcrash)
  -- If it goes on, either the answer or the error is one line.
  intro hcrash
  cases houtcome : told.outcome with
  | ok text =>
    have hzero : told.exitCode = 0 := by rw [Finished.exitCode, houtcome]
    refine ⟨fun _ => ?_, fun hexit => absurd hzero hexit⟩
    rw [Finished.stdout, houtcome]
    rw [htold] at houtcome
    obtain ⟨answer, -, hprinted⟩ := bind_eq_ok_iff.1 houtcome
    obtain ⟨value, hvalue, rfl⟩ := map_eq_ok_iff.1 hprinted
    obtain rfl := told_eq_ok hvalue
    exact ⟨_, isLine_compact answer.isExact_toJson⟩
  | error e =>
    have hexit := Finished.exitCode_eq houtcome
    have hfailed : told.exitCode ≠ 0 := by
      rw [hexit]
      exact exitCode_ne_zero e
    have hjson : told.json = true := by rw [htold]
    refine ⟨fun hzero => absurd hzero hfailed,
      fun _ => ⟨Finished.stdout_of_exitCode_ne_zero hfailed, ?_⟩⟩
    rw [Finished.stderr_eq houtcome hcrash, if_pos hjson, hexit]
    exact ⟨_, _, isLine_compact e.isExact_toJson, rfl, rfl⟩

/-- A command is to make a database at a path whose bytes are no text. -/
structure TellsForeignPath (env : Environment) (inv : Invocation) : Prop where
  /-- The command makes a database. -/
  init : ∃ force workspace, inv.command = .init force workspace
  /-- The path of it is no text. -/
  foreign : ∃ path, env.databasePath inv.database = some path ∧ env.isText path = false

/-- The one answer that is not told to a machine is the path of a database, if it is no text. -/
theorem told_eq_error_iff (h : (execute env stamp inv files).1 = .ok answer) :
    answer.told env = .error .pathNoText ↔ TellsForeignPath env inv := by
  constructor
  · intro htold
    obtain ⟨-, path, saved, rfl, hforeign⟩ := told_eq_error htold
    cases answered_execute h with
    | plain hplain => cases hplain
    | initialized hcommand hpath => exact ⟨⟨_, _, hcommand⟩, path, hpath, hforeign⟩
  · rintro ⟨⟨force, workspace, hcommand⟩, path, hpath, hforeign⟩
    obtain ⟨made, saved, hmade, rfl⟩ := answered_init hcommand h
    obtain rfl := Option.some.inj (hmade.symm.trans hpath)
    simp [Answer.told, hforeign]

/-- What a machine is told of an answer that it can be told. -/
theorem printed_of_not_tellsForeignPath (h : (execute env stamp inv files).1 = .ok answer)
    (hforeign : ¬ TellsForeignPath env inv) (isColored : Bool) :
    ∃ text, printed env true isColored answer = .ok text := by
  cases htold : answer.told env with
  | ok value => exact ⟨value.compact ++ "\n", by rw [printed, if_pos rfl, htold]; rfl⟩
  | error e =>
    obtain ⟨rfl, -⟩ := told_eq_error htold
    exact absurd ((told_eq_error_iff h).1 htold) hforeign

/-- What a command comes to for people and for a machine. Both runs end as is promised, but for two
cases. -/
structure BothModes (env : Environment) (inv : Invocation) (files : Files)
    (shown told : Finished) : Prop where
  /-- The exact condition for what is promised. -/
  matches_iff : shown.Matches told ↔
    told.crash? = none ∧ ¬ (shown.exitCode = 0 ∧ TellsForeignPath env inv)
  /-- The program breaks off in both modes alike, only if the command is too much for it. -/
  crash : ∀ cause, told.crash? = some cause →
    shown.crash? = some cause ∧ told.exitCode = shown.exitCode ∧ shown.stdout = "" ∧
      told.stdout = "" ∧ Overtaxes env inv files cause
  /-- A database is made for people, while a machine cannot be told its path. -/
  foreign : shown.exitCode = 0 → TellsForeignPath env inv → told.exitCode = 8 ∧ told.SpeaksJson

section BothModes

variable {shown told : Finished} (hspeaks : told.SpeaksJson ↔ told.crash? = none)
include hspeaks

/-- A command that fails does so in both modes. -/
theorem bothModes_of_error {e : Error} (hshown : shown.outcome = .error e)
    (htold : told.outcome = .error e) (h : e.IsClear (Overtaxes env inv files)) :
    BothModes env inv files shown told := by
  have hcode : told.exitCode = shown.exitCode :=
    (Finished.exitCode_eq htold).trans (Finished.exitCode_eq hshown).symm
  have hfailed : shown.exitCode ≠ 0 := by
    rw [Finished.exitCode_eq hshown]
    exact exitCode_ne_zero e
  have hsilent : told.stdout = "" := Finished.stdout_of_exitCode_ne_zero (hcode ▸ hfailed)
  refine ⟨⟨fun hmatches => ?_, fun hends => ?_⟩, fun cause hcause => ?_,
    fun hzero => absurd hzero hfailed⟩
  · exact ⟨hspeaks.1 hmatches.speaksJson, fun hmade => hfailed hmade.1⟩
  · exact ⟨hcode, hspeaks.2 hends.1, Finished.stdout_of_exitCode_ne_zero⟩
  · rw [Finished.crash?_eq_some_iff, htold] at hcause
    obtain rfl := Except.error.inj hcause
    exact ⟨Finished.crash?_eq_some_iff.2 hshown, hcode,
      Finished.stdout_of_exitCode_ne_zero hfailed, hsilent, h.crash cause rfl⟩

/-- What a command answers is shown to people, and told to a machine if it can be. -/
theorem bothModes_of_ok (h : (execute env stamp inv files).1 = .ok answer) {text : String}
    (isColored : Bool) (hshown : shown.outcome = .ok text)
    (htold : told.outcome = printed env true isColored answer) :
    BothModes env inv files shown told := by
  have hzero : shown.exitCode = 0 := by rw [Finished.exitCode, hshown]
  by_cases hforeign : TellsForeignPath env inv
  · -- The database is made, but its path is no text.
    have houtcome : told.outcome = .error .pathNoText := by
      rw [htold, printed, if_pos rfl, (told_eq_error_iff h).2 hforeign]
      rfl
    have hcode : told.exitCode = 8 := Finished.exitCode_eq houtcome
    have hcrash : told.crash? = none := by rw [Finished.crash?, houtcome]; rfl
    refine ⟨⟨fun hmatches => ?_, fun hends => absurd ⟨hzero, hforeign⟩ hends.2⟩,
      fun cause hcause => ?_, fun _ _ => ⟨hcode, hspeaks.2 hcrash⟩⟩
    · cases hcode.symm.trans (hmatches.exitCode.trans hzero)
    · cases hcrash.symm.trans hcause
  · obtain ⟨line, hline⟩ := printed_of_not_tellsForeignPath h hforeign isColored
    -- Whatever else is answered can be told.
    have houtcome : told.outcome = .ok line := htold.trans hline
    have hcode : told.exitCode = 0 := by rw [Finished.exitCode, houtcome]
    have hcrash : told.crash? = none := by rw [Finished.crash?, houtcome]
    refine ⟨⟨fun _ => ⟨hcrash, fun hmade => hforeign hmade.2⟩, fun _ => ?_⟩,
      fun cause hcause => ?_, fun _ hmade => absurd hmade hforeign⟩
    · exact ⟨hcode.trans hzero.symm, hspeaks.2 hcrash, Finished.stdout_of_exitCode_ne_zero⟩
    · cases hcrash.symm.trans hcause

end BothModes

/-- A command that did not break off ends as is promised, unless its path is no text. -/
theorem BothModes.matches_of_exitCode {shown told : Finished}
    (h : BothModes env inv files shown told) (hexit : shown.exitCode ≠ Crash.exitCode)
    (hforeign : ¬ TellsForeignPath env inv) :
    shown.Matches told := by
  refine h.matches_iff.2 ⟨Option.eq_none_iff_forall_ne_some.2 fun cause hcause => ?_,
    fun hmade => hforeign hmade.2⟩
  cases (Finished.crash?_eq_none_of_exitCode hexit).symm.trans (h.crash cause hcause).1

/-- Settings that ask for one millisecond too much. -/
def patientSettings : Files where
  nodes :=
    [(["home"], .directory), (["home", ".pipectl"], .directory),
      (["home", ".pipectl", "config.json"],
        .file (.text "\x7b\"busy_timeout_ms\": 2147483648\x7d"))]

/-- A project whose last step has the last number, after the first two of the sample lines. -/
def numberedLines : List Line :=
  labelLines.take 2 ++
    [⟨labelEnv, ⟨1000, 3⟩, ⟨false, false⟩,
      ["step", "add", "last", "--project", "proj_00000002-400", "--number",
        "9223372036854775807"]⟩]

end CommandLine

end ReviewPipeline
