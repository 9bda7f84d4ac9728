import ReviewPipeline.CommandLine.Terminal
import ReviewPipeline.Proofs.Opening
import ReviewPipeline.Proofs.Runs
import ReviewPipeline.Proofs.Scripts

/-!
# What Failures Leave Behind

A call that fails leaves nothing behind, however much it has written before it failed; so a run
without its failing calls comes to the same. On the command line, a command that fails has opened
the database, which makes and removes files, but no row is another one afterwards.

A command can fail in two ways: the work on the database fails, and then nothing is written back; or
the work is done and the answer cannot be put into words. The second happens only where a ledger was
looked at, so that what is written back is the database as it was opened, or where a database was
made at a path that a machine cannot be told.

## Main definitions

* `Database.succeeding`: the calls of a run that succeed in it;
* `CommandLine.Plain`: what work on a database answers can be put into words, whatever it holds;
* `CommandLine.LeavesRows`: every row is as before, the companions of the database aside.

## Main results

* `Database.executeAll_succeeding`: without the calls that fail, a run comes to the same;
* `CommandLine.leavesRows_run`: a command line that fails leaves every row;
* `no_trace_of_failures`: failures leave nothing behind, of scripts, runs and command lines.
-/

namespace ReviewPipeline

namespace Database

variable {db : Database} {calls : List (Author × Operation)}

/-- Carry out a run, statement by statement. -/
def executeAll (db : Database) : List (Author × Operation) → List (Except Error Reply) × Database
  | [] => ([], db)
  | (author, op) :: rest =>
    let (answer, next) := db.execute author op
    let (answers, final) := next.executeAll rest
    (answer :: answers, final)

/-- The calls of a run that succeed in it. -/
def succeeding (db : Database) (calls : List (Author × Operation)) : List (Author × Operation) :=
  ((calls.zip (db.executeAll calls).1).filter fun made => made.2.isOk).map (·.1)

/-- Statement by statement, a run comes to the same as call by call. -/
theorem executeAll_eq_run : db.executeAll calls = db.run calls := by
  induction calls generalizing db with
  | nil => rfl
  | cons call calls ih =>
    rw [executeAll, execute_eq]
    dsimp only
    rw [ih, run]

/-- An operation that fails leaves the database as it was: as a transaction it is rolled back, and
any other one is a single write. -/
theorem execute_of_error {author : Author} {op : Operation} {e : Error}
    (h : (db.execute author op).1 = .error e) : (db.execute author op).2 = db := by
  unfold execute at h ⊢
  split at h
  · exact transact_of_error h
  · rw [after]
    rw [map_eq_error_iff.1 h]

/-- A run is its first call, and the rest on what that leaves. -/
theorem executeAll_cons {author : Author} {op : Operation} :
    db.executeAll ((author, op) :: calls) =
      ((db.execute author op).1 :: ((db.execute author op).2.executeAll calls).1,
        ((db.execute author op).2.executeAll calls).2) :=
  rfl

/-- The first call of a run counts if it succeeds. -/
theorem succeeding_cons {author : Author} {op : Operation} :
    db.succeeding ((author, op) :: calls) =
      (if (db.execute author op).1.isOk then [(author, op)] else []) ++
        (db.execute author op).2.succeeding calls := by
  rw [succeeding, executeAll_cons, List.zip_cons_cons, List.filter_cons]
  split <;> rfl

/-- Without the calls that fail, a run comes to the same database, and the other calls are answered
as before. -/
theorem executeAll_succeeding :
    db.executeAll (db.succeeding calls) =
      ((db.executeAll calls).1.filter (·.isOk), (db.executeAll calls).2) := by
  induction calls generalizing db with
  | nil => rfl
  | cons call calls ih =>
    obtain ⟨author, op⟩ := call
    rw [succeeding_cons, executeAll_cons]
    cases hanswer : (db.execute author op).1 with
    | error e =>
      -- The database that the next call meets is the one that this call met.
      rw [execute_of_error hanswer]
      exact ih
    | ok reply =>
      have hok : (Except.ok reply : Except Error Reply).isOk = true := rfl
      rw [if_pos hok, List.singleton_append, executeAll_cons, ih, hanswer]
      rfl

end Database

/-! ### At the command line -/

namespace CommandLine

variable {ctx : Context} {db db' : Database} {answer : Answer}

/-- Whether an answer is put into words by itself, whatever it holds: it does not tell a path, it is
not about a ledger, whose steps have to be named, nor are there completions to be written. -/
def Answer.isPlain : Answer → Bool
  | initialized .. | history .. | completions _ => false
  | _ => true

/-- An answer that cannot be put into words is not plain. -/
theorem not_isPlain_of_printed_eq_error {env : Environment} {json isColored : Bool} {e : Error}
    (h : printed env json isColored answer = .error e) : answer.isPlain = false := by
  unfold printed at h
  cases answer with
  | initialized | history | completions => rfl
  | _ => split at h <;> cases h

/-- An answer, if there is one, is put into words by itself. -/
def Plain (result : Except Error (Answer × Database)) : Prop :=
  ∀ answer db', result = .ok (answer, db') → answer.isPlain = true

/-- Work after a look-up is answered plainly if it always is. -/
theorem plain_bind {α : Type} {x : Except Error α} {f : α → Except Error (Answer × Database)}
    (h : ∀ a, Plain (f a)) : Plain (x >>= f) := by
  intro answer db' hresult
  obtain ⟨a, -, hf⟩ := bind_eq_ok_iff.1 hresult
  exact h a answer db' hf

/-- A plain answer is one. -/
theorem plain_ok (h : answer.isPlain = true) : Plain (.ok (answer, db')) := by
  rintro _ _ ⟨⟩
  exact h

/-- What fails is not answered. -/
theorem plain_error {e : Error} : Plain (.error e) :=
  fun _ _ hresult => nomatch hresult

/-- Commands about projects are answered plainly. -/
theorem plain_project (command : ProjectCommand) : Plain (command.execute ctx db) := by
  cases command with
  | create name description issuePrefix =>
    refine plain_bind fun _ => ?_
    split
    · exact plain_error
    · exact plain_bind fun _ => plain_bind fun _ => plain_ok rfl
  | list limit => exact plain_bind fun _ => plain_bind fun _ => plain_ok rfl
  | inspect id => exact plain_bind fun _ => plain_bind fun _ => plain_ok rfl

/-- Commands about issues are answered plainly. -/
theorem plain_issue (command : IssueCommand) : Plain (command.execute ctx db) := by
  cases command with
  | create title project description =>
    unfold IssueCommand.execute
    dsimp only
    split
    · exact plain_error
    · exact plain_bind fun _ => plain_bind fun _ => plain_ok rfl
  | list project status limit =>
    refine plain_bind fun _ => ?_
    cases status with
    | some word => exact plain_bind fun _ => plain_bind fun _ => plain_ok rfl
    | none => exact plain_bind fun _ => plain_bind fun _ => plain_ok rfl
  | inspect id => exact plain_bind fun _ => plain_ok rfl

/-- Commands about steps are answered plainly. -/
theorem plain_step (command : StepCommand) : Plain (command.execute ctx db) := by
  cases command with
  | add name project stepType agent autoAdvance number =>
    exact plain_bind fun _ => plain_bind fun _ => plain_bind fun _ => plain_ok rfl
  | list project => exact plain_bind fun _ => plain_bind fun _ => plain_ok rfl
  | restaff id agent =>
    exact plain_bind fun _ => plain_bind fun _ => plain_bind fun _ => plain_ok rfl

/-- Commands about pipelines are, but for the one that shows a ledger. -/
theorem plain_pipeline {command : PipelineCommand} (h : ∀ issue, command ≠ .history issue) :
    Plain (command.execute ctx db) := by
  cases command with
  | advance issue agent notes =>
    exact plain_bind fun _ => plain_bind fun _ => plain_ok rfl
  | reject issue reason agent =>
    exact plain_bind fun _ => plain_bind fun _ => plain_ok rfl
  | status issue => exact plain_bind fun _ => plain_bind fun _ => plain_ok rfl
  | history issue => exact absurd rfl (h issue)
  | reset issue => exact plain_bind fun _ => plain_bind fun _ => plain_ok rfl

/-- Recording a signal of the gate is answered plainly. -/
theorem plain_recordGate (issue : String) (status : GateStatus) (error : Option String) :
    Plain (recordGate ctx db issue status error) :=
  plain_bind fun _ => plain_bind fun _ => plain_ok rfl

/-- Whoever is answered about a ledger is answered from the database as it is. -/
theorem history_eq_ok {issue : String}
    (h : PipelineCommand.execute ctx db (.history issue) = .ok (answer, db')) :
    ∃ found : Issue, answer = .history found.id (db.history found.id) (db.catalog found.projectId) ∧
      db' = db := by
  obtain ⟨found, -, h⟩ := bind_eq_ok_iff.1 h
  cases h
  exact ⟨found, rfl, rfl⟩

/-- Whoever is not answered plainly has changed nothing. -/
def Looks (db : Database) (result : Except Error (Answer × Database)) : Prop :=
  ∀ answer db', result = .ok (answer, db') → answer.isPlain = false → db' = db

/-- Who is always answered plainly need not have looked only. -/
theorem Plain.looks {result : Except Error (Answer × Database)} (h : Plain result) :
    Looks db result := by
  intro answer db' hresult hplain
  cases (h answer db' hresult).symm.trans hplain

/-- A command about a pipeline is answered plainly, or it only looks. -/
theorem looks_pipeline (command : PipelineCommand) : Looks db (command.execute ctx db) := by
  by_cases hcommand : ∃ issue, command = .history issue
  · obtain ⟨issue, rfl⟩ := hcommand
    intro answer db' hresult _
    obtain ⟨found, -, hsame⟩ := history_eq_ok hresult
    exact hsame
  · exact (plain_pipeline fun issue hsame => hcommand ⟨issue, hsame⟩).looks

variable {env : Environment} {stamp : Stamp} {inv : Invocation} {files : Files}
  {screen : Screen} {arguments : List String}

/-- The answer about a database that was made tells its name. -/
theorem initDatabase_eq_ok {files' : Files} {force : Bool} {workspace : Option String}
    (h : initDatabase env stamp inv files force workspace = (.ok answer, files')) :
    ∃ path saved, env.databasePath inv.database = some path ∧
      answer = .initialized path saved := by
  unfold initDatabase at h
  split at h
  · cases h
  next path hpath =>
  split at h
  · cases h
  split at h
  · split at h
    · cases h
    · cases h
      exact ⟨path, _, hpath, rfl⟩
  · unfold makeDatabase at h
    split at h
    · cases h
    split at h
    · cases h
    · cases h
      exact ⟨path, _, hpath, rfl⟩

/-- The location of the database that a command works with, if it is in a file. -/
def placeOf (env : Environment) (inv : Invocation) (files : Files) : Option Location :=
  (env.databasePath inv.database).bind files.databasePlace?

/-- Every row is as before, at whatever place: what stands beside the database of the command, and
goes when the database is opened, is the only exception. -/
def LeavesRows (env : Environment) (inv : Invocation) (files files' : Files) : Prop :=
  ∀ place,
    (∀ location, placeOf env inv files = some location →
      ∀ companion : Companion, place ≠ companion.location location) →
    files'.rows place = files.rows place

/-- Where nothing was done, all rows are left. -/
theorem LeavesRows.refl : LeavesRows env inv files files :=
  fun _ _ => rfl

/-- How long a command waits for a locked database, in milliseconds: as long as the settings say, if
they can be loaded. -/
def waitOf (env : Environment) (files : Files) : Nat :=
  match env.loadSettings files with
  | .ok settings => settings.busyTimeoutMs.getD Files.defaultWait
  | .error _ => Files.defaultWait

/-- A command finds its database as it is opened, or it fails before. -/
theorem openExisting_cases (now : Int) :
    (∃ e, openExisting env now inv files = (.error e, files)) ∨
      ∃ name, env.databasePath inv.database = some name ∧
        openExisting env now inv files = files.openDatabase name now (waitOf env files) := by
  unfold openExisting
  split
  · exact .inl ⟨_, rfl⟩
  · next name hname =>
    split
    · split
      · exact .inl ⟨_, rfl⟩
      · next settings hsettings => exact .inr ⟨name, hname, by rw [waitOf, hsettings]⟩
    · exact .inl ⟨_, rfl⟩

/-- A command that fails, or whose answer is not plain, leaves every row as it was. -/
theorem leavesRows_withDatabase
    {work : Context → Database → Except Error (Answer × Database)}
    (hwork : ∀ ctx db, Looks db (work ctx db))
    (h : ∀ answer, (withDatabase env stamp inv files work).1 = .ok answer →
      answer.isPlain = false) :
    LeavesRows env inv files (withDatabase env stamp inv files work).2 := by
  unfold withDatabase at h ⊢
  rcases openExisting_cases stamp.now with ⟨e, hopen⟩ | ⟨name, hname, hopen⟩
  · rw [hopen]
    exact .refl
  rw [hopen] at h ⊢
  intro place hplace
  rw [placeOf, hname] at hplace
  have hrows : (files.openDatabase name stamp.now (waitOf env files)).2.rows place =
      files.rows place := Files.rows_openDatabase hplace
  cases hopened : files.openDatabase name stamp.now (waitOf env files) with
  | mk result files' =>
    rw [hopened] at h hrows
    cases result with
    | error e => exact hrows
    | ok opened =>
      dsimp only at h hrows ⊢
      split
      · exact hrows
      · next answer db hdone =>
        -- The database is written back as it was opened.
        rw [hdone] at h
        obtain rfl := hwork _ _ answer db hdone (h answer rfl)
        rw [Files.rows_save_of_openDatabase hopened]
        exact hrows

/-- A command that fails, or whose answer is not plain, leaves every row as it was, unless it makes
the database. -/
theorem leavesRows_execute (hinit : ∀ force workspace, inv.command ≠ .init force workspace)
    (h : ∀ answer, (execute env stamp inv files).1 = .ok answer → answer.isPlain = false) :
    LeavesRows env inv files (execute env stamp inv files).2 := by
  unfold execute at h ⊢
  cases hcommand : inv.command with
  | init force workspace => exact absurd hcommand (hinit force workspace)
  | version => exact .refl
  | completions shell => exact .refl
  | project command =>
    rw [hcommand] at h
    exact leavesRows_withDatabase (fun _ _ => (plain_project command).looks) h
  | issue command =>
    rw [hcommand] at h
    exact leavesRows_withDatabase (fun _ _ => (plain_issue command).looks) h
  | step command =>
    rw [hcommand] at h
    exact leavesRows_withDatabase (fun _ _ => (plain_step command).looks) h
  | pipeline command =>
    rw [hcommand] at h
    exact leavesRows_withDatabase (fun _ _ => looks_pipeline command) h
  | recordGate issue status error =>
    rw [hcommand] at h
    dsimp only at h ⊢
    -- A refused status is no plain answer, but nothing was opened for it.
    cases hstatus : choose GateStatus.vocabulary status with
    | error e => exact .refl
    | ok status =>
      rw [hstatus] at h
      exact leavesRows_withDatabase (fun _ _ => (plain_recordGate issue status error).looks) h

/-- No error ends with the exit code of a success. -/
theorem exitCode_ne_zero (e : Error) : e.exitCode ≠ 0 := by
  have hcode : e.code.exitCode ≠ 0 := by cases e.code <;> decide
  cases e with
  | crashed cause => exact nofun
  | _ => exact hcode

/-- A command that ends with another exit code than zero has failed, or its answer, which is not
plain, could not be put into words. -/
theorem not_isPlain_of_exitCode_ne_zero
    (h : (runInvocation env stamp screen inv files).1.exitCode ≠ 0)
    (hanswer : (execute env stamp inv files).1 = .ok answer) : answer.isPlain = false := by
  unfold runInvocation at h
  dsimp only at h
  rw [hanswer] at h
  split at h
  · exact absurd rfl h
  · cases hprinted :
      printed env (speaksJson screen inv) (screen.hasColors && !inv.noColor) answer with
    | error e => exact not_isPlain_of_printed_eq_error hprinted
    | ok text =>
      refine absurd ?_ h
      simp [Ended.exitCode, Finished.exitCode, Except.bind, hprinted]

/-- What a command prints changes no file. -/
theorem runInvocation_files :
    (runInvocation env stamp screen inv files).2 = (execute env stamp inv files).2 := by
  unfold runInvocation
  dsimp only
  split <;> rfl

/-- The error that a command line ended with, if it was carried out and failed. -/
def Ended.error? : Ended → Option Error
  | .finished result =>
    match result.outcome with
    | .ok _ => none
    | .error e => some e
  | .helped | .refused | .completions _ => none

/-- A command that fails ends with its error. -/
theorem error?_runInvocation {e : Error} (h : (execute env stamp inv files).1 = .error e) :
    (runInvocation env stamp screen inv files).1.error? = some e := by
  unfold runInvocation
  rcases hresult : execute env stamp inv files with ⟨answer, files'⟩
  rw [hresult] at h
  obtain rfl : answer = .error e := h
  rfl

/-- A command line that ends with another exit code than zero leaves every row as it was, unless it
makes the database. -/
theorem leavesRows_run (hread : read env arguments = .ok inv)
    (hinit : ∀ force workspace, inv.command ≠ .init force workspace)
    (h : (run env stamp screen arguments files).1.exitCode ≠ 0) :
    LeavesRows env inv files (run env stamp screen arguments files).2 := by
  rw [run, hread] at h ⊢
  dsimp only at h ⊢
  rw [runInvocation_files]
  exact leavesRows_execute hinit fun answer => not_isPlain_of_exitCode_ne_zero h

end CommandLine

/-! ### All failures -/

/-- Failures leave nothing behind. A script that fails as a transaction, and so every operation that
fails, leaves the database as it was, the counters included; the other calls of a run do not notice
that it was there; and a command line that ends with another exit code than zero, unless it makes
the database, leaves all rows as they were, those of its own database like all others.

Operations are carried out statement by statement here, which comes to the same as carrying them
out at once. -/
theorem no_trace_of_failures :
    (∀ {α : Type} (db : Database) (author : Author) (script : Script α) (e : Error),
      (db.transact author script).1 = .error e → (db.transact author script).2 = db) ∧
    (∀ (db : Database) (author : Author) (op : Operation),
      db.execute author op = ((db.perform author op).map (·.1), db.after author op)) ∧
    (∀ (db : Database) (author : Author) (op : Operation) (e : Error),
      (db.execute author op).1 = .error e → (db.execute author op).2 = db) ∧
    (∀ (db : Database) (calls : List (Author × Operation)), db.executeAll calls = db.run calls) ∧
    (∀ (db : Database) (calls : List (Author × Operation)),
      db.executeAll (db.succeeding calls) =
        ((db.executeAll calls).1.filter (·.isOk), (db.executeAll calls).2)) ∧
    ∀ (env : Environment) (stamp : Stamp) (screen : CommandLine.Screen) (arguments : List String)
      (files : Files), (CommandLine.run env stamp screen arguments files).1.exitCode ≠ 0 →
      let files' := (CommandLine.run env stamp screen arguments files).2
      (∀ stop, CommandLine.read env arguments = .error stop → files' = files) ∧
      ∀ inv, CommandLine.read env arguments = .ok inv →
        (∀ force workspace, inv.command ≠ .init force workspace) →
        CommandLine.LeavesRows env inv files files' ∧
          ∀ location, CommandLine.placeOf env inv files = some location →
            files'.rows location = files.rows location := by
  refine ⟨fun _ _ _ _ => Database.transact_of_error, Database.execute_eq,
    fun _ _ _ _ => Database.execute_of_error, fun _ _ => Database.executeAll_eq_run,
    fun _ _ => Database.executeAll_succeeding, ?_⟩
  intro env stamp screen arguments files hexit files'
  constructor
  · intro stop hread
    unfold files'
    rw [CommandLine.run, hread]
    cases stop <;> rfl
  · intro inv hread hinit
    have hleaves : CommandLine.LeavesRows env inv files files' :=
      CommandLine.leavesRows_run hread hinit hexit
    refine ⟨hleaves, fun location hlocation => hleaves location fun other hother companion => ?_⟩
    -- The database of the command is not a companion of itself.
    obtain rfl : location = other := Option.some.inj (hlocation.symm.trans hother)
    obtain ⟨name, -, hplace⟩ := Option.bind_eq_some_iff.1 hlocation
    exact (companion.location_ne (Files.databasePlace?_ne_nil hplace)).symm

/-- A database to try the statement on: one project with one issue, and projects cannot be changed,
so that no further issue can be created. -/
def blockedSample : Database where
  projects := [⟨"docs", "Docs", "home", none, some "DOCS", 2, 1, 1⟩]
  issues := [{ record := ⟨"issue", some "DOCS-1", "docs", "first", none, .todo, 2, 2⟩ }]
  uniqueShortIds := true
  blocked := some .projectUpdate

/-- In the sample database the issue is inserted before its creation fails, and is gone afterwards,
in memory as in its file. -/
theorem no_trace_of_failures_blockedSample :
    let author : Author := ⟨"ada", ⟨7, 7⟩⟩
    let env : Environment := { home := some "/home", workspace := some "home" }
    let arguments := ["issue", "create", "second", "--project", "docs", "--db", "/docs.db"]
    let files : Files := { nodes := [(["docs.db"], .file (.database blockedSample .ahead))] }
    let line := CommandLine.run env author.stamp ⟨false, false⟩ arguments files
    ((Script.createIssue author "docs" "second" none).run
        ⟨blockedSample, blockedSample, []⟩).2.db.issues.length = 2 ∧
      (blockedSample.execute author (.createIssue "docs" "second" none)).1 =
        .error (.database .blocked) ∧
      (blockedSample.execute author (.createIssue "docs" "second" none)).2 = blockedSample ∧
      line.1.exitCode = 2 ∧ line.2.rows ["docs.db"] = blockedSample.rows := by
  intro author env arguments files line
  have herror : (blockedSample.execute author (.createIssue "docs" "second" none)).1 =
      .error (.database .blocked) := by decide +kernel
  have hexit : line.1.exitCode = 2 := by decide +kernel
  let inv : CommandLine.Invocation :=
    ⟨.issue (.create "second" "docs" none), some "/docs.db", none, some "home", false, false, false⟩
  have hread : CommandLine.read env arguments = .ok inv := by decide +kernel
  -- Without a flag to the contrary, the general statement speaks of the last end.
  obtain ⟨-, -, hcall, -, -, hline⟩ := no_trace_of_failures
  refine ⟨by decide +kernel, herror, hcall _ _ _ _ herror, hexit, ?_⟩
  have hne : line.1.exitCode ≠ 0 := by
    rw [hexit]
    decide
  have hplace : CommandLine.placeOf env inv files = some ["docs.db"] := by decide +kernel
  exact ((hline env author.stamp ⟨false, false⟩ arguments files hne).2 _ hread
    (fun _ _ hinit => nomatch hinit)).2 ["docs.db"] hplace

end ReviewPipeline
