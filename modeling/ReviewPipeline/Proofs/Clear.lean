import ReviewPipeline.Proofs.Failures
import ReviewPipeline.Proofs.ShortIds

/-!
# No Identifier Stands for Two Issues

Looking up an issue fails in a way of its own if a short identifier stands for two issues. No
command meets that on a labelled database, and no other error looks like it. On the same way it is
shown where a command breaks off: only where a step is to be numbered after the last number.

## Main definitions

* `Error.IsClear`: an error is neither of the two, other than what a command may break off for;
* `Clear`: whatever failed, the error is clear;
* `Unambiguous`: neither the command nor the report on its answer fails otherwise.

## Main results

* `unambiguous_project`, `unambiguous_issue`, `unambiguous_step`, `unambiguous_pipeline`,
  `unambiguous_recordGate`: no command on a labelled database finds two issues, and adding a step is
  the only one that may break off.
-/

namespace ReviewPipeline

section Clear

variable {α β : Type} {may : Crash → Prop} {x : Except Error α} {f : α → Except Error β}

/-- An error is not that a short identifier stands for two issues, and if the program breaks off, it
does so for a reason that it may break off for. -/
structure Error.IsClear (may : Crash → Prop) (e : Error) : Prop where
  /-- No short identifier stands for two issues. -/
  unambiguous : ∀ s, e ≠ .ambiguousShortId s
  /-- The program breaks off only where it may. -/
  crash : ∀ cause, e = .crashed cause → may cause

/-- If something failed, the error is clear. -/
def Clear (may : Crash → Prop) (x : Except Error α) : Prop :=
  ∀ e, x = .error e → e.IsClear may

/-- What succeeded did not fail. -/
theorem clear_ok {a : α} : Clear may (.ok a) :=
  fun _ h => nomatch h

/-- Every other error is clear. -/
theorem clear_error {e : Error} (hshort : ∀ s, e ≠ .ambiguousShortId s)
    (hcrash : ∀ cause, e ≠ .crashed cause) : Clear may (.error e : Except Error α) := by
  rintro _ ⟨⟩
  exact ⟨hshort, fun cause h => absurd h (hcrash cause)⟩

/-- Breaking off is clear where that may be. -/
theorem clear_crashed {cause : Crash} (h : may cause) :
    Clear may (.error (.crashed cause) : Except Error α) := by
  rintro _ ⟨⟩
  exact ⟨nofun, fun _ hcause => Error.crashed.inj hcause ▸ h⟩

/-- An error that is passed on stays clear. -/
theorem Clear.of_error {e : Error} (h : Clear may x) (hx : x = .error e) :
    Clear may (.error e : Except Error β) := by
  rintro _ ⟨⟩
  exact h e hx

/-- One step after another is clear if both are. -/
theorem clear_bind (hx : Clear may x) (hf : ∀ a, x = .ok a → Clear may (f a)) :
    Clear may (x >>= f) := by
  intro e h
  rcases bind_eq_error_iff.1 h with h | ⟨a, ha, h⟩
  · exact hx e h
  · exact hf a ha e h

/-- What is done with a result afterwards adds no failure. -/
theorem clear_map {g : α → β} (h : Clear may x) : Clear may (x.map g) :=
  fun e hmap => h e (map_eq_error_iff.1 hmap)

/-- A list of results is clear if each of them is. -/
theorem clear_mapM {xs : List α} (h : ∀ a, Clear may (f a)) : Clear may (xs.mapM f) := by
  induction xs with
  | nil => exact clear_ok
  | cons a xs ih =>
    rw [List.mapM_cons]
    exact clear_bind (h a) fun _ _ => clear_bind ih fun _ _ => clear_ok

/-- Whatever the database refuses is clear. -/
theorem clear_of_database (h : ∀ e, x = .error e → ∃ fault, e = .database fault) :
    Clear may x := by
  intro e hx
  obtain ⟨fault, rfl⟩ := h e hx
  exact ⟨nofun, nofun⟩

/-- What the error about a short identifier says begins with that word. -/
theorem clear_validation {text : String} (h : text.toList.take 2 ≠ ['s', 'h']) :
    Clear may (.error (.validation text) : Except Error α) := by
  refine clear_error (fun s hsame => ?_) nofun
  simp only [Error.ambiguousShortId, Error.validation.injEq] at hsame
  subst hsame
  simp [String.toList_append] at h

end Clear

namespace Database

variable {may : Crash → Prop} {db db' : Database} {author : Author} {id issueId : String}
  {now : Int}

/-- Permission to write is refused by the database only. -/
theorem clear_permit {kind : WriteKind} : Clear may (db.permit kind) :=
  clear_of_database fun _ he => ⟨_, permit_eq_error he⟩

/-- A constraint is guarded by the database only. -/
theorem clear_require {holds : Bool} {fault : Fault} : Clear may (require holds fault) :=
  clear_of_database fun _ he => ⟨_, require_eq_error he⟩

/-- Nothing but the database can refuse to commit. -/
theorem clear_commit {α : Type} {change : Change α} : Clear may (change.commit author) :=
  clear_of_database fun _ he => ⟨_, commit_eq_error he⟩

/-- A row that cannot be read holds a word that the database reports. -/
theorem clear_read {α : Type} {row : Row α} {column : Nat} : Clear may (row.read column) := by
  unfold Row.read
  split
  · exact clear_ok
  · exact clear_error nofun nofun

/-- A project that cannot be read has a number that the database reports. -/
theorem clear_readProject {p : Project} : Clear may (readProject p) := by
  unfold readProject
  split
  · exact clear_ok
  · exact clear_error nofun nofun

/-- A project is not there or cannot be read. -/
theorem clear_project : Clear may (db.project id) := by
  unfold project project?
  cases db.projects.find? fun p => p.id == id with
  | none => exact clear_error nofun nofun
  | some p =>
    dsimp only
    cases hread : readProject p with
    | ok q => exact clear_ok
    | error e => exact clear_readProject.of_error hread

/-- A step is not there or cannot be read. -/
theorem clear_step : Clear may (db.step id) := by
  unfold step step?
  cases db.steps.find? fun row => row.record.id == id with
  | none => exact clear_error nofun nofun
  | some row =>
    dsimp only [readStep, Row.read]
    cases row.foreign with
    | none => exact clear_ok
    | some word => exact clear_error nofun nofun

/-- A catalog fails with the first row that cannot be read. -/
theorem clear_catalog : Clear may (db.catalog id) :=
  clear_mapM fun _ => clear_read

/-- A cursor that is there fails only in being read. -/
theorem clear_cursor? : Clear may (db.cursor? id) := by
  unfold cursor?
  split
  · exact clear_ok
  · exact clear_map clear_read

/-! ### Operations -/

section Operations

/-- Creating a project fails on its prefix, or in the database. -/
theorem clear_createProject {p : Project} : Clear may (db.createProject author p) := by
  have hrest : ∀ x : Unit, Clear may (db.insertProject p >>= fun next =>
      Change.commit ⟨(), [{ entityType := "project", entityId := p.id, kind := .projectCreated }],
        next⟩ author) := by
    intro _
    refine clear_bind ?_ fun _ _ => clear_commit
    exact clear_bind clear_permit fun _ _ => clear_bind clear_require fun _ _ =>
      clear_bind clear_require fun _ _ => clear_ok
  unfold createProject
  split
  · split
    · exact clear_validation (by simp [String.toList_append])
    · exact hrest ()
  · exact hrest ()

/-- Creating an issue fails on its project, or in the database. -/
theorem clear_createIssue {title : String} {description : Option String} :
    Clear may (db.createIssue author id title description) := by
  refine clear_bind clear_project fun p _ => clear_bind ?_ fun _ _ => clear_bind ?_ fun _ _ =>
    clear_commit
  · exact clear_bind clear_permit fun _ _ => clear_bind clear_require fun _ _ =>
      clear_bind clear_require fun _ _ => clear_bind clear_require fun _ _ => clear_ok
  · unfold countIssue
    split
    · exact clear_bind clear_permit fun _ _ => clear_ok
    · exact clear_ok

/-- There is a number for a step, unless it is the one after the last number. -/
theorem clear_stepNumber {asked : Option Int}
    (h : asked = none → fitsInt64 (db.lastStepNumber id + 1) = false → may .numberOverflow) :
    Clear may (db.stepNumber id asked) := by
  cases hnumber : db.stepNumber id asked with
  | ok number => exact clear_ok
  | error e =>
    obtain ⟨rfl, hasked, hpast⟩ := stepNumber_eq_error_iff.1 hnumber
    exact clear_crashed (h hasked hpast)

/-- Adding a step breaks off only where the step cannot be numbered. -/
theorem clear_addStep {new : NewStep} (h : new.number = none →
      fitsInt64 (db.lastStepNumber new.projectId + 1) = false → may .numberOverflow) :
    Clear may (db.addStep author new) := by
  unfold addStep
  split
  · exact clear_validation (by decide)
  refine clear_bind clear_project fun _ _ => clear_bind (clear_stepNumber h) fun _ _ => ?_
  dsimp only
  split
  · exact clear_validation (by simp [String.toList_append])
  split
  · exact clear_validation (by simp [String.toList_append])
  · refine clear_bind ?_ fun _ _ => clear_commit
    exact clear_bind clear_permit fun _ _ => clear_bind clear_require fun _ _ =>
      clear_bind clear_require fun _ _ => clear_bind clear_require fun _ _ =>
        clear_bind clear_require fun _ _ => clear_ok

/-- Assigning a step fails on the step, or in the database. -/
theorem clear_restaffStep {agent : Option String} : Clear may (db.restaffStep author id agent) :=
  clear_bind clear_step fun _ _ =>
    clear_bind (clear_bind clear_permit fun _ _ => clear_ok) fun _ _ => clear_commit

/-- A look-up that fails has met an issue that cannot be read. -/
theorem clear_issue? (h : db.Labelled) : Clear may (db.issue? id) := by
  intro e he
  refine ⟨fun s hs => issue?_ne_ambiguous h (he.trans (congrArg _ hs)), fun cause hcause => ?_⟩
  have hread : Clear may (((db.withShortId id).take 2).mapM readIssue) :=
    clear_mapM fun _ => clear_read
  unfold issue? at he
  split at he
  · exact (clear_map clear_read e he).crash cause hcause
  split at he
  · next hfailed =>
    cases he
    exact (hread e hfailed).crash cause hcause
  · cases he
  · cases he
  · rw [hcause] at he
    cases he

/-- An issue of a labelled database is found, or it is not there. -/
theorem clear_issue (h : db.Labelled) : Clear may (db.issue id) := by
  unfold issue
  split
  · next e he => exact (clear_issue? h).of_error he
  · exact clear_error nofun nofun
  · exact clear_ok

/-- Recording a signal fails on the issue, or in the database. -/
theorem clear_recordGate (h : db.Labelled) {status : GateStatus} {error : Option String} :
    Clear may (db.recordGate author id status error) := by
  refine clear_bind (clear_issue h) fun issue _ => clear_bind ?_ fun _ _ =>
    clear_bind clear_cursor? fun cursor _ => ?_
  · exact clear_of_database fun _ he => putCursor_eq_error he
  · cases cursor with
    | some cursor => exact clear_commit
    | none => exact clear_error nofun nofun

/-- A reset fails on the issue, or in the database. -/
theorem clear_resetPipeline (h : db.Labelled) : Clear may (db.resetPipeline author id) :=
  clear_bind (clear_issue h) fun _ _ =>
    clear_bind (clear_bind clear_permit fun _ _ => clear_ok) fun _ _ => clear_commit

/-- Where an issue stands is found out by look-ups alone. -/
theorem clear_situation (h : db.Labelled) : Clear may (db.situation id now) :=
  clear_bind (clear_issue h) fun _ _ => clear_bind clear_catalog fun _ _ =>
    clear_bind (clear_map clear_cursor?) fun _ _ => clear_ok

/-- A step that cannot be located makes a stale pointer. -/
theorem clear_locate {steps : List Step} {stepId : String} :
    Clear may (Progression.locate steps stepId) := by
  unfold Progression.locate
  split
  · exact clear_ok
  · exact clear_error nofun nofun

/-- Planning a completion fails only in finding the step. -/
theorem clear_planCompletion {steps : List Step} {cursor : Cursor} {agent notes : Option String}
    {stamp : Stamp} : Clear may (Progression.planCompletion steps cursor agent notes stamp) := by
  -- A completion is refused only because it cannot be told where the issue stands.
  have hstarted : Clear may (Progression.ensureStarted steps cursor) := by
    unfold Progression.ensureStarted
    split
    · split
      · exact clear_ok
      · exact clear_validation (by simp [String.toList_append])
    · exact clear_locate
    · exact clear_error nofun nofun
  exact fun e h => hstarted e (Progression.planCompletion_eq_error_iff.1 h)

/-- Planning a rejection fails on the step, or for want of one to go back to. -/
theorem clear_planRejection {steps : List Step} {cursor : Cursor} {agent : Option String}
    {reason : String} {stamp : Stamp} :
    Clear may (Progression.planRejection steps cursor agent reason stamp) := by
  unfold Progression.planRejection
  split
  · exact clear_validation (by simp [String.toList_append])
  split
  · next e he => exact clear_locate.of_error he
  split
  · exact clear_error nofun nofun
  split
  · exact clear_error nofun nofun
  · exact clear_ok

/-- A transition is three writes, of which each may be refused. -/
theorem clear_applyTransition {issue : Issue} {t : Transition} :
    Clear may (db.applyTransition author issue t) := by
  -- Each of the three writes, and the commit, is refused only by the database.
  rw [applyTransition_eq]
  refine clear_bind ?_ fun _ _ => clear_bind ?_ fun _ _ => clear_bind ?_ fun _ _ => clear_commit
  · exact clear_of_database fun _ he => appendEntry_eq_error he
  · exact clear_of_database fun _ he => putCursor_eq_error he
  · unfold setWorkStatus? setWorkStatus
    split
    · split
      · exact clear_bind clear_permit fun _ _ => clear_ok
      · exact clear_error nofun nofun
    · exact clear_ok

/-- A completion fails where the issue is, in its plan, or in a write. -/
theorem clear_complete (h : db.Labelled) {agent notes : Option String} :
    Clear may (db.complete author id agent notes) := by
  refine clear_bind (clear_situation h) fun s _ => ?_
  dsimp only
  split
  · exact clear_validation (by simp [String.toList_append])
  · exact clear_bind clear_planCompletion fun _ _ => clear_bind clear_applyTransition fun _ _ =>
      clear_ok

/-- A rejection fails on its reason, where the issue is, in its plan, or in a write. -/
theorem clear_reject (h : db.Labelled) {agent : Option String} {reason : String} :
    Clear may (db.reject author id agent reason) := by
  unfold reject
  split
  · exact clear_validation (by decide)
  · refine clear_bind (clear_situation h) fun s _ => clear_bind clear_planRejection fun t _ =>
      clear_bind clear_applyTransition fun _ _ => ?_
    dsimp only
    split
    · exact clear_ok
    · exact clear_error nofun nofun

/-- The status is put together from look-ups alone. -/
theorem clear_status (h : db.Labelled) : Clear may (db.status id now) :=
  clear_bind (clear_issue h) fun _ _ => clear_bind clear_catalog fun _ _ =>
    clear_bind (clear_map clear_cursor?) fun _ _ => clear_ok

end Operations

end Database

/-! ### Commands -/

/-- The settings have no place without a home. -/
theorem Environment.clear_settingsPath {env : Environment} : Clear may env.settingsPath := by
  unfold settingsPath
  split
  · exact clear_ok
  · exact clear_error nofun nofun

/-- Settings that cannot be read or parsed are reported as settings. -/
theorem Environment.clear_loadSettings {env : Environment} {files : Files} :
    Clear may (env.loadSettings files) := by
  unfold loadSettings
  refine clear_bind clear_settingsPath fun path _ => ?_
  split
  · split
    · exact clear_error nofun nofun
    split
    · exact clear_ok
    · exact clear_error nofun nofun
  · exact clear_ok

/-- No workspace may be active, and the settings may be at fault. -/
theorem Environment.clear_activeWorkspace {env : Environment} {files : Files}
    {explicit : Option String} : Clear may (env.activeWorkspace files explicit) := by
  unfold activeWorkspace
  split
  · exact clear_ok
  split
  · next e he => exact clear_loadSettings.of_error he
  split
  · split
    · exact clear_error nofun nofun
    · exact clear_ok
  · exact clear_error nofun nofun

/-- A project of another workspace is reported as that. -/
theorem Project.clear_checkWorkspace {p : Project} {workspace resource : String} :
    Clear may (p.checkWorkspace workspace resource) := by
  unfold checkWorkspace
  split
  · exact clear_ok
  · exact clear_error nofun nofun

namespace CommandLine

variable {may : Crash → Prop} {ctx : Context} {db : Database} {id : String}

/-- The project of the active workspace that is found is the one that was named. -/
theorem id_of_scopedProject {p : Project} (h : ctx.scopedProject db id = .ok p) : p.id = id := by
  obtain ⟨workspace, -, h⟩ := bind_eq_ok_iff.1 h
  obtain ⟨found, hfound, h⟩ := bind_eq_ok_iff.1 h
  obtain ⟨-, -, h⟩ := bind_eq_ok_iff.1 h
  cases h
  exact (Database.project_eq_ok hfound).2

/-- A project is looked up within the active workspace. -/
theorem clear_scopedProject : Clear may (ctx.scopedProject db id) :=
  clear_bind Environment.clear_activeWorkspace fun _ _ =>
    clear_bind Database.clear_project fun _ _ =>
      clear_bind Project.clear_checkWorkspace fun _ _ => clear_ok

/-- An issue is looked up within the active workspace, which reports what is similar if it fails. -/
theorem clear_scopedIssue (h : db.Labelled) : Clear may (ctx.scopedIssue db id) := by
  refine clear_bind Environment.clear_activeWorkspace fun workspace _ => ?_
  refine clear_bind (Database.clear_issue? h) fun found _ => ?_
  cases found with
  | none =>
    unfold Context.unknownIssue
    dsimp only
    split <;> exact clear_error nofun nofun
  | some issue =>
    exact clear_bind Database.clear_project fun _ _ =>
      clear_bind Project.clear_checkWorkspace fun _ _ => clear_ok

/-- A word that is not chosen from a vocabulary is an unacceptable argument. -/
theorem clear_choose {α : Type} {v : Vocabulary α} {input : String} :
    Clear may (choose v input) := by
  unfold choose
  split
  · exact clear_ok
  · exact clear_error nofun nofun

/-- A prefix that is malformed is an unacceptable argument. -/
theorem clear_choosePrefix {p : Project} {named : Option String} :
    Clear may (choosePrefix db p named) := by
  unfold choosePrefix
  split
  · dsimp only
    split
    · exact clear_error nofun nofun
    · exact clear_ok
  · exact clear_ok

/-- Neither a failure of a command nor one of the report on its answer is that a short identifier
stands for two issues. -/
structure Unambiguous (may : Crash → Prop) (result : Except Error (Answer × Database)) : Prop where
  /-- The command fails in no such way. -/
  clear : Clear may result
  /-- Nor does the report. -/
  report : ∀ answer db', result = .ok (answer, db') →
    ∀ env json isColored, Clear may (printed env json isColored answer)

variable {db' : Database} {answer : Answer} {env : Environment}

/-- Work after work that is clear is unambiguous if it always is. -/
theorem unambiguous_bind {α : Type} {x : Except Error α}
    {f : α → Except Error (Answer × Database)} (hx : Clear may x)
    (hf : ∀ a, x = .ok a → Unambiguous may (f a)) : Unambiguous may (x >>= f) := by
  refine ⟨clear_bind hx fun a ha => (hf a ha).clear, fun answer db' hresult => ?_⟩
  obtain ⟨a, ha, hdone⟩ := bind_eq_ok_iff.1 hresult
  exact (hf a ha).report answer db' hdone

/-- Work that fails clearly has no answer to be reported on. -/
theorem unambiguous_error {e : Error}
    (h : Clear may (.error e : Except Error (Answer × Database))) : Unambiguous may (.error e) :=
  ⟨h, fun _ _ hresult => nomatch hresult⟩

/-- A plain answer can be put into words. -/
theorem clear_printed (h : answer.isPlain = true) {json isColored : Bool} :
    Clear may (printed env json isColored answer) := by
  intro s hprinted
  cases h.symm.trans (not_isPlain_of_printed_eq_error hprinted)

/-- A plain answer is unambiguous. -/
theorem unambiguous_ok (h : answer.isPlain = true) : Unambiguous may (.ok (answer, db')) := by
  refine ⟨clear_ok, ?_⟩
  rintro _ _ ⟨⟩ env json isColored
  exact clear_printed h

/-- A ledger is unambiguous if the catalog is that it is shown with. -/
theorem unambiguous_history {issueId : String} {entries : List LedgerEntry}
    {steps : Except Error (List Step)} (h : Clear may steps) :
    Unambiguous may (.ok (.history issueId entries steps, db')) := by
  refine ⟨clear_ok, ?_⟩
  rintro _ _ ⟨⟩ env json isColored
  unfold printed
  split
  · exact clear_ok
  · refine clear_map ?_
    unfold Report.history
    split
    · exact clear_ok
    · exact clear_map h

/-- No command about projects finds two issues. -/
theorem unambiguous_project (command : ProjectCommand) :
    Unambiguous may (command.execute ctx db) := by
  cases command with
  | create name description issuePrefix =>
    refine unambiguous_bind Environment.clear_activeWorkspace fun workspace _ => ?_
    split
    · exact unambiguous_error (clear_error nofun nofun)
    · exact unambiguous_bind clear_choosePrefix fun _ _ =>
        unambiguous_bind Database.clear_createProject fun _ _ => unambiguous_ok rfl
  | list limit =>
    exact unambiguous_bind Environment.clear_activeWorkspace fun _ _ =>
      unambiguous_bind (clear_mapM fun _ => Database.clear_readProject) fun _ _ =>
        unambiguous_ok rfl
  | inspect id =>
    exact unambiguous_bind clear_scopedProject fun _ _ =>
      unambiguous_bind Database.clear_catalog fun _ _ => unambiguous_ok rfl

/-- No command about issues finds two of them. -/
theorem unambiguous_issue (h : db.Labelled) (command : IssueCommand) :
    Unambiguous may (command.execute ctx db) := by
  cases command with
  | create title project description =>
    unfold IssueCommand.execute
    dsimp only
    split
    · exact unambiguous_error (clear_error nofun nofun)
    · exact unambiguous_bind clear_scopedProject fun _ _ =>
        unambiguous_bind Database.clear_createIssue fun _ _ => unambiguous_ok rfl
  | list project status limit =>
    have hlist : ∀ p status, Clear may (db.listIssues p status limit) := fun _ _ =>
      clear_mapM fun _ => Database.clear_read
    refine unambiguous_bind clear_scopedProject fun _ _ => ?_
    cases status with
    | some word =>
      exact unambiguous_bind (clear_map clear_choose) fun _ _ =>
        unambiguous_bind (hlist _ _) fun _ _ => unambiguous_ok rfl
    | none =>
      exact unambiguous_bind clear_ok fun _ _ =>
        unambiguous_bind (hlist _ _) fun _ _ => unambiguous_ok rfl
  | inspect id => exact unambiguous_bind (clear_scopedIssue h) fun _ _ => unambiguous_ok rfl

/-- No command about steps finds two issues, and adding a step breaks off only where it may. -/
theorem unambiguous_step (command : StepCommand)
    (h : ∀ name project stepType agent autoAdvance,
      command = .add name project stepType agent autoAdvance none →
      Database.fitsInt64 (db.lastStepNumber project + 1) = false → may .numberOverflow) :
    Unambiguous may (command.execute ctx db) := by
  cases command with
  | add name project stepType agent autoAdvance number =>
    refine unambiguous_bind clear_choose fun kind _ =>
      unambiguous_bind clear_scopedProject fun p hscoped =>
        unambiguous_bind (Database.clear_addStep ?_) fun _ _ => unambiguous_ok rfl
    rintro rfl hpast
    obtain rfl := id_of_scopedProject hscoped
    exact h name p.id stepType agent autoAdvance rfl hpast
  | list project =>
    exact unambiguous_bind clear_scopedProject fun _ _ =>
      unambiguous_bind Database.clear_catalog fun _ _ => unambiguous_ok rfl
  | restaff id agent =>
    exact unambiguous_bind Database.clear_step fun _ _ =>
      unambiguous_bind clear_scopedProject fun _ _ =>
        unambiguous_bind Database.clear_restaffStep fun _ _ => unambiguous_ok rfl

/-- No command about pipelines finds two issues. -/
theorem unambiguous_pipeline (h : db.Labelled) (command : PipelineCommand) :
    Unambiguous may (command.execute ctx db) := by
  cases command with
  | advance issue agent notes =>
    exact unambiguous_bind (clear_scopedIssue h) fun _ _ =>
      unambiguous_bind (Database.clear_complete h) fun _ _ => unambiguous_ok rfl
  | reject issue reason agent =>
    exact unambiguous_bind (clear_scopedIssue h) fun _ _ =>
      unambiguous_bind (Database.clear_reject h) fun _ _ => unambiguous_ok rfl
  | status issue =>
    exact unambiguous_bind (clear_scopedIssue h) fun _ _ =>
      unambiguous_bind (Database.clear_status h) fun _ _ => unambiguous_ok rfl
  | history issue =>
    exact unambiguous_bind (clear_scopedIssue h) fun _ _ =>
      unambiguous_history Database.clear_catalog
  | reset issue =>
    exact unambiguous_bind (clear_scopedIssue h) fun _ _ =>
      unambiguous_bind (Database.clear_resetPipeline h) fun _ _ => unambiguous_ok rfl

/-- Recording a signal of the gate never meets an ambiguous short identifier. -/
theorem unambiguous_recordGate (h : db.Labelled) (issue : String) (status : GateStatus)
    (error : Option String) : Unambiguous may (recordGate ctx db issue status error) :=
  unambiguous_bind (clear_scopedIssue h) fun _ _ =>
    unambiguous_bind (Database.clear_recordGate h) fun _ _ => unambiguous_ok rfl

end CommandLine

end ReviewPipeline
