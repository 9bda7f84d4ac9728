import ReviewPipeline.Proofs.Interchange
import ReviewPipeline.Proofs.Outside

/-!
# Commands Keep to Their Workspace

Every command but the one that makes the database works in the active workspace. Whatever it is
given, no row outside that workspace is another one afterwards, at the place of its database, and no
row at all in any other database; a command for a project, an issue or a step outside the workspace
is refused; and a command that only looks changes nothing anywhere.

The check on the workspace stands in each command, and it is followed there once for all commands
of a group. What remains is that the operation then works on what was checked: an issue is looked up
a second time by its full identifier, and that finds the same issue.

## Main definitions

* `Command.target?`, `Target.IsOutside`: what a command is for, and when that is outside a
  workspace;
* `Command.onlyLooks`: the commands that change nothing;
* `workspaceOf`: the workspace in which a command works;
* `KeepsTo`: what is promised of a command that works in a workspace.

## Main results

* `stays_project`, `stays_issue`, `stays_step`, `stays_pipeline`, `stays_recordGate`: what commands
  do to a database stays in the active workspace;
* `workspaces_apart`: commands keep to their workspace;
* `outside_runAll`: so do any number of command lines that work in one workspace.
-/

namespace ReviewPipeline

namespace CommandLine

/-! ### What commands are for -/

/-- What a command is for, as it is named on the command line. -/
inductive Target where
  /-- The project with an identifier. -/
  | project (id : String)
  /-- The issue with a full or a short identifier. -/
  | issue (text : String)
  /-- The step with an identifier. -/
  | step (id : String)
  deriving DecidableEq, Repr

/-- There is something outside a workspace that a command is for. A short identifier stands for an
issue unless it is the full identifier of another one. -/
def Target.IsOutside (workspace : String) (rows : Rows) : Target → Prop
  | project id => rows.hasProjectOutside workspace id = true
  | issue text =>
    rows.hasIssueOutside workspace text = true ∨
      (∃ row ∈ rows.outsideIssues workspace, row.record.shortId = some text) ∧
        ∀ row ∈ rows.issues, row.record.id ≠ text
  | step id => rows.hasStepOutside workspace id = true

/-- What a command is for, if it names something that is there. -/
def Command.target? : Command → Option Target
  | .project (.inspect id) => some (.project id)
  | .issue (.create _ id _) | .issue (.list id _ _) => some (.project id)
  | .issue (.inspect text) => some (.issue text)
  | .step (.add _ id _ _ _ _) | .step (.list id) => some (.project id)
  | .step (.restaff id _) => some (.step id)
  | .pipeline (.advance text _ _) | .pipeline (.reject text _ _) | .pipeline (.status text)
  | .pipeline (.history text) | .pipeline (.reset text) | .recordGate text _ _ =>
    some (.issue text)
  | .init _ _ | .version | .completions _ | .project (.create _ _ _) | .project (.list _) => none

/-- Whether a command only looks. -/
def Command.onlyLooks : Command → Bool
  | .version | .completions _ | .project (.list _) | .project (.inspect _) | .issue (.list _ _ _)
  | .issue (.inspect _) | .step (.list _) | .pipeline (.status _) | .pipeline (.history _) => true
  | _ => false

variable {ctx : Context} {db db' : Database} {answer : Answer} {id text workspace : String}
  {p : Project} {issue : Issue} {command : Command}

/-! ### The check on the workspace -/

/-- Access is granted to the workspace of the project only. -/
theorem checkWorkspace_eq_ok {resource : String} {u : Unit}
    (h : p.checkWorkspace workspace resource = .ok u) : p.workspaceId = workspace := by
  unfold Project.checkWorkspace at h
  split at h
  · assumption
  · cases h

/-- A project that passes the check has an identifier that no project outside has. -/
theorem inside_of_scopedProject (hdb : db.rows.Keyed) (h : ctx.scopedProject db id = .ok p) :
    ∃ workspace, ctx.activeWorkspace = .ok workspace ∧ p.id = id ∧
      db.rows.hasProjectOutside workspace id = false := by
  simp only [Context.scopedProject, bind_eq_ok_iff] at h
  obtain ⟨workspace, hworkspace, found, hfound, u, hcheck, hall⟩ := h
  cases hall
  obtain ⟨hmem, rfl⟩ := Database.project_eq_ok hfound
  exact ⟨workspace, hworkspace, rfl,
    hdb.hasProjectOutside_eq_false hmem (checkWorkspace_eq_ok hcheck)⟩

/-- A text that is looked up to an issue which is not outside stands for none that is. -/
theorem not_isOutside_of_issue? (hlooked : db.issue? text = .ok (some issue))
    (hinside : db.rows.hasIssueOutside workspace issue.id = false) :
    ¬ (Target.issue text).IsOutside workspace db.rows := by
  obtain ⟨row, hrow, rfl, hnamed⟩ := Database.issue?_eq_some hlooked
  rintro (hfull | ⟨⟨other, hother, hshort⟩, hnone⟩)
  · -- A full identifier goes before a short one, so it is the one that was found.
    rcases hnamed with rfl | ⟨hnone, -⟩
    · rw [hfull] at hinside
      cases hinside
    · obtain ⟨other, hother, hid⟩ := List.any_eq_true.1 hfull
      exact hnone other (List.mem_of_mem_filter hother) (by simpa using hid)
  · rcases hnamed with hid | ⟨-, honly⟩
    · exact hnone row hrow hid
    · -- The issue that was found is the only one with the short identifier.
      have hmatch : other ∈ db.withShortId text :=
        List.mem_filter.2 ⟨List.mem_of_mem_filter hother, by simp [hshort]⟩
      rw [honly, List.mem_singleton] at hmatch
      have houtside : db.rows.hasIssueOutside workspace other.record.id = true :=
        List.any_eq_true.2 ⟨other, hother, beq_self_eq_true _⟩
      rw [hmatch, hinside] at houtside
      cases houtside

/-- A text by which an issue passes the check stands for none outside, and looking the issue up
again, by its full identifier, finds none outside either. -/
theorem inside_of_scopedIssue (hdb : db.rows.Keyed) (h : ctx.scopedIssue db text = .ok issue) :
    ∃ workspace, ctx.activeWorkspace = .ok workspace ∧
      ¬ (Target.issue text).IsOutside workspace db.rows ∧
      ∀ found, db.issue issue.id = .ok found →
        db.rows.hasIssueOutside workspace found.id = false := by
  simp only [Context.scopedIssue, bind_eq_ok_iff] at h
  obtain ⟨workspace, hworkspace, looked, hlooked, h⟩ := h
  split at h
  · cases h
  next found =>
  simp only [bind_eq_ok_iff] at h
  obtain ⟨p, hp, u, hcheck, hall⟩ := h
  cases hall
  obtain ⟨hmem, hproject⟩ := Database.project_eq_ok hp
  -- The issue that is found stands in the project that was checked.
  obtain ⟨row, hrow, rfl, -⟩ := Database.issue?_eq_some hlooked
  have hinside : db.rows.hasIssueOutside workspace row.record.id = false :=
    hdb.hasIssueOutside_eq_false hrow
      (hproject ▸ hdb.hasProjectOutside_eq_false hmem (checkWorkspace_eq_ok hcheck))
  refine ⟨workspace, hworkspace, not_isOutside_of_issue? hlooked hinside, fun found hfound => ?_⟩
  rw [Database.id_of_issue_eq_ok hrow hfound, hinside]

/-! ### Work on a database -/

/-- What a command has made of a database stays in a workspace. -/
structure Stayed (workspace : String) (command : Command) (db db' : Database) : Prop where
  /-- What the command is for is not outside the workspace. -/
  inside : ∀ target, command.target? = some target → ¬ target.IsOutside workspace db.rows
  /-- The rows outside the workspace are as before. -/
  outside : db'.rows.outside workspace = db.rows.outside workspace
  /-- A command that only looks leaves the database as it is. -/
  same : command.onlyLooks = true → db' = db

/-- If work on a database answers something, it stays in the active workspace. -/
def Stays (ctx : Context) (db : Database) (command : Command)
    (result : Except Error (Answer × Database)) : Prop :=
  ∀ answer db', result = .ok (answer, db') →
    ∃ workspace, ctx.activeWorkspace = .ok workspace ∧ Stayed workspace command db db'

/-- A command that names nothing stays in the workspace if its work does. -/
theorem Stayed.of_none (htarget : command.target? = none)
    (houtside : db'.rows.outside workspace = db.rows.outside workspace)
    (hsame : command.onlyLooks = true → db' = db) : Stayed workspace command db db' :=
  ⟨fun _ h => (nomatch htarget.symm.trans h), houtside, hsame⟩

/-- A command about something inside stays inside if its rows do. -/
theorem Stayed.of_target {target : Target} (htarget : command.target? = some target)
    (hinside : ¬ target.IsOutside workspace db.rows)
    (houtside : db'.rows.outside workspace = db.rows.outside workspace)
    (hsame : command.onlyLooks = true → db' = db) : Stayed workspace command db db' :=
  ⟨fun _ h => Option.some.inj (htarget.symm.trans h) ▸ hinside, houtside, hsame⟩

/-- Work for a project stays in the workspace if, whenever the project passes the check, it does. -/
theorem stays_scopedProject (hdb : db.rows.Keyed) {f : Project → Except Error (Answer × Database)}
    (htarget : command.target? = some (.project id))
    (h : ∀ p workspace answer db', db.rows.hasProjectOutside workspace p.id = false →
      f p = .ok (answer, db') → db'.rows.outside workspace = db.rows.outside workspace ∧
        (command.onlyLooks = true → db' = db)) :
    Stays ctx db command (ctx.scopedProject db id >>= f) := by
  intro answer db' hdone
  obtain ⟨p, hscoped, hrest⟩ := bind_eq_ok_iff.1 hdone
  obtain ⟨workspace, hworkspace, rfl, hinside⟩ := inside_of_scopedProject hdb hscoped
  obtain ⟨houtside, hsame⟩ := h p workspace answer db' hinside hrest
  exact ⟨workspace, hworkspace, .of_target htarget (Bool.eq_false_iff.1 hinside) houtside hsame⟩

/-- Work for an issue stays in the workspace if, whenever the issue passes the check, it does. -/
theorem stays_scopedIssue (hdb : db.rows.Keyed) {f : Issue → Except Error (Answer × Database)}
    (htarget : command.target? = some (.issue text))
    (h : ∀ issue workspace answer db',
      (∀ found, db.issue issue.id = .ok found →
        db.rows.hasIssueOutside workspace found.id = false) →
      f issue = .ok (answer, db') → db'.rows.outside workspace = db.rows.outside workspace ∧
        (command.onlyLooks = true → db' = db)) :
    Stays ctx db command (ctx.scopedIssue db text >>= f) := by
  intro answer db' hdone
  obtain ⟨issue, hscoped, hrest⟩ := bind_eq_ok_iff.1 hdone
  obtain ⟨workspace, hworkspace, htext, hinside⟩ := inside_of_scopedIssue hdb hscoped
  obtain ⟨houtside, hsame⟩ := h issue workspace answer db' hinside hrest
  exact ⟨workspace, hworkspace, .of_target htarget htext houtside hsame⟩

/-- Work after a look-up stays inside if it always does. -/
theorem stays_bind {α : Type} {x : Except Error α} {f : α → Except Error (Answer × Database)}
    (h : ∀ a, x = .ok a → Stays ctx db command (f a)) : Stays ctx db command (x >>= f) := by
  intro answer db' hdone
  obtain ⟨a, hx, hf⟩ := bind_eq_ok_iff.1 hdone
  exact h a hx answer db' hf

/-- What fails stays inside. -/
theorem stays_error {e : Error} : Stays ctx db command (.error e) :=
  fun _ _ hdone => nomatch hdone

/-- Work that ends with the database as it was changes nothing, whatever it reads on the way. -/
theorem same_of_bind {α : Type} {x : Except Error α} {toAnswer : α → Answer}
    (h : (x >>= fun a => .ok (toAnswer a, db)) = .ok (answer, db')) : db' = db := by
  obtain ⟨_, -, hall⟩ := bind_eq_ok_iff.1 h
  cases hall
  rfl

/-- An operation is the only thing that work on a database does to it. -/
theorem exists_of_bind {α : Type} {x : Except Error (α × Database)}
    {toAnswer : α × Database → Answer}
    (h : (x >>= fun made => .ok (toAnswer made, made.2)) = .ok (answer, db')) :
    ∃ a, x = .ok (a, db') := by
  obtain ⟨⟨a, next⟩, hx, hall⟩ := bind_eq_ok_iff.1 h
  cases hall
  exact ⟨a, hx⟩

/-- Commands about projects stay inside the workspace. -/
theorem stays_project (hdb : db.rows.Keyed) (command : ProjectCommand) :
    Stays ctx db (.project command) (command.execute ctx db) := by
  cases command with
  | create name description issuePrefix =>
    intro answer db' hdone
    obtain ⟨workspace, hworkspace, hdone⟩ := bind_eq_ok_iff.1 hdone
    refine ⟨workspace, hworkspace, .of_none rfl ?_ nofun⟩
    split at hdone
    · cases hdone
    · obtain ⟨chosen, -, hdone⟩ := bind_eq_ok_iff.1 hdone
      obtain ⟨u, hmade⟩ := exists_of_bind hdone
      exact Database.outside_createProject rfl hmade
  | list limit =>
    intro answer db' hdone
    obtain ⟨workspace, hworkspace, hdone⟩ := bind_eq_ok_iff.1 hdone
    obtain rfl := same_of_bind hdone
    exact ⟨workspace, hworkspace, .of_none rfl rfl fun _ => rfl⟩
  | inspect id =>
    refine stays_scopedProject hdb rfl fun p workspace answer db' _ hdone => ?_
    obtain rfl := same_of_bind hdone
    exact ⟨rfl, fun _ => rfl⟩

/-- Commands about issues stay inside the workspace. -/
theorem stays_issue (hdb : db.rows.Keyed) (command : IssueCommand) :
    Stays ctx db (.issue command) (command.execute ctx db) := by
  cases command with
  | create title project description =>
    unfold IssueCommand.execute
    dsimp only
    split
    · exact stays_error
    · refine stays_scopedProject hdb rfl fun p workspace answer db' hinside hdone => ?_
      obtain ⟨issue, hmade⟩ := exists_of_bind hdone
      exact ⟨Database.outside_createIssue hinside hmade, nofun⟩
  | list project status limit =>
    refine stays_scopedProject hdb rfl fun p workspace answer db' _ hdone => ?_
    -- A list is read from the database as it is, with a status or without.
    have hsame : db' = db := by
      cases status with
      | some word =>
        obtain ⟨_, -, hdone⟩ := bind_eq_ok_iff.1 hdone
        exact same_of_bind hdone
      | none =>
        obtain ⟨_, -, hdone⟩ := bind_eq_ok_iff.1 hdone
        exact same_of_bind hdone
    exact ⟨by rw [hsame], fun _ => hsame⟩
  | inspect id =>
    refine stays_scopedIssue hdb rfl fun issue workspace answer db' _ hdone => ?_
    cases hdone
    exact ⟨rfl, fun _ => rfl⟩

/-- Commands about steps stay inside the workspace. -/
theorem stays_step (hdb : db.rows.Keyed) (command : StepCommand) :
    Stays ctx db (.step command) (command.execute ctx db) := by
  cases command with
  | add name project stepType agent autoAdvance number =>
    refine stays_bind fun kind _ => ?_
    refine stays_scopedProject hdb rfl fun p workspace answer db' hinside hdone => ?_
    obtain ⟨step, hmade⟩ := exists_of_bind hdone
    exact ⟨Database.outside_addStep hinside hmade, nofun⟩
  | list project =>
    refine stays_scopedProject hdb rfl fun p workspace answer db' _ hdone => ?_
    obtain rfl := same_of_bind hdone
    exact ⟨rfl, fun _ => rfl⟩
  | restaff id agent =>
    -- The step is found first, and its project is the one that is checked.
    intro answer db' hdone
    obtain ⟨step, hstep, hdone⟩ := bind_eq_ok_iff.1 hdone
    obtain ⟨p, hscoped, hdone⟩ := bind_eq_ok_iff.1 hdone
    obtain ⟨made, hmade⟩ := exists_of_bind hdone
    obtain ⟨workspace, hworkspace, -, hproject⟩ := inside_of_scopedProject hdb hscoped
    obtain ⟨row, hrow, rfl, rfl⟩ := Database.step_eq_ok hstep
    have hinside := hdb.hasStepOutside_eq_false hrow hproject
    exact ⟨workspace, hworkspace, .of_target rfl (Bool.eq_false_iff.1 hinside)
      (Database.outside_restaffStep hinside hmade) nofun⟩

/-- Commands about pipelines stay inside the workspace. -/
theorem stays_pipeline (hdb : db.rows.Keyed) (command : PipelineCommand) :
    Stays ctx db (.pipeline command) (command.execute ctx db) := by
  cases command with
  | advance issue agent notes =>
    refine stays_scopedIssue hdb rfl fun issue workspace answer db' hinside hdone => ?_
    obtain ⟨completion, hmade⟩ := exists_of_bind hdone
    exact ⟨Database.outside_complete hinside hmade, nofun⟩
  | reject issue reason agent =>
    refine stays_scopedIssue hdb rfl fun issue workspace answer db' hinside hdone => ?_
    obtain ⟨rejection, hmade⟩ := exists_of_bind hdone
    exact ⟨Database.outside_reject hinside hmade, nofun⟩
  | status issue =>
    refine stays_scopedIssue hdb rfl fun issue workspace answer db' _ hdone => ?_
    obtain rfl := same_of_bind hdone
    exact ⟨rfl, fun _ => rfl⟩
  | history issue =>
    refine stays_scopedIssue hdb rfl fun issue workspace answer db' _ hdone => ?_
    cases hdone
    exact ⟨rfl, fun _ => rfl⟩
  | reset issue =>
    refine stays_scopedIssue hdb rfl fun issue workspace answer db' hinside hdone => ?_
    obtain ⟨u, hmade⟩ := exists_of_bind hdone
    exact ⟨Database.outside_resetPipeline hinside hmade, nofun⟩

/-- Recording a signal of the gate stays inside the workspace. -/
theorem stays_recordGate (hdb : db.rows.Keyed) (issue word : String) (status : GateStatus)
    (error : Option String) :
    Stays ctx db (.recordGate issue word error) (recordGate ctx db issue status error) := by
  refine stays_scopedIssue hdb rfl fun issue workspace answer db' hinside hdone => ?_
  obtain ⟨cursor, hmade⟩ := exists_of_bind hdone
  exact ⟨Database.outside_recordGate hinside hmade, nofun⟩

/-! ### What is written -/

variable {env : Environment} {stamp : Stamp} {inv : Invocation} {files files' : Files}
  {place : Location} {screen : Screen} {arguments : List String}

/-- The workspace in which a command works: the one that is active once its database is open. -/
def workspaceOf (env : Environment) (stamp : Stamp) (inv : Invocation) (files : Files) :
    Except Error String :=
  env.activeWorkspace (openExisting env stamp.now inv files).2 inv.workspace

/-- A command works in the workspace that is active for it. -/
theorem activeWorkspace_contextOf :
    (contextOf env stamp inv files).activeWorkspace = workspaceOf env stamp inv files := by
  rw [Context.activeWorkspace, contextOf, workspaceOf]

/-- The database that a command works on is keyed as the rows of its place are. -/
theorem keyed_of_written (h : Written env inv files files' db db')
    (hkeyed : ∀ place, placeOf env inv files = some place → (files.rows place).Keyed) :
    db.rows.Keyed := by
  cases hplace : placeOf env inv files with
  | some place =>
    rw [h.read place hplace]
    exact hkeyed place hplace
  | none =>
    -- A database that is in no file has no rows, so no identifier stands twice.
    rw [h.empty hplace]
    exact ⟨List.nodup_nil, List.nodup_nil, List.nodup_nil⟩

/-- A command touches no row, neither in its own database nor in another one. -/
structure TouchesNothing (env : Environment) (inv : Invocation) (files files' : Files) : Prop where
  /-- The rows of the command's own database are as before. -/
  own : ∀ place, placeOf env inv files = some place → files'.rows place = files.rows place
  /-- So are all others. -/
  others : LeavesRows env inv files files'

/-- A command that leaves all rows touches nothing. -/
theorem TouchesNothing.of_leavesRows (h : LeavesRows env inv files files') :
    TouchesNothing env inv files files' := by
  refine ⟨fun place hplace => h place fun location hlocation companion => ?_, h⟩
  -- The database of the command is not a companion of itself.
  obtain rfl : place = location := Option.some.inj (hplace.symm.trans hlocation)
  exact (companion.location_ne (place_ne_nil hplace)).symm

/-- Whoever writes a database back as it was touches nothing. -/
theorem TouchesNothing.of_written (h : Written env inv files files' db db) :
    TouchesNothing env inv files files' := by
  have hown : ∀ place, placeOf env inv files = some place →
      files'.rows place = files.rows place := by
    intro place hplace
    rcases h.own place hplace with hwritten | ⟨hempty, hempty'⟩
    · exact hwritten.trans (h.read place hplace)
    · exact hempty'.trans hempty.symm
  refine ⟨hown, fun place hbeside => ?_⟩
  by_cases hplace : placeOf env inv files = some place
  · exact hown place hplace
  · exact h.others place hbeside hplace

/-- The work of a command is done: it stays in the workspace of the command and is written back. -/
def Done (env : Environment) (stamp : Stamp) (inv : Invocation) (files files' : Files) : Prop :=
  ∃ workspace db db', workspaceOf env stamp inv files = .ok workspace ∧
    Stayed workspace inv.command db db' ∧ Written env inv files files' db db'

/-- Work that always stays inside is done inside. -/
theorem done_withDatabase {work : Context → Database → Except Error (Answer × Database)}
    (hkeyed : ∀ place, placeOf env inv files = some place → (files.rows place).Keyed)
    (hwork : ∀ ctx db, db.rows.Keyed → Stays ctx db inv.command (work ctx db))
    (h : (withDatabase env stamp inv files work).1 = .ok answer) :
    Done env stamp inv files (withDatabase env stamp inv files work).2 := by
  obtain ⟨db, db', hdone, hwritten⟩ := written_withDatabase h
  obtain ⟨workspace, hworkspace, hstayed⟩ :=
    hwork _ db (keyed_of_written hwritten hkeyed) answer db' hdone
  rw [activeWorkspace_contextOf] at hworkspace
  exact ⟨workspace, db, db', hworkspace, hstayed, hwritten⟩

section Execution

variable (hinit : ∀ force workspace, inv.command ≠ .init force workspace)
  (hkeyed : ∀ place, placeOf env inv files = some place → (files.rows place).Keyed)

include hinit hkeyed

/-- A command that is answered is for nothing and has not touched the files, or its work is done. -/
theorem done_execute (h : (execute env stamp inv files).1 = .ok answer) :
    ((execute env stamp inv files).2 = files ∧ inv.command.target? = none) ∨
      Done env stamp inv files (execute env stamp inv files).2 := by
  unfold execute at h ⊢
  cases hcommand : inv.command with
  | init force workspace => exact absurd hcommand (hinit force workspace)
  | version => exact .inl ⟨rfl, rfl⟩
  | completions shell => exact .inl ⟨rfl, rfl⟩
  | project command =>
    rw [hcommand] at h
    exact .inr (done_withDatabase hkeyed (fun _ _ hdb => hcommand ▸ stays_project hdb command) h)
  | issue command =>
    rw [hcommand] at h
    exact .inr (done_withDatabase hkeyed (fun _ _ hdb => hcommand ▸ stays_issue hdb command) h)
  | step command =>
    rw [hcommand] at h
    exact .inr (done_withDatabase hkeyed (fun _ _ hdb => hcommand ▸ stays_step hdb command) h)
  | pipeline command =>
    rw [hcommand] at h
    exact .inr (done_withDatabase hkeyed (fun _ _ hdb => hcommand ▸ stays_pipeline hdb command) h)
  | recordGate issue word error =>
    rw [hcommand] at h
    dsimp only at h ⊢
    split at h
    · cases h
    · next status _ =>
      exact .inr (done_withDatabase hkeyed
        (fun _ _ hdb => hcommand ▸ stays_recordGate hdb issue word status error) h)

/-- A command touches nothing, and then it is not answered if it is for something; or its work is
done. -/
theorem execute_cases :
    (TouchesNothing env inv files (execute env stamp inv files).2 ∧
      ∀ answer, (execute env stamp inv files).1 = .ok answer → inv.command.target? = none) ∨
      Done env stamp inv files (execute env stamp inv files).2 := by
  by_cases hanswered : ∃ answer, (execute env stamp inv files).1 = .ok answer
  · obtain ⟨answer, hanswer⟩ := hanswered
    rcases done_execute hinit hkeyed hanswer with ⟨hfiles, hnone⟩ | hdone
    · rw [hfiles]
      exact .inl ⟨.of_leavesRows .refl, fun _ _ => hnone⟩
    · exact .inr hdone
  · rw [not_exists] at hanswered
    exact .inl ⟨.of_leavesRows (leavesRows_execute hinit fun _ h => absurd h (hanswered _)),
      fun _ h => absurd h (hanswered _)⟩

/-- Where there is no workspace, a command touches nothing. -/
theorem touchesNothing_of_no_workspace {e : Error}
    (h : workspaceOf env stamp inv files = .error e) :
    TouchesNothing env inv files (execute env stamp inv files).2 := by
  rcases execute_cases hinit hkeyed with ⟨htouches, -⟩ | ⟨workspace, _, _, hworkspace, -⟩
  · exact htouches
  · rw [h] at hworkspace
    cases hworkspace

/-- A command that only looks touches nothing. -/
theorem touchesNothing_of_onlyLooks (h : inv.command.onlyLooks = true) :
    TouchesNothing env inv files (execute env stamp inv files).2 := by
  rcases execute_cases hinit hkeyed with ⟨htouches, -⟩ | ⟨_, _, _, -, hstayed, hwritten⟩
  · exact htouches
  · obtain rfl := hstayed.same h
    exact .of_written hwritten

/-- A command leaves the rows outside of its workspace. -/
theorem outside_execute {workspace : String} (h : workspaceOf env stamp inv files = .ok workspace)
    (hplace : placeOf env inv files = some place) :
    ((execute env stamp inv files).2.rows place).outside workspace =
      (files.rows place).outside workspace := by
  rcases execute_cases hinit hkeyed with
    ⟨htouches, -⟩ | ⟨other, db, db', hworkspace, hstayed, hwritten⟩
  · rw [htouches.own place hplace]
  · obtain rfl : workspace = other := Except.ok.inj (h.symm.trans hworkspace)
    rcases hwritten.own place hplace with hrows | ⟨hempty, hempty'⟩
    · rw [hrows, hstayed.outside, hwritten.read place hplace]
    · rw [hempty, hempty']

/-- Carrying a command out leaves the rows of other databases. -/
theorem others_execute
    (hbeside : ∀ location, placeOf env inv files = some location →
      ∀ companion : Companion, place ≠ companion.location location)
    (hplace : placeOf env inv files ≠ some place) :
    (execute env stamp inv files).2.rows place = files.rows place := by
  rcases execute_cases hinit hkeyed with ⟨htouches, -⟩ | ⟨_, _, _, -, -, hwritten⟩
  · exact htouches.others place hbeside
  · exact hwritten.others place hbeside hplace

/-- A command for something outside its workspace is not answered. -/
theorem not_answered_of_isOutside {workspace : String} {target : Target}
    (h : workspaceOf env stamp inv files = .ok workspace)
    (hplace : placeOf env inv files = some place) (htarget : inv.command.target? = some target)
    (houtside : target.IsOutside workspace (files.rows place)) :
    (execute env stamp inv files).1 ≠ .ok answer := by
  intro hanswer
  rcases execute_cases hinit hkeyed with
    ⟨-, hnone⟩ | ⟨other, db, db', hworkspace, hstayed, hwritten⟩
  · cases htarget.symm.trans (hnone answer hanswer)
  · obtain rfl : workspace = other := Except.ok.inj (h.symm.trans hworkspace)
    refine hstayed.inside target htarget ?_
    rw [hwritten.read place hplace]
    exact houtside

end Execution

/-! ### Command lines -/

/-- A command that ends with the exit code zero was answered. -/
theorem exists_answer_of_exitCode_eq_zero
    (h : (runInvocation env stamp screen inv files).1.exitCode = 0) :
    ∃ answer, (execute env stamp inv files).1 = .ok answer := by
  cases hanswer : (execute env stamp inv files).1 with
  | ok answer => exact ⟨answer, rfl⟩
  | error e =>
    unfold runInvocation at h
    dsimp only at h
    rw [hanswer] at h
    exact absurd h (exitCode_ne_zero e)

/-- A command, and what it ends with, keeps to a workspace. -/
structure KeepsTo (workspace : String) (env : Environment) (inv : Invocation) (files : Files)
    (ended : Ended × Files) : Prop where
  /-- In the command's own database, every row outside the workspace is as before. -/
  outside : ∀ place, placeOf env inv files = some place →
    (ended.2.rows place).outside workspace = (files.rows place).outside workspace
  /-- In any other database every row is; what stands beside the command's own one, and goes when
  that is opened, is the only exception. -/
  others : ∀ place,
    (∀ location, placeOf env inv files = some location →
      ∀ companion : Companion, place ≠ companion.location location) →
    placeOf env inv files ≠ some place → ended.2.rows place = files.rows place
  /-- Whatever the command is for, if it is outside the workspace, the command fails. -/
  refused : ∀ place target, placeOf env inv files = some place →
    inv.command.target? = some target → target.IsOutside workspace (files.rows place) →
    ended.1.exitCode ≠ 0

/-- Command lines keep to their workspace, whatever stands in the database, as long as identifiers
are unique there. A command line that cannot be read touches no file. Any other one, unless it makes
the database, touches no row where there is no workspace; where there is one, it leaves all rows
outside of it alone and fails if it is for something outside; and it touches no row if all it does
is look. -/
theorem workspaces_apart (env : Environment) (stamp : Stamp) (screen : Screen)
    (arguments : List String) (files : Files) :
    let ended := run env stamp screen arguments files
    (∀ stop, read env arguments = .error stop → ended.2 = files) ∧
    ∀ inv, read env arguments = .ok inv →
      (∀ force workspace, inv.command ≠ .init force workspace) →
      (∀ place, placeOf env inv files = some place → (files.rows place).Keyed) →
      (∀ e, workspaceOf env stamp inv files = .error e →
        TouchesNothing env inv files ended.2) ∧
      (∀ workspace, workspaceOf env stamp inv files = .ok workspace →
        KeepsTo workspace env inv files ended) ∧
      (inv.command.onlyLooks = true → TouchesNothing env inv files ended.2) := by
  intro ended
  refine ⟨fun stop hread => ?_, fun inv hread hinit hkeyed => ?_⟩
  · -- What is not read as a command touches nothing.
    unfold ended
    rw [run, hread]
    cases stop <;> rfl
  have hended : ended = runInvocation env stamp screen inv files := by
    unfold ended
    rw [run, hread]
  have hfiles : ended.2 = (execute env stamp inv files).2 := by rw [hended, runInvocation_files]
  rw [hfiles]
  refine ⟨fun e he => touchesNothing_of_no_workspace hinit hkeyed he,
    fun workspace hworkspace => ?_, touchesNothing_of_onlyLooks hinit hkeyed⟩
  -- What is outside stays, so do other databases, and nothing outside is answered.
  constructor
  · intro place hplace
    rw [hfiles]
    exact outside_execute hinit hkeyed hworkspace hplace
  · intro place hbeside hother
    rw [hfiles]
    exact others_execute hinit hkeyed hbeside hother
  · intro place target hplace htarget houtside hexit
    rw [hended] at hexit
    obtain ⟨answer, hanswer⟩ := exists_answer_of_exitCode_eq_zero hexit
    exact not_answered_of_isOutside hinit hkeyed hworkspace hplace htarget houtside hanswer

/-- A database to try the statement on: two projects of two workspaces, and the second one is at
work. -/
def neighbours : Database where
  projects :=
    [⟨"docs", "Docs", "home", none, some "DOCS", 1, 1, 1⟩,
     ⟨"garden", "Garden", "away", none, some "GARD", 2, 1, 1⟩]
  issues := [{ record := ⟨"weeds", some "GARD-1", "garden", "Weeds", none, .inProgress, 2, 3⟩ }]
  steps := [{ record := ⟨"pull", "garden", 1, "Pull", .agentWork, none, false, 2, 2⟩ }]
  cursors := [{ record := ⟨"weeds", "garden", some "pull", some 3, none, {}, 3⟩ }]
  uniqueShortIds := true

/-- A command of one workspace creates an issue there, and the project of the other workspace is as
before; a command of the first workspace for the issue of the second one is refused. -/
theorem workspaces_apart_neighbours :
    let env : Environment := { home := some "/home", workspace := some "home" }
    let files : Files := { nodes := [(["docs.db"], .file (.database neighbours .ahead))] }
    let line (arguments : List String) :=
      run env ⟨7, 7⟩ ⟨false, false⟩ (["--db", "/docs.db"] ++ arguments) files
    let created := line ["issue", "create", "Draft", "--project", "docs"]
    let refused := line ["pipeline", "reset", "GARD-1"]
    created.1.exitCode = 0 ∧ (created.2.rows ["docs.db"]).issues.length = 2 ∧
      (created.2.rows ["docs.db"]).outside "home" = neighbours.rows.outside "home" ∧
      (neighbours.rows.outside "home").cursors.length = 1 ∧
      refused.1.exitCode ≠ 0 ∧ refused.2.rows ["docs.db"] = neighbours.rows := by
  intro env files line created refused
  have hrows : files.rows ["docs.db"] = neighbours.rows := by decide +kernel
  -- The general statement asks for keys without repetition at the place of the command.
  have hkeyed : neighbours.rows.Keyed := ⟨by decide, by decide, by decide⟩
  have keyed_of_place : ∀ inv, placeOf env inv files = some ["docs.db"] →
      ∀ place, placeOf env inv files = some place → (files.rows place).Keyed := by
    intro inv hown place hplace
    obtain rfl : ["docs.db"] = place := Option.some.inj (hown.symm.trans hplace)
    rw [hrows]
    exact hkeyed
  let creating : Invocation := ⟨.issue (.create "Draft" "docs" none), some "/docs.db", none,
    some "home", false, false, false⟩
  let resetting : Invocation := ⟨.pipeline (.reset "GARD-1"), some "/docs.db", none, some "home",
    false, false, false⟩
  have hcreating : read env
      ["--db", "/docs.db", "issue", "create", "Draft", "--project", "docs"] = .ok creating := by
    decide +kernel
  have hresetting : read env ["--db", "/docs.db", "pipeline", "reset", "GARD-1"] =
      .ok resetting := by decide +kernel
  have hplace : placeOf env creating files = some ["docs.db"] := by decide +kernel
  have hworkspace : workspaceOf env ⟨7, 7⟩ creating files = .ok "home" := rfl
  -- One command of each kind: the first keeps to the workspace, the second asks for what is
  -- outside.
  obtain ⟨-, hcommands⟩ := workspaces_apart env ⟨7, 7⟩ ⟨false, false⟩
    ["--db", "/docs.db", "issue", "create", "Draft", "--project", "docs"] files
  obtain ⟨-, hkeeps, -⟩ := hcommands creating hcreating nofun (keyed_of_place _ hplace)
  obtain ⟨-, hothers⟩ := workspaces_apart env ⟨7, 7⟩ ⟨false, false⟩
    ["--db", "/docs.db", "pipeline", "reset", "GARD-1"] files
  obtain ⟨-, hrefuses, -⟩ := hothers resetting hresetting nofun (keyed_of_place _ hplace)
  have houtside : (Target.issue "GARD-1").IsOutside "home" (files.rows ["docs.db"]) := by
    rw [hrows]
    exact .inr ⟨by decide, by decide⟩
  refine ⟨by decide +kernel, by decide +kernel, ?_, by decide, ?_, by decide +kernel⟩
  · rw [← hrows]
    exact (hkeeps "home" hworkspace).outside ["docs.db"] hplace
  · exact (hrefuses "home" hworkspace).refused ["docs.db"] _ hplace rfl houtside

/-! ### Many command lines -/

/-- A command line works at a place, in a workspace, and does not make the database anew. -/
def Line.WorksIn (line : Line) (workspace : String) (place : Location) (files : Files) : Prop :=
  ∀ inv, read line.env line.arguments = .ok inv →
    (∀ force workspace, inv.command ≠ .init force workspace) ∧
      placeOf line.env inv files = some place ∧
      ∀ other, workspaceOf line.env line.stamp inv files = .ok other → other = workspace

/-- A command line leaves all that is outside the workspace. -/
theorem outside_run {line : Line} (hkeyed : (files.rows place).Keyed)
    (hworks : line.WorksIn workspace place files) :
    ((run line.env line.stamp line.screen line.arguments files).2.rows place).outside workspace =
      (files.rows place).outside workspace := by
  unfold run
  split
  · rfl
  · rfl
  · next inv hread =>
    obtain ⟨hinit, hplace, hworkspace⟩ := hworks inv hread
    have hkeyed : ∀ other, placeOf line.env inv files = some other → (files.rows other).Keyed := by
      intro other hother
      obtain rfl : place = other := Option.some.inj (hplace.symm.trans hother)
      exact hkeyed
    rw [runInvocation_files]
    -- Without a workspace nothing is touched; with one, nothing outside of it.
    cases hactive : workspaceOf line.env line.stamp inv files with
    | error e => rw [(touchesNothing_of_no_workspace hinit hkeyed hactive).own place hplace]
    | ok other =>
      obtain rfl := hworkspace other hactive
      exact outside_execute hinit hkeyed hactive hplace

/-- What commands have made has identifiers of its own. -/
theorem keyed_of_labelled {rows : Rows} (h : rows.Labelled) : rows.Keyed := by
  obtain ⟨db, rfl, hdb⟩ := h
  exact ⟨hdb.projectIds, hdb.issueIds, hdb.stepIds⟩

/-- Any number of command lines that work in one workspace, on a database that commands have made,
leave every row outside of it alone. -/
theorem outside_runAll {lines : List Line} (hlabelled : (files.rows place).Labelled)
    (hworks : ∀ before line after, lines = before ++ line :: after →
      line.WorksIn workspace place (runAll files before)) :
    ((runAll files lines).rows place).outside workspace = (files.rows place).outside workspace := by
  -- Each line meets labelled rows, as commands keep them so.
  induction lines generalizing files with
  | nil => rfl
  | cons line lines ih =>
    let files' := (run line.env line.stamp line.screen line.arguments files).2
    have hkept : (files'.rows place).Labelled := meets_run keptByCalls_labelled hlabelled
    have hrest : ((runAll files' lines).rows place).outside workspace =
        (files'.rows place).outside workspace :=
      ih hkept fun before line' after hlines =>
        hworks (line :: before) line' after (congrArg (line :: ·) hlines)
    refine hrest.trans ?_
    exact outside_run (keyed_of_labelled hlabelled) (hworks [] line lines rfl)

end CommandLine

end ReviewPipeline
