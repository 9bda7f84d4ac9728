import Mathlib.Logic.Relation
import ReviewPipeline.Operation
import ReviewPipeline.Proofs.Database.Writes
import ReviewPipeline.Proofs.Progression

/-!
# Operations, Statement by Statement

In `ReviewPipeline.Change` an operation is one function from a database to a new one, so half of an
operation can never be seen. A store does not work in this way. In a transaction it carries out one
statement after the other, each reads what those before it have written, and what was written stays
until the transaction is committed or rolled back.

Here the operations are scripts of statements, and a transaction carries out a script. That a
transaction leaves nothing behind when it fails is then a matter of its rollback, and that both
descriptions of an operation agree is a theorem (`execute_eq`).

## Main definitions

* `Statement`, `Script`: what a transaction carries out;
* `Session`, `Script.run`: what an open transaction has come to;
* `Database.transact`: a transaction, with its audit events, commit and rollback;
* `Operation.script?`: the script of an operation, `Database.execute`: carrying it out.

## Main results

* `transact_of_error`: a transaction that fails leaves the database as it was;
* `execute_eq`: an operation does the same statement by statement as at once;
* `chain_after`: what an operation does to a database is a chain of statements.
-/

namespace ReviewPipeline

/-! ### Scripts -/

/-- A statement that writes. It is carried out as a whole or not at all. -/
inductive Statement where
  /-- Insert a project. -/
  | insertProject (p : Project)
  /-- Insert an issue. -/
  | insertIssue (issue : Issue)
  /-- Count up the number of a project's next issue. -/
  | countIssue (projectId : String) (now : Int)
  /-- Insert a step. -/
  | insertStep (step : Step)
  /-- Assign a step. -/
  | assignStep (stepId : String) (agent : Option String) (now : Int)
  /-- Record a signal of the gate. -/
  | putGate (issueId projectId : String) (gate : GateSnapshot) (now : Int)
  /-- Clear a cursor. -/
  | clearCursor (issueId : String) (now : Int)
  /-- Move a cursor. -/
  | moveCursor (issueId projectId : String) (update : CursorUpdate) (now : Int)
  /-- Append an entry to the ledger. -/
  | appendEntry (draft : LedgerDraft)
  /-- Give an issue a work status. -/
  | setWorkStatus (issueId : String) (status : WorkStatus) (now : Int)
  /-- Append an event to the audit log. -/
  | appendEvent (actor : String) (now : Int) (draft : EventDraft)

/-- Carry out a statement. -/
def Statement.run (db : Database) : Statement → Except Error Database
  | insertProject p => db.insertProject p
  | insertIssue issue => db.insertIssue issue
  | countIssue projectId now => db.countIssue projectId now
  | insertStep step => db.insertStep step
  | assignStep stepId agent now => db.assignStep stepId agent now
  | putGate issueId projectId gate now => db.putGate issueId projectId gate now
  | clearCursor issueId now => db.clearCursor issueId now
  | moveCursor issueId projectId update now => db.moveCursor issueId projectId update now
  | appendEntry draft => (db.appendEntry draft).map (·.2)
  | setWorkStatus issueId status now => db.setWorkStatus issueId status now
  | appendEvent actor now draft => db.appendEvent actor now draft

/-- What a transaction carries out before it writes its audit events. -/
inductive Script (α : Type) where
  /-- Answer. -/
  | done (a : α)
  /-- Give up. -/
  | fail (e : Error)
  /-- Go on according to what the database holds now. -/
  | read (next : Database → Script α)
  /-- Carry out a statement, and go on if it was. -/
  | exec (statement : Statement) (next : Script α)
  /-- Note an event for the audit log, and go on. -/
  | note (draft : EventDraft) (next : Script α)

/-- What an open transaction has come to. -/
structure Session where
  /-- The database as it was when the transaction began, for the rollback. -/
  saved : Database
  /-- The database with what was written since. -/
  db : Database
  /-- The events that were noted. -/
  noted : List EventDraft

namespace Script

variable {α β : Type}

/-- Go on with the answer of a script. -/
def bind : Script α → (α → Script β) → Script β
  | done a, next => next a
  | fail e, _ => fail e
  | read script, next => read fun db => (script db).bind next
  | exec statement script, next => exec statement (script.bind next)
  | note draft script, next => note draft (script.bind next)

instance : Monad Script where
  pure := done
  bind := bind

/-- Look something up. -/
def query (lookup : Database → Except Error α) : Script α :=
  read fun db =>
    match lookup db with
    | .ok a => done a
    | .error e => fail e

/-- Carry out a statement. -/
def write (statement : Statement) : Script Unit :=
  exec statement (done ())

/-- Note events. -/
def noteAll : List EventDraft → Script Unit
  | [] => done ()
  | draft :: drafts => note draft (noteAll drafts)

/-- Append an entry to the ledger. Its number is the last one given out. -/
def append (draft : LedgerDraft) : Script LedgerEntry :=
  exec (.appendEntry draft) (read fun db => done (draft.entry db.lastSeq))

/-- Carry out a script in an open transaction: its answer or error, and what has been written until
then. -/
def run : Script α → Session → Except Error α × Session
  | done a, session => (.ok a, session)
  | fail e, session => (.error e, session)
  | read next, session => (next session.db).run session
  | exec statement next, session =>
    match statement.run session.db with
    | .ok db => next.run { session with db := db }
    | .error e => (.error e, session)
  | note draft next, session => next.run { session with noted := session.noted ++ [draft] }

end Script

namespace Database

variable {α β : Type}

/-- Write the events of a transaction, one statement for each. -/
def flush (author : Author) : List EventDraft → Script Unit
  | [] => .done ()
  | draft :: drafts =>
    .exec (.appendEvent author.actor author.stamp.now draft) (flush author drafts)

/-- End a transaction: write its events and commit it, or roll it back if anything failed. -/
def close (author : Author) (ended : Except Error α × Session) : Except Error α × Database :=
  match ended with
  | (.error e, session) => (.error e, session.saved)
  | (.ok a, session) =>
    match (flush author session.noted).run session with
    | (.error e, session) => (.error e, session.saved)
    | (.ok (), session) => (.ok a, session.db)

/-- Carry out a script as one transaction. -/
def transact (db : Database) (author : Author) (script : Script α) : Except Error α × Database :=
  close author (script.run ⟨db, db, []⟩)

end Database

/-! ### The scripts of the operations -/

namespace Script

open Database

/-- The script that creates a project. -/
def createProject (p : Project) : Script Unit := do
  if let some issuePrefix := p.issuePrefix then
    if let some owner ← query fun db => .ok (db.prefixOwner? issuePrefix) then
      fail (.prefixTaken issuePrefix owner)
  write (.insertProject p)
  noteAll [{ entityType := "project", entityId := p.id, kind := .projectCreated }]

/-- The script that creates an issue. -/
def createIssue (author : Author) (projectId title : String) (description : Option String) :
    Script Issue := do
  let p ← query (·.project projectId)
  let issue := Issue.create author.stamp p.id p.nextShortId title description
  write (.insertIssue issue)
  write (.countIssue p.id author.stamp.now)
  noteAll [{ entityType := "issue", entityId := issue.id, kind := .issueCreated }]
  return issue

/-- The script that adds a step to a catalog. -/
def addStep (author : Author) (new : NewStep) : Script Step := do
  if Text.isAllBlank new.name then
    fail .blankStepName
  let _ ← query (·.project new.projectId)
  let number ← query (·.stepNumber new.projectId new.number)
  if number ≤ 0 then
    fail (.stepNumberNotPositive number)
  if ← query fun db => .ok (db.hasStepNumber new.projectId number) then
    fail (.stepNumberTaken number new.projectId)
  let step : Step :=
    { id := author.stamp.identifier "step"
      projectId := new.projectId
      number := number
      name := Text.trim new.name
      kind := new.kind
      assignee := new.assignee
      autoAdvance := new.autoAdvance
      createdAt := author.stamp.now
      updatedAt := author.stamp.now }
  write (.insertStep step)
  noteAll
    [{ entityType := "project"
       entityId := step.projectId
       kind := .stepAdded
       newValue := some step.id }]
  return step

/-- The script that assigns a step. -/
def restaffStep (author : Author) (stepId : String) (agent : Option String) : Script Step := do
  let step ← query (·.step stepId)
  write (.assignStep step.id agent author.stamp.now)
  noteAll
    [{ entityType := "step"
       entityId := step.id
       kind := .stepRestaffed
       oldValue := step.assignee
       newValue := agent }]
  return { step with assignee := agent, updatedAt := author.stamp.now }

/-- The script that records a signal of the gate. -/
def recordGate (author : Author) (issueId : String) (status : GateStatus)
    (error : Option String) : Script Cursor := do
  let issue ← query (·.issue issueId)
  let gate : GateSnapshot :=
    { status := some status, error := error, checkedAt := some author.stamp.now }
  write (.putGate issue.id issue.projectId gate author.stamp.now)
  noteAll
    [{ entityType := "issue"
       entityId := issue.id
       kind := .gateRecorded
       newValue := some status.word }]
  match ← query (·.cursor? issue.id) with
  | some cursor => return cursor
  | none => fail (.other ("pipeline state for " ++ issue.id ++ " vanished after write"))

/-- The script that clears a cursor. -/
def resetPipeline (author : Author) (issueId : String) : Script Unit := do
  let issue ← query (·.issue issueId)
  write (.clearCursor issue.id author.stamp.now)
  noteAll [{ entityType := "issue", entityId := issue.id, kind := .pipelineReset }]

/-- The script that writes a planned transition down. -/
def applyTransition (author : Author) (issue : Issue) (t : Transition) : Script Unit := do
  let _ ← append t.entry
  write (.moveCursor issue.id issue.projectId t.update author.stamp.now)
  if let some status := t.workStatus then
    write (.setWorkStatus issue.id status author.stamp.now)
  noteAll (transitionEvents issue t)

/-- The script that completes the current step of an issue. -/
def complete (author : Author) (issueId : String) (agent notes : Option String) :
    Script Completion := do
  let s ← query (·.situation issueId author.stamp.now)
  if s.steps.isEmpty then
    fail (.noPipelineSteps s.issue.projectId)
  let t ← query fun _ => Progression.planCompletion s.steps s.cursor agent notes author.stamp
  applyTransition author s.issue t
  return {
    issueId := s.issue.id
    completedStepId := t.fromStepId
    currentStepId := t.update.stepId
    completedPipeline := t.completesPipeline
    parkedForHumanReview := t.parkedForHumanReview }

/-- The script that rejects the current step of an issue. -/
def reject (author : Author) (issueId : String) (agent : Option String) (reason : String) :
    Script Rejection :=
  match Text.nonBlank (some reason) with
  | none => fail .blankReason
  | some reason => do
    let s ← query (·.situation issueId author.stamp.now)
    let t ← query fun _ => Progression.planRejection s.steps s.cursor agent reason author.stamp
    applyTransition author s.issue t
    match t.outcome with
    | .rejected target => return ⟨s.issue.id, t.fromStepId, target⟩
    | _ => fail (.other "rejection planned a non-rejection outcome")

/-- The script of one write of a batch. -/
def single (now : Int) : SingleWrite → Script (Option LedgerEntry)
  | .moveCursor issueId projectId update => do
    write (.moveCursor issueId projectId update now)
    return none
  | .appendEntry draft => do
    return some (← append draft)
  | .setWorkStatus issueId status => do
    write (.setWorkStatus issueId status now)
    return none
  | .note event => do
    noteAll [event]
    return none

/-- The script of writes in order. -/
def singles (now : Int) : List SingleWrite → Script (List (Option LedgerEntry))
  | [] => return []
  | w :: ws => do
    let first ← single now w
    let rest ← singles now ws
    return first :: rest

/-- The script of a batch, which may be given up at the end. -/
def batch (author : Author) (writes : List SingleWrite) (failure : Option String) :
    Script (List (Option LedgerEntry)) := do
  let results ← singles author.stamp.now writes
  if let some text := failure then
    fail (.conflict text)
  return results

end Script

/-- The script of an operation, if it is carried out as a transaction. -/
def Operation.script? (author : Author) : Operation → Option (Script Reply)
  | .createProject p => some (do Script.createProject p; return .project p)
  | .createIssue projectId title description =>
    some (return .issue (← Script.createIssue author projectId title description))
  | .addStep new => some (return .step (← Script.addStep author new))
  | .restaffStep stepId agent => some (return .step (← Script.restaffStep author stepId agent))
  | .recordGate issueId status error =>
    some (return .cursor (← Script.recordGate author issueId status error))
  | .resetPipeline issueId => some (do Script.resetPipeline author issueId; return .done)
  | .complete issueId agent notes =>
    some (return .completion (← Script.complete author issueId agent notes))
  | .reject issueId agent reason =>
    some (return .rejection (← Script.reject author issueId agent reason))
  | .batch writes failure => some (return .entries (← Script.batch author writes failure))
  | .write _ | .applySchema | .raw _ => none

/-- Carry out an operation: its script as a transaction, or what is no transaction at once. -/
def Database.execute (db : Database) (author : Author) (op : Operation) :
    Except Error Reply × Database :=
  match op.script? author with
  | some script => db.transact author script
  | none => ((db.perform author op).map (·.1), db.after author op)

/-! ### Carrying scripts out -/

namespace Script

variable {α β : Type}

/-- No script touches what a rollback needs. -/
theorem saved_run (script : Script α) (session : Session) :
    (script.run session).2.saved = session.saved := by
  -- The copy for a rollback is made before the script starts, and no statement writes to it.
  induction script generalizing session with
  | done a => rfl
  | fail e => rfl
  | read next ih => exact ih session.db session
  | exec statement next ih =>
    rw [run]
    split
    · exact ih _
    · rfl
  | note draft next ih => exact ih _

/-- A script that goes on with another one is carried out up to there first. -/
theorem run_bind (script : Script α) (next : α → Script β) (session : Session) :
    (script >>= next).run session =
      match script.run session with
      | (.ok a, session) => (next a).run session
      | (.error e, session) => (.error e, session) := by
  change (script.bind next).run session = _
  -- The session is another one after every statement, so it is left open for the induction.
  induction script generalizing session with
  | done a => rfl
  | fail e => rfl
  | read script ih => exact ih session.db session
  | exec statement script ih =>
    rw [bind, run, run]
    cases statement.run session.db with
    | ok db => exact ih _
    | error e => rfl
  | note draft script ih => exact ih _

/-- A look-up asks the database of the session. -/
theorem run_query (lookup : Database → Except Error α) (session : Session) :
    (query lookup).run session = (lookup session.db, session) := by
  change (match lookup session.db with
    | .ok a => done a
    | .error e => fail e).run session = _
  cases lookup session.db <;> rfl

/-- To note events is to keep them for later. -/
theorem run_noteAll (drafts : List EventDraft) (session : Session) :
    (noteAll drafts).run session =
      (.ok (), { session with noted := session.noted ++ drafts }) := by
  induction drafts generalizing session with
  | nil => simp [noteAll, run]
  | cons draft drafts ih =>
    refine (ih { session with noted := session.noted ++ [draft] }).trans ?_
    rw [List.append_assoc]
    rfl

/-- An entry that is appended is numbered as it is read back. -/
theorem run_append (draft : LedgerDraft) (session : Session) :
    (append draft).run session =
      match session.db.appendEntry draft with
      | .ok (entry, db) => (.ok entry, { session with db := db })
      | .error e => (.error e, session) := by
  rw [append, run, Statement.run]
  cases happend : session.db.appendEntry draft with
  | error e => rfl
  | ok r =>
    obtain ⟨entry, db⟩ := r
    obtain ⟨-, -, -, rfl, rfl⟩ := Database.appendEntry_eq_ok_iff.1 happend
    rfl

end Script

/-! ### Both descriptions agree -/

namespace Database

open Script

variable {α β : Type} {author : Author} {saved db : Database} {noted : List EventDraft}

/-- How an operation that is done at once ends: with a new database, or with the saved one. -/
def settle (saved : Database) : Except Error (α × Database) → Except Error α × Database
  | .ok (a, db) => (.ok a, db)
  | .error e => (.error e, saved)

/-- A transaction in which a script is still to be carried out ends with this result. -/
def Closes (author : Author) (saved db : Database) (noted : List EventDraft) (script : Script α)
    (result : Except Error (α × Database)) : Prop :=
  close author (script.run ⟨saved, db, noted⟩) = settle saved result

/-- To flush events is to append them to the database. -/
theorem run_flush (drafts : List EventDraft) (session : Session) :
    (flush author drafts).run session =
      match session.db.appendEvents author.actor author.stamp.now drafts with
      | .ok db => (.ok (), { session with db := db })
      | .error e => (.error e, ((flush author drafts).run session).2) := by
  induction drafts generalizing session with
  | nil => rfl
  | cons draft drafts ih =>
    -- Both go event by event. Only the session of a failure is not told here, as it is rolled back.
    have hcons : session.db.appendEvents author.actor author.stamp.now (draft :: drafts) =
        session.db.appendEvent author.actor author.stamp.now draft >>= fun next =>
          next.appendEvents author.actor author.stamp.now drafts := rfl
    rw [hcons, flush, Script.run, Statement.run]
    cases session.db.appendEvent author.actor author.stamp.now draft with
    | error e => rfl
    | ok db => exact ih { session with db := db }

/-- A script that is done is committed with what it noted. -/
theorem closes_done (a : α) :
    Closes author saved db noted (done a) (Change.commit ⟨a, noted, db⟩ author) := by
  have hsaved : ((flush author noted).run ⟨saved, db, noted⟩).2.saved = saved :=
    saved_run (flush author noted) ⟨saved, db, noted⟩
  rw [Closes, Script.run, close, Change.commit]
  dsimp only
  rw [run_flush]
  cases db.appendEvents author.actor author.stamp.now noted with
  | ok db => rfl
  | error e => exact congrArg (Prod.mk (Except.error e)) hsaved

/-- A script that fails comes to its failure. -/
theorem closes_fail (e : Error) : Closes author saved db noted (fail e : Script α) (.error e) :=
  rfl

/-- A look-up within a script is the same look-up outside. -/
theorem closes_query {lookup : Database → Except Error β} {next : β → Script α}
    {rest : β → Except Error (α × Database)}
    (h : ∀ b, lookup db = .ok b → Closes author saved db noted (next b) (rest b)) :
    Closes author saved db noted (query lookup >>= next) (lookup db >>= rest) := by
  rw [Closes, run_bind, run_query]
  dsimp only
  cases hlookup : lookup db with
  | ok b => exact h b hlookup
  | error e => rfl

/-- A look-up that always answers. -/
theorem closes_look {look : Database → β} {next : β → Script α}
    {result : Except Error (α × Database)}
    (h : Closes author saved db noted (next (look db)) result) :
    Closes author saved db noted ((query fun db => .ok (look db)) >>= next) result := by
  rw [Closes, run_bind, run_query]
  exact h

/-- A write within a script is the same write outside. -/
theorem closes_write {statement : Statement} {next : Unit → Script α}
    {rest : Database → Except Error (α × Database)}
    (h : ∀ db, Closes author saved db noted (next ()) (rest db)) :
    Closes author saved db noted (write statement >>= next) (statement.run db >>= rest) := by
  rw [Closes, run_bind, write, Script.run]
  cases statement.run db with
  | ok db => exact h db
  | error e => rfl

/-- An entry appended within a script is appended outside. -/
theorem closes_append {draft : LedgerDraft} {next : LedgerEntry → Script α}
    {rest : LedgerEntry × Database → Except Error (α × Database)}
    (h : ∀ entry db, Closes author saved db noted (next entry) (rest (entry, db))) :
    Closes author saved db noted (append draft >>= next) (db.appendEntry draft >>= rest) := by
  rw [Closes, run_bind, run_append]
  cases db.appendEntry draft with
  | ok r => exact h r.1 r.2
  | error e => rfl

/-- Events noted within a script are noted behind the others. -/
theorem closes_noteAll {drafts : List EventDraft} {next : Unit → Script α}
    {result : Except Error (α × Database)}
    (h : Closes author saved db (noted ++ drafts) (next ()) result) :
    Closes author saved db noted (noteAll drafts >>= next) result := by
  rw [Closes, run_bind, run_noteAll]
  exact h

/-- Events that are noted last are committed. -/
theorem closes_noteAll_done {drafts : List EventDraft} :
    Closes author saved db noted (noteAll drafts)
      (Change.commit ⟨(), noted ++ drafts, db⟩ author) := by
  rw [Closes, run_noteAll]
  exact closes_done ()

/-- A script that only answers in other words. -/
theorem closes_map {script : Script β} {result : Except Error (β × Database)}
    (h : Closes author saved db noted script result) (toAnswer : β → α) :
    Closes author saved db noted (script >>= fun b => done (toAnswer b))
      (result.map fun r => (toAnswer r.1, r.2)) := by
  -- Neither the events nor the rollback depend on what is answered.
  have hclose : ∀ ended : Except Error β × Session,
      close author (ended.1.map toAnswer, ended.2) =
        ((close author ended).1.map toAnswer, (close author ended).2) := by
    rintro ⟨b | e, session⟩
    · rfl
    · simp only [close, Except.map]
      cases (flush author session.noted).run session with
      | mk flushed session => cases flushed <;> rfl
  have hrun : (script >>= fun b => done (toAnswer b)).run ⟨saved, db, noted⟩ =
      ((script.run ⟨saved, db, noted⟩).1.map toAnswer, (script.run ⟨saved, db, noted⟩).2) := by
    rw [run_bind]
    cases script.run ⟨saved, db, noted⟩ with
    | mk ended session => cases ended <;> rfl
  rw [Closes] at h ⊢
  rw [hrun, hclose, h]
  cases result <;> rfl

/-- What is answered with is made of the answer outside as within. -/
theorem closes_answer {script : Script β} {result : Except Error (β × Database)}
    {rest : β × Database → Except Error (α × Database)} {toAnswer : β → α}
    (h : Closes author saved db noted script result)
    (hrest : ∀ r, rest r = .ok (toAnswer r.1, r.2)) :
    Closes author saved db noted (script >>= fun b => done (toAnswer b)) (result >>= rest) := by
  have hmap : result >>= rest = result.map fun r => (toAnswer r.1, r.2) := by
    cases result with
    | ok r => exact hrest r
    | error e => rfl
  rw [hmap]
  exact closes_map h toAnswer

/-- Creating a project statement by statement is creating it. -/
theorem createProject_closes (p : Project) :
    Closes author saved db [] (Script.createProject p) (db.createProject author p) := by
  have hrest : Closes author saved db []
      (write (.insertProject p) >>= fun _ =>
        noteAll [{ entityType := "project", entityId := p.id, kind := .projectCreated }])
      (db.insertProject p >>= fun db =>
        Change.commit ⟨(), [{ entityType := "project", entityId := p.id, kind := .projectCreated }],
          db⟩ author) :=
    closes_write fun _ => closes_noteAll_done
  -- Whatever the prefix is, what is left to do is the same.
  unfold Script.createProject createProject
  cases p.issuePrefix with
  | none => exact hrest
  | some issuePrefix =>
    refine closes_look ?_
    dsimp only
    cases db.prefixOwner? issuePrefix with
    | none => exact hrest
    | some owner => exact closes_fail _

/-- Creating an issue statement by statement is creating it. -/
theorem createIssue_closes (projectId title : String) (description : Option String) :
    Closes author saved db [] (Script.createIssue author projectId title description)
      (db.createIssue author projectId title description) :=
  closes_query fun _ _ => closes_write fun _ => closes_write fun _ => closes_noteAll (closes_done _)

/-- Adding a step statement by statement is adding it. -/
theorem addStep_closes (new : NewStep) :
    Closes author saved db [] (Script.addStep author new) (db.addStep author new) := by
  unfold Script.addStep addStep
  -- Each check either gives up in both descriptions or lets both go on.
  split
  · exact closes_fail _
  · refine closes_query fun _ _ => closes_query fun number _ => ?_
    split
    · exact closes_fail _
    · refine closes_look ?_
      split
      · exact closes_fail _
      · exact closes_write fun _ => closes_noteAll (closes_done _)

/-- Assigning a step statement by statement is assigning it. -/
theorem restaffStep_closes (stepId : String) (agent : Option String) :
    Closes author saved db [] (Script.restaffStep author stepId agent)
      (db.restaffStep author stepId agent) :=
  closes_query fun _ _ => closes_write fun _ => closes_noteAll (closes_done _)

/-- Recording a signal of the gate statement by statement is recording it. -/
theorem recordGate_closes (issueId : String) (status : GateStatus) (error : Option String) :
    Closes author saved db [] (Script.recordGate author issueId status error)
      (db.recordGate author issueId status error) := by
  refine closes_query fun _ _ => closes_write fun _ => closes_noteAll ?_
  refine closes_query fun found _ => ?_
  cases found with
  | none => exact closes_fail _
  | some cursor => exact closes_done _

/-- Resetting a pipeline statement by statement is resetting it. -/
theorem resetPipeline_closes (issueId : String) :
    Closes author saved db [] (Script.resetPipeline author issueId)
      (db.resetPipeline author issueId) :=
  closes_query fun _ _ => closes_write fun _ => closes_noteAll_done

/-- Writing a transition down statement by statement is writing it down. -/
theorem applyTransition_closes (issue : Issue) (t : Transition) :
    Closes author saved db [] (Script.applyTransition author issue t)
      (db.applyTransition author issue t) := by
  refine closes_append fun _ _ => closes_write fun _ => ?_
  cases t.workStatus with
  | none => exact closes_noteAll_done
  | some status => exact closes_write fun _ => closes_noteAll_done

/-- Completing the current step statement by statement is completing it. -/
theorem complete_closes (issueId : String) (agent notes : Option String) :
    Closes author saved db [] (Script.complete author issueId agent notes)
      (db.complete author issueId agent notes) := by
  refine closes_query fun s _ => ?_
  split
  · exact closes_fail _
  · exact closes_query fun t _ => closes_answer (applyTransition_closes s.issue t) fun _ => rfl

/-- Rejecting the current step statement by statement is rejecting it. -/
theorem reject_closes (issueId : String) (agent : Option String) (reason : String) :
    Closes author saved db [] (Script.reject author issueId agent reason)
      (db.reject author issueId agent reason) := by
  unfold Script.reject reject
  cases Text.nonBlank (some reason) with
  | none => exact closes_fail _
  | some reason =>
    refine closes_query fun s _ => closes_query fun t hplan => ?_
    -- A planned rejection is one, so the error for other outcomes is never met.
    obtain ⟨-, _, target, -, houtcome⟩ := Progression.planned_of_planRejection hplan
    rw [houtcome]
    exact closes_answer (applyTransition_closes s.issue t) fun _ => rfl

/-- It makes no difference how the parts of a script are put together. -/
theorem closes_assoc {γ : Type} {script : Script γ} {first : γ → Script β} {next : β → Script α}
    {result : Except Error (α × Database)}
    (h : Closes author saved db noted (script >>= fun c => first c >>= next) result) :
    Closes author saved db noted (script >>= first >>= next) result := by
  rw [Closes, run_bind] at h ⊢
  rw [run_bind]
  cases hrun : script.run ⟨saved, db, noted⟩ with
  | mk ended session =>
    rw [hrun] at h
    cases ended with
    | error e => exact h
    | ok c =>
      dsimp only at h ⊢
      rwa [run_bind] at h

/-- One write of a batch, with what comes after it. -/
theorem closes_single {now : Int} {w : SingleWrite} {next : Option LedgerEntry → Script α}
    {rest : Change (Option LedgerEntry) → Except Error (α × Database)}
    (h : ∀ change, Closes author saved change.db (noted ++ change.events) (next change.result)
      (rest change)) :
    Closes author saved db noted (single now w >>= next) (db.singleWrite now w >>= rest) := by
  cases w with
  | moveCursor issueId projectId update =>
    simp only [singleWrite, bind_assoc, pure_bind]
    refine closes_assoc (closes_write fun db => ?_)
    have hnext := h ⟨none, [], db⟩
    rwa [List.append_nil] at hnext
  | appendEntry draft =>
    simp only [singleWrite, bind_assoc, pure_bind]
    refine closes_assoc (closes_append fun entry db => ?_)
    have hnext := h ⟨some entry, [], db⟩
    rwa [List.append_nil] at hnext
  | setWorkStatus issueId status =>
    simp only [singleWrite, bind_assoc, pure_bind]
    refine closes_assoc (closes_write fun db => ?_)
    have hnext := h ⟨none, [], db⟩
    rwa [List.append_nil] at hnext
  | note event =>
    exact closes_assoc (closes_noteAll (h ⟨none, [event], db⟩))

/-- The writes of a batch, with what comes after them. -/
theorem closes_singles {now : Int} {writes : List SingleWrite}
    {next : List (Option LedgerEntry) → Script α}
    {rest : Change (List (Option LedgerEntry)) → Except Error (α × Database)}
    (h : ∀ change, Closes author saved change.db (noted ++ change.events) (next change.result)
      (rest change)) :
    Closes author saved db noted (singles now writes >>= next)
      (db.writeAll now writes >>= rest) := by
  induction writes generalizing db noted next rest with
  | nil =>
    have hnext := h ⟨[], [], db⟩
    rw [List.append_nil] at hnext
    exact hnext
  | cons w writes ih =>
    -- The events of the first write are noted before those of the others.
    simp only [writeAll, bind_assoc, pure_bind]
    refine closes_assoc (closes_single fun first => closes_assoc (ih fun others => ?_))
    have hnext :=
      h ⟨first.result :: others.result, first.events ++ others.events, others.db⟩
    rw [← List.append_assoc] at hnext
    exact hnext

/-- A batch that is carried out statement by statement is the batch. -/
theorem batch_closes (writes : List SingleWrite) (failure : Option String) :
    Closes author saved db [] (Script.batch author writes failure)
      (db.batch author writes failure) := by
  refine closes_singles fun change => ?_
  cases failure with
  | none => exact closes_done change.result
  | some text => exact closes_fail _

/-- An operation that is a transaction does the same statement by statement as at once. -/
theorem script_closes {op : Operation} {script : Script Reply}
    (h : op.script? author = some script) :
    Closes author saved db [] script (db.perform author op) := by
  cases op with
  | createProject p =>
    obtain rfl := Option.some.inj h
    exact closes_map (createProject_closes p) fun () => Reply.project p
  | createIssue projectId title description =>
    obtain rfl := Option.some.inj h
    exact closes_map (createIssue_closes projectId title description) Reply.issue
  | addStep new =>
    obtain rfl := Option.some.inj h
    exact closes_map (addStep_closes new) Reply.step
  | restaffStep stepId agent =>
    obtain rfl := Option.some.inj h
    exact closes_map (restaffStep_closes stepId agent) Reply.step
  | recordGate issueId status error =>
    obtain rfl := Option.some.inj h
    exact closes_map (recordGate_closes issueId status error) Reply.cursor
  | resetPipeline issueId =>
    obtain rfl := Option.some.inj h
    exact closes_map (resetPipeline_closes issueId) fun () => Reply.done
  | complete issueId agent notes =>
    obtain rfl := Option.some.inj h
    exact closes_map (complete_closes issueId agent notes) Reply.completion
  | reject issueId agent reason =>
    obtain rfl := Option.some.inj h
    exact closes_map (reject_closes issueId agent reason) Reply.rejection
  | batch writes failure =>
    obtain rfl := Option.some.inj h
    exact closes_map (batch_closes writes failure) Reply.entries
  | write | applySchema | raw => cases h

/-- Carrying an operation out statement by statement, with a rollback if it fails, is the same as
carrying it out at once. -/
theorem execute_eq (db : Database) (author : Author) (op : Operation) :
    db.execute author op = ((db.perform author op).map (·.1), db.after author op) := by
  unfold execute
  split
  · next script hscript =>
    have hcloses : db.transact author script = settle db (db.perform author op) :=
      script_closes hscript
    rw [hcloses, after]
    cases db.perform author op with
    | ok r => rfl
    | error e => rfl
  · rfl

/-! ### What holds of every transaction -/

/-- A transaction that fails leaves the database as it was, whatever it had written until then. -/
theorem transact_of_error {script : Script α} {e : Error}
    (h : (db.transact author script).1 = .error e) : (db.transact author script).2 = db := by
  unfold transact close at h ⊢
  -- The rollback may come after the script or after the events; what was saved is the same.
  have hscript := saved_run script ⟨db, db, []⟩
  cases hrun : script.run ⟨db, db, []⟩ with
  | mk ended session =>
    rw [hrun] at h hscript
    cases ended with
    | error e => exact hscript
    | ok a =>
      dsimp only at h ⊢
      have hflush := saved_run (flush author session.noted) session
      cases hrun' : (flush author session.noted).run session with
      | mk flushed session' =>
        rw [hrun'] at h hflush
        cases flushed with
        | error e => exact hflush.trans hscript
        | ok u => cases h

/-- Statements carried out one after the other lead from a database to another one. -/
def Chain : Database → Database → Prop :=
  Relation.ReflTransGen fun db db' => ∃ statement : Statement, statement.run db = .ok db'

/-- However far a script gets, what it has written is a chain of statements. -/
theorem chain_run (script : Script α) (session : Session) :
    Chain session.db (script.run session).2.db := by
  -- Of the five forms only a statement writes; one that fails ends the chain.
  induction script generalizing session with
  | done a => exact .refl
  | fail e => exact .refl
  | read next ih => exact ih session.db session
  | exec statement next ih =>
    rw [Script.run]
    cases hstatement : statement.run session.db with
    | error e => exact .refl
    | ok db => exact .head ⟨statement, hstatement⟩ (ih { session with db := db })
  | note draft next ih => exact ih { session with noted := session.noted ++ [draft] }

/-- A transaction is a chain of statements, or changes nothing. -/
theorem chain_transact (script : Script α) : Chain db (db.transact author script).2 := by
  cases hended : (db.transact author script).1 with
  | error e =>
    rw [transact_of_error hended]
    exact .refl
  | ok a =>
    have hscript := chain_run script ⟨db, db, []⟩
    unfold transact close at hended ⊢
    cases hrun : script.run ⟨db, db, []⟩ with
    | mk ended session =>
      rw [hrun] at hended hscript
      cases ended with
      | error e => cases hended
      | ok b =>
        -- The events are written after the script, by statements as well.
        dsimp only at hended hscript ⊢
        have hflush := chain_run (flush author session.noted) session
        cases hrun' : (flush author session.noted).run session with
        | mk flushed session' =>
          rw [hrun'] at hended hflush
          cases flushed with
          | error e => cases hended
          | ok u => exact hscript.trans hflush

/-- A single write is a chain of one statement, or of none. -/
theorem chain_singleWrite {now : Int} {w : SingleWrite} {change : Change (Option LedgerEntry)}
    (h : db.singleWrite now w = .ok change) : Chain db change.db := by
  cases w with
  | moveCursor issueId projectId update =>
    obtain ⟨db', hmove, hdone⟩ := bind_eq_ok_iff.1 h
    cases hdone
    exact .single ⟨.moveCursor issueId projectId update now, hmove⟩
  | appendEntry draft =>
    obtain ⟨⟨entry, db'⟩, happend, hdone⟩ := bind_eq_ok_iff.1 h
    cases hdone
    exact .single ⟨.appendEntry draft, by rw [Statement.run, happend]; rfl⟩
  | setWorkStatus issueId status =>
    obtain ⟨db', hset, hdone⟩ := bind_eq_ok_iff.1 h
    cases hdone
    exact .single ⟨.setWorkStatus issueId status now, hset⟩
  | note event =>
    cases h
    exact .refl

/-- What an operation does to a database is a chain of statements, unless it changes the schema or a
table directly. -/
theorem chain_after {op : Operation} (hschema : op ≠ .applySchema) (hraw : ∀ w, op ≠ .raw w) :
    Chain db (db.after author op) := by
  have hafter : (db.execute author op).2 = db.after author op := by rw [execute_eq]
  rw [← hafter, execute]
  split
  · exact chain_transact _
  · next hscript =>
    cases op with
    | write w =>
      rw [after, perform]
      cases hwrite : db.singleWrite author.stamp.now w with
      | ok change => exact chain_singleWrite hwrite
      | error e => exact .refl
    | applySchema => exact absurd rfl hschema
    | raw w => exact absurd rfl (hraw w)
    | _ => cases hscript

end Database

end ReviewPipeline
