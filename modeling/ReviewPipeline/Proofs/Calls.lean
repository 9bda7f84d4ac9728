import ReviewPipeline.Operation
import ReviewPipeline.Proofs.Transitions

/-!
# Calls

The eight operations that callers have (`Operation.isCall`), as opposed to single writes, batches
of them and direct changes. `Called` says once what a call that succeeds answers and which
database it leaves; every invariant of runs is proved by its cases.

## Main results

* `called_of_perform`: a call that succeeds is one of the cases of `Called`;
* `Called.consistent`: calls keep a database consistent;
* `storedIssue?_of_called` and its companions: what a call does to the issues, the cursors, the
  catalogs and the histories, look-up by look-up.
-/

namespace ReviewPipeline

/-- Whether an operation is one of those that callers have. -/
def Operation.isCall : Operation → Bool
  | .createProject _ | .createIssue _ _ _ | .addStep _ | .restaffStep _ _ | .recordGate _ _ _
  | .resetPipeline _ | .complete _ _ _ | .reject _ _ _ => true
  | .write _ | .batch _ _ | .applySchema | .raw _ => false

/-- Whether an operation is a call that clears no cursor. -/
def Operation.isResetFree : Operation → Bool
  | .resetPipeline _ => false
  | op => op.isCall

/-- Whether an operation is a call that clears no cursor and adds no step. -/
def Operation.isSteady : Operation → Bool
  | .addStep _ => false
  | op => op.isResetFree

/-- An operation without a reset is a call. -/
theorem Operation.isCall_of_isResetFree {op : Operation} (h : op.isResetFree = true) :
    op.isCall = true := by
  cases op <;> first | rfl | cases h

/-- A steady operation resets nothing. -/
theorem Operation.isResetFree_of_isSteady {op : Operation} (h : op.isSteady = true) :
    op.isResetFree = true := by
  cases op <;> first | rfl | cases h

/-- A cursor whose pointer and times are cleared. The gate's signal stays. -/
def Cursor.cleared (c : Cursor) (now : Int) : Cursor :=
  { c with stepId := none, startedAt := none, completedAt := none, updatedAt := now }

namespace Database

variable {db db' : Database} {author : Author} {op : Operation} {reply : Reply}

/-- The step that is added to a catalog, under its number. -/
def NewStep.toStep (new : NewStep) (stamp : Stamp) (number : Int) : Step where
  id := stamp.identifier "step"
  projectId := new.projectId
  number := number
  name := Text.trim new.name
  kind := new.kind
  assignee := new.assignee
  autoAdvance := new.autoAdvance
  createdAt := stamp.now
  updatedAt := stamp.now

/-- The rows of cursors after a signal of the gate. -/
def cursorsGated (db : Database) (issue : Issue) (gate : GateSnapshot) (now : Int) :
    List (Row Cursor) :=
  db.cursorsWith { Cursor.notStarted issue.id issue.projectId now with gate := gate } fun row =>
    { record := { row.record with gate := gate, updatedAt := now } }

/-- What a call that succeeds answers, and which database it leaves. -/
inductive Called (db : Database) (author : Author) : Operation → Reply → Database → Prop
  /-- A project is created. -/
  | createProject {p : Project} (hid : ∀ q ∈ db.projects, q.id ≠ p.id)
      (hprefixes : ∀ q ∈ db.projects, p.issuePrefix.isSome → q.issuePrefix ≠ p.issuePrefix) :
      Called db author (.createProject p) (.project p)
        ({ db with projects := db.projects ++ [p] : Database }.noting author
          [{ entityType := "project", entityId := p.id, kind := .projectCreated }])
  /-- An issue is created under the next number of its project. -/
  | createIssue {projectId title : String} {description : Option String} {p : Project}
      {issue : Issue} (hproject : db.project projectId = .ok p)
      (hissue : issue = Issue.create author.stamp p.id p.nextShortId title description)
      (hid : ∀ row ∈ db.issues, row.record.id ≠ issue.id)
      (hshort : db.uniqueShortIds → ∀ row ∈ db.issues, row.record.shortId ≠ issue.shortId) :
      Called db author (.createIssue projectId title description) (.issue issue)
        ({ db with
            issues := db.issues ++ [{ record := issue }]
            projects := db.projectsCounted p.id author.stamp.now : Database }.noting author
          [{ entityType := "issue", entityId := issue.id, kind := .issueCreated }])
  /-- A step is added to a catalog, at a place of its own. -/
  | addStep {new : NewStep} {p : Project} {step : Step}
      (hname : Text.isAllBlank new.name = false) (hproject : db.project new.projectId = .ok p)
      (hstep : step = new.toStep author.stamp
        (new.number.getD (db.lastStepNumber new.projectId + 1)))
      (hpositive : 0 < step.number)
      (hnumber : ∀ row ∈ db.steps, row.record.projectId = step.projectId →
        row.record.number ≠ step.number)
      (hid : ∀ row ∈ db.steps, row.record.id ≠ step.id) :
      Called db author (.addStep new) (.step step)
        ({ db with steps := db.steps ++ [{ record := step }] : Database }.noting author
          [{ entityType := "project", entityId := step.projectId, kind := .stepAdded,
             newValue := some step.id }])
  /-- A step is assigned. -/
  | restaffStep {stepId : String} {agent : Option String} {step : Step}
      (hstep : db.step stepId = .ok step) :
      Called db author (.restaffStep stepId agent)
        (.step { step with assignee := agent, updatedAt := author.stamp.now })
        ((db.withAssignee step.id agent author.stamp.now).noting author
          [{ entityType := "step", entityId := step.id, kind := .stepRestaffed,
             oldValue := step.assignee, newValue := agent }])
  /-- A signal of the gate is recorded. -/
  | recordGate {issueId : String} {status : GateStatus} {error : Option String} {issue : Issue}
      {gate : GateSnapshot} {cursor : Cursor} (hissue : db.issue issueId = .ok issue)
      (hgate : gate = ⟨some status, error, some author.stamp.now⟩)
      (hcursor : cursor =
        { db.cursorFor issue author.stamp.now with gate := gate, updatedAt := author.stamp.now }) :
      Called db author (.recordGate issueId status error) (.cursor cursor)
        ({ db with cursors := db.cursorsGated issue gate author.stamp.now : Database }.noting author
          [{ entityType := "issue", entityId := issue.id, kind := .gateRecorded,
             newValue := some status.word }])
  /-- A cursor is cleared. -/
  | resetPipeline {issueId : String} {issue : Issue} (hissue : db.issue issueId = .ok issue) :
      Called db author (.resetPipeline issueId) .done
        ((db.withoutPlace issue.id author.stamp.now).noting author
          [{ entityType := "issue", entityId := issue.id, kind := .pipelineReset }])
  /-- A step is completed. -/
  | complete {issueId : String} {agent notes : Option String} {issue : Issue} {t : Transition}
      (hissue : db.issue issueId = .ok issue)
      (hplan : Progression.planCompletion (db.storedCatalog issue.projectId)
        (db.cursorFor issue author.stamp.now) agent notes author.stamp = .ok t)
      (haccepts : db.Accepts t) :
      Called db author (.complete issueId agent notes) (.completion (completionOf issue t))
        (db.transitioned author issue t)
  /-- A step is rejected. -/
  | reject {issueId reason trimmed target : String} {agent : Option String} {issue : Issue}
      {t : Transition} (hreason : Text.nonBlank (some reason) = some trimmed)
      (hissue : db.issue issueId = .ok issue)
      (hplan : Progression.planRejection (db.storedCatalog issue.projectId)
        (db.cursorFor issue author.stamp.now) agent trimmed author.stamp = .ok t)
      (houtcome : t.outcome = .rejected target) (haccepts : db.Accepts t) :
      Called db author (.reject issueId agent reason)
        (.rejection ⟨issue.id, t.fromStepId, target⟩) (db.transitioned author issue t)

/-- A gate's signal shows in the cursor of its issue and in no other. -/
theorem lookup_cursorsGated (db : Database) (issue : Issue) (gate : GateSnapshot) (now : Int)
    (id : String) :
    Row.lookup Cursor.issueId id (db.cursorsGated issue gate now) =
      if id = issue.id then some { db.cursorFor issue now with gate := gate, updatedAt := now }
      else db.storedCursor? id := by
  refine (lookup_cursorsWith (g := fun cursor => { cursor with gate := gate, updatedAt := now })
    (fun _ => rfl) (fun _ => rfl) id).trans ?_
  change (if id = issue.id then _ else _) = _
  split
  · unfold cursorFor
    cases hstored : db.storedCursor? issue.id <;> simp [Cursor.notStarted, hstored]
  · rfl

/-! ### What a call does -/

/-- Creating a project is a call with its changes. -/
theorem createProject_called {p : Project} {u : Unit}
    (h : db.createProject author p = .ok (u, db')) :
    Called db author (.createProject p) (.project p) db' := by
  unfold createProject at h
  -- Whatever the prefix is, what is left to do is the same.
  have hrest : (db.insertProject p >>= fun next =>
      Change.commit ⟨(), [{ entityType := "project", entityId := p.id, kind := .projectCreated }],
        next⟩ author) = .ok (u, db') := by
    split at h
    · split at h
      · cases h
      · exact h
    · exact h
  simp only [bind_eq_ok_iff, insertProject_eq_ok_iff, commit_eq_ok_iff] at hrest
  obtain ⟨_, ⟨-, hprefixes, hid, rfl⟩, -, -, rfl⟩ := hrest
  exact .createProject hid hprefixes

/-- A project that is found has the identifier it was looked for by. -/
theorem project_eq_ok {id : String} {p : Project} (h : db.project id = .ok p) :
    p ∈ db.projects ∧ p.id = id := by
  unfold project project? at h
  cases hfind : db.projects.find? fun p => p.id == id with
  | none => simp [hfind] at h
  | some q =>
    have hq : q.id = id := by simpa using List.find?_some hfind
    simp only [hfind, readProject] at h
    split at h
    · cases h
    · cases h
    · next found hread =>
      obtain rfl := Except.ok.inj h
      split at hread
      · simp only [Except.map, Except.ok.injEq, Option.some.injEq] at hread
        exact hread ▸ ⟨List.mem_of_find?_eq_some hfind, hq⟩
      · cases hread

/-- Creating an issue is a call with its changes. -/
theorem createIssue_called {projectId title : String} {description : Option String}
    {issue : Issue} (h : db.createIssue author projectId title description = .ok (issue, db')) :
    Called db author (.createIssue projectId title description) (.issue issue) db' := by
  simp only [createIssue, bind_eq_ok_iff, commit_eq_ok_iff] at h
  obtain ⟨p, hproject, inserted, hinsert, counted, hcount, -, rfl, rfl⟩ := h
  obtain ⟨hshort, hid, -, rfl⟩ := insertIssue_eq_ok hinsert
  obtain rfl := countIssue_eq_ok hcount
  exact .createIssue hproject rfl hid fun hunique row hrow => hshort hunique row hrow rfl

/-- The number for a step is the one that is asked for, or the one after the last if 64 bits hold
it. -/
theorem stepNumber_eq_ok_iff {projectId : String} {asked : Option Int} {number : Int} :
    db.stepNumber projectId asked = .ok number ↔
      number = asked.getD (db.lastStepNumber projectId + 1) ∧
        (asked = none → fitsInt64 (db.lastStepNumber projectId + 1) = true) := by
  cases asked with
  | some asked => exact ⟨fun h => ⟨(Except.ok.inj h).symm, nofun⟩, fun h => congrArg _ h.1.symm⟩
  | none =>
    simp only [stepNumber, nextStepNumber, Option.getD_none, forall_const]
    split
    · next hfits => exact ⟨fun h => ⟨(Except.ok.inj h).symm, hfits⟩, fun h => congrArg _ h.1.symm⟩
    · next hpast => exact ⟨nofun, fun h => absurd h.2 hpast⟩

/-- There is no number for a step iff none is asked for and 64 bits do not hold the one after the
last. -/
theorem stepNumber_eq_error_iff {projectId : String} {asked : Option Int} {e : Error} :
    db.stepNumber projectId asked = .error e ↔
      e = .crashed .numberOverflow ∧ asked = none ∧
        fitsInt64 (db.lastStepNumber projectId + 1) = false := by
  cases asked with
  | some asked => exact ⟨nofun, fun h => nomatch h.2.1⟩
  | none =>
    simp only [stepNumber, nextStepNumber, true_and]
    split
    · next hfits => exact ⟨nofun, fun h => nomatch hfits.symm.trans h.2⟩
    · next hpast =>
      exact ⟨fun h => ⟨(Except.error.inj h).symm, Bool.eq_false_iff.2 hpast⟩,
        fun h => congrArg _ h.1.symm⟩

/-- Adding a step is a call with its changes. -/
theorem addStep_called {new : NewStep} {step : Step}
    (h : db.addStep author new = .ok (step, db')) :
    Called db author (.addStep new) (.step step) db' := by
  simp only [addStep, throw_bind_eq] at h
  split at h
  · cases h
  · next hname =>
    obtain ⟨p, hproject, h⟩ := bind_eq_ok_iff.1 h
    obtain ⟨number, hchosen, h⟩ := bind_eq_ok_iff.1 h
    obtain ⟨rfl, -⟩ := stepNumber_eq_ok_iff.1 hchosen
    split at h
    · cases h
    · split at h
      · cases h
      · simp only [bind_eq_ok_iff, commit_eq_ok_iff] at h
        obtain ⟨inserted, hinsert, -, rfl, rfl⟩ := h
        obtain ⟨hpositive, hnumber, hid, -, rfl⟩ := insertStep_eq_ok hinsert
        exact .addStep (by simpa using hname) hproject rfl hpositive hnumber hid

/-- Assigning a step is a call with its changes. -/
theorem restaffStep_called {stepId : String} {agent : Option String} {step : Step}
    (h : db.restaffStep author stepId agent = .ok (step, db')) :
    Called db author (.restaffStep stepId agent) (.step step) db' := by
  simp only [restaffStep, bind_eq_ok_iff, assignStep_eq_ok_iff, commit_eq_ok_iff] at h
  obtain ⟨found, hfound, _, ⟨-, rfl⟩, -, rfl, rfl⟩ := h
  exact .restaffStep hfound

/-- Recording a signal of the gate keeps a database consistent. -/
theorem Consistent.withCursorsGated (h : db.Consistent) {issue : Issue}
    (hissue : db.storedIssue? issue.id = some issue) (gate : GateSnapshot) (now : Int) :
    { db with cursors := db.cursorsGated issue gate now : Database }.Consistent :=
  h.withCursor (g := fun cursor => { cursor with gate := gate, updatedAt := now }) (fun _ => rfl)
    (fun _ => rfl) (fun _ _ => rfl) ⟨issue, hissue⟩

/-- Clearing a cursor keeps a database consistent. -/
theorem Consistent.withoutPlace (h : db.Consistent) (id : String) (now : Int) :
    (db.withoutPlace id now).Consistent :=
  h.withCursorsChanged (g := (·.cleared now)) (fun _ => rfl) (fun _ => rfl) fun _ hword => hword

/-- A signal of the gate that is recorded. The cursor that is read back is the one written. -/
theorem recordGate_called (hdb : db.Consistent) {issueId : String} {status : GateStatus}
    {error : Option String} {cursor : Cursor}
    (h : db.recordGate author issueId status error = .ok (cursor, db')) :
    Called db author (.recordGate issueId status error) (.cursor cursor) db' := by
  simp only [recordGate, bind_eq_ok_iff] at h
  obtain ⟨issue, hissue, gated, hput, read, hread, h⟩ := h
  rw [putGate, putCursor_eq_ok_iff] at hput
  obtain ⟨-, -, rfl⟩ := hput
  let gate : GateSnapshot := ⟨some status, error, some author.stamp.now⟩
  have hgated := hdb.withCursorsGated (storedIssue?_of_issue_eq_ok hdb hissue) gate author.stamp.now
  have hstored := (lookup_cursorsGated db issue gate author.stamp.now issue.id).trans (if_pos rfl)
  -- The written row holds no foreign word, so reading it back answers its record.
  obtain rfl := Except.ok.inj (hread.symm.trans ((cursor?_eq_ok hgated).trans
    (congrArg Except.ok hstored)))
  obtain ⟨-, rfl, rfl⟩ := commit_eq_ok_iff.1 h
  exact .recordGate hissue rfl rfl

/-- Clearing a cursor is a call with its changes. -/
theorem resetPipeline_called {issueId : String} {u : Unit}
    (h : db.resetPipeline author issueId = .ok (u, db')) :
    Called db author (.resetPipeline issueId) .done db' := by
  simp only [resetPipeline, bind_eq_ok_iff, clearCursor_eq_ok_iff, commit_eq_ok_iff] at h
  obtain ⟨issue, hissue, _, ⟨-, rfl⟩, -, -, rfl⟩ := h
  exact .resetPipeline hissue

/-- Completing is a call with its changes. -/
theorem complete_called (hdb : db.Consistent) {issueId : String} {agent notes : Option String}
    {completion : Completion}
    (h : db.complete author issueId agent notes = .ok (completion, db')) :
    Called db author (.complete issueId agent notes) (.completion completion) db' := by
  obtain ⟨issue, t, hissue, hplan, rfl, haccepts, rfl⟩ := complete_eq_ok hdb h
  exact .complete hissue hplan haccepts

/-- Rejecting is a call with its changes. -/
theorem reject_called (hdb : db.Consistent) {issueId reason : String} {agent : Option String}
    {rejection : Rejection}
    (h : db.reject author issueId agent reason = .ok (rejection, db')) :
    Called db author (.reject issueId agent reason) (.rejection rejection) db' := by
  obtain ⟨issue, trimmed, t, hissue, hreason, hplan, hid, hfrom, houtcome, haccepts, rfl⟩ :=
    reject_eq_ok hdb h
  obtain ⟨issueId, fromStepId, target⟩ := rejection
  obtain rfl : issueId = issue.id := hid
  obtain rfl : fromStepId = t.fromStepId := hfrom
  exact .reject hreason hissue hplan houtcome haccepts

/-- An operation answers what its function does, under the name of the reply. -/
theorem answer_eq_ok_iff {α : Type} {toReply : α → Reply} {result : Except Error (α × Database)} :
    answer toReply result = .ok (reply, db') ↔ ∃ a, result = .ok (a, db') ∧ toReply a = reply := by
  simp only [answer, map_eq_ok_iff, Prod.exists, Prod.mk.injEq]
  constructor
  · rintro ⟨a, _, hresult, hreply, rfl⟩
    exact ⟨a, hresult, hreply⟩
  · rintro ⟨a, hresult, hreply⟩
    exact ⟨a, db', hresult, hreply, rfl⟩

/-- A call that succeeds on a consistent database is one of the cases of `Called`. -/
theorem called_of_perform (hdb : db.Consistent) (hcall : op.isCall = true)
    (h : db.perform author op = .ok (reply, db')) : Called db author op reply db' := by
  cases op with
  | createProject p =>
    simp only [perform, answer_eq_ok_iff] at h
    obtain ⟨_, h, rfl⟩ := h
    exact createProject_called h
  | createIssue projectId title description =>
    simp only [perform, answer_eq_ok_iff] at h
    obtain ⟨_, h, rfl⟩ := h
    exact createIssue_called h
  | addStep new =>
    simp only [perform, answer_eq_ok_iff] at h
    obtain ⟨_, h, rfl⟩ := h
    exact addStep_called h
  | restaffStep stepId agent =>
    simp only [perform, answer_eq_ok_iff] at h
    obtain ⟨_, h, rfl⟩ := h
    exact restaffStep_called h
  | recordGate issueId status error =>
    simp only [perform, answer_eq_ok_iff] at h
    obtain ⟨_, h, rfl⟩ := h
    exact recordGate_called hdb h
  | resetPipeline issueId =>
    simp only [perform, answer_eq_ok_iff] at h
    obtain ⟨_, h, rfl⟩ := h
    exact resetPipeline_called h
  | complete issueId agent notes =>
    simp only [perform, answer_eq_ok_iff] at h
    obtain ⟨_, h, rfl⟩ := h
    exact complete_called hdb h
  | reject issueId agent reason =>
    simp only [perform, answer_eq_ok_iff] at h
    obtain ⟨_, h, rfl⟩ := h
    exact reject_called hdb h
  | write | batch | applySchema | raw => cases hcall

/-! ### What a call keeps -/

/-- A call keeps a database consistent. -/
theorem Called.consistent (h : Called db author op reply db') (hdb : db.Consistent) :
    db'.Consistent := by
  cases h with
  | createProject hid =>
    exact (hdb.withProjects (Row.nodup_map_concat hdb.projectIds hid) fun p hp =>
      ⟨p, List.mem_append_left _ hp, rfl⟩).noting _ _
  | createIssue hproject hissue hid =>
    have hmem := (project_eq_ok hproject).1
    exact ((hdb.withIssue hid ⟨_, hmem, by rw [hissue]; rfl⟩).withProjectsCounted).noting _ _
  | addStep hname hproject hstep hpositive hnumber hid =>
    obtain ⟨hmem, hproject⟩ := project_eq_ok hproject
    exact (hdb.withStep hid ⟨_, hmem, by rw [hproject, hstep]; rfl⟩).noting _ _
  | restaffStep => exact hdb.withAssignee.noting _ _
  | recordGate hissue =>
    exact (hdb.withCursorsGated (storedIssue?_of_issue_eq_ok hdb hissue) _ _).noting _ _
  | resetPipeline => exact (hdb.withoutPlace _ _).noting _ _
  | complete hissue hplan haccepts =>
    have hentry := (Progression.planned_of_planCompletion hplan).1.entry_issueId
    exact hdb.transitioned author (storedIssue?_of_issue_eq_ok hdb hissue)
      (hentry.trans cursorFor_issueId) haccepts.fresh
  | reject hreason hissue hplan houtcome haccepts =>
    have hentry := (Progression.planned_of_planRejection hplan).1.entry_issueId
    exact hdb.transitioned author (storedIssue?_of_issue_eq_ok hdb hissue)
      (hentry.trans cursorFor_issueId) haccepts.fresh

end Database

end ReviewPipeline
