import ReviewPipeline.Change
import ReviewPipeline.Progression

/-!
# Transitions

Completing and rejecting the current step of an issue: look up the issue, its catalog and its
cursor, plan the transition, and write it down. The ledger comes first, then the cursor, then the
work status, and at last the audit events.
-/

namespace ReviewPipeline

/-- What a completion answers. -/
structure Completion where
  /-- The issue. -/
  issueId : String
  /-- The step that was current before. -/
  completedStepId : String
  /-- The step that is current now; none if the pipeline is completed. -/
  currentStepId : Option String
  /-- Whether the pipeline is completed. -/
  completedPipeline : Bool
  /-- Whether the issue waits for a person. -/
  parkedForHumanReview : Bool
  deriving DecidableEq, Repr

/-- What a rejection answers. -/
structure Rejection where
  /-- The issue. -/
  issueId : String
  /-- The step that was rejected. -/
  completedStepId : String
  /-- The step that is current now. -/
  currentStepId : String
  deriving DecidableEq, Repr

/-- What a transition of an issue starts from. -/
structure Situation where
  /-- The issue. -/
  issue : Issue
  /-- The catalog of its project. -/
  steps : List Step
  /-- Its cursor. -/
  cursor : Cursor

namespace Database

/-- Look up what a transition starts from. -/
def situation (db : Database) (issueId : String) (now : Int) : Except Error Situation := do
  let issue ← db.issue issueId
  let steps ← db.catalog issue.projectId
  let cursor ← db.cursorOrFresh issue now
  return ⟨issue, steps, cursor⟩

/-- The audit events of a transition: a change of the work status, the step, the end. -/
def transitionEvents (issue : Issue) (t : Transition) : List EventDraft :=
  let about (kind : EventKind) : EventDraft :=
    { entityType := "issue", entityId := issue.id, kind := kind }
  let status :=
    match t.workStatus with
    | some status =>
      if status = issue.workStatus then []
      else
        [{ about .issueStatusChanged with
            oldValue := some issue.workStatus.word
            newValue := some status.word }]
    | none => []
  let kind :=
    match t.outcome with
    | .rejected _ => EventKind.stepRejected
    | _ => EventKind.stepCompleted
  let step :=
    { about kind with
      oldValue := some t.fromStepId
      newValue := t.update.stepId
      comment := t.entry.notes }
  status ++ [step] ++ if t.completesPipeline then [about .pipelineCompleted] else []

/-- Write a planned transition down. -/
def applyTransition (db : Database) (author : Author) (issue : Issue) (t : Transition) :
    Except Error (Unit × Database) := do
  let now := author.stamp.now
  let (_, db) ← db.appendEntry t.entry
  let db ← db.moveCursor issue.id issue.projectId t.update now
  let db ←
    match t.workStatus with
    | some status => db.setWorkStatus issue.id status now
    | none => pure db
  Change.commit ⟨(), transitionEvents issue t, db⟩ author

/-- Complete the current step of an issue. An issue that was never started is at the first step
of the catalog. -/
def complete (db : Database) (author : Author) (issueId : String) (agent notes : Option String) :
    Except Error (Completion × Database) := do
  let s ← db.situation issueId author.stamp.now
  -- An empty catalog is told before a pointer that is stale or past the end.
  if s.steps.isEmpty then
    throw (.noPipelineSteps s.issue.projectId)
  let t ← Progression.planCompletion s.steps s.cursor agent notes author.stamp
  let ((), db) ← db.applyTransition author s.issue t
  let completion : Completion :=
    { issueId := s.issue.id
      completedStepId := t.fromStepId
      currentStepId := t.update.stepId
      completedPipeline := t.completesPipeline
      parkedForHumanReview := t.parkedForHumanReview }
  return (completion, db)

/-- Reject the current step of an issue and send it back. A reason must be given. -/
def reject (db : Database) (author : Author) (issueId : String) (agent : Option String)
    (reason : String) : Except Error (Rejection × Database) := do
  match Text.nonBlank (some reason) with
  | none => throw .blankReason
  | some reason =>
    let s ← db.situation issueId author.stamp.now
    let t ← Progression.planRejection s.steps s.cursor agent reason author.stamp
    let ((), db) ← db.applyTransition author s.issue t
    match t.outcome with
    | .rejected target => return (⟨s.issue.id, t.fromStepId, target⟩, db)
    -- A planned rejection has no other outcome.
    | _ => throw (.other "rejection planned a non-rejection outcome")

end Database

end ReviewPipeline
