import ReviewPipeline.Database.Query
import ReviewPipeline.Progression

/-!
# Where an Issue Is

The view of one issue's pipeline: its position, the catalog, the ledger and the gate's signal.
Looking never writes.
-/

namespace ReviewPipeline

/-- The view of one issue's pipeline. -/
structure StatusView where
  /-- The issue. -/
  issue : Issue
  /-- Where the issue is. -/
  position : Position
  /-- The step the pointer names, if there is a pointer and the catalog holds its step. -/
  currentStep : Option Step
  /-- The catalog. -/
  steps : List Step
  /-- The ledger entries of the issue. -/
  history : List LedgerEntry
  /-- When the pipeline was started. -/
  startedAt : Option Int
  /-- When the pipeline was completed. -/
  completedAt : Option Int
  /-- The gate's signal. -/
  gate : GateSnapshot
  deriving DecidableEq, Repr

/-- The place of the current step in the catalog. -/
def StatusView.currentIndex (view : StatusView) : Option Nat :=
  view.currentStep.bind fun step =>
    (Progression.locateFrom? step.id 0 view.steps).map (·.index)

namespace Database

/-- Look where an issue is. -/
def status (db : Database) (issueId : String) (now : Int) : Except Error StatusView := do
  let issue ← db.issue issueId
  let steps ← db.catalog issue.projectId
  let cursor ← db.cursorOrFresh issue now
  let place := cursor.stepId.bind fun stepId => Progression.locateFrom? stepId 0 steps
  return {
    issue := issue
    position := cursor.position
    currentStep := place.map (·.step)
    steps := steps
    history := db.history issue.id
    startedAt := cursor.startedAt
    completedAt := cursor.completedAt
    gate := cursor.gate }

end Database

end ReviewPipeline
