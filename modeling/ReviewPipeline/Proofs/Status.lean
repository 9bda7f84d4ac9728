import ReviewPipeline.Proofs.Database.Names
import ReviewPipeline.Proofs.Progression
import ReviewPipeline.Status

/-!
# What the Status Shows

In a consistent database the status of a stored issue can always be looked at, and it shows what is
stored: the position of the cursor, the catalog, and the history (`status_eq_ok`).
-/

namespace ReviewPipeline.Database

variable {db : Database} {id : String} {issue : Issue} {now : Int}

/-- Where the issue with an identifier is. -/
def positionOf (db : Database) (id : String) : Position :=
  (db.storedCursor? id).elim .notStarted Cursor.position

theorem position_cursorFor (db : Database) (issue : Issue) (now : Int) :
    (db.cursorFor issue now).position = db.positionOf issue.id := by
  unfold cursorFor positionOf
  cases db.storedCursor? issue.id <;> rfl

theorem positionOf_eq {other : Database} (h : other.storedCursor? id = db.storedCursor? id) :
    other.positionOf id = db.positionOf id := by
  rw [positionOf, h, positionOf]

/-- The gate's signal is no part of the position. -/
theorem positionOf_gated {other : Database} {gate : GateSnapshot}
    (h : other.storedCursor? issue.id =
      some { db.cursorFor issue now with gate := gate, updatedAt := now }) :
    other.positionOf issue.id = db.positionOf issue.id := by
  rw [← position_cursorFor db issue now, positionOf, h]
  rfl

/-- The view of a stored issue. -/
def viewOf (db : Database) (issue : Issue) (now : Int) : StatusView :=
  let cursor := db.cursorFor issue now
  { issue := issue
    position := cursor.position
    currentStep := (cursor.stepId.bind fun stepId =>
      Progression.locateFrom? stepId 0 (db.storedCatalog issue.projectId)).map (·.step)
    steps := db.storedCatalog issue.projectId
    history := db.history issue.id
    startedAt := cursor.startedAt
    completedAt := cursor.completedAt
    gate := cursor.gate }

theorem issue_eq_ok_of_stored (h : db.Consistent) (hissue : db.storedIssue? id = some issue) :
    db.issue id = .ok issue := by
  rw [issue_eq h, hissue]

/-- Looking at the status of an issue shows what is stored about it. -/
theorem status_eq_ok (h : db.Consistent) (hissue : db.issue id = .ok issue) :
    db.status id now = .ok (db.viewOf issue now) := by
  unfold status
  rw [hissue]
  simp only [bind, Except.bind, catalog_eq_ok h, cursorOrFresh_eq_ok h, pure, Except.pure]
  rfl

end ReviewPipeline.Database
