import ReviewPipeline.Vocabulary

/-!
# Pipeline Cursors

Each issue has at most one cursor: where it is in its project's pipeline, when it started and
finished, and what the context gate last reported. The pointer to a step is empty both before the
first transition and after the last one; `Cursor.position` tells the two apart.
-/

namespace ReviewPipeline

/-- What the external context gate reported about an issue. -/
inductive GateStatus where
  /-- The gate let the issue pass. -/
  | succeeded
  /-- The gate refused the issue. -/
  | failed
  /-- The gate was skipped. -/
  | bypassed
  deriving DecidableEq, Repr

namespace GateStatus

/-- The stored word of a gate status. -/
def word : GateStatus → String
  | succeeded => "succeeded"
  | failed => "failed"
  | bypassed => "bypassed"

/-- The words and synonyms of gate statuses. -/
def vocabulary : Vocabulary GateStatus where
  label := "gate status"
  values := [succeeded, failed, bypassed]
  word := word
  synonyms :=
    [("ok", "succeeded"), ("pass", "succeeded"), ("passed", "succeeded"), ("success", "succeeded"),
      ("fail", "failed"), ("error", "failed"), ("skip", "bypassed"), ("skipped", "bypassed"),
      ("bypass", "bypassed")]

/-- Every stored word is read back as the status it was written for. -/
theorem ofWord?_word (g : GateStatus) : vocabulary.ofWord? g.word = some g := by
  cases g <;> decide

end GateStatus

/-- The last signal of the context gate. -/
structure GateSnapshot where
  /-- What the gate reported, if it ever did. -/
  status : Option GateStatus := none
  /-- The error message that came with the signal. -/
  error : Option String := none
  /-- When the signal was recorded. -/
  checkedAt : Option Int := none
  deriving DecidableEq, Repr

/-- Where an issue is in its pipeline. -/
inductive Position where
  /-- No transition has happened. -/
  | notStarted
  /-- The pointer names a step. -/
  | atStep (stepId : String)
  /-- The last step was completed. -/
  | completed
  deriving DecidableEq, Repr

/-- The cursor of one issue. -/
structure Cursor where
  /-- The issue. -/
  issueId : String
  /-- The issue's project. -/
  projectId : String
  /-- The step the issue is at. -/
  stepId : Option String
  /-- When the first transition happened. -/
  startedAt : Option Int
  /-- When the last step was completed. -/
  completedAt : Option Int
  /-- The last signal of the context gate. -/
  gate : GateSnapshot
  /-- When the cursor was last written. -/
  updatedAt : Int
  deriving DecidableEq, Repr

namespace Cursor

/-- The cursor of an issue that no transition has touched. -/
def notStarted (issueId projectId : String) (now : Int) : Cursor where
  issueId := issueId
  projectId := projectId
  stepId := none
  startedAt := none
  completedAt := none
  gate := {}
  updatedAt := now

/-- The position that the pointer and the time of completion stand for. -/
def position (c : Cursor) : Position :=
  match c.stepId, c.completedAt with
  | some stepId, _ => .atStep stepId
  | none, some _ => .completed
  | none, none => .notStarted

end Cursor

/-- What a transition writes into a cursor. The gate's signal is not among it. -/
structure CursorUpdate where
  /-- The new pointer. -/
  stepId : Option String
  /-- The time of the first transition; a stored one is kept. -/
  startedAt : Option Int
  /-- The time of completion; a stored one is kept. -/
  completedAt : Option Int
  deriving DecidableEq, Repr

/-- A cursor after an update: the pointer is replaced, a time that is set stays. -/
def Cursor.apply (c : Cursor) (update : CursorUpdate) (now : Int) : Cursor :=
  { c with
    stepId := update.stepId
    startedAt := c.startedAt.or update.startedAt
    completedAt := c.completedAt.or update.completedAt
    updatedAt := now }

end ReviewPipeline
