import ReviewPipeline.Vocabulary

/-!
# The Audit Log

Every change is recorded with the one who made it. The audit log is for operators; the record of
what happened to an issue is the ledger of transitions.
-/

namespace ReviewPipeline

/-- What an audit event reports. -/
inductive EventKind where
  /-- A project was created. -/
  | projectCreated
  /-- An issue was created. -/
  | issueCreated
  /-- The work status of an issue changed. -/
  | issueStatusChanged
  /-- A step was added to a catalog. -/
  | stepAdded
  /-- A step was assigned to another agent. -/
  | stepRestaffed
  /-- A step was completed. -/
  | stepCompleted
  /-- A step was rejected. -/
  | stepRejected
  /-- The last step of an issue was completed. -/
  | pipelineCompleted
  /-- The cursor of an issue was cleared. -/
  | pipelineReset
  /-- The context gate reported. -/
  | gateRecorded
  deriving DecidableEq, Repr

namespace EventKind

/-- The stored word of an event kind. -/
def word : EventKind → String
  | projectCreated => "project_created"
  | issueCreated => "issue_created"
  | issueStatusChanged => "issue_status_changed"
  | stepAdded => "step_added"
  | stepRestaffed => "step_restaffed"
  | stepCompleted => "pipeline_step_completed"
  | stepRejected => "pipeline_step_rejected"
  | pipelineCompleted => "pipeline_completed"
  | pipelineReset => "pipeline_reset"
  | gateRecorded => "gate_recorded"

/-- The words of event kinds; there are no synonyms. -/
def vocabulary : Vocabulary EventKind where
  label := "event type"
  values :=
    [projectCreated, issueCreated, issueStatusChanged, stepAdded, stepRestaffed, stepCompleted,
      stepRejected, pipelineCompleted, pipelineReset, gateRecorded]
  word := word
  synonyms := []

/-- Every stored word is read back as the kind it was written for. -/
theorem ofWord?_word (k : EventKind) : vocabulary.ofWord? k.word = some k := by
  cases k <;> decide

end EventKind

/-- An event to be written. -/
structure EventDraft where
  /-- The kind of thing the event is about: a project, an issue or a step. -/
  entityType : String
  /-- The identifier of that thing. -/
  entityId : String
  /-- What happened. -/
  kind : EventKind
  /-- The value before the change. -/
  oldValue : Option String := none
  /-- The value after the change. -/
  newValue : Option String := none
  /-- A free comment. -/
  comment : Option String := none
  deriving DecidableEq, Repr

/-- A written event. -/
structure Event where
  /-- The place in the order of writing. -/
  id : Int
  /-- The kind of thing the event is about. -/
  entityType : String
  /-- The identifier of that thing. -/
  entityId : String
  /-- What happened. -/
  kind : EventKind
  /-- Who made the change. -/
  actor : String
  /-- The value before the change. -/
  oldValue : Option String
  /-- The value after the change. -/
  newValue : Option String
  /-- A free comment. -/
  comment : Option String
  /-- When the change was made. -/
  createdAt : Int
  deriving DecidableEq, Repr

/-- The event that a draft becomes under a number, for an actor at a time. -/
def EventDraft.event (d : EventDraft) (id : Int) (actor : String) (now : Int) : Event where
  id := id
  entityType := d.entityType
  entityId := d.entityId
  kind := d.kind
  actor := actor
  oldValue := d.oldValue
  newValue := d.newValue
  comment := d.comment
  createdAt := now

end ReviewPipeline
