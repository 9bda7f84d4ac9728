import ReviewPipeline.Audit
import ReviewPipeline.Error
import ReviewPipeline.Json.Record
import ReviewPipeline.Project
import ReviewPipeline.Status
import ReviewPipeline.Transitions

/-!
# Records as JSON

How each record is written as JSON, and how it is read back. Every field is written, with `null`
for an empty one; the words of closed vocabularies are those under which they are stored.
-/

namespace ReviewPipeline

open Json

/-! ## Projects -/

namespace Project

/-- The names of the fields, in the order in which they are written. -/
def fieldNames : List String :=
  ["id", "name", "workspace_id", "description", "issue_prefix", "next_issue_number",
    "created_at", "updated_at"]

/-- A project as a record. -/
def toJson (p : Project) : Json :=
  .obj
    [("id", .str p.id),
      ("name", .str p.name),
      ("workspace_id", .str p.workspaceId),
      ("description", ofText? p.description),
      ("issue_prefix", ofText? p.issuePrefix),
      ("next_issue_number", .int p.nextIssueNumber),
      ("created_at", .int p.createdAt),
      ("updated_at", .int p.updatedAt)]

/-- Read a project from a record, with `number?` for the number of the next issue, which is one
if it is left out. -/
def ofJsonWith? (number? : Json → Option Int) (value : Json) : Option Project := do
  let fields ← value.fields? fieldNames
  return {
    id := ← fields.required "id" text?
    name := ← fields.required "name" text?
    workspaceId := ← fields.required "workspace_id" text?
    description := ← fields.optional "description" text?
    issuePrefix := ← fields.optional "issue_prefix" text?
    nextIssueNumber := ← fields.withDefault "next_issue_number" number? 1
    createdAt := ← fields.required "created_at" int64?
    updatedAt := ← fields.required "updated_at" int64? }

/-- Read a project from a record; the number of the next issue has to fit into 32 bits. -/
def ofJson? : Json → Option Project :=
  ofJsonWith? int32?

end Project

/-! ## Issues -/

namespace Issue

/-- The names of the fields, in the order in which they are written. -/
def fieldNames : List String :=
  ["id", "short_id", "project_id", "title", "description", "work_status", "created_at",
    "updated_at"]

/-- An issue as a record. -/
def toJson (i : Issue) : Json :=
  .obj
    [("id", .str i.id),
      ("short_id", ofText? i.shortId),
      ("project_id", .str i.projectId),
      ("title", .str i.title),
      ("description", ofText? i.description),
      ("work_status", .str i.workStatus.word),
      ("created_at", .int i.createdAt),
      ("updated_at", .int i.updatedAt)]

/-- Read an issue from a record. -/
def ofJson? (value : Json) : Option Issue := do
  let fields ← value.fields? fieldNames
  return {
    id := ← fields.required "id" text?
    shortId := ← fields.optional "short_id" text?
    projectId := ← fields.required "project_id" text?
    title := ← fields.required "title" text?
    description := ← fields.optional "description" text?
    workStatus := ← fields.required "work_status" (word? WorkStatus.vocabulary)
    createdAt := ← fields.required "created_at" int64?
    updatedAt := ← fields.required "updated_at" int64? }

end Issue

/-! ## Steps -/

namespace Step

/-- The names of the fields, in the order in which they are written. -/
def fieldNames : List String :=
  ["id", "project_id", "step_number", "name", "step_type", "assigned_agent_id", "auto_advance",
    "created_at", "updated_at"]

/-- A step as a record. -/
def toJson (s : Step) : Json :=
  .obj
    [("id", .str s.id),
      ("project_id", .str s.projectId),
      ("step_number", .int s.number),
      ("name", .str s.name),
      ("step_type", .str s.kind.word),
      ("assigned_agent_id", ofText? s.assignee),
      ("auto_advance", .bool s.autoAdvance),
      ("created_at", .int s.createdAt),
      ("updated_at", .int s.updatedAt)]

/-- Read a step from a record. -/
def ofJson? (value : Json) : Option Step := do
  let fields ← value.fields? fieldNames
  return {
    id := ← fields.required "id" text?
    projectId := ← fields.required "project_id" text?
    number := ← fields.required "step_number" int64?
    name := ← fields.required "name" text?
    kind := ← fields.required "step_type" (word? StepKind.vocabulary)
    assignee := ← fields.optional "assigned_agent_id" text?
    autoAdvance := ← fields.required "auto_advance" truth?
    createdAt := ← fields.required "created_at" int64?
    updatedAt := ← fields.required "updated_at" int64? }

end Step

/-! ## Cursors -/

namespace GateSnapshot

/-- The names of the fields, in the order in which they are written. -/
def fieldNames : List String := ["status", "error", "checked_at"]

/-- A gate signal as a record. -/
def toJson (g : GateSnapshot) : Json :=
  .obj
    [("status", ofText? (g.status.map GateStatus.word)),
      ("error", ofText? g.error),
      ("checked_at", ofInt? g.checkedAt)]

/-- Read a gate signal from a record. -/
def ofJson? (value : Json) : Option GateSnapshot := do
  let fields ← value.fields? fieldNames
  return {
    status := ← fields.optional "status" (word? GateStatus.vocabulary)
    error := ← fields.optional "error" text?
    checkedAt := ← fields.optional "checked_at" int64? }

end GateSnapshot

namespace Position

/-- A position as a record. -/
def toJson : Position → Json
  | notStarted => .obj [("kind", .str "not_started")]
  | atStep stepId => .obj [("kind", .str "at_step"), ("step_id", .str stepId)]
  | completed => .obj [("kind", .str "completed")]

end Position

namespace Cursor

/-- The names of the fields, in the order in which they are written. -/
def fieldNames : List String :=
  ["issue_id", "project_id", "current_pipeline_step_id", "pipeline_started_at",
    "pipeline_completed_at", "gate", "updated_at"]

/-- A cursor as a record. -/
def toJson (c : Cursor) : Json :=
  .obj
    [("issue_id", .str c.issueId),
      ("project_id", .str c.projectId),
      ("current_pipeline_step_id", ofText? c.stepId),
      ("pipeline_started_at", ofInt? c.startedAt),
      ("pipeline_completed_at", ofInt? c.completedAt),
      ("gate", c.gate.toJson),
      ("updated_at", .int c.updatedAt)]

/-- Read a cursor from a record; the gate has given no signal if it is left out. -/
def ofJson? (value : Json) : Option Cursor := do
  let fields ← value.fields? fieldNames
  return {
    issueId := ← fields.required "issue_id" text?
    projectId := ← fields.required "project_id" text?
    stepId := ← fields.optional "current_pipeline_step_id" text?
    startedAt := ← fields.optional "pipeline_started_at" int64?
    completedAt := ← fields.optional "pipeline_completed_at" int64?
    gate := ← fields.withDefault "gate" GateSnapshot.ofJson? {}
    updatedAt := ← fields.required "updated_at" int64? }

end Cursor

/-! ## The ledger and the audit log -/

namespace LedgerEntry

/-- The names of the fields, in the order in which they are written. -/
def fieldNames : List String :=
  ["seq", "id", "issue_id", "step_id", "agent_id", "started_at", "completed_at", "result",
    "notes"]

/-- A ledger entry as a record. -/
def toJson (e : LedgerEntry) : Json :=
  .obj
    [("seq", .int e.seq),
      ("id", .str e.id),
      ("issue_id", .str e.issueId),
      ("step_id", .str e.stepId),
      ("agent_id", ofText? e.agentId),
      ("started_at", .int e.startedAt),
      ("completed_at", .int e.completedAt),
      ("result", .str e.result.word),
      ("notes", ofText? e.notes)]

/-- Read a ledger entry from a record. -/
def ofJson? (value : Json) : Option LedgerEntry := do
  let fields ← value.fields? fieldNames
  return {
    seq := ← fields.required "seq" int64?
    id := ← fields.required "id" text?
    issueId := ← fields.required "issue_id" text?
    stepId := ← fields.required "step_id" text?
    agentId := ← fields.optional "agent_id" text?
    startedAt := ← fields.required "started_at" int64?
    completedAt := ← fields.required "completed_at" int64?
    result := ← fields.required "result" (word? StepResult.vocabulary)
    notes := ← fields.optional "notes" text? }

end LedgerEntry

namespace Event

/-- The names of the fields, in the order in which they are written. -/
def fieldNames : List String :=
  ["id", "entity_type", "entity_id", "event_type", "actor", "old_value", "new_value", "comment",
    "created_at"]

/-- An audit event as a record. -/
def toJson (e : Event) : Json :=
  .obj
    [("id", .int e.id),
      ("entity_type", .str e.entityType),
      ("entity_id", .str e.entityId),
      ("event_type", .str e.kind.word),
      ("actor", .str e.actor),
      ("old_value", ofText? e.oldValue),
      ("new_value", ofText? e.newValue),
      ("comment", ofText? e.comment),
      ("created_at", .int e.createdAt)]

/-- Read an audit event from a record. -/
def ofJson? (value : Json) : Option Event := do
  let fields ← value.fields? fieldNames
  return {
    id := ← fields.required "id" int64?
    entityType := ← fields.required "entity_type" text?
    entityId := ← fields.required "entity_id" text?
    kind := ← fields.required "event_type" (word? EventKind.vocabulary)
    actor := ← fields.required "actor" text?
    oldValue := ← fields.optional "old_value" text?
    newValue := ← fields.optional "new_value" text?
    comment := ← fields.optional "comment" text?
    createdAt := ← fields.required "created_at" int64? }

end Event

/-! ## Answers -/

/-- A completion as a record. -/
def Completion.toJson (c : Completion) : Json :=
  .obj
    [("issue_id", .str c.issueId),
      ("completed_step_id", .str c.completedStepId),
      ("current_pipeline_step_id", ofText? c.currentStepId),
      ("completed_pipeline", .bool c.completedPipeline),
      ("parked_for_human_review", .bool c.parkedForHumanReview)]

/-- A rejection as a record. -/
def Rejection.toJson (r : Rejection) : Json :=
  .obj
    [("issue_id", .str r.issueId),
      ("completed_step_id", .str r.completedStepId),
      ("current_pipeline_step_id", .str r.currentStepId)]

namespace StatusView

/-- The part of an issue that a view shows. -/
def issueSummary (i : Issue) : Json :=
  .obj
    [("id", .str i.id),
      ("short_id", ofText? i.shortId),
      ("project_id", .str i.projectId),
      ("title", .str i.title),
      ("work_status", .str i.workStatus.word)]

/-- The members of a view. -/
def members (v : StatusView) : List (String × Json) :=
  [("issue", issueSummary v.issue),
    ("position", v.position.toJson),
    ("current_step", match v.currentStep with | some step => step.toJson | none => .null),
    ("steps", .arr (v.steps.map Step.toJson)),
    ("history", .arr (v.history.map LedgerEntry.toJson)),
    ("pipeline_started_at", ofInt? v.startedAt),
    ("pipeline_completed_at", ofInt? v.completedAt),
    ("gate", v.gate.toJson)]

/-- A view as a record. -/
def toJson (v : StatusView) : Json :=
  .obj v.members

end StatusView

/-- What a machine is told about an error. -/
def Error.toJson (e : Error) : Json :=
  let hint :=
    match e.hint with
    | some hint => [("hint", Json.str hint)]
    | none => []
  .obj
    [("error", .obj
      ([("code", .str e.code.word),
        ("message", .str e.message),
        ("retryable", .bool e.code.isRetryable),
        ("exit_code", .int e.exitCode)] ++ hint))]

end ReviewPipeline
