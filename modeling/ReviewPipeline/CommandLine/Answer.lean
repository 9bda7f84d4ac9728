import ReviewPipeline.CommandLine.Command
import ReviewPipeline.Configuration
import ReviewPipeline.Database.Schema
import ReviewPipeline.Encoding
import ReviewPipeline.Timestamp

/-!
# Answers of Commands

What a command answers when it succeeds, before it is put into words, and the JSON form of it. The
same answer is shown to people in `ReviewPipeline.CommandLine.Report`.
-/

namespace ReviewPipeline.CommandLine

/-- What a command answers. -/
inductive Answer where
  /-- A database was made. -/
  | initialized (database : String) (defaultWorkspace : Option String)
  /-- The version. -/
  | version
  /-- A project was created. -/
  | projectCreated (project : Project)
  /-- The projects of a workspace. -/
  | projects (workspace : String) (projects : List Project)
  /-- A project with its catalog. -/
  | project (project : Project) (steps : List Step)
  /-- An issue was created. -/
  | issueCreated (issue : Issue)
  /-- The issues of a project. -/
  | issues (issues : List Issue)
  /-- An issue. -/
  | issue (issue : Issue)
  /-- A step was added to a project. -/
  | stepAdded (step : Step) (project : Project)
  /-- The catalog of a project. -/
  | steps (project : Project) (steps : List Step)
  /-- A step was assigned. -/
  | stepRestaffed (step : Step)
  /-- A step was completed; the names are those of the steps before and after. -/
  | advanced (completion : Completion) (completedName : String) (currentName : Option String)
  /-- A step was rejected; the names are those of the steps before and after. -/
  | rejected (rejection : Rejection) (rejectedName currentName : String)
  /-- Where an issue is. -/
  | status (view : StatusView)
  /-- The ledger of an issue, and the catalog for the names of the steps as far as it can be
  read. -/
  | history (issueId : String) (history : List LedgerEntry) (steps : Except Error (List Step))
  /-- The place of an issue was cleared. -/
  | wasReset (issue : Issue)
  /-- A signal of the gate was recorded. -/
  | gateRecorded (issue : Issue) (status : GateStatus) (cursor : Cursor)
  /-- Completions for a shell. -/
  | completions (shell : Shell)

/-- The version of the program. -/
def programVersion : String := "0.1.0"

/-- The kind of build of the program. -/
def programBuild : String := "dev"

/-- A project as it is listed: its times are dates. -/
def projectMembers (p : Project) : List (String × Json) :=
  [("id", .str p.id),
    ("name", .str p.name),
    ("workspace_id", .str p.workspaceId),
    ("description", Json.ofText? p.description),
    ("issue_prefix", Json.ofText? p.issuePrefix),
    ("next_issue_number", .int p.nextIssueNumber),
    ("created_at", .str (Timestamp.render p.createdAt)),
    ("updated_at", .str (Timestamp.render p.updatedAt))]

/-- How many items a list has, as a member. -/
def countMember {α : Type} (items : List α) : String × Json :=
  ("count", .int items.length)

/-- The JSON form of an answer. -/
def Answer.toJson : Answer → Json
  | initialized database workspace =>
    let members :=
      match workspace with
      | some workspace => [("default_workspace", Json.str workspace)]
      | none => []
    .obj (("database", .str database) :: members)
  | version =>
    .obj
      [("version", .str programVersion),
        ("build", .str programBuild),
        ("schema_version", .int Database.schemaVersion)]
  | projectCreated p => .obj (projectMembers p)
  | projects _ ps =>
    .obj [("projects", .arr (ps.map fun p => .obj (projectMembers p))), countMember ps]
  | project p catalog => .obj (projectMembers p ++ [("steps", .arr (catalog.map Step.toJson))])
  | issueCreated i => i.toJson
  | issues is => .obj [("issues", .arr (is.map Issue.toJson)), countMember is]
  | issue i => i.toJson
  | stepAdded step _ => step.toJson
  | steps p catalog =>
    .obj
      [("project_id", .str p.id), ("steps", .arr (catalog.map Step.toJson)),
        countMember catalog]
  | stepRestaffed step => step.toJson
  | advanced completion _ _ => completion.toJson
  | rejected rejection _ _ => rejection.toJson
  | status view => view.toJson
  | history issueId entries _ =>
    .obj
      [("issue_id", .str issueId), ("history", .arr (entries.map LedgerEntry.toJson)),
        countMember entries]
  | wasReset i => .obj [("issue_id", .str i.id), ("reset", .bool true)]
  | gateRecorded _ _ cursor => cursor.toJson
  | completions _ => .null

/-- An answer as it is told in JSON. This fails only where a path was to be told whose bytes are no
text. -/
def Answer.told (env : Environment) (answer : Answer) : Except Error Json :=
  match answer with
  | .initialized database _ =>
    if env.isText database then .ok answer.toJson else .error .pathNoText
  | answer => .ok answer.toJson

end ReviewPipeline.CommandLine
