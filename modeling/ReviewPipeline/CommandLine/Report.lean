import ReviewPipeline.CommandLine.Answer
import ReviewPipeline.CommandLine.Style

/-!
# Reports for People

The lines in which a terminal shows the answer of a command.
-/

namespace ReviewPipeline.CommandLine

/-- Lines, each with its end. -/
def unlines (lines : List String) : String :=
  String.join (lines.map (· ++ "\n"))

/-- A line with an optional text, or no line at all. -/
def optionalLine (before : String) (text : Option String) : List String :=
  match text with
  | some text => [before ++ text]
  | none => []

namespace Report

/-- The mark of a work status in a list. -/
def statusMark : WorkStatus → String
  | .todo => "○"
  | .inProgress => "●"
  | .review => "◐"
  | .done => "✓"
  | .blocked => "⊘"

/-- Whether a step moves on by itself, in a word. -/
def advanceWord (s : Step) : String :=
  if s.autoAdvance then "auto" else "manual"

/-- A step as a line of a catalog. -/
def catalogLine (s : Step) : String :=
  "  " ++ Text.padLeft 3 (Text.showInt s.number) ++ ". " ++ s.name ++ " [" ++ s.kind.word ++ ", "
    ++ advanceWord s ++ "]"

/-- A line that counts what follows. -/
def countLine (what : String) (count : Nat) (unit : String) : String :=
  what ++ " (" ++ Text.showNat count ++ " " ++ unit ++ "):"

/-- The report on a new database. -/
def initialized (database : String) (workspace : Option String) : List String :=
  ["Initialized pipectl database", "  Database: " ++ database]
    ++ optionalLine "  Default workspace: " workspace

/-- The report on the version. -/
def version : List String :=
  ["pipectl version " ++ programVersion ++ " (" ++ programBuild ++ ", schema v"
    ++ Text.showNat Database.schemaVersion ++ ")"]

/-- The report on a new project. -/
def projectCreated (p : Project) : List String :=
  ["Created project: " ++ p.name, "  ID:        " ++ p.id, "  Workspace: " ++ p.workspaceId]
    ++ optionalLine "  Prefix:    " p.issuePrefix

/-- The report on the projects of a workspace. -/
def projects (workspace : String) (ps : List Project) : List String :=
  if ps.isEmpty then ["No projects in workspace " ++ workspace ++ "."]
  else
    let lines (p : Project) : List String :=
      ["  " ++ p.id ++ " [" ++ p.issuePrefix.getD "-" ++ "] " ++ p.name]
        ++ optionalLine "        " p.description
    [countLine "Projects" ps.length "found", ""] ++ ps.flatMap lines

/-- The report on a project. -/
def project (p : Project) (steps : List Step) : List String :=
  let description :=
    match p.description with
    | some text => ["", text]
    | none => []
  let catalog :=
    if steps.isEmpty then ["No pipeline steps. Add one with 'pipectl step add'."]
    else countLine "Pipeline" steps.length "steps" :: steps.map catalogLine
  [p.name ++ " (" ++ p.id ++ ")", "", "Workspace:  " ++ p.workspaceId]
    ++ optionalLine "Prefix:     " p.issuePrefix
    ++ ["Created:    " ++ Timestamp.render p.createdAt] ++ description ++ [""] ++ catalog

/-- The report on a new issue. -/
def issueCreated (i : Issue) : List String :=
  ["Created issue [" ++ i.label ++ "] " ++ i.title, "  ID: " ++ i.id]

/-- The report on the issues of a project. -/
def issues (is : List Issue) : List String :=
  if is.isEmpty then ["No issues found."]
  else
    let line (i : Issue) : String :=
      statusMark i.workStatus ++ " [" ++ i.label ++ "] " ++ i.title ++ " (" ++ i.workStatus.word
        ++ ")"
    [countLine "Issues" is.length "found", ""] ++ is.map line

/-- The report on an issue. -/
def issue (i : Issue) : List String :=
  let description :=
    match i.description with
    | some text => ["", "Description:", text]
    | none => []
  ["[" ++ i.label ++ "] " ++ i.title, "", "Status:   " ++ i.workStatus.word,
    "Project:  " ++ i.projectId, "Created:  " ++ Timestamp.render i.createdAt] ++ description

/-- The report on a new step. -/
def stepAdded (s : Step) (p : Project) : List String :=
  ["Added step " ++ Text.showInt s.number ++ ". " ++ s.name ++ " [" ++ s.kind.word ++ "] to "
    ++ p.name, "  ID: " ++ s.id]

/-- The report on the catalog of a project. -/
def steps (p : Project) (steps : List Step) : List String :=
  if steps.isEmpty then ["No pipeline steps for " ++ p.name ++ "."]
  else
    let line (s : Step) : String :=
      catalogLine s ++ " agent=" ++ s.assignee.getD "-" ++ " (" ++ s.id ++ ")"
    countLine ("Pipeline for " ++ p.name) steps.length "steps" :: steps.map line

/-- The report on the assignment of a step. -/
def stepRestaffed (s : Step) : List String :=
  match s.assignee with
  | some agent => ["Step " ++ s.name ++ " now assigned to " ++ agent]
  | none => ["Step " ++ s.name ++ " is now unassigned"]

/-- The report on a completion. -/
def advanced (isColored : Bool) (c : Completion) (completedName : String)
    (currentName : Option String) : List String :=
  let paint (style : Style) (s : String) : String := style.paint isColored s
  let second :=
    match c.currentStepId, currentName with
    | some stepId, some currentName =>
      if stepId = c.completedStepId then
        if c.parkedForHumanReview then "  " ++ paint .yellow "Waiting for human review"
        else "  Holding on " ++ completedName ++ " until advanced again"
      else if c.parkedForHumanReview then
        "  Now at " ++ paint .bold currentName ++ " " ++ paint .yellow "(human review)"
      else "  Now at " ++ paint .bold currentName
    | _, _ => "  Pipeline completed"
  [paint .green "✓" ++ " Completed " ++ paint .bold completedName, second]

/-- The report on a rejection. -/
def rejected (isColored : Bool) (rejectedName currentName : String) : List String :=
  [Style.red.paint isColored "✗" ++ " Rejected " ++ Style.bold.paint isColored rejectedName,
    "  Sent back to " ++ Style.bold.paint isColored currentName]

/-- A ledger entry, with the name of its step if the catalog holds it. -/
def entryLines (isColored : Bool) (steps : List Step) (e : LedgerEntry) : List String :=
  let name :=
    match steps.find? (·.id == e.stepId) with
    | some step => step.name
    | none => e.stepId
  let result :=
    match e.result with
    | .completed => Style.green.paint isColored "completed"
    | .rejected => Style.red.paint isColored "rejected"
  ["  " ++ Style.dimmed.paint isColored (Timestamp.render e.completedAt) ++ " " ++ name ++ " "
    ++ result ++ " by " ++ e.agentId.getD "-"] ++ optionalLine "      " e.notes

/-- The position of an issue in words. -/
def positionText (isColored : Bool) (view : StatusView) : String :=
  match view.position with
  | .notStarted => Style.dimmed.paint isColored "not started"
  | .completed => Style.green.paint isColored "completed"
  | .atStep _ =>
    match view.currentStep with
    | some step => step.name
    | none => Style.red.paint isColored "unknown step"

/-- The mark of the step at place `index`: where the issue is, what is behind it, what is not. -/
def marker (isColored : Bool) (view : StatusView) (index : Nat) : String :=
  let passed := Style.dimmed.paint isColored "✓"
  let other := if view.position = .completed then passed else " "
  match view.currentIndex with
  | some current =>
    if current = index then Style.green.paint isColored "▶"
    else if index < current then passed
    else other
  | none => other

/-- A step in a status report. -/
def stepText (s : Step) : String :=
  Text.showInt s.number ++ ". " ++ s.name ++ " [" ++ s.kind.word
    ++ (if s.autoAdvance then "" else ", manual") ++ "]"

/-- The report on where an issue is. -/
def status (isColored : Bool) (view : StatusView) : List String :=
  let gate :=
    match view.gate.status with
    | some status =>
      match view.gate.error with
      | some error => ["Gate: " ++ status.word ++ " (" ++ error ++ ")"]
      | none => ["Gate: " ++ status.word]
    | none => []
  let steps :=
    view.steps.mapIdx fun index step =>
      "  " ++ marker isColored view index ++ " " ++ stepText step
  let history :=
    if view.history.isEmpty then []
    else
      ["", Style.heading.paint isColored "History"]
        ++ view.history.flatMap (entryLines isColored view.steps)
  [Style.bold.paint isColored ("[" ++ view.issue.label ++ "]") ++ " " ++ view.issue.title,
    "Status: " ++ view.issue.workStatus.word, "Position: " ++ positionText isColored view]
    ++ gate ++ ["", Style.heading.paint isColored "Pipeline"] ++ steps ++ history

/-- The report on the ledger of an issue. It needs the catalog only if there is an entry. -/
def history (isColored : Bool) (entries : List LedgerEntry)
    (steps : Except Error (List Step)) : Except Error (List String) :=
  if entries.isEmpty then .ok ["No transitions recorded."]
  else steps.map fun steps => entries.flatMap (entryLines isColored steps)

/-- The report on a cleared place. -/
def wasReset (i : Issue) : List String :=
  ["Reset pipeline for [" ++ i.label ++ "]; history kept"]

/-- The report on a signal of the gate. -/
def gateRecorded (i : Issue) (status : GateStatus) (c : Cursor) : List String :=
  ["Recorded gate " ++ status.word ++ " for [" ++ i.label ++ "]"]
    ++ optionalLine "  Error: " c.gate.error

end Report

/-- The report on an answer. It fails only where it needs names that cannot be read. -/
def Answer.report (isColored : Bool) : Answer → Except Error String
  | initialized database workspace => .ok (unlines (Report.initialized database workspace))
  | version => .ok (unlines Report.version)
  | projectCreated p => .ok (unlines (Report.projectCreated p))
  | projects workspace ps => .ok (unlines (Report.projects workspace ps))
  | project p catalog => .ok (unlines (Report.project p catalog))
  | issueCreated i => .ok (unlines (Report.issueCreated i))
  | issues is => .ok (unlines (Report.issues is))
  | issue i => .ok (unlines (Report.issue i))
  | stepAdded s p => .ok (unlines (Report.stepAdded s p))
  | steps p catalog => .ok (unlines (Report.steps p catalog))
  | stepRestaffed s => .ok (unlines (Report.stepRestaffed s))
  | advanced c completedName currentName =>
    .ok (unlines (Report.advanced isColored c completedName currentName))
  | rejected _ rejectedName currentName =>
    .ok (unlines (Report.rejected isColored rejectedName currentName))
  | status view => .ok (unlines (Report.status isColored view))
  | history _ entries catalog => (Report.history isColored entries catalog).map unlines
  | wasReset i => .ok (unlines (Report.wasReset i))
  | gateRecorded i signal c => .ok (unlines (Report.gateRecorded i signal c))
  | completions _ => .ok ""

end ReviewPipeline.CommandLine
