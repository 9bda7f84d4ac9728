import ReviewPipeline.Stamp
import ReviewPipeline.Vocabulary

/-!
# Issues

An issue carries a title and the coarse work status that dashboards read. The pipeline moves the
work status along with the issue's place among the steps.
-/

namespace ReviewPipeline

/-- The coarse status of an issue. -/
inductive WorkStatus where
  /-- Nobody has worked on the issue. -/
  | todo
  /-- The issue is being worked on. -/
  | inProgress
  /-- The issue waits for a person to review it. -/
  | review
  /-- The last step of the pipeline is completed. -/
  | done
  /-- The issue is blocked; the pipeline never sets this. -/
  | blocked
  deriving DecidableEq, Repr

namespace WorkStatus

/-- The stored word of a work status. -/
def word : WorkStatus → String
  | todo => "todo"
  | inProgress => "in_progress"
  | review => "review"
  | done => "done"
  | blocked => "blocked"

/-- The words and synonyms of work statuses. -/
def vocabulary : Vocabulary WorkStatus where
  label := "work status"
  values := [todo, inProgress, review, done, blocked]
  word := word
  synonyms :=
    [("open", "todo"), ("new", "todo"), ("backlog", "todo"), ("wip", "in_progress"),
      ("active", "in_progress"), ("working", "in_progress"), ("reviewing", "review"),
      ("in_review", "review"), ("closed", "done"), ("complete", "done"), ("completed", "done"),
      ("waiting", "blocked")]

/-- Every stored word is read back as the status it was written for. -/
theorem ofWord?_word (s : WorkStatus) : vocabulary.ofWord? s.word = some s := by
  cases s <;> decide

end WorkStatus

/-- An issue. -/
structure Issue where
  /-- The identifier, which starts with `issue_`. -/
  id : String
  /-- The short identifier, such as `DOCS-3`. -/
  shortId : Option String
  /-- The project the issue belongs to. -/
  projectId : String
  /-- The title. -/
  title : String
  /-- An optional description. -/
  description : Option String
  /-- The coarse status. -/
  workStatus : WorkStatus
  /-- When the issue was created. -/
  createdAt : Int
  /-- When the issue was last changed. -/
  updatedAt : Int
  deriving DecidableEq, Repr

/-- A new issue of a project. -/
def Issue.create (stamp : Stamp) (projectId shortId title : String)
    (description : Option String) : Issue where
  id := stamp.identifier "issue"
  shortId := some shortId
  projectId := projectId
  title := title
  description := description
  workStatus := .todo
  createdAt := stamp.now
  updatedAt := stamp.now

/-- How an issue is called in messages: by its short identifier if it has one. -/
def Issue.label (i : Issue) : String :=
  i.shortId.getD i.id

end ReviewPipeline
