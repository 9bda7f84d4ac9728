import ReviewPipeline.Stamp
import ReviewPipeline.Vocabulary

/-!
# The Ledger of Transitions

Every completion and every rejection is recorded as one entry of a ledger. Entries are numbered in
the order in which they were written and never change.
-/

namespace ReviewPipeline

/-- How a step ended. -/
inductive StepResult where
  /-- The step was completed. -/
  | completed
  /-- The step was rejected and the issue sent back. -/
  | rejected
  deriving DecidableEq, Repr

namespace StepResult

/-- The stored word of a result. -/
def word : StepResult → String
  | completed => "completed"
  | rejected => "rejected"

/-- The words of results; there are no synonyms. -/
def vocabulary : Vocabulary StepResult where
  label := "step result"
  values := [completed, rejected]
  word := word
  synonyms := []

/-- Every stored word is read back as the result it was written for. -/
theorem ofWord?_word (r : StepResult) : vocabulary.ofWord? r.word = some r := by
  cases r <;> decide

end StepResult

/-- A written entry of the ledger. -/
structure LedgerEntry where
  /-- The place in the order of writing. -/
  seq : Int
  /-- The identifier, which starts with `hist_`. -/
  id : String
  /-- The issue. -/
  issueId : String
  /-- The step that was current when the transition happened. -/
  stepId : String
  /-- The agent that acted. -/
  agentId : Option String
  /-- When the transition began. -/
  startedAt : Int
  /-- When the transition ended. -/
  completedAt : Int
  /-- How the step ended. -/
  result : StepResult
  /-- Notes, or the reason of a rejection. -/
  notes : Option String
  deriving DecidableEq, Repr

/-- An entry to be written. A transition takes no time, so there is one time for its beginning
and its end. -/
structure LedgerDraft where
  /-- The identifier. -/
  id : String
  /-- The issue. -/
  issueId : String
  /-- The step that was current. -/
  stepId : String
  /-- The agent that acted. -/
  agentId : Option String
  /-- When the transition happened. -/
  time : Int
  /-- How the step ended. -/
  result : StepResult
  /-- Notes, or the reason of a rejection. -/
  notes : Option String
  deriving DecidableEq, Repr

/-- The entry that a draft becomes at the place `seq`. -/
def LedgerDraft.entry (d : LedgerDraft) (seq : Int) : LedgerEntry where
  seq := seq
  id := d.id
  issueId := d.issueId
  stepId := d.stepId
  agentId := d.agentId
  startedAt := d.time
  completedAt := d.time
  result := d.result
  notes := d.notes

end ReviewPipeline
