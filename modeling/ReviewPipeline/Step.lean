import ReviewPipeline.Stamp
import ReviewPipeline.Vocabulary

/-!
# Pipeline Steps

The steps of a project, in the order of their numbers, form its catalog: the stages that every
issue of the project goes through. A step never changes, except for the agent it is assigned to.
-/

namespace ReviewPipeline

/-- The kind of work that a step stands for. -/
inductive StepKind where
  /-- An agent works on the issue. -/
  | agentWork
  /-- An agent reviews the issue. -/
  | agentReview
  /-- A person reviews the issue. -/
  | humanReview
  deriving DecidableEq, Repr

namespace StepKind

/-- The stored word of a step kind. -/
def word : StepKind → String
  | agentWork => "agent_work"
  | agentReview => "agent_review"
  | humanReview => "human_review"

/-- The words and synonyms of step kinds. -/
def vocabulary : Vocabulary StepKind where
  label := "step type"
  values := [agentWork, agentReview, humanReview]
  word := word
  synonyms :=
    [("work", "agent_work"), ("agent", "agent_work"), ("build", "agent_work"),
      ("draft", "agent_work"), ("review", "agent_review"), ("agent-review", "agent_review"),
      ("qa", "agent_review"), ("human", "human_review"), ("human-review", "human_review"),
      ("approval", "human_review"), ("approve", "human_review"), ("signoff", "human_review"),
      ("gate", "human_review")]

/-- Whether a step of this kind always parks the pipeline and is never a place to send an issue
back to. -/
def isGate : StepKind → Bool
  | humanReview => true
  | _ => false

/-- Every stored word is read back as the kind it was written for. -/
theorem ofWord?_word (k : StepKind) : vocabulary.ofWord? k.word = some k := by
  cases k <;> decide

end StepKind

/-- A step of a project's pipeline. -/
structure Step where
  /-- The identifier, which starts with `step_`. -/
  id : String
  /-- The project that owns the step. -/
  projectId : String
  /-- The key that orders the steps of a project. -/
  number : Int
  /-- The name shown to people. -/
  name : String
  /-- The kind of work. -/
  kind : StepKind
  /-- The agent that acts when the caller names none. -/
  assignee : Option String
  /-- Whether completing the step moves straight on to the next one. -/
  autoAdvance : Bool
  /-- When the step was created. -/
  createdAt : Int
  /-- When the step was last changed. -/
  updatedAt : Int
  deriving DecidableEq, Repr

/-- Whether a step waits for a person to review the issue. -/
def Step.isHumanReview (s : Step) : Bool :=
  s.kind.isGate

end ReviewPipeline
