import ReviewPipeline.Cursor
import ReviewPipeline.Error
import ReviewPipeline.Issue
import ReviewPipeline.Ledger
import ReviewPipeline.Step

/-!
# Progression through a Catalog

What a completion and a rejection do to an issue, as plans: given the catalog in order, the
issue's cursor and the time, a plan says which entry the ledger gets, what the cursor becomes and
which work status the issue takes. Carrying a plan out is left to `ReviewPipeline.Transitions`.

A completion moves on only from a step that advances by itself and does not wait for a person; a
rejection goes back to the nearest earlier step that does not wait for a person.
-/

namespace ReviewPipeline

/-- A step of a catalog together with its place in it. -/
structure Place where
  /-- The place, counted from zero. -/
  index : Nat
  /-- The step at that place. -/
  step : Step
  deriving DecidableEq, Repr

/-- What a transition did to the pointer. -/
inductive Outcome where
  /-- It moved on to the next step; `parked` if that one waits for a person. -/
  | advanced (target : String) (parked : Bool)
  /-- It stayed on the completed step; `parked` if that one waits for a person. -/
  | held (parked : Bool)
  /-- The last step was completed. -/
  | finished
  /-- It moved back. -/
  | rejected (target : String)
  deriving DecidableEq, Repr

/-- A planned transition. -/
structure Transition where
  /-- The step that is current before the transition. -/
  fromStepId : String
  /-- The entry that the ledger gets. -/
  entry : LedgerDraft
  /-- What is written into the cursor. -/
  update : CursorUpdate
  /-- The work status that the issue takes, if it changes at all. -/
  workStatus : Option WorkStatus
  /-- What happens to the pointer. -/
  outcome : Outcome
  deriving DecidableEq, Repr

namespace Transition

/-- Whether the issue waits for a person after a completion. -/
def parkedForHumanReview (t : Transition) : Bool :=
  match t.outcome with
  | .advanced _ parked | .held parked => parked
  | _ => false

/-- Whether the transition finishes the pipeline. -/
def completesPipeline (t : Transition) : Bool :=
  match t.outcome with
  | .finished => true
  | _ => false

end Transition

namespace Progression

/-- The first place at or after `index` that holds the step `stepId`. -/
def locateFrom? (stepId : String) : (index : Nat) → (steps : List Step) → Option Place
  | _, [] => none
  | index, step :: steps =>
    if step.id = stepId then some ⟨index, step⟩ else locateFrom? stepId (index + 1) steps

/-- The place of a step in a catalog; a pointer that names no step of the catalog is stale. -/
def locate (steps : List Step) (stepId : String) : Except Error Place :=
  match locateFrom? stepId 0 steps with
  | some place => .ok place
  | none => .error (.stalePointer stepId)

/-- The place that a completion acts on. An issue that was never started counts as being at the
first step. -/
def ensureStarted (steps : List Step) (cursor : Cursor) : Except Error Place :=
  match cursor.position with
  | .notStarted =>
    match steps with
    | step :: _ => .ok ⟨0, step⟩
    | [] => .error (.noPipelineSteps cursor.projectId)
  | .atStep stepId => locate steps stepId
  | .completed => .error (.alreadyCompleted cursor.issueId)

/-- The agent that acts on a step: the one named, else the one assigned, blanks aside. -/
def effectiveAgent (named : Option String) (step : Step) : Option String :=
  (Text.nonBlank named).or (Text.nonBlank step.assignee)

/-- The last place among the first `count` whose step does not wait for a person. -/
def lastActionable (steps : List Step) : (count : Nat) → Option Nat
  | 0 => none
  | count + 1 =>
    match steps[count]? with
    | some step => if step.isHumanReview then lastActionable steps count else some count
    | none => lastActionable steps count

/-- The last place before `index` whose step does not wait for a person. An index past the end
of the catalog looks at all of it. -/
def previousActionable (steps : List Step) (index : Nat) : Option Nat :=
  lastActionable steps (min index steps.length)

/-- The ledger entry for the step at hand. -/
def draft (stamp : Stamp) (cursor : Cursor) (step : Step) (agent : Option String)
    (result : StepResult) (notes : Option String) : LedgerDraft where
  id := stamp.identifier "hist"
  issueId := cursor.issueId
  stepId := step.id
  agentId := effectiveAgent agent step
  time := stamp.now
  result := result
  notes := notes

/-- Where a completion of `step` leads, with `next` the step after it, if there is one. -/
def completionOutcome (step : Step) (next : Option Step) : Outcome :=
  match next with
  | none => .finished
  | some next =>
    if step.autoAdvance && !step.isHumanReview then .advanced next.id next.isHumanReview
    else .held step.isHumanReview

/-- Plan the completion of the current step. -/
def planCompletion (steps : List Step) (cursor : Cursor) (agent notes : Option String)
    (stamp : Stamp) : Except Error Transition :=
  match ensureStarted steps cursor with
  | .error e => .error e
  | .ok place =>
    let step := place.step
    let outcome := completionOutcome step steps[place.index + 1]?
    let entry := draft stamp cursor step agent .completed notes
    let startedAt := cursor.startedAt.or (some stamp.now)
    match outcome with
    | .advanced target parked =>
      .ok
        { fromStepId := step.id
          entry
          update := ⟨some target, startedAt, cursor.completedAt⟩
          workStatus := some (if parked then .review else .inProgress)
          outcome }
    | .finished =>
      .ok
        { fromStepId := step.id
          entry
          update := ⟨none, startedAt, some stamp.now⟩
          workStatus := some .done
          outcome }
    | .held _ | .rejected _ =>
      .ok
        { fromStepId := step.id
          entry
          update := ⟨some step.id, startedAt, cursor.completedAt⟩
          workStatus := if step.isHumanReview then some .review else none
          outcome }

/-- Plan the rejection of the current step. -/
def planRejection (steps : List Step) (cursor : Cursor) (agent : Option String)
    (reason : String) (stamp : Stamp) : Except Error Transition :=
  match cursor.stepId with
  | none => .error (.noCurrentStep cursor.issueId)
  | some stepId =>
    match locate steps stepId with
    | .error e => .error e
    | .ok place =>
      -- The first step has an error of its own, and is not merely without a step before it.
      if place.index = 0 then .error (.firstStepRejected place.step.id)
      else
        match (previousActionable steps place.index).bind (steps[·]?) with
        | none => .error (.noActionableStep place.step.id)
        | some target =>
          .ok
            { fromStepId := place.step.id
              entry := draft stamp cursor place.step agent .rejected (some reason)
              update := ⟨some target.id, cursor.startedAt, cursor.completedAt⟩
              workStatus := some .inProgress
              outcome := .rejected target.id }

end Progression

end ReviewPipeline
