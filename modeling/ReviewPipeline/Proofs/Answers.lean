import ReviewPipeline.Proofs.Effects
import ReviewPipeline.Proofs.Rejection

/-!
# What Is Answered Is What the Status Shows

The answer to a completion or a rejection is read off the plan of the transition, while a status is
put together from the tables. The two agree on every consistent database, whatever pointer and
times are stored: what was answered is what the status right before and the status right after the
call show.

## Main definitions

* `StatusView.standing?`: the step that a view counts as current;
* `Move.ShownBy`: two views, from right before and right after, show a transition;
* `Completion.ShownBy`, `Rejection.ShownBy`: they show all of an answer.

## Main results

* `issue_transitioned`: after a transition of an issue, each of its identifiers still names it;
* `complete_shown`, `reject_shown`: what a completion or a rejection answers is shown.
-/

namespace ReviewPipeline

open Progression

/-- The step that a view counts as current. An issue that was not started counts as being at the
first step. -/
def StatusView.standing? (view : StatusView) : Option Step :=
  match view.position with
  | .notStarted => view.steps.head?
  | _ => view.currentStep

/-- The status right before a transition and the one right after it show that transition. -/
structure Move.ShownBy (move : Move) (before after : StatusView) : Prop where
  /-- The issue is the one that was answered. -/
  issueId : after.issue.id = move.issueId
  /-- It is at the step that was answered or, without one, at the end. -/
  position : after.position = move.target.elim .completed .atStep
  /-- The step that was answered is in the catalog, and shown with its place there. -/
  currentStep : ∀ stepId, move.target = some stepId → ∃ index step,
    after.currentStep = some step ∧ step.id = stepId ∧
      after.currentIndex = some index ∧ after.steps[index]? = some step
  /-- The step that was left is the one that was current before. -/
  completedStep : before.standing?.map (·.id) = some move.stepId
  /-- The history has one more entry, which is about that step and the way it ended. -/
  history : ∃ entry, after.history = before.history ++ [entry] ∧
    entry.stepId = move.stepId ∧ entry.result = move.result

/-- The status right before a completion and the one right after it show what it answered. -/
structure Completion.ShownBy (c : Completion) (before after : StatusView) : Prop where
  /-- The transition is shown. -/
  move : Move.ShownBy ⟨c.issueId, c.completedStepId, c.currentStepId, .completed⟩ before after
  /-- The pipeline is at its end iff this was answered. -/
  completedPipeline : c.completedPipeline = true ↔ after.position = .completed
  /-- The current step is a person's iff this was answered. -/
  parked : c.parkedForHumanReview = true ↔
    ∃ step, after.currentStep = some step ∧ step.kind = .humanReview
  /-- An issue that waits for a person is up for review. -/
  review : c.parkedForHumanReview = true → after.issue.workStatus = .review

/-- The status right before a rejection and the one right after it show what it answered. -/
structure Rejection.ShownBy (r : Rejection) (before after : StatusView) : Prop where
  /-- The transition is shown. -/
  move : Move.ShownBy ⟨r.issueId, r.completedStepId, some r.currentStepId, .rejected⟩ before after
  /-- The current step is not a person's. -/
  notParked : ∀ step, after.currentStep = some step → step.kind ≠ .humanReview

namespace Database

variable {db after : Database} {author : Author} {id text : String} {issue : Issue}
  {t : Transition} {place : Place} {agent notes : Option String} {reason : String}
  {completion : Completion} {rejection : Rejection} {now later : Int}

/-! ### Identifiers after a transition -/

/-- A transition changes no short identifier: the rows with one are the same, with the same
marks. -/
theorem withShortId_transitioned :
    (db.transitioned author issue t).withShortId text =
      ({ db with issues := db.withShortId text } : Database).issuesAfter issue.id t.workStatus
        author.stamp.now := by
  unfold transitioned withShortId issuesAfter
  cases t.workStatus with
  | none => rfl
  | some status => exact Row.filter_changeAt_comm fun row => rfl

/-- After a transition of an issue, each of its identifiers still names it. -/
theorem issue_transitioned (hdb : db.Consistent)
    (hafter : (db.transitioned author issue t).Consistent) (hissue : db.issue text = .ok issue) :
    (db.transitioned author issue t).issue text =
      .ok (issue.marked t.workStatus author.stamp.now) := by
  have hstored := storedIssue?_of_issue_eq_ok hdb hissue
  have hissues := storedIssue?_transitioned db author issue t text
  rw [issue_eq hafter, withShortId_transitioned, hissues]
  rw [issue_eq hdb] at hissue
  split at hissue
  · next found hfound =>
    -- The text is the full identifier.
    obtain rfl := Except.ok.inj hissue
    have htext : text = found.id := (id_of_storedIssue? hfound).symm
    rw [if_pos htext, hfound]
    rfl
  · cases hissue
  · next row hnone hshort =>
    -- The text is the short identifier of this issue alone, and no full identifier.
    obtain rfl := Except.ok.inj hissue
    have htext : text ≠ row.record.id := by
      rintro rfl
      rw [hnone] at hstored
      cases hstored
    rw [if_neg htext, hnone, hshort]
    unfold issuesAfter
    cases t.workStatus with
    | none => rfl
    | some status => simp [issuesMarked, Row.changeAt, Issue.marked]
  · cases hissue

/-! ### What is shown -/

/-- A view shows a current step only if the issue is at one, and then it is the step that the
catalog holds under that identifier. -/
theorem currentStep_viewOf :
    (db.viewOf issue now).currentStep =
      match db.positionOf issue.id with
      | .atStep stepId =>
        (locateFrom? stepId 0 (db.storedCatalog issue.projectId)).map (·.step)
      | _ => none := by
  rw [viewOf, stepId_cursorFor]
  cases hpointer : db.pointerOf issue.id with
  | some stepId => rw [positionOf_eq_atStep_iff.2 hpointer, Option.bind_some]
  | none =>
    cases hposition : db.positionOf issue.id with
    | atStep stepId => cases hpointer.symm.trans (positionOf_eq_atStep_iff.1 hposition)
    | notStarted | completed => rfl

/-- What a view counts as current is the step at the place where the issue stands. -/
theorem standing?_viewOf (hdb : db.Consistent)
    (hstands : StandsAt (db.storedCatalog issue.projectId) (db.positionOf issue.id) place) :
    (db.viewOf issue now).standing? = some place.step := by
  have hview : (db.viewOf issue now).position = db.positionOf issue.id := position_cursorFor ..
  rw [StatusView.standing?, hview, currentStep_viewOf]
  cases hposition : db.positionOf issue.id with
  | notStarted =>
    rw [hposition] at hstands
    cases hstands with
    | first hstep => exact List.head?_eq_getElem?.trans hstep
  | completed =>
    rw [hposition] at hstands
    cases hstands
  | atStep stepId =>
    rw [hposition] at hstands
    cases hstands with
    | pointed hstep =>
      have hlocate := locateFrom?_getElem? (nodup_ids_storedCatalog hdb) hstep
      simp only [hlocate, Option.map_some]

/-- The view of an issue right after a transition, said through the view right before it. -/
theorem viewOf_transitioned (hentry : t.entry.issueId = issue.id) :
    (db.transitioned author issue t).viewOf (issue.marked t.workStatus author.stamp.now) later =
      let cursor := (db.cursorFor issue author.stamp.now).apply t.update author.stamp.now
      { issue := issue.marked t.workStatus author.stamp.now
        position := cursor.position
        currentStep := (t.update.stepId.bind fun stepId =>
          locateFrom? stepId 0 (db.storedCatalog issue.projectId)).map (·.step)
        steps := db.storedCatalog issue.projectId
        history := db.history issue.id ++ [t.entry.entry (db.lastSeq + 1)]
        startedAt := cursor.startedAt
        completedAt := cursor.completedAt
        gate := cursor.gate } := by
  have hcursor : (db.transitioned author issue t).cursorFor
      (issue.marked t.workStatus author.stamp.now) later =
        (db.cursorFor issue author.stamp.now).apply t.update author.stamp.now := by
    rw [cursorFor, Issue.marked_id, storedCursor?_transitioned, if_pos rfl, Option.getD_some]
  have hhistory := history_transitioned db author issue t issue.id
  rw [if_pos hentry] at hhistory
  simp only [viewOf, hcursor, Issue.marked_id, Issue.marked_projectId, hhistory]
  rfl

/-- A transition of a stored issue is shown by the statuses right before and right after it, and
the status after it shows what is reported besides. -/
theorem shown_of_planned (hdb : db.Consistent)
    (hplanned : Planned (db.storedCatalog issue.projectId) (db.cursorFor issue author.stamp.now)
      author.stamp t) (now later : Int) :
    let view := (db.transitioned author issue t).viewOf
      (issue.marked t.workStatus author.stamp.now) later
    (t.move issue.id).ShownBy (db.viewOf issue now) view ∧
      (t.completesPipeline = true ↔ view.position = .completed) ∧
      (∀ step, view.currentStep = some step → t.parkedForHumanReview = step.isHumanReview) ∧
      (t.parkedForHumanReview = true →
        view.currentStep.isSome ∧ view.issue.workStatus = .review) := by
  have hids : ((db.storedCatalog issue.projectId).map (·.id)).Nodup := nodup_ids_storedCatalog hdb
  -- Before the call, the issue stands where the plan acts.
  obtain ⟨place, hcurrent, hfrom, hentryStep⟩ := hplanned.exists_place
  rw [ensureStarted_eq_ok_iff hids, position_cursorFor] at hcurrent
  have hstanding : (db.viewOf issue now).standing?.map (·.id) = some t.fromStepId := by
    rw [standing?_viewOf hdb hcurrent, hfrom, Option.map_some]
  have hentry : t.entry.stepId = t.fromStepId := hentryStep.trans hfrom.symm
  -- After the call, it is where the plan leaves it.
  intro view
  have hview : view = _ :=
    viewOf_transitioned (hplanned.entry_issueId.trans cursorFor_issueId)
  have hposition : view.position = t.update.stepId.elim .completed .atStep :=
    (congrArg StatusView.position hview).trans (hplanned.position_apply _)
  have hid : view.issue.id = issue.id := by
    rw [hview, Issue.marked_id]
  have hhistory : view.history = db.history issue.id ++ [t.entry.entry (db.lastSeq + 1)] := by
    rw [hview]
  have hstatus : view.issue.workStatus = t.workStatus.getD issue.workStatus := by
    rw [hview, Issue.marked_workStatus]
  cases landing_of_planned hplanned with
  | atEnd hpointer hfinished hparked =>
    have hnone : view.currentStep = none := by
      rw [hview, hpointer]
      rfl
    refine ⟨⟨hid, hposition, ?_, hstanding, _, hhistory, hentry, rfl⟩, ?_, ?_, ?_⟩
    · intro stepId htarget
      cases hpointer.symm.trans htarget
    · simp [hfinished, hposition, hpointer]
    · simp [hnone]
    · simp [hparked]
  | @atStep index step hstep hpointer hfinished hparked hmark =>
    have hlocate := locateFrom?_getElem? hids hstep
    have hcurrentStep : view.currentStep = some step := by
      rw [hview, hpointer, Option.bind_some, hlocate, Option.map_some]
    have hindex : view.currentIndex = some index := by
      rw [StatusView.currentIndex, hcurrentStep, hview, Option.bind_some, hlocate, Option.map_some]
    refine ⟨⟨hid, hposition, ?_, hstanding, _, hhistory, hentry, rfl⟩, ?_, ?_, ?_⟩
    · intro stepId htarget
      have hsame := Option.some.inj (hpointer.symm.trans htarget)
      exact ⟨index, step, hcurrentStep, hsame, hindex, by rw [hview]; exact hstep⟩
    · simp [hfinished, hposition, hpointer]
    · intro other hother
      rw [hparked, Option.some.inj (hcurrentStep.symm.trans hother)]
    · intro hwaits
      rw [hparked] at hwaits
      -- A person's step is never left unmarked.
      rcases hmark with hmark | ⟨-, hnot, -⟩
      · simp [hcurrentStep, hstatus, hmark, hwaits]
      · cases hnot.symm.trans hwaits

/-- Right before a call and right after it, the issue that an identifier names has these statuses,
whichever of its identifiers is asked for. -/
def Sees (db after : Database) (id : String) (now later : Int) (before view : StatusView) : Prop :=
  ∃ issue, db.issue id = .ok issue ∧ ∀ text, db.issue text = .ok issue →
    db.status text now = .ok before ∧ after.status text later = .ok view

theorem sees_transitioned (hdb : db.Consistent) (hissue : db.issue id = .ok issue)
    (hplanned : Planned (db.storedCatalog issue.projectId) (db.cursorFor issue author.stamp.now)
      author.stamp t) (haccepts : db.Accepts t) (now later : Int) :
    Sees db (db.transitioned author issue t) id now later (db.viewOf issue now)
      ((db.transitioned author issue t).viewOf (issue.marked t.workStatus author.stamp.now)
        later) := by
  have hafter := hdb.transitioned author (storedIssue?_of_issue_eq_ok hdb hissue)
    (hplanned.entry_issueId.trans cursorFor_issueId) haccepts.fresh
  refine ⟨issue, hissue, fun text htext => ⟨status_eq_ok hdb htext, ?_⟩⟩
  exact status_eq_ok hafter (issue_transitioned hdb hafter htext)

theorem complete_shown (hdb : db.Consistent)
    (hcall : db.complete author id agent notes = .ok (completion, after)) (now later : Int) :
    ∃ before view, Sees db after id now later before view ∧ completion.ShownBy before view := by
  obtain ⟨issue, t, hissue, hplan, rfl, haccepts, rfl⟩ := complete_eq_ok hdb hcall
  have hplanned := (planned_of_planCompletion hplan).1
  obtain ⟨hmove, hfinished, hparked, hreview⟩ := shown_of_planned hdb hplanned now later
  rw [Transition.move, result_of_planCompletion hplan] at hmove
  refine ⟨_, _, sees_transitioned hdb hissue hplanned haccepts now later, hmove, hfinished, ?_,
    fun hwaits => (hreview hwaits).2⟩
  constructor
  · intro hwaits
    obtain ⟨step, hstep⟩ := Option.isSome_iff_exists.1 (hreview hwaits).1
    exact ⟨step, hstep, isHumanReview_iff.1 ((hparked step hstep).symm.trans hwaits)⟩
  · rintro ⟨step, hstep, hkind⟩
    exact (hparked step hstep).trans (isHumanReview_iff.2 hkind)

theorem reject_shown (hdb : db.Consistent)
    (hcall : db.reject author id agent reason = .ok (rejection, after)) (now later : Int) :
    ∃ before view, Sees db after id now later before view ∧ rejection.ShownBy before view := by
  obtain ⟨issue, trimmed, t, hissue, -, hplan, hid, hfrom, houtcome, haccepts, rfl⟩ :=
    reject_eq_ok hdb hcall
  have hplanned := (planned_of_planRejection hplan).1
  obtain ⟨hmove, -, hparked, -⟩ := shown_of_planned hdb hplanned now later
  rw [move_of_rejected hplanned houtcome, ← hid, ← hfrom] at hmove
  refine ⟨_, _, sees_transitioned hdb hissue hplanned haccepts now later, hmove, ?_⟩
  -- A rejection never reports that it waits for a person.
  intro step hstep hkind
  have hwaits := (hparked step hstep).trans (isHumanReview_iff.2 hkind)
  simp [Transition.parkedForHumanReview, houtcome] at hwaits

/-- On every consistent database, and so on every one that the schema admits, a completion or a
rejection that succeeds answers what the status right before it and the status right after it
show. -/
theorem answers_shown (db : Database) (hdb : db.Consistent) (author : Author) (id : String)
    (now later : Int) :
    (∀ agent notes completion after,
        db.complete author id agent notes = .ok (completion, after) →
          ∃ before view, Sees db after id now later before view ∧
            completion.ShownBy before view) ∧
      ∀ agent reason rejection after,
        db.reject author id agent reason = .ok (rejection, after) →
          ∃ before view, Sees db after id now later before view ∧ rejection.ShownBy before view :=
  ⟨fun _ _ _ _ hcall => complete_shown hdb hcall now later,
    fun _ _ _ _ hcall => reject_shown hdb hcall now later⟩

/-- The issue at the last of three steps is completed, or sent back over the step of a person;
either answer is shown. -/
theorem answers_shown_rejectionSample :
    rejectionSample.Consistent ∧
      (∃ after before view,
        rejectionSample.complete ⟨"ada", ⟨7, 7⟩⟩ "DOCS-1" none none =
            .ok (⟨"issue", "publish", none, true, false⟩, after) ∧
          Sees rejectionSample after "DOCS-1" 7 8 before view ∧
          Completion.ShownBy ⟨"issue", "publish", none, true, false⟩ before view) ∧
      ∃ after before view,
        rejectionSample.reject ⟨"ada", ⟨7, 7⟩⟩ "DOCS-1" none "typos" =
            .ok (⟨"issue", "publish", "draft"⟩, after) ∧
          Sees rejectionSample after "DOCS-1" 7 8 before view ∧
          Rejection.ShownBy ⟨"issue", "publish", "draft"⟩ before view := by
  have hdb : rejectionSample.Consistent := by
    constructor <;> simp [rejectionSample]
  have hissue : rejectionSample.issue "DOCS-1" =
      .ok ⟨"issue", some "DOCS-1", "docs", "first", none, .review, 2, 2⟩ := by decide +kernel
  have hcatalog : rejectionSample.storedCatalog "docs" =
      [⟨"draft", "docs", 3, "draft", .agentWork, none, true, 3, 3⟩,
        ⟨"approve", "docs", 7, "approve", .humanReview, none, true, 4, 4⟩,
        ⟨"publish", "docs", 9, "publish", .agentWork, some " bob ", true, 5, 5⟩] := by
    simp [storedCatalog, catalogRows, rejectionSample, List.mergeSort]
  have hreason : Text.nonBlank (some "typos") = some "typos" := by decide +kernel
  -- Only the answers are evaluated, as the databases hold sorted lists.
  have hcomplete : (rejectionSample.complete ⟨"ada", ⟨7, 7⟩⟩ "DOCS-1" none none).map (·.1) =
      .ok ⟨"issue", "publish", none, true, false⟩ := by
    rw [complete_eq_of_issue_ok hdb hissue, hcatalog]
    decide +kernel
  have hreject : (rejectionSample.reject ⟨"ada", ⟨7, 7⟩⟩ "DOCS-1" none "typos").map (·.1) =
      .ok ⟨"issue", "publish", "draft"⟩ := by
    rw [reject_eq_of_issue_ok hdb hreason hissue, hcatalog]
    decide +kernel
  obtain ⟨⟨_, after⟩, hcomplete, rfl⟩ := map_eq_ok_iff.1 hcomplete
  obtain ⟨⟨_, after'⟩, hreject, rfl⟩ := map_eq_ok_iff.1 hreject
  obtain ⟨hcompleted, hrejected⟩ :=
    answers_shown rejectionSample hdb ⟨"ada", ⟨7, 7⟩⟩ "DOCS-1" 7 8
  obtain ⟨before, view, hshown⟩ := hcompleted none none _ after hcomplete
  obtain ⟨before', view', hshown'⟩ := hrejected none "typos" _ after' hreject
  exact ⟨hdb, ⟨after, before, view, hcomplete, hshown⟩, after', before', view', hreject, hshown'⟩

end Database

end ReviewPipeline
