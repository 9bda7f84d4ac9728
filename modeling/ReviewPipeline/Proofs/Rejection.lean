import ReviewPipeline.Proofs.Footprint
import ReviewPipeline.Proofs.Status

/-!
# The Specification of Rejections

`RejectionSpec` says what rejecting the current step of an issue has to answer, on any database that
the schema admits and for any arguments. The causes of failure come in a fixed order: the reason is
looked at before the issue, the pointer before the catalog, and nothing is started that was not.

A rejection leads backwards only, and never to a step that waits for a person. `SendsBack` says so
without the search that finds the step.

## Main definitions

* `SendsBack`: one place of a catalog is where a rejection at another leads;
* `RejectionSpec`: the answers that are right.

## Main results

* `planRejection_of_sendsBack`: where a rejection can lead somewhere, it is planned to lead there;
* `rejection_spec`: rejecting a step meets its specification.
-/

namespace ReviewPipeline

open Progression

/-- A rejection at `place` leads to `target`, the nearest earlier place that is no person's. -/
structure SendsBack (steps : List Step) (place target : Place) : Prop where
  /-- The target is a place of the catalog. -/
  step : steps[target.index]? = some target.step
  /-- It comes earlier. -/
  earlier : target.index < place.index
  /-- Its step does not wait for a person. -/
  actionable : target.step.kind ≠ .humanReview
  /-- Every step that is skipped does. -/
  skipped : ∀ j, target.index < j → j < place.index →
    ∀ step, steps[j]? = some step → step.kind = .humanReview

/-- The events that a rejection notes: a change of the work status, and the step. -/
def rejectionEvents (issue : Issue) (step target : Step) (reason : String) : List EventDraft :=
  let about (kind : EventKind) : EventDraft :=
    { entityType := "issue", entityId := issue.id, kind := kind }
  (if issue.workStatus = .inProgress then []
    else
      [{ about .issueStatusChanged with
          oldValue := some issue.workStatus.word
          newValue := some WorkStatus.inProgress.word }]) ++
    [{ about .stepRejected with
        oldValue := some step.id
        newValue := some target.id
        comment := some reason }]

namespace Database

/-- The stored pointer of an issue. -/
def pointerOf (db : Database) (id : String) : Option String :=
  (db.storedCursor? id).bind Cursor.stepId

/-- What rejecting the current step of an issue has to answer. -/
inductive RejectionSpec (db : Database) (author : Author) (id : String) (agent : Option String)
    (reason : String) : Except Error (Rejection × Database) → Prop
  /-- The reason is blank, whatever the identifier names. -/
  | blankReason (hreason : Text.trim reason = "") :
      RejectionSpec db author id agent reason (.error .blankReason)
  /-- The identifier names no issue. -/
  | notFound (hreason : Text.trim reason ≠ "") (hnames : ∀ issue, ¬ db.Names id issue) :
      RejectionSpec db author id agent reason (.error (.issueNotFound id))
  /-- The issue has no pointer: it was never started, or its pipeline is completed. -/
  | noCurrentStep {issue : Issue} (hreason : Text.trim reason ≠ "") (hnames : db.Names id issue)
      (hpointer : db.pointerOf issue.id = none) :
      RejectionSpec db author id agent reason (.error (.noCurrentStep issue.id))
  /-- The pointer names a step outside the catalog. -/
  | stale {issue : Issue} {steps : List Step} {stepId : String} (hreason : Text.trim reason ≠ "")
      (hnames : db.Names id issue) (hcatalog : db.IsCatalog issue.projectId steps)
      (hpointer : db.pointerOf issue.id = some stepId)
      (hmissing : ∀ step ∈ steps, step.id ≠ stepId) :
      RejectionSpec db author id agent reason (.error (.stalePointer stepId))
  /-- The issue is at the first step. -/
  | firstStep {issue : Issue} {steps : List Step} {step : Step} (hreason : Text.trim reason ≠ "")
      (hnames : db.Names id issue) (hcatalog : db.IsCatalog issue.projectId steps)
      (hpointer : db.pointerOf issue.id = some step.id) (hstep : steps[0]? = some step) :
      RejectionSpec db author id agent reason (.error (.firstStepRejected step.id))
  /-- All steps before the current one wait for a person. -/
  | noActionableStep {issue : Issue} {steps : List Step} {place : Place}
      (hreason : Text.trim reason ≠ "") (hnames : db.Names id issue)
      (hcatalog : db.IsCatalog issue.projectId steps)
      (hpointer : db.pointerOf issue.id = some place.step.id)
      (hplace : steps[place.index]? = some place.step) (hfirst : 0 < place.index)
      (hhuman : ∀ j < place.index, ∀ step, steps[j]? = some step → step.kind = .humanReview) :
      RejectionSpec db author id agent reason (.error (.noActionableStep place.step.id))
  /-- The rejection leads somewhere, but a write is blocked or the identifier made for the ledger
  entry is taken. -/
  | refused {issue : Issue} {steps : List Step} {place target : Place} {fault : Fault}
      (hreason : Text.trim reason ≠ "") (hnames : db.Names id issue)
      (hcatalog : db.IsCatalog issue.projectId steps)
      (hpointer : db.pointerOf issue.id = some place.step.id)
      (hplace : steps[place.index]? = some place.step) (hback : SendsBack steps place target)
      (hblocked : ¬ db.Writable author) :
      RejectionSpec db author id agent reason (.error (.database fault))
  /-- The rejection leads somewhere, and the issue is sent there. -/
  | succeeds {issue : Issue} {steps : List Step} {place target : Place} {acting : Option String}
      {after : Database} (hreason : Text.trim reason ≠ "") (hnames : db.Names id issue)
      (hcatalog : db.IsCatalog issue.projectId steps)
      (hpointer : db.pointerOf issue.id = some place.step.id)
      (hplace : steps[place.index]? = some place.step) (hback : SendsBack steps place target)
      (hagent : ActingAgent agent place.step.assignee acting)
      (hfootprint : Footprint db after author issue
        { seq := db.lastSeq + 1
          id := author.stamp.identifier "hist"
          issueId := issue.id
          stepId := place.step.id
          agentId := acting
          startedAt := author.stamp.now
          completedAt := author.stamp.now
          result := .rejected
          notes := some (Text.trim reason) }
        { db.cursorFor issue author.stamp.now with
          stepId := some target.step.id
          updatedAt := author.stamp.now }
        (some .inProgress) (rejectionEvents issue place.step target.step (Text.trim reason))) :
      RejectionSpec db author id agent reason
        (.ok (⟨issue.id, place.step.id, target.step.id⟩, after))

end Database

/-! ### Plans -/

namespace Progression

variable {steps : List Step} {cursor : Cursor} {stamp : Stamp} {agent : Option String}
  {reason stepId : String} {place target : Place}

/-- The transition that sends an issue back from a step to another. -/
def sentBack (stamp : Stamp) (cursor : Cursor) (agent : Option String) (reason : String)
    (step target : Step) : Transition where
  fromStepId := step.id
  entry := draft stamp cursor step agent .rejected (some reason)
  update := ⟨some target.id, cursor.startedAt, cursor.completedAt⟩
  workStatus := some .inProgress
  outcome := .rejected target.id

/-- A place waits iff the step at it, if there is one, is a person's. -/
theorem waits_iff {index : Nat} :
    Waits steps index ↔ ∀ step, steps[index]? = some step → step.kind = .humanReview :=
  forall_congr' fun _ => imp_congr_right fun _ => isHumanReview_iff

/-- The search backwards finds the place to which a rejection leads. -/
theorem previousActionable_of_sendsBack (hplace : steps[place.index]? = some place.step)
    (hback : SendsBack steps place target) :
    previousActionable steps place.index = some target.index := by
  have hlt : place.index < steps.length := (List.getElem?_eq_some_iff.1 hplace).1
  rw [previousActionable_eq_some_iff hlt]
  refine ⟨hback.earlier, ?_, fun j htarget hj => waits_iff.2 (hback.skipped j htarget hj)⟩
  rw [not_waits_iff]
  exact ⟨target.step, hback.step, not_isHumanReview_iff.2 hback.actionable⟩

/-- Where the search backwards finds a place, a rejection leads to it. -/
theorem exists_sendsBack {index : Nat} (hplace : steps[place.index]? = some place.step)
    (h : previousActionable steps place.index = some index) :
    ∃ step, SendsBack steps place ⟨index, step⟩ := by
  have hlt : place.index < steps.length := (List.getElem?_eq_some_iff.1 hplace).1
  rw [previousActionable_eq_some_iff hlt, not_waits_iff] at h
  obtain ⟨hearlier, ⟨step, hstep, hkind⟩, hskipped⟩ := h
  refine ⟨step, hstep, hearlier, not_isHumanReview_iff.1 hkind, ?_⟩
  intro j hj hj'
  exact waits_iff.1 (hskipped j hj hj')

/-- Without a current step there is nothing to reject. -/
theorem planRejection_of_no_pointer (hpointer : cursor.stepId = none) :
    planRejection steps cursor agent reason stamp = .error (.noCurrentStep cursor.issueId) := by
  rw [planRejection, hpointer]

/-- A pointer to a step that is gone is stale. -/
theorem planRejection_of_stale (hpointer : cursor.stepId = some stepId)
    (hmissing : ∀ step ∈ steps, step.id ≠ stepId) :
    planRejection steps cursor agent reason stamp = .error (.stalePointer stepId) := by
  have hlocate : locate steps stepId = .error (.stalePointer stepId) :=
    locate_eq_error_iff.2 ⟨rfl, hmissing⟩
  rw [planRejection, hpointer]
  simp only [hlocate]

section Located

variable (hids : (steps.map (·.id)).Nodup) (hpointer : cursor.stepId = some place.step.id)
  (hplace : steps[place.index]? = some place.step)

include hids hpointer hplace

/-- The first step cannot be rejected. -/
theorem planRejection_of_first (hfirst : place.index = 0) :
    planRejection steps cursor agent reason stamp =
      .error (.firstStepRejected place.step.id) := by
  have hlocate : locate steps place.step.id = .ok place :=
    (locate_eq_ok_iff hids).2 ⟨hplace, rfl⟩
  rw [planRejection, hpointer]
  simp only [hlocate, hfirst, ↓reduceIte]

/-- Where no step before is actionable, there is nowhere to go back to. -/
theorem planRejection_of_waiting (hfirst : place.index ≠ 0)
    (hnone : previousActionable steps place.index = none) :
    planRejection steps cursor agent reason stamp = .error (.noActionableStep place.step.id) := by
  have hlocate : locate steps place.step.id = .ok place :=
    (locate_eq_ok_iff hids).2 ⟨hplace, rfl⟩
  rw [planRejection, hpointer]
  simp only [hlocate, hfirst, hnone, ↓reduceIte, Option.bind_none]

/-- Where a rejection can lead somewhere, it is planned to lead there. -/
theorem planRejection_of_sendsBack (hback : SendsBack steps place target) :
    planRejection steps cursor agent reason stamp =
      .ok (sentBack stamp cursor agent reason place.step target.step) := by
  have hlocate : locate steps place.step.id = .ok place :=
    (locate_eq_ok_iff hids).2 ⟨hplace, rfl⟩
  have hfirst : place.index ≠ 0 := by
    have := hback.earlier
    omega
  rw [planRejection, hpointer]
  simp only [hlocate, hfirst, ↓reduceIte, previousActionable_of_sendsBack hplace hback,
    Option.bind_some, hback.step]
  rfl

end Located

end Progression

/-! ### Rejections -/

namespace Database

variable {db : Database} {author : Author} {id reason : String} {agent : Option String}
  {issue : Issue} {place : Place} {now : Int}

/-- The cursor an issue is worked from points where the stored one does. -/
theorem stepId_cursorFor : (db.cursorFor issue now).stepId = db.pointerOf issue.id := by
  unfold cursorFor pointerOf
  cases db.storedCursor? issue.id <;> rfl

/-- An issue is at a step iff its stored cursor points to it. -/
theorem positionOf_eq_atStep_iff {stepId : String} :
    db.positionOf id = .atStep stepId ↔ db.pointerOf id = some stepId := by
  unfold positionOf pointerOf Cursor.position
  cases db.storedCursor? id with
  | none => simp
  | some cursor =>
    rw [Option.elim_some, Option.bind_some]
    cases cursor.stepId with
    | none => cases cursor.completedAt <;> simp
    | some pointer => simp

/-- A text that is not blank is taken trimmed. -/
theorem nonBlank_of_trim_ne (h : Text.trim reason ≠ "") :
    Text.nonBlank (some reason) = some (Text.trim reason) := by
  simp [Text.nonBlank, Text.isAllBlank, h]

section SentBack

variable {step target : Step} {seq : Int} {stamp : Stamp} {cursor : Cursor}

/-- The events of sending an issue back are those of a rejection. -/
theorem sentBack_events :
    transitionEvents issue (sentBack stamp cursor agent reason step target) =
      rejectionEvents issue step target reason := by
  rw [transitionEvents_eq, rejectionEvents]
  by_cases h : issue.workStatus = .inProgress
  · simp [sentBack, draft, Transition.completesPipeline, h, Option.filter_some]
  · simp [sentBack, draft, Transition.completesPipeline, h, Ne.symm h, Option.filter_some]

theorem sentBack_entry :
    (sentBack stamp cursor agent reason step target).entry.entry seq =
      { seq := seq
        id := stamp.identifier "hist"
        issueId := cursor.issueId
        stepId := step.id
        agentId := effectiveAgent agent step
        startedAt := stamp.now
        completedAt := stamp.now
        result := .rejected
        notes := some reason } := rfl

/-- A cursor that is sent back keeps its times: they are written over themselves. -/
theorem sentBack_apply :
    cursor.apply (sentBack stamp cursor agent reason step target).update now =
      { cursor with stepId := some target.id, updatedAt := now } := by
  simp [Cursor.apply, sentBack]

end SentBack

/-- A rejection that leads somewhere is refused or written down. -/
theorem reject_cases_of_sendsBack {target : Place} (hdb : db.Consistent) (author : Author)
    (agent : Option String) (hreason : Text.trim reason ≠ "") (hissue : db.issue id = .ok issue)
    (hpointer : db.pointerOf issue.id = some place.step.id)
    (hplace : (db.storedCatalog issue.projectId)[place.index]? = some place.step)
    (hback : SendsBack (db.storedCatalog issue.projectId) place target) :
    let t := sentBack author.stamp (db.cursorFor issue author.stamp.now) agent (Text.trim reason)
      place.step target.step
    (∃ fault, db.reject author id agent reason = .error (.database fault) ∧
        ¬ db.Writable author) ∨
      (db.reject author id agent reason =
          .ok (⟨issue.id, place.step.id, target.step.id⟩, db.transitioned author issue t) ∧
        Footprint db (db.transitioned author issue t) author issue
          (t.entry.entry (db.lastSeq + 1))
          ((db.cursorFor issue author.stamp.now).apply t.update author.stamp.now) t.workStatus
          (transitionEvents issue t)) := by
  intro t
  -- The plan is known, so what is left is whether its writes are refused.
  have hplan : planRejection (db.storedCatalog issue.projectId)
      (db.cursorFor issue author.stamp.now) agent (Text.trim reason) author.stamp = .ok t :=
    planRejection_of_sendsBack (nodup_ids_storedCatalog hdb) (stepId_cursorFor.trans hpointer)
      hplace hback
  rw [reject_eq_of_issue_ok hdb (nonBlank_of_trim_ne hreason) hissue, hplan]
  rcases applyTransition_cases hdb author (storedIssue?_of_issue_eq_ok hdb hissue) (t := t)
      cursorFor_issueId rfl with ⟨fault, happly, hblocked⟩ | ⟨happly, hfootprint⟩
  · simp only [bind, Except.bind, happly]
    exact .inl ⟨fault, rfl, hblocked⟩
  · simp only [bind, Except.bind, happly]
    exact .inr ⟨rfl, hfootprint⟩

/-- A rejection that leads somewhere succeeds, unless a write is refused. -/
theorem rejectionSpec_of_sendsBack {target : Place} (hdb : db.Admitted)
    (hreason : Text.trim reason ≠ "") (hnames : db.Names id issue)
    (hpointer : db.pointerOf issue.id = some place.step.id)
    (hplace : (db.storedCatalog issue.projectId)[place.index]? = some place.step)
    (hback : SendsBack (db.storedCatalog issue.projectId) place target) :
    RejectionSpec db author id agent reason (db.reject author id agent reason) := by
  have hcatalog := isCatalog_storedCatalog hdb issue.projectId
  rcases reject_cases_of_sendsBack hdb.toConsistent author agent hreason
      ((issue_eq_ok_iff hdb).2 hnames) hpointer hplace hback with
    ⟨fault, hreject, hblocked⟩ | ⟨hreject, hfootprint⟩
  · rw [hreject]
    exact .refused hreason hnames hcatalog hpointer hplace hback hblocked
  · rw [sentBack_events, sentBack_entry, cursorFor_issueId, sentBack_apply] at hfootprint
    rw [hreject]
    exact .succeeds hreason hnames hcatalog hpointer hplace hback
      (actingAgent_effectiveAgent agent place.step) hfootprint

/-- Rejecting the current step of an issue meets its specification. -/
theorem rejection_spec (db : Database) (hdb : db.Admitted) (author : Author) (id : String)
    (agent : Option String) (reason : String) :
    RejectionSpec db author id agent reason (db.reject author id agent reason) := by
  have hconsistent := hdb.toConsistent
  -- The reason is looked at first, and then the identifier.
  by_cases hreason : Text.trim reason = ""
  · rw [reject_eq_of_blank (by simp [Text.nonBlank, Text.isAllBlank, hreason])]
    exact .blankReason hreason
  by_cases hnamed : ∃ issue, db.Names id issue
  swap
  · have hnone : ∀ issue, ¬ db.Names id issue := fun issue hnames => hnamed ⟨issue, hnames⟩
    rw [reject_eq_of_issue_error hconsistent (nonBlank_of_trim_ne hreason)
      (issue_eq_error hdb hnone)]
    exact .notFound hreason hnone
  obtain ⟨issue, hnames⟩ := hnamed
  have hissue := (issue_eq_ok_iff hdb).2 hnames
  have hcatalog := isCatalog_storedCatalog hdb issue.projectId
  have hids : ((db.storedCatalog issue.projectId).map (·.id)).Nodup :=
    nodup_ids_storedCatalog hconsistent
  have hcursor : (db.cursorFor issue author.stamp.now).stepId = db.pointerOf issue.id :=
    stepId_cursorFor
  have htrimmed := nonBlank_of_trim_ne hreason
  -- What is left depends on the pointer, and on the place of the step that it names.
  cases hpointer : db.pointerOf issue.id with
  | none =>
    rw [reject_eq_of_issue_ok hconsistent htrimmed hissue,
      planRejection_of_no_pointer (hcursor.trans hpointer), cursorFor_issueId]
    exact .noCurrentStep hreason hnames hpointer
  | some stepId =>
    by_cases hmissing : ∀ step ∈ db.storedCatalog issue.projectId, step.id ≠ stepId
    · rw [reject_eq_of_issue_ok hconsistent htrimmed hissue,
        planRejection_of_stale (hcursor.trans hpointer) hmissing]
      exact .stale hreason hnames hcatalog hpointer hmissing
    obtain ⟨place, hplace, rfl⟩ : ∃ place : Place,
        (db.storedCatalog issue.projectId)[place.index]? = some place.step ∧
          place.step.id = stepId := by
      push Not at hmissing
      obtain ⟨step, hmem, hid⟩ := hmissing
      obtain ⟨index, hstep⟩ := List.getElem?_of_mem hmem
      exact ⟨⟨index, step⟩, hstep, hid⟩
    by_cases hfirst : place.index = 0
    · rw [reject_eq_of_issue_ok hconsistent htrimmed hissue,
        planRejection_of_first hids (hcursor.trans hpointer) hplace hfirst]
      exact .firstStep hreason hnames hcatalog hpointer (hfirst ▸ hplace)
    cases hprevious : previousActionable (db.storedCatalog issue.projectId) place.index with
    | none =>
      rw [reject_eq_of_issue_ok hconsistent htrimmed hissue,
        planRejection_of_waiting hids (hcursor.trans hpointer) hplace hfirst hprevious]
      refine .noActionableStep hreason hnames hcatalog hpointer hplace (Nat.pos_of_ne_zero hfirst)
        fun j hj => ?_
      -- The search has looked at every earlier place.
      rw [previousActionable, lastActionable_eq_none_iff] at hprevious
      have hlt : place.index < (db.storedCatalog issue.projectId).length :=
        (List.getElem?_eq_some_iff.1 hplace).1
      exact waits_iff.1 (hprevious j (by omega))
    | some target =>
      obtain ⟨step, hback⟩ := exists_sendsBack hplace hprevious
      exact rejectionSpec_of_sendsBack hdb hreason hnames hpointer hplace hback

/-- A database to try the specification on: an issue at the last of three steps, and a person's step
before it. -/
def rejectionSample : Database where
  projects := [⟨"docs", "Docs", "home", none, some "DOCS", 2, 1, 1⟩]
  issues := [{ record := ⟨"issue", some "DOCS-1", "docs", "first", none, .review, 2, 2⟩ }]
  steps :=
    [{ record := ⟨"publish", "docs", 9, "publish", .agentWork, some " bob ", true, 5, 5⟩ },
      { record := ⟨"approve", "docs", 7, "approve", .humanReview, none, true, 4, 4⟩ },
      { record := ⟨"draft", "docs", 3, "draft", .agentWork, none, true, 3, 3⟩ }]
  cursors := [{ record := ⟨"issue", "docs", some "publish", some 6, none, {}, 6⟩ }]
  uniqueShortIds := true

/-- In the sample database a rejection passes over the step of a person. -/
theorem rejection_spec_rejectionSample :
    rejectionSample.Admitted ∧
      (rejectionSample.reject ⟨"ada", ⟨7, 7⟩⟩ "DOCS-1" none " typos ").map (·.1) =
        .ok ⟨"issue", "publish", "draft"⟩ ∧
      RejectionSpec rejectionSample ⟨"ada", ⟨7, 7⟩⟩ "DOCS-1" none " typos "
        (rejectionSample.reject ⟨"ada", ⟨7, 7⟩⟩ "DOCS-1" none " typos ") := by
  have hadmitted : rejectionSample.Admitted := by
    constructor
    · constructor <;> simp [rejectionSample]
    all_goals simp [rejectionSample, shortIds]
  refine ⟨hadmitted, ?_, rejection_spec rejectionSample hadmitted _ _ _ _⟩
  have hissue : rejectionSample.issue "DOCS-1" =
      .ok ⟨"issue", some "DOCS-1", "docs", "first", none, .review, 2, 2⟩ := by decide +kernel
  have hcatalog : rejectionSample.storedCatalog "docs" =
      [⟨"draft", "docs", 3, "draft", .agentWork, none, true, 3, 3⟩,
        ⟨"approve", "docs", 7, "approve", .humanReview, none, true, 4, 4⟩,
        ⟨"publish", "docs", 9, "publish", .agentWork, some " bob ", true, 5, 5⟩] := by
    simp [storedCatalog, catalogRows, rejectionSample, List.mergeSort]
  have hreason : Text.nonBlank (some " typos ") = some "typos" := by decide +kernel
  rw [reject_eq_of_issue_ok hadmitted.toConsistent hreason hissue, hcatalog]
  decide +kernel

end Database

end ReviewPipeline
