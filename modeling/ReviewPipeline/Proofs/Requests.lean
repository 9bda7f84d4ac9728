import ReviewPipeline.Proofs.Course

/-!
# Requests in Closed Form

Completions and rejections are the two requests that move an issue. On a consistent database each
is made in four stages: the request is checked by itself, the issue is looked up, a transition is
planned from the catalog and the cursor, and the database refuses the plan or takes it as a whole
(`perform_request`). Read in this form, a request depends on the issue it names, on the catalog, on
the cursor, on which kind of write is blocked, and on whether the identifier of its ledger entry is
taken, and on nothing else.

The two other operations on issues have closed forms of the same kind (`perform_recordGate`,
`perform_resetPipeline`).
-/

namespace ReviewPipeline

/-- A request to move an issue. -/
inductive Request where
  /-- Complete the current step. -/
  | complete (agent notes : Option String)
  /-- Reject the current step. -/
  | reject (agent : Option String) (reason : String)
  deriving DecidableEq, Repr

/-- What a rejection answers. A planned rejection always has a target. -/
def rejectionOf (issue : Issue) (t : Transition) : Rejection where
  issueId := issue.id
  completedStepId := t.fromStepId
  currentStepId := t.update.stepId.getD t.fromStepId

namespace Request

/-- The operation that makes a request on the issue with an identifier. -/
def on (text : String) : Request → Operation
  | complete agent notes => .complete text agent notes
  | reject agent reason => .reject text agent reason

/-- Whether a request can be made at all: a rejection needs a reason. -/
def check : Request → Except Error Unit
  | complete _ _ => .ok ()
  | reject _ reason => if Text.isAllBlank reason then .error .blankReason else .ok ()

/-- The transition that a request asks for, from a catalog and a cursor. -/
def plan (steps : List Step) (projectId : String) (cursor : Cursor) (stamp : Stamp) :
    Request → Except Error Transition
  | complete agent notes =>
    if steps.isEmpty then .error (.noPipelineSteps projectId)
    else Progression.planCompletion steps cursor agent notes stamp
  | reject agent reason => Progression.planRejection steps cursor agent (Text.trim reason) stamp

/-- What is answered to a request. -/
def reply (issue : Issue) (t : Transition) : Request → Reply
  | complete _ _ => .completion (Database.completionOf issue t)
  | reject _ _ => .rejection (rejectionOf issue t)

@[simp]
theorem isCall_on (request : Request) (text : String) : (request.on text).isCall = true := by
  cases request <;> rfl

/-- What a request plans is one of the four kinds of transitions. -/
theorem planned_of_plan {steps : List Step} {projectId : String} {cursor : Cursor} {stamp : Stamp}
    {request : Request} {t : Transition} (h : request.plan steps projectId cursor stamp = .ok t) :
    Progression.Planned steps cursor stamp t := by
  cases request with
  | complete agent notes =>
    rw [plan] at h
    split at h
    · cases h
    · exact (Progression.planned_of_planCompletion h).1
  | reject agent reason => exact (Progression.planned_of_planRejection h).1

end Request

namespace Database

variable {db : Database} {author : Author} {issue : Issue} {t : Transition} {text : String}

/-! ### Refusals -/

/-- Why a database refuses to write a transition down, if it does. -/
def refusal? (db : Database) (t : Transition) : Option Fault :=
  if db.blocked = some .ledgerInsert then some .blocked
  else if db.ledger.any fun entry => entry.id == t.entry.id then
    some (.notUnique "issue_pipeline_history.id")
  else if db.blocked = some .cursorPut ∨ (t.workStatus.isSome ∧ db.blocked = some .issueUpdate) ∨
      db.blocked = some .eventInsert then
    some .blocked
  else none

/-- A database refuses a transition, or it accepts all of its writes. -/
theorem refusal?_eq_none_iff : db.refusal? t = none ↔ db.Accepts t := by
  unfold refusal?
  constructor
  · intro h
    split at h
    · cases h
    · split at h
      · cases h
      · split at h
        · -- Of the three writes, each may be the one that is refused.
          cases h
        · next hledger hfresh hothers =>
          simp only [not_or, not_and] at hothers
          exact ⟨hledger, hothers.1, hothers.2.1, hothers.2.2, by simpa using hfresh⟩
  · intro h
    have hfresh : ¬ (db.ledger.any fun entry => entry.id == t.entry.id) = true := by
      simpa using h.fresh
    rw [if_neg h.ledger, if_neg hfresh, if_neg]
    rintro (hcursor | ⟨hstatus, hissue⟩ | hevents)
    · exact h.cursor hcursor
    · exact h.status hstatus hissue
    · exact h.events hevents

/-- The database after a transition, unless it refuses the transition. -/
def transit (db : Database) (author : Author) (issue : Issue) (t : Transition) :
    Except Error Database :=
  match db.refusal? t with
  | some fault => .error (.database fault)
  | none => .ok (db.transitioned author issue t)

/-- A blocked kind of write is refused. -/
theorem permit_of_blocked {kind : WriteKind} (h : db.blocked = some kind) :
    db.permit kind = .error (.database .blocked) :=
  if_pos h

theorem setWorkStatus?_of_blocked {status : Option WorkStatus} {now : Int}
    (hissue : db.hasIssue issue.id = true) (hstatus : status.isSome)
    (hblocked : db.blocked = some .issueUpdate) :
    db.setWorkStatus? issue.id status now = .error (.database .blocked) := by
  obtain ⟨status, rfl⟩ := Option.isSome_iff_exists.1 hstatus
  rw [setWorkStatus?, setWorkStatus, if_pos hissue, permit_of_blocked hblocked]
  rfl

/-- Events are not noted while they are blocked. -/
theorem commit_of_blocked {α : Type} {change : Change α} (hevents : change.events ≠ [])
    (hblocked : change.db.blocked = some .eventInsert) :
    change.commit author = .error (.database .blocked) := by
  cases hcommit : change.commit author with
  | error e => rw [commit_eq_error hcommit]
  | ok r => exact absurd hblocked ((commit_eq_ok_iff.1 hcommit).1 hevents)

/-- Once its entry is written, a transition of an issue that is there ends where a write is
blocked. -/
theorem applyTransition_eq_blocked (hissue : db.hasIssue issue.id = true)
    (hblocked : db.blocked = some .cursorPut ∨
      (t.workStatus.isSome ∧ db.blocked = some .issueUpdate) ∨ db.blocked = some .eventInsert) :
    (db.moveCursor issue.id issue.projectId t.update author.stamp.now >>= fun moved =>
      moved.setWorkStatus? issue.id t.workStatus author.stamp.now >>= fun marked =>
        Change.commit ⟨(), transitionEvents issue t, marked⟩ author) =
      .error (.database .blocked) := by
  refine bind_eq_error_iff.2 ?_
  by_cases hcursor : db.blocked = some .cursorPut
  · refine .inl ?_
    rw [moveCursor, putCursor, permit_of_blocked hcursor]
    rfl
  · refine .inr ⟨_, putCursor_eq_ok_iff.2 ⟨hcursor, .inr hissue, rfl⟩, bind_eq_error_iff.2 ?_⟩
    by_cases hstatus : t.workStatus.isSome ∧ db.blocked = some .issueUpdate
    · exact .inl (setWorkStatus?_of_blocked hissue hstatus.1 hstatus.2)
    · -- What is left is the block on events.
      have hevents := (hblocked.resolve_left hcursor).resolve_left hstatus
      exact .inr ⟨_, setWorkStatus?_eq_ok_iff.2
        ⟨fun hsome => ⟨hissue, fun h => hstatus ⟨hsome, h⟩⟩, rfl⟩,
        commit_of_blocked transitionEvents_ne_nil hevents⟩

/-- A transition of an issue that is there is refused, or written down as a whole. -/
theorem applyTransition_eq_transit (hissue : db.hasIssue issue.id = true)
    (hentry : t.entry.issueId = issue.id) :
    db.applyTransition author issue t = (db.transit author issue t).map ((), ·) := by
  unfold transit
  cases hrefusal : db.refusal? t with
  | none => exact (applyTransition_eq_ok_iff hissue hentry).2 ⟨refusal?_eq_none_iff.1 hrefusal, rfl⟩
  | some fault =>
    -- The writes are tried in order, and the first that is refused ends the chain.
    rw [applyTransition_eq]
    unfold refusal? at hrefusal
    by_cases hledger : db.blocked = some .ledgerInsert
    · rw [if_pos hledger] at hrefusal
      cases hrefusal
      rw [appendEntry, permit_of_blocked hledger]
      rfl
    · rw [if_neg hledger] at hrefusal
      by_cases htaken : (db.ledger.any fun entry => entry.id == t.entry.id) = true
      · rw [if_pos htaken] at hrefusal
        cases hrefusal
        rw [appendEntry, permit, if_neg hledger, htaken]
        rfl
      · rw [if_neg htaken] at hrefusal
        obtain ⟨hothers, hfault⟩ := Option.ite_none_right_eq_some.1 hrefusal
        cases hfault
        rw [appendEntry_eq_ok_iff.2 ⟨hledger, by simpa using htaken, hentry ▸ hissue, rfl, rfl⟩]
        exact applyTransition_eq_blocked hissue hothers

/-! ### Requests -/

/-- Write a plan down, unless there is none or the database refuses it. -/
def fulfil (db : Database) (author : Author) (issue : Issue) (plan : Except Error Transition)
    (reply : Transition → Reply) : Except Error (Reply × Database) :=
  plan >>= fun t => (db.transit author issue t).map (reply t, ·)

/-- An issue that was looked up is there. -/
theorem hasIssue_of_issue_eq_ok (hdb : db.Consistent) (hissue : db.issue text = .ok issue) :
    db.hasIssue issue.id = true := by
  rw [hasIssue_iff, storedIssue?_of_issue_eq_ok hdb hissue]
  rfl

/-- What is planned for an issue that was looked up is refused or written down as a whole. -/
theorem applyTransition_eq_of_planned (hdb : db.Consistent) (hissue : db.issue text = .ok issue)
    (hplanned : Progression.Planned (db.storedCatalog issue.projectId)
      (db.cursorFor issue author.stamp.now) author.stamp t) :
    db.applyTransition author issue t = (db.transit author issue t).map ((), ·) := by
  exact applyTransition_eq_transit (hasIssue_of_issue_eq_ok hdb hissue)
    (hplanned.entry_issueId.trans cursorFor_issueId)

theorem perform_complete (hdb : db.Consistent) (hissue : db.issue text = .ok issue)
    (agent notes : Option String) :
    db.perform author (.complete text agent notes) =
      db.fulfil author issue
        ((Request.complete agent notes).plan (db.storedCatalog issue.projectId) issue.projectId
          (db.cursorFor issue author.stamp.now) author.stamp)
        fun t => .completion (completionOf issue t) := by
  rw [perform, complete_eq_of_issue_ok hdb hissue, Request.plan, fulfil]
  by_cases hempty : (db.storedCatalog issue.projectId).isEmpty
  · rw [if_pos hempty, if_pos hempty]
    rfl
  · rw [if_neg hempty, if_neg hempty]
    cases hplan : Progression.planCompletion (db.storedCatalog issue.projectId)
        (db.cursorFor issue author.stamp.now) agent notes author.stamp with
    | error e => rfl
    | ok t =>
      show answer _ ((db.applyTransition author issue t).map _) = (db.transit author issue t).map _
      rw [applyTransition_eq_of_planned hdb hissue (Progression.planned_of_planCompletion hplan).1]
      cases db.transit author issue t <;> rfl

theorem perform_reject (hdb : db.Consistent) (hissue : db.issue text = .ok issue)
    (agent : Option String) {reason : String} (hreason : Text.isAllBlank reason = false) :
    db.perform author (.reject text agent reason) =
      db.fulfil author issue
        ((Request.reject agent reason).plan (db.storedCatalog issue.projectId) issue.projectId
          (db.cursorFor issue author.stamp.now) author.stamp)
        fun t => .rejection (rejectionOf issue t) := by
  have htrimmed : Text.nonBlank (some reason) = some (Text.trim reason) := by
    simp [Text.nonBlank, hreason]
  rw [perform, reject_eq_of_issue_ok hdb htrimmed hissue, Request.plan, fulfil]
  cases hplan : Progression.planRejection (db.storedCatalog issue.projectId)
      (db.cursorFor issue author.stamp.now) agent (Text.trim reason) author.stamp with
  | error e => rfl
  | ok t =>
    obtain ⟨hplanned, _, target, -, houtcome⟩ := Progression.planned_of_planRejection hplan
    -- The target that is answered is the step the pointer is moved to.
    have hreply : (⟨issue.id, t.fromStepId, target⟩ : Rejection) = rejectionOf issue t := by
      cases hplanned with
      | rejected =>
        cases houtcome
        rfl
      | advanced | held | finished => cases houtcome
    show answer _ (db.applyTransition author issue t >>= _) = (db.transit author issue t).map _
    rw [applyTransition_eq_of_planned hdb hissue hplanned, ← hreply]
    simp only [houtcome]
    cases db.transit author issue t <;> rfl

/-- A request on a consistent database in its four stages. -/
theorem perform_request (hdb : db.Consistent) (author : Author) (text : String)
    (request : Request) :
    db.perform author (request.on text) =
      request.check >>= fun _ =>
        db.issue text >>= fun issue =>
          db.fulfil author issue
            (request.plan (db.storedCatalog issue.projectId) issue.projectId
              (db.cursorFor issue author.stamp.now) author.stamp)
            fun t => request.reply issue t := by
  cases request with
  | complete agent notes =>
    show db.perform author (.complete text agent notes) = db.issue text >>= _
    cases hissue : db.issue text with
    | error e => rw [perform, complete_eq_of_issue_error hdb hissue]; rfl
    | ok issue => exact perform_complete hdb hissue agent notes
  | reject agent reason =>
    rw [Request.check, Request.on]
    cases hblank : Text.isAllBlank reason with
    | true => rw [perform, reject_eq_of_blank (by simp [Text.nonBlank, hblank])]; rfl
    | false =>
      have htrimmed : Text.nonBlank (some reason) = some (Text.trim reason) := by
        simp [Text.nonBlank, hblank]
      cases hissue : db.issue text with
      | error e => rw [perform, reject_eq_of_issue_error hdb htrimmed hissue]; rfl
      | ok issue => exact perform_reject hdb hissue agent hblank

/-! ### Signals and resets -/

/-- A single event is noted, unless events are blocked. -/
theorem commit_single {α : Type} (author : Author) (a : α) (event : EventDraft) (db : Database) :
    Change.commit ⟨a, [event], db⟩ author =
      if db.blocked = some .eventInsert then .error (.database .blocked)
      else .ok (a, db.noting author [event]) := by
  split
  · next hblocked => exact commit_of_blocked (List.cons_ne_nil _ _) hblocked
  · next hblocked => exact commit_eq_ok_iff.2 ⟨fun _ => hblocked, rfl, rfl⟩

/-- The event that reports a signal of the gate. -/
def gateEvent (issue : Issue) (status : GateStatus) : EventDraft where
  entityType := "issue"
  entityId := issue.id
  kind := .gateRecorded
  newValue := some status.word

/-- The event that reports a reset. -/
def resetEvent (issue : Issue) : EventDraft where
  entityType := "issue"
  entityId := issue.id
  kind := .pipelineReset

/-- A signal of the gate is recorded, unless one of its two writes is blocked. -/
theorem perform_recordGate (hdb : db.Consistent) (author : Author) (text : String)
    (status : GateStatus) (error : Option String) :
    db.perform author (.recordGate text status error) =
      db.issue text >>= fun issue =>
        let gate : GateSnapshot := ⟨some status, error, some author.stamp.now⟩
        let cursor := db.cursorFor issue author.stamp.now
        if db.blocked = some .cursorPut ∨ db.blocked = some .eventInsert then
          .error (.database .blocked)
        else
          .ok (.cursor { cursor with gate := gate, updatedAt := author.stamp.now },
            { db with cursors := db.cursorsGated issue gate author.stamp.now : Database }.noting
              author [gateEvent issue status]) := by
  rw [perform, recordGate]
  cases hissue : db.issue text with
  | error e => rfl
  | ok issue =>
    let gate : GateSnapshot := ⟨some status, error, some author.stamp.now⟩
    let gated : Database := { db with cursors := db.cursorsGated issue gate author.stamp.now }
    have hstored := storedIssue?_of_issue_eq_ok hdb hissue
    have hgated : gated.Consistent := hdb.withCursorsGated hstored gate author.stamp.now
    have hlookup := (lookup_cursorsGated db issue gate author.stamp.now issue.id).trans (if_pos rfl)
    have hread := (cursor?_eq_ok hgated).trans (congrArg Except.ok hlookup)
    -- The two writes are the cursor's and the event's, and each of them may be blocked.
    show answer _ (db.putGate issue.id issue.projectId gate author.stamp.now >>= _) =
      if db.blocked = some .cursorPut ∨ db.blocked = some .eventInsert then _ else _
    by_cases hcursor : db.blocked = some .cursorPut
    · rw [if_pos (.inl hcursor), putGate, putCursor, permit_of_blocked hcursor]
      rfl
    · have hput : db.putGate issue.id issue.projectId gate author.stamp.now = .ok gated :=
        putCursor_eq_ok_iff.2 ⟨hcursor, .inr (hasIssue_of_issue_eq_ok hdb hissue), rfl⟩
      -- In between the cursor is read back as it was put.
      rw [hput]
      show answer _ (gated.cursor? issue.id >>= _) = _
      rw [hread]
      show answer _ (Change.commit ⟨_, [gateEvent issue status], gated⟩ author) = _
      rw [commit_single]
      by_cases hevent : db.blocked = some .eventInsert
      · rw [if_pos hevent, if_pos (.inr hevent)]
        rfl
      · rw [if_neg hevent, if_neg (not_or.2 ⟨hcursor, hevent⟩)]
        rfl

/-- A cursor is cleared, unless that or the event of it is blocked. -/
theorem perform_resetPipeline (author : Author) (text : String) :
    db.perform author (.resetPipeline text) =
      db.issue text >>= fun issue =>
        if db.blocked = some .cursorClear ∨ db.blocked = some .eventInsert then
          .error (.database .blocked)
        else
          .ok (.done, (db.withoutPlace issue.id author.stamp.now).noting author
            [resetEvent issue]) := by
  rw [perform, resetPipeline]
  cases db.issue text with
  | error e => rfl
  | ok issue =>
    show answer _ (db.clearCursor issue.id author.stamp.now >>= _) =
      if db.blocked = some .cursorClear ∨ db.blocked = some .eventInsert then _ else _
    -- The first write clears the cursor, the second is the event.
    by_cases hclear : db.blocked = some .cursorClear
    · rw [if_pos (.inl hclear), clearCursor, permit_of_blocked hclear]
      rfl
    · rw [clearCursor_eq_ok_iff.2 ⟨hclear, rfl⟩]
      let cleared := db.withoutPlace issue.id author.stamp.now
      have hblocked : cleared.blocked = db.blocked := rfl
      show answer _ (Change.commit ⟨(), [resetEvent issue], cleared⟩ author) = _
      rw [commit_single, hblocked]
      by_cases hevent : db.blocked = some .eventInsert
      · rw [if_pos hevent, if_pos (.inr hevent)]
        rfl
      · rw [if_neg hevent, if_neg (not_or.2 ⟨hclear, hevent⟩)]
        rfl

end Database

end ReviewPipeline
