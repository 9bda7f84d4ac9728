import ReviewPipeline.Transitions
import ReviewPipeline.Proofs.Database.Consistency
import ReviewPipeline.Proofs.Progression

/-!
# Transitions Written Down

`transitioned` is the database after a transition, as one explicit record. Writing a transition
down makes exactly this database, unless one of its writes is refused
(`applyTransition_eq_ok_iff`); the lemmas after that say what it holds, look-up by look-up. A
completion or a rejection that succeeds is a planned transition written down
(`complete_eq_ok`, `reject_eq_ok`).
-/

namespace ReviewPipeline

/-- An issue after a transition, which may leave its work status alone. -/
def Issue.marked (issue : Issue) (status : Option WorkStatus) (now : Int) : Issue :=
  match status with
  | some status => { issue with workStatus := status, updatedAt := now }
  | none => issue

@[simp]
theorem Issue.marked_id (issue : Issue) (status : Option WorkStatus) (now : Int) :
    (issue.marked status now).id = issue.id := by
  cases status <;> rfl

@[simp]
theorem Issue.marked_projectId (issue : Issue) (status : Option WorkStatus) (now : Int) :
    (issue.marked status now).projectId = issue.projectId := by
  cases status <;> rfl

@[simp]
theorem Issue.marked_workStatus (issue : Issue) (status : Option WorkStatus) (now : Int) :
    (issue.marked status now).workStatus = status.getD issue.workStatus := by
  cases status <;> rfl

namespace Database

variable {db db' : Database} {author : Author} {issue : Issue} {t : Transition} {u : Unit}
  {now : Int} {e : Error}

/-! ### Writing a transition down -/

/-- The rows of issues after a transition, which may leave them alone. -/
def issuesAfter (db : Database) (issueId : String) (status : Option WorkStatus) (now : Int) :
    List (Row Issue) :=
  match status with
  | some status => db.issuesMarked issueId status now
  | none => db.issues

/-- The rows of cursors after a transition. -/
def cursorsAfter (db : Database) (issue : Issue) (update : CursorUpdate) (now : Int) :
    List (Row Cursor) :=
  db.cursorsWith ((Cursor.notStarted issue.id issue.projectId now).apply update now) fun row =>
    row.modify fun cursor => cursor.apply update now

/-- The database after a transition of an issue is written down. -/
def transitioned (db : Database) (author : Author) (issue : Issue) (t : Transition) : Database :=
  { db with
    issues := db.issuesAfter issue.id t.workStatus author.stamp.now
    cursors := db.cursorsAfter issue t.update author.stamp.now
    ledger := db.ledger ++ [t.entry.entry (db.lastSeq + 1)]
    lastSeq := db.lastSeq + 1
    events := db.events ++ eventRows author db.lastEventId (transitionEvents issue t)
    lastEventId := db.lastEventId + (transitionEvents issue t).length }

/-- No write of a transition is blocked, and the identifier of its ledger entry is new. -/
structure Accepts (db : Database) (t : Transition) : Prop where
  /-- Ledger entries are not blocked. -/
  ledger : db.blocked ≠ some .ledgerInsert
  /-- Cursors are not blocked. -/
  cursor : db.blocked ≠ some .cursorPut
  /-- Changes of issues are not blocked, if the transition makes one. -/
  status : t.workStatus.isSome → db.blocked ≠ some .issueUpdate
  /-- Audit events are not blocked. -/
  events : db.blocked ≠ some .eventInsert
  /-- The identifier of the ledger entry is new. -/
  fresh : ∀ entry ∈ db.ledger, entry.id ≠ t.entry.id

/-- Give an issue a work status, or leave it alone. -/
def setWorkStatus? (db : Database) (issueId : String) (status : Option WorkStatus) (now : Int) :
    Except Error Database :=
  match status with
  | some status => db.setWorkStatus issueId status now
  | none => .ok db

/-- Writing a transition down, as a chain of four writes. -/
theorem applyTransition_eq :
    db.applyTransition author issue t =
      db.appendEntry t.entry >>= fun appended =>
        appended.2.moveCursor issue.id issue.projectId t.update author.stamp.now >>= fun moved =>
          moved.setWorkStatus? issue.id t.workStatus author.stamp.now >>= fun marked =>
            Change.commit ⟨(), transitionEvents issue t, marked⟩ author := by
  unfold applyTransition setWorkStatus?
  cases t.workStatus <;> rfl

/-- A work status is set, or left alone, iff the issue is there and such changes are not blocked. -/
theorem setWorkStatus?_eq_ok_iff {issueId : String} {status : Option WorkStatus} :
    db.setWorkStatus? issueId status now = .ok db' ↔
      (status.isSome → db.hasIssue issueId = true ∧ db.blocked ≠ some .issueUpdate) ∧
        db' = { db with issues := db.issuesAfter issueId status now } := by
  cases status with
  | none =>
    simp only [setWorkStatus?, issuesAfter, Except.ok.injEq, Option.isSome_none, Bool.false_eq_true,
      false_implies, true_and]
    exact eq_comm
  | some status => simp [setWorkStatus?, issuesAfter, setWorkStatus_eq_ok_iff, and_assoc]

/-- Every transition has an event. -/
theorem transitionEvents_ne_nil : transitionEvents issue t ≠ [] := by
  simp [transitionEvents]

/-- A transition of an issue that is there is written down iff the database accepts its writes. -/
theorem applyTransition_eq_ok_iff (hissue : db.hasIssue issue.id = true)
    (hentry : t.entry.issueId = issue.id) :
    db.applyTransition author issue t = .ok (u, db') ↔
      db.Accepts t ∧ db' = db.transitioned author issue t := by
  simp only [applyTransition_eq, bind_eq_ok_iff, Prod.exists, appendEntry_eq_ok_iff, moveCursor,
    putCursor_eq_ok_iff, commit_eq_ok_iff]
  constructor
  · -- Each write succeeded on the database that the one before it left.
    rintro ⟨_, _, ⟨hledger, hfresh, -, -, rfl⟩, _, ⟨hcursor, -, rfl⟩, _, hmarked, hevents, -, rfl⟩
    obtain ⟨hstatus, rfl⟩ := setWorkStatus?_eq_ok_iff.1 hmarked
    exact ⟨⟨hledger, hcursor, fun h => (hstatus h).2, hevents transitionEvents_ne_nil, hfresh⟩,
      rfl⟩
  · -- No write removes an issue, so each finds the issue there.
    rintro ⟨h, rfl⟩
    exact ⟨_, _, ⟨h.ledger, h.fresh, hentry ▸ hissue, rfl, rfl⟩, _, ⟨h.cursor, .inr hissue, rfl⟩, _,
      setWorkStatus?_eq_ok_iff.2 ⟨fun hsome => ⟨hissue, h.status hsome⟩, rfl⟩, fun _ => h.events,
      trivial, rfl⟩

/-- Where a transition of an issue that is there is refused, the database refuses a write of it. -/
theorem applyTransition_eq_error (hissue : db.hasIssue issue.id = true)
    (h : db.applyTransition author issue t = .error e) : ∃ fault, e = .database fault := by
  simp only [applyTransition_eq, bind_eq_error_iff] at h
  rcases h with h | ⟨appended, happend, h | ⟨moved, hmove, h | ⟨_, _, h⟩⟩⟩
  · exact appendEntry_eq_error h
  · exact putCursor_eq_error h
  · -- The issue is still there when its work status is written.
    obtain ⟨-, -, -, -, happended⟩ := appendEntry_eq_ok_iff.1 happend
    obtain ⟨-, -, hmoved⟩ := putCursor_eq_ok_iff.1 hmove
    have hstill : moved.hasIssue issue.id = true := by
      rw [hmoved, happended]
      exact hissue
    unfold setWorkStatus? setWorkStatus at h
    split at h
    · rw [if_pos hstill] at h
      rcases bind_eq_error_iff.1 h with h | ⟨-, -, h⟩
      · exact ⟨_, permit_eq_error h⟩
      · cases h
    · cases h
  · exact ⟨_, commit_eq_error h⟩

/-! ### What the database holds after a transition -/

/-- A transition touches the issue it is made for and no other. -/
theorem storedIssue?_transitioned (db : Database) (author : Author) (issue : Issue) (t : Transition)
    (id : String) :
    (db.transitioned author issue t).storedIssue? id =
      if id = issue.id then
        (db.storedIssue? id).map fun issue => issue.marked t.workStatus author.stamp.now
      else db.storedIssue? id := by
  simp only [storedIssue?, transitioned, issuesAfter]
  cases t.workStatus with
  | none => simp [Issue.marked]
  | some status => exact lookup_issuesMarked

/-- A transition moves the cursor of the issue it is made for and no other. -/
theorem storedCursor?_transitioned (db : Database) (author : Author) (issue : Issue)
    (t : Transition) (id : String) :
    (db.transitioned author issue t).storedCursor? id =
      if id = issue.id then
        some ((db.cursorFor issue author.stamp.now).apply t.update author.stamp.now)
      else db.storedCursor? id := by
  refine (lookup_cursorsWith (g := fun cursor => cursor.apply t.update author.stamp.now)
    (fun _ => rfl) (fun _ => rfl) id).trans ?_
  change (if id = issue.id then _ else _) = _
  split
  · -- With no stored cursor both sides are the update of one that was never started.
    unfold cursorFor
    cases hstored : db.storedCursor? issue.id <;> simp [Cursor.apply, Cursor.notStarted, hstored]
  · rfl

/-- A transition adds its entry to the history of its issue. -/
theorem history_transitioned (db : Database) (author : Author) (issue : Issue) (t : Transition)
    (id : String) :
    (db.transitioned author issue t).history id =
      if t.entry.issueId = id then db.history id ++ [t.entry.entry (db.lastSeq + 1)]
      else db.history id := by
  by_cases h : t.entry.issueId = id <;>
    simp [history, transitioned, List.filter_append, LedgerDraft.entry, h]

/-- A transition of a stored issue keeps a database consistent. -/
theorem Consistent.transitioned (h : db.Consistent) (author : Author) {issue : Issue}
    {t : Transition} (hissue : db.storedIssue? issue.id = some issue)
    (hentry : t.entry.issueId = issue.id) (hfresh : ∀ old ∈ db.ledger, old.id ≠ t.entry.id) :
    (db.transitioned author issue t).Consistent := by
  -- The ledger, the cursor and the work status are written one after the other.
  let db₁ : Database :=
    { db with ledger := db.ledger ++ [t.entry.entry (db.lastSeq + 1)], lastSeq := db.lastSeq + 1 }
  have hledger : db₁.Consistent := h.withEntry (t.entry.entry (db.lastSeq + 1)) (db.lastSeq + 1)
    hfresh ⟨issue, (congrArg db.storedIssue? hentry).trans hissue⟩
  let db₂ : Database := { db₁ with cursors := db₁.cursorsAfter issue t.update author.stamp.now }
  have hcursor : db₂.Consistent :=
    hledger.withCursor (g := fun cursor => cursor.apply t.update author.stamp.now) (fun _ => rfl)
      (fun _ => rfl) (fun _ hword => hword) ⟨issue, hissue⟩
  have hmarked : { db₂ with
      issues := db₂.issuesAfter issue.id t.workStatus author.stamp.now : Database }.Consistent := by
    cases t.workStatus with
    | none => exact hcursor
    | some status => exact hcursor.withIssuesMarked issue.id status author.stamp.now
  exact hmarked.noting author (transitionEvents issue t)

/-! ### Completions and rejections -/

section Calls

variable {id reason : String} {agent notes : Option String} {completion : Completion}
  {rejection : Rejection}

/-- What a completion answers. -/
def completionOf (issue : Issue) (t : Transition) : Completion where
  issueId := issue.id
  completedStepId := t.fromStepId
  currentStepId := t.update.stepId
  completedPipeline := t.completesPipeline
  parkedForHumanReview := t.parkedForHumanReview

/-- A transition starts from the stored catalog and the cursor of the issue that is looked up. -/
theorem situation_eq (h : db.Consistent) :
    db.situation id now =
      (db.issue id).map fun issue =>
        ⟨issue, db.storedCatalog issue.projectId, db.cursorFor issue now⟩ := by
  unfold situation
  cases db.issue id with
  | error e => rfl
  | ok issue =>
    simp [bind, Except.bind, catalog_eq_ok h, cursorOrFresh_eq_ok h, Except.map, pure, Except.pure]

/-- A completion of an issue that is not found fails with what finding it failed with. -/
theorem complete_eq_of_issue_error (h : db.Consistent) (hissue : db.issue id = .error e) :
    db.complete author id agent notes = .error e := by
  rw [complete, situation_eq h, hissue]
  rfl

/-- A completion of an issue plans a transition and writes it down. -/
theorem complete_eq_of_issue_ok (h : db.Consistent) (hissue : db.issue id = .ok issue) :
    db.complete author id agent notes =
      if (db.storedCatalog issue.projectId).isEmpty then .error (.noPipelineSteps issue.projectId)
      else
        Progression.planCompletion (db.storedCatalog issue.projectId)
            (db.cursorFor issue author.stamp.now) agent notes author.stamp >>= fun t =>
          (db.applyTransition author issue t).map fun r => (completionOf issue t, r.2) := by
  rw [complete, situation_eq h, hissue]
  simp only [Except.map, bind, Except.bind, throw, throwThe, MonadExceptOf.throw, pure, Except.pure]
  split
  · rfl
  · split
    · rfl
    · next t _ =>
      cases db.applyTransition author issue t <;> rfl

/-- A rejection without a reason fails before anything is read. -/
theorem reject_eq_of_blank (hreason : Text.nonBlank (some reason) = none) :
    db.reject author id agent reason = .error .blankReason := by
  rw [reject, hreason]
  rfl

/-- A rejection of an issue that is not found fails with what finding it failed with. -/
theorem reject_eq_of_issue_error (h : db.Consistent) {trimmed : String}
    (hreason : Text.nonBlank (some reason) = some trimmed) (hissue : db.issue id = .error e) :
    db.reject author id agent reason = .error e := by
  simp only [reject, hreason, situation_eq h, hissue]
  rfl

/-- A rejection of an issue plans a transition and writes it down. -/
theorem reject_eq_of_issue_ok (h : db.Consistent) {trimmed : String}
    (hreason : Text.nonBlank (some reason) = some trimmed) (hissue : db.issue id = .ok issue) :
    db.reject author id agent reason =
      Progression.planRejection (db.storedCatalog issue.projectId)
          (db.cursorFor issue author.stamp.now) agent trimmed author.stamp >>= fun t =>
        db.applyTransition author issue t >>= fun r =>
          match t.outcome with
          | .rejected target => .ok (⟨issue.id, t.fromStepId, target⟩, r.2)
          | _ => .error (.other "rejection planned a non-rejection outcome") := by
  simp only [reject, hreason, situation_eq h, hissue]
  rfl

/-- A completion that succeeds is a planned transition of a stored issue, written down. -/
theorem complete_eq_ok (h : db.Consistent)
    (hcall : db.complete author id agent notes = .ok (completion, db')) :
    ∃ issue t, db.issue id = .ok issue ∧
      Progression.planCompletion (db.storedCatalog issue.projectId)
        (db.cursorFor issue author.stamp.now) agent notes author.stamp = .ok t ∧
      completion = completionOf issue t ∧ db.Accepts t ∧ db' = db.transitioned author issue t := by
  cases hissue : db.issue id with
  | error e => simp [complete_eq_of_issue_error h hissue] at hcall
  | ok issue =>
    rw [complete_eq_of_issue_ok h hissue] at hcall
    split at hcall
    · cases hcall
    · simp only [bind_eq_ok_iff, map_eq_ok_iff, Prod.mk.injEq] at hcall
      obtain ⟨t, hplan, ⟨u, after⟩, happly, rfl, rfl⟩ := hcall
      -- The entry is about the issue itself, because the cursor is.
      have hstored := storedIssue?_of_issue_eq_ok h hissue
      have hentry := (Progression.planned_of_planCompletion hplan).1.entry_issueId
      rw [cursorFor_issueId] at hentry
      obtain ⟨haccepts, hafter⟩ := (applyTransition_eq_ok_iff
        (hasIssue_iff.2 (by simp [hstored])) hentry).1 happly
      exact ⟨issue, t, rfl, hplan, rfl, haccepts, hafter⟩

/-- A rejection that succeeds is a planned transition of a stored issue, written down. -/
theorem reject_eq_ok (h : db.Consistent)
    (hcall : db.reject author id agent reason = .ok (rejection, db')) :
    ∃ issue trimmed t, db.issue id = .ok issue ∧ Text.nonBlank (some reason) = some trimmed ∧
      Progression.planRejection (db.storedCatalog issue.projectId)
        (db.cursorFor issue author.stamp.now) agent trimmed author.stamp = .ok t ∧
      rejection.issueId = issue.id ∧ rejection.completedStepId = t.fromStepId ∧
      t.outcome = .rejected rejection.currentStepId ∧ db.Accepts t ∧
      db' = db.transitioned author issue t := by
  cases hreason : Text.nonBlank (some reason) with
  | none => simp [reject_eq_of_blank hreason] at hcall
  | some trimmed =>
    cases hissue : db.issue id with
    | error e => simp [reject_eq_of_issue_error h hreason hissue] at hcall
    | ok issue =>
      rw [reject_eq_of_issue_ok h hreason hissue] at hcall
      simp only [bind_eq_ok_iff] at hcall
      obtain ⟨t, hplan, ⟨u, after⟩, happly, hanswer⟩ := hcall
      -- A planned rejection has the outcome that the answer asks for.
      have hstored := storedIssue?_of_issue_eq_ok h hissue
      obtain ⟨hplanned, _, target, -, houtcome⟩ := Progression.planned_of_planRejection hplan
      have hentry := hplanned.entry_issueId
      rw [cursorFor_issueId] at hentry
      obtain ⟨haccepts, hafter⟩ := (applyTransition_eq_ok_iff
        (hasIssue_iff.2 (by simp [hstored])) hentry).1 happly
      simp only [houtcome, Except.ok.injEq, Prod.mk.injEq] at hanswer
      obtain ⟨rfl, rfl⟩ := hanswer
      exact ⟨issue, trimmed, t, rfl, rfl, hplan, rfl, rfl, houtcome, haccepts, hafter⟩

end Calls

end Database

end ReviewPipeline
