import ReviewPipeline.Change
import ReviewPipeline.Proofs.Database.Names

/-!
# What Single Writes Do

Each write of `ReviewPipeline.Database.Write` either refuses or changes the database in one way.
The lemmas `*_eq_ok_iff` say exactly when a write is made and which database it makes, as an
explicit record; the lemmas `*_eq_error` say what a refusal is. Everything that is proved about
operations rests on these.
-/

namespace ReviewPipeline.Database

variable {db db' : Database} {author : Author} {now : Int} {e : Error}

/-! ### The audit log -/

/-- The rows that drafts become in the audit log, numbered on from `last`. -/
def eventRows (author : Author) : (last : Int) → (drafts : List EventDraft) → List (Row Event)
  | _, [] => []
  | last, draft :: drafts =>
    { record := draft.event (last + 1) author.actor author.stamp.now } ::
      eventRows author (last + 1) drafts

/-- A choice that goes by what drafts say takes all of their rows or none. -/
theorem filter_eventRows_of_forall {drafts : List EventDraft} {p : Row Event → Bool}
    {b : Bool}
    (hp : ∀ draft ∈ drafts, ∀ n, p { record := draft.event n author.actor author.stamp.now } = b)
    (last : Int) :
    (eventRows author last drafts).filter p = if b then eventRows author last drafts else [] := by
  induction drafts generalizing last with
  | nil => simp [eventRows]
  | cons draft drafts ih =>
    obtain ⟨hdraft, hdrafts⟩ := List.forall_mem_cons.1 hp
    rw [eventRows, List.filter_cons, hdraft, ih hdrafts]
    cases b <;> rfl

/-- The database with events appended to the audit log. -/
def noting (db : Database) (author : Author) (drafts : List EventDraft) : Database :=
  { db with
    events := db.events ++ eventRows author db.lastEventId drafts
    lastEventId := db.lastEventId + drafts.length }

theorem noting_cons (draft : EventDraft) (drafts : List EventDraft) :
    db.noting author (draft :: drafts) =
      { db with
        events := db.events ++
          [{ record := draft.event (db.lastEventId + 1) author.actor author.stamp.now }]
        lastEventId := db.lastEventId + 1 : Database }.noting author drafts := by
  simp only [noting, eventRows, List.append_assoc, List.singleton_append, List.length_cons,
    Database.mk.injEq, true_and, and_true]
  omega

/-- Events are appended iff there are none or the audit log takes them. -/
theorem appendEvents_eq_ok_iff {drafts : List EventDraft} :
    db.appendEvents author.actor author.stamp.now drafts = .ok db' ↔
      (drafts ≠ [] → db.blocked ≠ some .eventInsert) ∧ db' = db.noting author drafts := by
  -- Every event but the last leaves a database on which the block is the same.
  induction drafts generalizing db with
  | nil => simp [appendEvents, noting, eventRows, pure, Except.pure, eq_comm]
  | cons draft drafts ih =>
    have hcons : db.appendEvents author.actor author.stamp.now (draft :: drafts) =
        db.appendEvent author.actor author.stamp.now draft >>= fun next =>
          next.appendEvents author.actor author.stamp.now drafts := rfl
    rw [hcons, bind_eq_ok_iff, noting_cons]
    simp only [appendEvent, bind_eq_ok_iff, permit_eq_ok_iff, pure, Except.pure, Except.ok.injEq]
    constructor
    · rintro ⟨next, ⟨-, hpermit, rfl⟩, hrest⟩
      exact ⟨fun _ => hpermit, (ih.1 hrest).2⟩
    · rintro ⟨hpermit, rfl⟩
      have hpermit := hpermit (List.cons_ne_nil _ _)
      exact ⟨_, ⟨(), hpermit, rfl⟩, ih.2 ⟨fun _ => hpermit, rfl⟩⟩

/-- Events fail to be appended only when this is blocked. -/
theorem appendEvents_eq_error {drafts : List EventDraft}
    (h : db.appendEvents author.actor author.stamp.now drafts = .error e) :
    e = .database .blocked := by
  -- The log has no other check, so whichever event fails does so for the block.
  induction drafts generalizing db with
  | nil => cases h
  | cons draft drafts ih =>
    have hcons : db.appendEvents author.actor author.stamp.now (draft :: drafts) =
        db.appendEvent author.actor author.stamp.now draft >>= fun next =>
          next.appendEvents author.actor author.stamp.now drafts := rfl
    rw [hcons, bind_eq_error_iff] at h
    rcases h with h | ⟨next, -, h⟩
    · rw [appendEvent, bind_eq_error_iff] at h
      rcases h with h | ⟨-, -, h⟩
      · exact permit_eq_error h
      · cases h
    · exact ih h

/-- A change is committed iff its events can be noted. -/
theorem commit_eq_ok_iff {α : Type} {change : Change α} {a : α} :
    change.commit author = .ok (a, db') ↔
      (change.events ≠ [] → change.db.blocked ≠ some .eventInsert) ∧
        a = change.result ∧ db' = change.db.noting author change.events := by
  simp only [Change.commit, map_eq_ok_iff, appendEvents_eq_ok_iff, Prod.mk.injEq]
  constructor
  · rintro ⟨_, ⟨hpermit, rfl⟩, rfl, rfl⟩
    exact ⟨hpermit, rfl, rfl⟩
  · rintro ⟨hpermit, rfl, rfl⟩
    exact ⟨_, ⟨hpermit, rfl⟩, rfl, rfl⟩

/-- A change of the whole fails to be committed only when this is blocked. -/
theorem commit_eq_error {α : Type} {change : Change α} (h : change.commit author = .error e) :
    e = .database .blocked :=
  appendEvents_eq_error (map_eq_error_iff.1 h)

/-! ### The ledger -/

/-- An entry is appended iff its identifier is new and its issue is there. -/
theorem appendEntry_eq_ok_iff {draft : LedgerDraft} {entry : LedgerEntry} :
    db.appendEntry draft = .ok (entry, db') ↔
      db.blocked ≠ some .ledgerInsert ∧ (∀ old ∈ db.ledger, old.id ≠ draft.id) ∧
        db.hasIssue draft.issueId = true ∧ entry = draft.entry (db.lastSeq + 1) ∧
        db' = { db with
          ledger := db.ledger ++ [draft.entry (db.lastSeq + 1)]
          lastSeq := db.lastSeq + 1 } := by
  simp only [appendEntry, bind_eq_ok_iff, permit_eq_ok_iff, require_eq_ok_iff, pure, Except.pure,
    Except.ok.injEq, Prod.mk.injEq, exists_const, Bool.not_eq_true', List.any_eq_false, beq_iff_eq,
    @eq_comm _ entry, @eq_comm _ db']

/-- An entry fails to be appended with a fault of the database. -/
theorem appendEntry_eq_error {draft : LedgerDraft} (h : db.appendEntry draft = .error e) :
    ∃ fault, e = .database fault := by
  simp only [appendEntry, bind_eq_error_iff] at h
  rcases h with h | ⟨-, -, h | ⟨-, -, h | ⟨-, -, h⟩⟩⟩
  · exact ⟨_, permit_eq_error h⟩
  · exact ⟨_, require_eq_error h⟩
  · exact ⟨_, require_eq_error h⟩
  · cases h

/-! ### Cursors -/

/-- The rows of cursors with the cursor of an issue written over, or inserted if there is none. -/
def cursorsWith (db : Database) (fresh : Cursor) (update : Row Cursor → Row Cursor) :
    List (Row Cursor) :=
  if (db.storedCursor? fresh.issueId).isSome then
    Row.changeAt Cursor.issueId fresh.issueId update db.cursors
  else db.cursors ++ [{ record := fresh }]

/-- A cursor is written iff such writes are not blocked and its issue is there. -/
theorem putCursor_eq_ok_iff {fresh : Cursor} {update : Row Cursor → Row Cursor} :
    db.putCursor fresh update = .ok db' ↔
      db.blocked ≠ some .cursorPut ∧
        ((db.storedCursor? fresh.issueId).isSome ∨ db.hasIssue fresh.issueId = true) ∧
        db' = { db with cursors := db.cursorsWith fresh update } := by
  simp only [putCursor, bind_eq_ok_iff, permit_eq_ok_iff, exists_const, cursorsWith]
  refine and_congr_right fun _ => ?_
  cases hstored : (db.storedCursor? fresh.issueId).isSome with
  | true =>
    have hany := Row.isSome_lookup_iff.1 hstored
    simp only [hany, ↓reduceIte, pure, Except.pure, Except.ok.injEq, true_or, true_and]
    exact eq_comm
  | false =>
    have hany := mt Row.isSome_lookup_iff.2 (Bool.eq_false_iff.1 hstored)
    simp only [hany, ↓reduceIte, bind_eq_ok_iff, require_eq_ok_iff, pure, Except.pure,
      Except.ok.injEq, Bool.false_eq_true, false_or, exists_const]
    exact and_congr_right fun _ => eq_comm

/-- A cursor fails to be put with a fault of the database. -/
theorem putCursor_eq_error {fresh : Cursor} {update : Row Cursor → Row Cursor}
    (h : db.putCursor fresh update = .error e) : ∃ fault, e = .database fault := by
  simp only [putCursor, bind_eq_error_iff] at h
  rcases h with h | ⟨-, -, h⟩
  · exact ⟨_, permit_eq_error h⟩
  · split at h
    · cases h
    · rcases bind_eq_error_iff.1 h with h | ⟨-, -, h⟩
      · exact ⟨_, require_eq_error h⟩
      · cases h

/-- A written cursor is found under its issue, and no other look-up sees the write. -/
theorem lookup_cursorsWith {fresh : Cursor} {update : Row Cursor → Row Cursor} {g : Cursor → Cursor}
    (hupdate : ∀ row, (update row).record = g row.record) (hg : ∀ c, (g c).issueId = c.issueId)
    (issueId : String) :
    Row.lookup Cursor.issueId issueId (db.cursorsWith fresh update) =
      if issueId = fresh.issueId then some (((db.storedCursor? fresh.issueId).map g).getD fresh)
      else db.storedCursor? issueId := by
  cases hstored : db.storedCursor? fresh.issueId with
  | some cursor =>
    rw [cursorsWith, hstored, if_pos Option.isSome_some, Row.lookup_changeAt hupdate hg]
    -- A cursor that is there is written over.
    by_cases h : issueId = fresh.issueId
    · subst h
      rw [if_pos rfl, if_pos rfl]
      exact congrArg (Option.map g) hstored
    · rw [if_neg h, if_neg h, storedCursor?]
  | none =>
    -- No cursor is there, so one is inserted.
    have hnew : ∀ row ∈ db.cursors, row.record.issueId ≠ fresh.issueId :=
      Row.lookup_eq_none_iff.1 hstored
    rw [cursorsWith, hstored, if_neg (by simp), Row.lookup_concat hnew]
    rfl

/-! ### Work status -/

/-- The rows of issues with an issue given a work status. -/
def issuesMarked (db : Database) (issueId : String) (status : WorkStatus) (now : Int) :
    List (Row Issue) :=
  Row.changeAt Issue.id issueId
    (fun row => { record := { row.record with workStatus := status, updatedAt := now } }) db.issues

/-- A work status is written iff the issue is there and changes of issues are not blocked. -/
theorem setWorkStatus_eq_ok_iff {issueId : String} {status : WorkStatus} :
    db.setWorkStatus issueId status now = .ok db' ↔
      db.hasIssue issueId = true ∧ db.blocked ≠ some .issueUpdate ∧
        db' = { db with issues := db.issuesMarked issueId status now } := by
  unfold setWorkStatus
  split
  · next h =>
    simp only [h, bind_eq_ok_iff, permit_eq_ok_iff, pure, Except.pure, Except.ok.injEq, true_and,
      exists_const]
    exact and_congr_right fun _ => eq_comm
  · next h => simp [h, throw_ne_ok]

/-- A given work status shows in its issue and in no other. -/
theorem lookup_issuesMarked {issueId id : String} {status : WorkStatus} :
    Row.lookup Issue.id id (db.issuesMarked issueId status now) =
      if id = issueId then
        (db.storedIssue? id).map fun issue => { issue with workStatus := status, updatedAt := now }
      else db.storedIssue? id :=
  Row.lookup_changeAt (fun _ => rfl) fun _ => rfl

/-! ### Projects, issues and steps -/

/-- A project is inserted iff its prefix and its identifier are new. -/
theorem insertProject_eq_ok_iff {p : Project} :
    db.insertProject p = .ok db' ↔
      db.blocked ≠ some .projectInsert ∧
        (∀ q ∈ db.projects, p.issuePrefix.isSome → q.issuePrefix ≠ p.issuePrefix) ∧
        (∀ q ∈ db.projects, q.id ≠ p.id) ∧
        db' = { db with projects := db.projects ++ [p] } := by
  simp only [insertProject, hasProject, bind_eq_ok_iff, permit_eq_ok_iff, require_eq_ok_iff, pure,
    Except.pure, Except.ok.injEq, exists_const, Bool.not_eq_true', List.any_eq_false,
    Bool.and_eq_true, beq_iff_eq, not_and, @eq_comm _ db']

/-- The projects with the number of the next issue of one of them counted up. -/
def projectsCounted (db : Database) (projectId : String) (now : Int) : List Project :=
  db.projects.map fun p =>
    if p.id == projectId then
      { p with nextIssueNumber := p.nextIssueNumber + 1, updatedAt := now }
    else p

/-- The number of a project's next issue is counted up, unless changes of projects are blocked. -/
theorem countIssue_eq_ok {projectId : String} (h : db.countIssue projectId now = .ok db') :
    db' = { db with projects := db.projectsCounted projectId now } := by
  simp only [countIssue, pure, Except.pure] at h
  split at h
  · obtain ⟨-, -, h⟩ := bind_eq_ok_iff.1 h
    exact (Except.ok.inj h).symm
  · exact (Except.ok.inj h).symm

/-- An issue is inserted only if its identifiers are new and its project is there. -/
theorem insertIssue_eq_ok {issue : Issue} (h : db.insertIssue issue = .ok db') :
    (db.uniqueShortIds → ∀ row ∈ db.issues, issue.shortId.isSome →
        row.record.shortId ≠ issue.shortId) ∧
      (∀ row ∈ db.issues, row.record.id ≠ issue.id) ∧ db.hasProject issue.projectId = true ∧
      db' = { db with issues := db.issues ++ [{ record := issue }] } := by
  simp only [insertIssue, hasIssue, bind_eq_ok_iff, permit_eq_ok_iff, require_eq_ok_iff, pure,
    Except.pure, Except.ok.injEq, exists_const, Bool.not_eq_true', List.any_eq_false,
    Bool.and_eq_false_imp, Bool.and_eq_true, beq_iff_eq, not_and] at h
  obtain ⟨-, hshort, hid, hproject, rfl⟩ := h
  exact ⟨hshort, hid, hproject, rfl⟩

/-- A step is assigned unless changes of steps are blocked. -/
theorem assignStep_eq_ok_iff {stepId : String} {agent : Option String} :
    db.assignStep stepId agent now = .ok db' ↔
      db.blocked ≠ some .stepUpdate ∧ db' = db.withAssignee stepId agent now := by
  simp only [assignStep, bind_eq_ok_iff, permit_eq_ok_iff, pure, Except.pure, Except.ok.injEq,
    exists_const, @eq_comm _ db']

/-- The place of an issue is cleared unless that is blocked. -/
theorem clearCursor_eq_ok_iff {issueId : String} :
    db.clearCursor issueId now = .ok db' ↔
      db.blocked ≠ some .cursorClear ∧ db' = db.withoutPlace issueId now := by
  simp only [clearCursor, bind_eq_ok_iff, permit_eq_ok_iff, pure, Except.pure, Except.ok.injEq,
    exists_const, @eq_comm _ db']

/-- A step is inserted only if its number is positive, its identifier and its place are new and its
project is there. -/
theorem insertStep_eq_ok {step : Step} (h : db.insertStep step = .ok db') :
    0 < step.number ∧
      (∀ row ∈ db.steps, row.record.projectId = step.projectId →
        row.record.number ≠ step.number) ∧
      (∀ row ∈ db.steps, row.record.id ≠ step.id) ∧ db.hasProject step.projectId = true ∧
      db' = { db with steps := db.steps ++ [{ record := step }] } := by
  simp only [insertStep, bind_eq_ok_iff, permit_eq_ok_iff, require_eq_ok_iff, pure, Except.pure,
    Except.ok.injEq, exists_const, Bool.not_eq_true', List.any_eq_false, decide_eq_true_eq,
    Bool.and_eq_true, beq_iff_eq, not_and] at h
  obtain ⟨-, hpositive, hnumber, hid, hproject, rfl⟩ := h
  exact ⟨hpositive, hnumber, hid, hproject, rfl⟩

/-! ### The schema -/

/-- The schema is applied iff the index is there already or can be made. -/
theorem applySchema_eq_ok_iff :
    db.applySchema now = .ok db' ↔ (db.uniqueShortIds = true ∨ db.shortIds.Nodup) ∧
      db' = { db with
        uniqueShortIds := true
        versions := currentVersions.foldl (recordVersion now) db.versions } := by
  have hindex : (db.uniqueShortIds || db.hasDistinctShortIds) = true ↔
      db.uniqueShortIds = true ∨ db.shortIds.Nodup := by
    rw [Bool.or_eq_true, hasDistinctShortIds, decide_eq_true_iff, shortIds]
  rw [applySchema, ← hindex]
  cases db.uniqueShortIds || db.hasDistinctShortIds with
  | false => simp [require]
  | true =>
    simp only [require, if_true, Except.ok.injEq, true_and]
    exact eq_comm

end ReviewPipeline.Database
