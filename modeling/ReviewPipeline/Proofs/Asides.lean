import ReviewPipeline.Proofs.Staffing
import ReviewPipeline.Proofs.Upkeep

/-!
# Signals and Assignments Are Asides

Recording a signal of the gate and assigning a step are asides (`Operation.isAside`): a run is the
same without them, as far as anything else can tell. Two databases are `Alike` when they differ at
most in what asides write: the signals, the assignments with the time of the last change of a step,
and the signatures in the ledger. An issue without a cursor is alike to one whose cursor holds
nothing but a signal.

An aside leaves a database alike to what it was, and every other operation, made on two databases
that are alike, answers the same and leaves them alike. Runs with and without asides are followed
side by side.

## Main definitions

* `Operation.isAside`, `withoutAsides`: the asides, and a run without them;
* `StatusView.essence`: a view apart from what asides write;
* `Alike`: two databases differ at most in what asides write;
* `Unswayed`: a run and the same run without asides cannot be told apart.

## Main results

* `Alike.perform`: an operation that is no aside answers the same on databases that are alike;
* `unswayed_of_run`: no run of operations is swayed by its asides, and neither do transitions and
  resets touch a signal, nor signals anything that transitions and resets touch.
-/

namespace ReviewPipeline

/-- Whether an operation is an aside: it records a signal of the gate or assigns a step. -/
def Operation.isAside : Operation → Bool
  | .recordGate _ _ _ | .restaffStep _ _ => true
  | _ => false

/-- A run without its asides. -/
def withoutAsides (calls : List (Author × Operation)) : List (Author × Operation) :=
  calls.filter fun call => !call.2.isAside

/-- A view apart from the gate, the assignments and the signatures. -/
def StatusView.essence (view : StatusView) : StatusView :=
  { view with
    currentStep := view.currentStep.map Step.unstaffed
    steps := view.steps.map Step.unstaffed
    history := view.history.map LedgerEntry.unsigned
    gate := {} }

namespace Database

variable {db db' : Database} {author : Author} {op : Operation} {now : Int} {text id : String}
  {t t' : Transition} {calls : List (Author × Operation)}

/-- A database apart from its assignments. -/
def unstaffed (db : Database) : Database :=
  { db with steps := db.steps.map fun row => row.modify Step.unstaffed }

/-- Two databases differ at most in signals of the gate, assignments and signatures, in the audit
log and in the record of applied versions. -/
structure Alike (db db' : Database) : Prop where
  /-- The projects are the same. -/
  projects : db.projects = db'.projects
  /-- The issues are the same. -/
  issues : db.issues = db'.issues
  /-- The steps are the same, apart from their assignments. -/
  steps : db.unstaffed.steps = db'.unstaffed.steps
  /-- Every issue is on the same course. -/
  course : ∀ id, db.courseOf id = db'.courseOf id
  /-- The ledger is the same, apart from the signatures. -/
  ledger : db.ledger.map LedgerEntry.unsigned = db'.ledger.map LedgerEntry.unsigned
  /-- Entries of the ledger are numbered in the same way. -/
  lastSeq : db.lastSeq = db'.lastSeq
  /-- Short identifiers are kept unique in both or in neither. -/
  uniqueShortIds : db.uniqueShortIds = db'.uniqueShortIds
  /-- The same kind of write is blocked. -/
  blocked : db.blocked = db'.blocked

/-- An answer and the database that is left agree with another answer and another database. -/
def AlikeAfter {α : Type} (r r' : α × Database) : Prop :=
  r.1 = r'.1 ∧ Alike r.2 r'.2

/-- Every database is like itself. -/
theorem Alike.refl (db : Database) : Alike db db :=
  ⟨rfl, rfl, rfl, fun _ => rfl, rfl, rfl, rfl, rfl⟩

/-! ### Reading without regard to assignments -/

/-- The last number of a project does not depend on assignments. -/
theorem lastStepNumber_unstaffed (db : Database) (projectId : String) :
    db.unstaffed.lastStepNumber projectId = db.lastStepNumber projectId := by
  unfold lastStepNumber unstaffed
  rw [List.filter_map, List.map_map]
  rfl

/-- A question about steps that does not look at assignments is answered without them. -/
theorem any_unstaffed (db : Database) {p : Row Step → Bool}
    (hp : ∀ row : Row Step, p (row.modify Step.unstaffed) = p row) :
    db.unstaffed.steps.any p = db.steps.any p := by
  unfold unstaffed
  rw [List.any_map]
  exact congrArg db.steps.any (funext hp)

/-- Taking the assignments out of a catalog and of the table it is chosen from is the same. -/
theorem storedCatalog_unstaffed (db : Database) (projectId : String) :
    db.unstaffed.storedCatalog projectId = (db.storedCatalog projectId).map Step.unstaffed := by
  have hrows : db.unstaffed.catalogRows projectId =
      (db.catalogRows projectId).map fun row => row.modify Step.unstaffed :=
    catalogRows_map (fun _ => rfl) fun _ => rfl
  rw [storedCatalog, hrows, storedCatalog, List.map_map, List.map_map]
  rfl

namespace Alike

/-- The same writes are blocked. -/
theorem permit (h : Alike db db') (kind : WriteKind) : db.permit kind = db'.permit kind := by
  unfold Database.permit
  rw [h.blocked]

/-- The same issues are found. -/
theorem issue (h : Alike db db') (text : String) : db.issue text = db'.issue text := by
  unfold Database.issue issue? withShortId
  rw [h.issues]

/-- The same projects are found. -/
theorem project (h : Alike db db') (id : String) : db.project id = db'.project id := by
  unfold Database.project project?
  rw [h.projects]

/-- The same issues are there. -/
theorem hasIssue (h : Alike db db') (id : String) : db.hasIssue id = db'.hasIssue id := by
  unfold Database.hasIssue
  rw [h.issues]

/-- The same projects are there. -/
theorem hasProject (h : Alike db db') (id : String) : db.hasProject id = db'.hasProject id := by
  unfold Database.hasProject
  rw [h.projects]

/-- A question about steps that does not look at assignments is answered alike. -/
theorem any_steps (h : Alike db db') {p : Row Step → Bool}
    (hp : ∀ row : Row Step, p (row.modify Step.unstaffed) = p row) :
    db.steps.any p = db'.steps.any p := by
  rw [← any_unstaffed db hp, h.steps, any_unstaffed db' hp]

/-- Both number their steps alike. -/
theorem lastStepNumber (h : Alike db db') (projectId : String) :
    db.lastStepNumber projectId = db'.lastStepNumber projectId := by
  rw [← lastStepNumber_unstaffed, ← lastStepNumber_unstaffed db', Database.lastStepNumber, h.steps]
  rfl

/-- The same number is given to a step. -/
theorem stepNumber (h : Alike db db') (projectId : String) (asked : Option Int) :
    db.stepNumber projectId asked = db'.stepNumber projectId asked := by
  unfold Database.stepNumber nextStepNumber
  rw [h.lastStepNumber]

/-- The same numbers are taken. -/
theorem hasStepNumber (h : Alike db db') (projectId : String) (number : Int) :
    db.hasStepNumber projectId number = db'.hasStepNumber projectId number :=
  h.any_steps fun _ => rfl

/-- Catalogs differ in their assignments only. -/
theorem storedCatalog (h : Alike db db') (projectId : String) :
    (db.storedCatalog projectId).map Step.unstaffed =
      (db'.storedCatalog projectId).map Step.unstaffed := by
  rw [← storedCatalog_unstaffed, ← storedCatalog_unstaffed, Database.storedCatalog, catalogRows,
    h.steps]
  rfl

/-- Ledgers differ in their agents only. -/
theorem history (h : Alike db db') (id : String) :
    (db.history id).map LedgerEntry.unsigned = (db'.history id).map LedgerEntry.unsigned := by
  -- Signatures play no part in choosing the entries of an issue.
  have hchoose : ∀ ledger : List LedgerEntry,
      (ledger.filter fun entry => entry.issueId == id).map LedgerEntry.unsigned =
        (ledger.map LedgerEntry.unsigned).filter fun entry => entry.issueId == id := by
    intro ledger
    rw [List.filter_map]
    rfl
  rw [Database.history, hchoose, h.ledger, ← hchoose, Database.history]

/-- The same entries are there. -/
theorem any_ledger (h : Alike db db') (id : String) :
    (db.ledger.any fun entry => entry.id == id) = db'.ledger.any fun entry => entry.id == id := by
  have hunsigned : ∀ ledger : List LedgerEntry, (ledger.any fun entry => entry.id == id) =
      (ledger.map LedgerEntry.unsigned).any fun entry => entry.id == id := by
    intro ledger
    rw [List.any_map]
    rfl
  rw [hunsigned, h.ledger, ← hunsigned]

/-- The place of an issue is the same. -/
theorem course_cursorFor (h : Alike db db') (issue : Issue) (now : Int) :
    (db.cursorFor issue now).course = (db'.cursorFor issue now).course := by
  rw [Database.course_cursorFor, h.course, ← Database.course_cursorFor]

end Alike

/-! ### Single writes -/

/-- In a consistent database, the cursor of an issue can be moved iff the issue is there. -/
theorem moveCursor_eq (hdb : db.Consistent) (issueId projectId : String) (update : CursorUpdate)
    (now : Int) :
    db.moveCursor issueId projectId update now =
      db.permit .cursorPut >>= fun _ =>
        require (db.hasIssue issueId) .missingReference >>= fun _ =>
          .ok { db with
            cursors := db.cursorsWith ((Cursor.notStarted issueId projectId now).apply update now)
              (Row.modify · fun cursor => cursor.apply update now) } := by
  unfold moveCursor putCursor cursorsWith
  refine congrArg _ (funext fun _ => ?_)
  by_cases hstored : (db.storedCursor? issueId).isSome
  · -- The cursor that is written over belongs to an issue.
    have hany : (db.cursors.any fun row => row.record.issueId == issueId) = true :=
      Row.isSome_lookup_iff.1 hstored
    simp only [Cursor.apply, Cursor.notStarted, hany, hstored,
      hasIssue_of_storedCursor? hdb hstored,
      ↓reduceIte, require]
    rfl
  · have hany : ¬ (db.cursors.any fun row => row.record.issueId == issueId) = true :=
      mt Row.isSome_lookup_iff.2 hstored
    simp only [Cursor.apply, Cursor.notStarted, hany, hstored]
    rfl

namespace Alike

/-- Events can be appended to both or to neither. -/
theorem appendEvents (h : Alike db db') (author : Author) (drafts : List EventDraft) :
    Agree Alike (db.appendEvents author.actor author.stamp.now drafts)
      (db'.appendEvents author.actor author.stamp.now drafts) := by
  induction drafts generalizing db db' with
  | nil => exact .ok h
  | cons draft drafts ih =>
    have happend : Agree Alike (db.appendEvent author.actor author.stamp.now draft)
        (db'.appendEvent author.actor author.stamp.now draft) := by
      unfold Database.appendEvent
      rw [h.permit]
      exact .bind_same fun _ => .ok { h with }
    exact happend.bind fun _ _ hnext => ih hnext

/-- A change is committed to both or to neither. -/
theorem commit {α : Type} (h : Alike db db') (author : Author) (a : α) (events : List EventDraft) :
    Agree AlikeAfter (Change.commit ⟨a, events, db⟩ author)
      (Change.commit ⟨a, events, db'⟩ author) :=
  (h.appendEvents author events).map fun _ _ hafter => ⟨rfl, hafter⟩

/-- A project is inserted in both or in neither. -/
theorem insertProject (h : Alike db db') (p : Project) :
    Agree Alike (db.insertProject p) (db'.insertProject p) := by
  unfold Database.insertProject Database.hasProject
  rw [h.permit, h.projects]
  exact .bind_same fun _ => .bind_same fun _ => .bind_same fun _ => .ok { h with projects := rfl }

/-- An issue is counted in both or in neither. -/
theorem countIssue (h : Alike db db') (projectId : String) (now : Int) :
    Agree Alike (db.countIssue projectId now) (db'.countIssue projectId now) := by
  unfold Database.countIssue
  rw [h.hasProject, h.permit, h.projects]
  dsimp only
  split
  · exact .bind_same fun _ => .ok { h with projects := rfl }
  · exact .ok { h with projects := rfl }

/-- An issue is inserted in both or in neither. -/
theorem insertIssue (h : Alike db db') (issue : Issue) :
    Agree Alike (db.insertIssue issue) (db'.insertIssue issue) := by
  unfold Database.insertIssue
  rw [h.permit, h.uniqueShortIds, h.hasIssue, h.hasProject, h.issues]
  exact .bind_same fun _ => .bind_same fun _ => .bind_same fun _ => .bind_same fun _ =>
    .ok { h with issues := rfl, uniqueShortIds := rfl }

/-- A work status is set in both or in neither. -/
theorem setWorkStatus (h : Alike db db') (issueId : String) (status : WorkStatus) (now : Int) :
    Agree Alike (db.setWorkStatus issueId status now) (db'.setWorkStatus issueId status now) := by
  unfold Database.setWorkStatus
  rw [h.hasIssue, h.permit, h.issues]
  split
  · exact .bind_same fun _ => .ok { h with issues := rfl }
  · exact .error _

/-- A step is inserted in both or in neither. -/
theorem insertStep (h : Alike db db') (step : Step) :
    Agree Alike (db.insertStep step) (db'.insertStep step) := by
  unfold Database.insertStep
  rw [h.permit, h.hasProject, h.any_steps fun _ => rfl, h.any_steps fun _ => rfl]
  refine .bind_same fun _ => .bind_same fun _ => .bind_same fun _ => .bind_same fun _ =>
    .bind_same fun _ => .ok { h with steps := ?_ }
  show (db.steps ++ [_]).map _ = (db'.steps ++ [_]).map _
  rw [List.map_append, List.map_append]
  exact congrArg (· ++ _) h.steps

/-- A cursor is moved in both or in neither. -/
theorem moveCursor (h : Alike db db') (hdb : db.Consistent) (hdb' : db'.Consistent)
    (issueId projectId : String) (update : CursorUpdate) (now : Int) :
    Agree Alike (db.moveCursor issueId projectId update now)
      (db'.moveCursor issueId projectId update now) := by
  rw [moveCursor_eq hdb, moveCursor_eq hdb', h.permit, h.hasIssue]
  refine .bind_same fun _ => .bind_same fun _ => .ok { h with course := fun id => ?_ }
  rw [courseOf_moved, courseOf_moved, h.course]

/-- A cursor is cleared in both or in neither. -/
theorem clearCursor (h : Alike db db') (issueId : String) (now : Int) :
    Agree Alike (db.clearCursor issueId now) (db'.clearCursor issueId now) := by
  unfold Database.clearCursor
  rw [h.permit]
  refine .bind_same fun _ => .ok { h with course := fun id => ?_ }
  rw [courseOf_clearCursor, courseOf_clearCursor, h.course]

/-- Entries that differ in their signatures are appended, and keep differing in nothing else. -/
theorem appendEntry (h : Alike db db') {draft draft' : LedgerDraft}
    (hdraft : draft.unsigned = draft'.unsigned) :
    Agree (fun r r' => r.1 = draft.entry (db.lastSeq + 1) ∧ r'.1 = draft'.entry (db.lastSeq + 1) ∧
        Alike r.2 r'.2)
      (db.appendEntry draft) (db'.appendEntry draft') := by
  have hid : draft.unsigned.id = draft'.unsigned.id := by rw [hdraft]
  have hissue : draft.unsigned.issueId = draft'.unsigned.issueId := by rw [hdraft]
  simp only [LedgerDraft.unsigned] at hid hissue
  unfold Database.appendEntry
  rw [h.permit, hid, hissue, h.any_ledger, h.hasIssue, ← h.lastSeq]
  refine .bind_same fun _ => .bind_same fun _ => .bind_same fun _ =>
    .ok ⟨rfl, rfl, { h with ledger := ?_, lastSeq := rfl }⟩
  have hentry :
      (draft.entry (db.lastSeq + 1)).unsigned = (draft'.entry (db.lastSeq + 1)).unsigned :=
    congrArg (LedgerDraft.entry · (db.lastSeq + 1)) hdraft
  simp only [List.map_append, List.map_singleton, h.ledger, hentry]

/-! ### Operations that are no asides -/

/-- Creating a project comes to the same in both. -/
theorem createProject (h : Alike db db') (author : Author) (p : Project) :
    Agree AlikeAfter (db.createProject author p) (db'.createProject author p) := by
  have hrest : Agree AlikeAfter
      (db.insertProject p >>= fun next =>
        Change.commit ⟨(), [{ entityType := "project", entityId := p.id, kind := .projectCreated }],
          next⟩ author)
      (db'.insertProject p >>= fun next =>
        Change.commit ⟨(), [{ entityType := "project", entityId := p.id, kind := .projectCreated }],
          next⟩ author) :=
    (h.insertProject p).bind fun _ _ hnext => hnext.commit author () _
  unfold Database.createProject prefixOwner?
  rw [h.projects]
  split
  · split
    · exact .error _
    · exact hrest
  · exact hrest

/-- Creating an issue comes to the same in both. -/
theorem createIssue (h : Alike db db') (author : Author) (projectId title : String)
    (description : Option String) :
    Agree AlikeAfter (db.createIssue author projectId title description)
      (db'.createIssue author projectId title description) := by
  unfold Database.createIssue
  rw [h.project]
  refine .bind_same fun p => (h.insertIssue _).bind fun _ _ hinserted => ?_
  exact (hinserted.countIssue _ _).bind fun _ _ hcounted => hcounted.commit author _ _

/-- Adding a step comes to the same in both. -/
theorem addStep (h : Alike db db') (author : Author) (new : NewStep) :
    Agree AlikeAfter (db.addStep author new) (db'.addStep author new) := by
  simp only [Database.addStep, h.project, h.stepNumber, h.hasStepNumber, throw_bind_eq]
  split
  · exact .error _
  · refine .bind_same fun _ => .bind_same fun _ => ?_
    split
    · exact .error _
    · split
      · exact .error _
      · exact (h.insertStep _).bind fun _ _ hinserted => hinserted.commit author _ _

/-- A reset comes to the same in both. -/
theorem resetPipeline (h : Alike db db') (author : Author) (text : String) :
    Agree AlikeAfter (db.resetPipeline author text) (db'.resetPipeline author text) := by
  unfold Database.resetPipeline
  rw [h.issue]
  exact .bind_same fun issue => (h.clearCursor issue.id author.stamp.now).bind fun _ _ hcleared =>
    hcleared.commit author () _

/-- Transitions that differ in their signatures are written down. -/
theorem applyTransition (h : Alike db db') (hdb : db.Consistent) (hdb' : db'.Consistent)
    {issue : Issue} (ht : t.unsigned = t'.unsigned) :
    Agree AlikeAfter (db.applyTransition author issue t) (db'.applyTransition author issue t') := by
  have hentry : t.entry.unsigned = t'.entry.unsigned := (congrArg Transition.entry ht :)
  have hupdate : t.update = t'.update := (congrArg Transition.update ht :)
  have hstatus : t.workStatus = t'.workStatus := (congrArg Transition.workStatus ht :)
  -- The events of a transition do not name who signs its entry.
  have hevents : transitionEvents issue t = transitionEvents issue t' :=
    (congrArg (transitionEvents issue) ht :)
  rw [applyTransition_eq, applyTransition_eq, hupdate, hstatus, hevents]
  refine (h.appendEntry hentry).and_eq.bind ?_
  rintro ⟨_, next⟩ ⟨_, next'⟩ ⟨⟨-, -, hnext⟩, happend, happend'⟩
  have hmove := hnext.moveCursor (consistent_of_appendEntry hdb happend)
    (consistent_of_appendEntry hdb' happend') issue.id issue.projectId t'.update author.stamp.now
  refine hmove.bind fun moved moved' hmoved => ?_
  have hmark : Agree Alike (moved.setWorkStatus? issue.id t'.workStatus author.stamp.now)
      (moved'.setWorkStatus? issue.id t'.workStatus author.stamp.now) := by
    unfold setWorkStatus?
    cases t'.workStatus with
    | none => exact .ok hmoved
    | some status => exact hmoved.setWorkStatus issue.id status author.stamp.now
  exact hmark.bind fun _ _ hmarked => hmarked.commit author () _

/-- A completion answers the same, whatever the signals and the assignments are. -/
theorem complete (h : Alike db db') (hdb : db.Consistent) (hdb' : db'.Consistent)
    (author : Author) (text : String) (agent notes : Option String) :
    Agree AlikeAfter (db.complete author text agent notes)
      (db'.complete author text agent notes) := by
  cases hissue : db.issue text with
  | error e =>
    rw [complete_eq_of_issue_error hdb hissue,
      complete_eq_of_issue_error hdb' (h.issue text ▸ hissue)]
    exact .error e
  | ok issue =>
    rw [complete_eq_of_issue_ok hdb hissue, complete_eq_of_issue_ok hdb' (h.issue text ▸ hissue)]
    -- Both plan the same completion but for the signatures, and write it down alike.
    have hwork := h.storedCatalog issue.projectId
    have hempty : (db.storedCatalog issue.projectId).isEmpty =
        (db'.storedCatalog issue.projectId).isEmpty := by
      rw [← List.isEmpty_map, hwork, List.isEmpty_map]
    rw [hempty]
    split
    · exact .error _
    · next hne =>
      have hne : db.storedCatalog issue.projectId ≠ [] := by
        rintro hnil
        rw [← hempty, hnil] at hne
        exact hne rfl
      refine (Progression.planCompletion_agree hwork hne (h.course_cursorFor issue author.stamp.now)
        (cursorFor_issueId.trans cursorFor_issueId.symm)).bind fun t t' ht => ?_
      refine (h.applyTransition hdb hdb' ht).map fun r r' hr => ?_
      exact ⟨(congrArg (completionOf issue) ht :), hr.2⟩

/-- A rejection answers the same, whatever the signals and the assignments are. -/
theorem reject (h : Alike db db') (hdb : db.Consistent) (hdb' : db'.Consistent)
    (author : Author) (text : String) (agent : Option String) (reason : String) :
    Agree AlikeAfter (db.reject author text agent reason)
      (db'.reject author text agent reason) := by
  cases hreason : Text.nonBlank (some reason) with
  | none =>
    rw [reject_eq_of_blank hreason, reject_eq_of_blank hreason]
    exact .error _
  | some trimmed =>
    cases hissue : db.issue text with
    | error e =>
      rw [reject_eq_of_issue_error hdb hreason hissue,
        reject_eq_of_issue_error hdb' hreason (h.issue text ▸ hissue)]
      exact .error e
    | ok issue =>
      -- Both plan the same rejection but for the signatures, and write it down alike.
      rw [reject_eq_of_issue_ok hdb hreason hissue,
        reject_eq_of_issue_ok hdb' hreason (h.issue text ▸ hissue)]
      refine (Progression.planRejection_agree (h.storedCatalog issue.projectId)
        (h.course_cursorFor issue author.stamp.now)
        (cursorFor_issueId.trans cursorFor_issueId.symm)).bind fun t t' ht => ?_
      refine (h.applyTransition hdb hdb' ht).bind fun r r' hr => ?_
      have houtcome : t.outcome = t'.outcome := (congrArg Transition.outcome ht :)
      have hfrom : t.fromStepId = t'.fromStepId := (congrArg Transition.fromStepId ht :)
      rw [houtcome, hfrom]
      split
      · exact .ok ⟨rfl, hr.2⟩
      · exact .error _

/-! ### Single writes and batches of them -/

/-- A single write comes to the same in both. -/
theorem singleWrite (h : Alike db db') (hdb : db.Consistent) (hdb' : db'.Consistent) (now : Int)
    (w : SingleWrite) :
    Agree (fun c c' => c.result = c'.result ∧ c.events = c'.events ∧ Alike c.db c'.db)
      (db.singleWrite now w) (db'.singleWrite now w) := by
  cases w with
  | moveCursor issueId projectId update =>
    exact (h.moveCursor hdb hdb' issueId projectId update now).bind fun _ _ hnext =>
      .ok ⟨rfl, rfl, hnext⟩
  | appendEntry draft =>
    refine (h.appendEntry rfl).bind fun _ _ ⟨hentry, hentry', hnext⟩ => .ok ⟨?_, rfl, hnext⟩
    exact congrArg some (hentry.trans hentry'.symm)
  | setWorkStatus issueId status =>
    exact (h.setWorkStatus issueId status now).bind fun _ _ hnext => .ok ⟨rfl, rfl, hnext⟩
  | note event => exact .ok ⟨rfl, rfl, h⟩

/-- Several writes come to the same in both. -/
theorem writeAll (h : Alike db db') (hdb : db.Consistent) (hdb' : db'.Consistent) (now : Int)
    (writes : List SingleWrite) :
    Agree (fun c c' => c.result = c'.result ∧ c.events = c'.events ∧ Alike c.db c'.db)
      (db.writeAll now writes) (db'.writeAll now writes) := by
  -- Each write starts from where the one before it ended, in both alike.
  induction writes generalizing db db' with
  | nil => exact .ok ⟨rfl, rfl, h⟩
  | cons write writes ih =>
    refine (h.singleWrite hdb hdb' now write).and_eq.bind ?_
    rintro first first' ⟨⟨hresult, hevents, hfirst⟩, hwrite, hwrite'⟩
    refine (ih hfirst (consistent_of_singleWrite hdb hwrite)
      (consistent_of_singleWrite hdb' hwrite')).bind ?_
    rintro rest rest' ⟨hresults, hmore, hrest⟩
    exact .ok ⟨by rw [hresult, hresults], by rw [hevents, hmore], hrest⟩

/-- A batch comes to the same in both. -/
theorem batch (h : Alike db db') (hdb : db.Consistent) (hdb' : db'.Consistent) (author : Author)
    (writes : List SingleWrite) (failure : Option String) :
    Agree AlikeAfter (db.batch author writes failure) (db'.batch author writes failure) := by
  refine (h.writeAll hdb hdb' author.stamp.now writes).bind ?_
  rintro ⟨result, events, next⟩ ⟨_, _, next'⟩ ⟨rfl, rfl, hnext⟩
  cases failure with
  | none => exact hnext.commit author result events
  | some text => exact .error _

/-- Applying the schema looks at the short identifiers only. -/
theorem applySchema (h : Alike db db') (now : Int) :
    Agree Alike (db.applySchema now) (db'.applySchema now) := by
  unfold Database.applySchema hasDistinctShortIds
  rw [h.uniqueShortIds, h.issues]
  split
  · exact .error _
  · exact .ok { h with issues := rfl, uniqueShortIds := rfl }

/-- An operation that is no aside answers the same on databases that are alike, and leaves them
alike. -/
theorem perform (h : Alike db db') (hdb : db.Consistent) (hdb' : db'.Consistent)
    (hregular : op.isRegular = true) (hop : op.isAside = false) (author : Author) :
    Agree AlikeAfter (db.perform author op) (db'.perform author op) := by
  have hanswer {α : Type} (toReply : α → Reply) {x y : Except Error (α × Database)}
      (hagree : Agree AlikeAfter x y) : Agree AlikeAfter (answer toReply x) (answer toReply y) :=
    hagree.map fun _ _ hr => ⟨congrArg toReply hr.1, hr.2⟩
  cases op with
  | createProject p => exact hanswer (fun () => .project p) (h.createProject author p)
  | createIssue projectId title description =>
    exact hanswer _ (h.createIssue author projectId title description)
  | addStep new => exact hanswer _ (h.addStep author new)
  | resetPipeline text => exact hanswer (fun () => .done) (h.resetPipeline author text)
  | complete text agent notes => exact hanswer _ (h.complete hdb hdb' author text agent notes)
  | reject text agent reason => exact hanswer _ (h.reject hdb hdb' author text agent reason)
  | write w =>
    exact (h.singleWrite hdb hdb' author.stamp.now w).map fun _ _ hr =>
      ⟨congrArg Reply.entry hr.1, hr.2.2⟩
  | batch writes failure => exact hanswer _ (h.batch hdb hdb' author writes failure)
  | applySchema => exact (h.applySchema author.stamp.now).map fun _ _ hnext => ⟨rfl, hnext⟩
  | restaffStep | recordGate => cases hop
  | raw => cases hregular

/-- An operation that is no aside leaves databases that are alike alike, and answers the same. -/
theorem after (h : Alike db db') (hdb : db.Consistent) (hdb' : db'.Consistent)
    (hregular : op.isRegular = true) (hop : op.isAside = false) (author : Author) :
    (db.perform author op).map (·.1) = (db'.perform author op).map (·.1) ∧
      Alike (db.after author op) (db'.after author op) := by
  have hagree := h.perform hdb hdb' hregular hop author
  refine ⟨hagree.map_eq fun _ _ hr => hr.1, ?_⟩
  unfold Database.after
  generalize db.perform author op = result, db'.perform author op = result' at hagree
  cases hagree with
  | ok hr => exact hr.2
  | error e => exact h

/-! ### Asides -/

/-- An aside leaves a database alike to what it was. -/
theorem aside (h : Alike db db') (hdb : db.Consistent) (hop : op.isAside = true)
    (author : Author) : Alike (db.after author op) db' := by
  have hcall : op.isCall = true := by cases op <;> first | rfl | cases hop
  rcases after_cases hdb hcall author with ⟨_, -, hsame⟩ | ⟨reply, -, hcalled⟩
  · rwa [hsame]
  · generalize db.after author op = after at hcalled ⊢
    cases hcalled with
    | @restaffStep stepId agent step hstep =>
      refine { h with steps := Eq.trans ?_ h.steps }
      -- What is assigned to a row is taken out again.
      show (db.steps.map _).map _ = db.steps.map _
      rw [List.map_map]
      refine List.map_congr_left fun row _ => ?_
      dsimp only [Function.comp]
      split <;> rfl
    | @recordGate _ _ _ issue gate =>
      exact { h with course := fun id => (courseOf_gated db issue gate _ id).trans (h.course id) }
    | createProject | createIssue | addStep | resetPipeline | complete | reject => cases hop

end Alike

/-! ### Runs with and without asides -/

/-- The answers of a run to the operations that are no asides. -/
def answersAside (db : Database) (calls : List (Author × Operation)) : List (Except Error Reply) :=
  ((calls.zip (db.run calls).1).filter fun made => !made.1.2.isAside).map (·.2)

/-- Runs with and without asides, side by side. -/
theorem run_alike (h : Alike db db') (hdb : db.Consistent) (hdb' : db'.Consistent)
    (hcalls : ∀ call ∈ calls, call.2.isRegular = true) :
    db.answersAside calls = (db'.run (withoutAsides calls)).1 ∧
      Alike (db.run calls).2 (db'.run (withoutAsides calls)).2 := by
  -- The runs go on in step, so the induction is on the longer one, for any two databases that are
  -- alike.
  induction calls generalizing db db' with
  | nil => exact ⟨rfl, h⟩
  | cons call calls ih =>
    obtain ⟨author, op⟩ := call
    obtain ⟨hregular, hrest⟩ := List.forall_mem_cons.1 hcalls
    have hafter := consistent_after_of_regular hdb hregular author
    by_cases hop : op.isAside = true
    · -- One run goes on while the other stands still.
      obtain ⟨hanswers, halike⟩ := ih (h.aside hdb hop author) hafter hdb' hrest
      have hskip : withoutAsides ((author, op) :: calls) = withoutAsides calls :=
        List.filter_cons_of_neg (by simp [hop])
      refine ⟨?_, hskip ▸ halike⟩
      rw [hskip, ← hanswers]
      simp [answersAside, run, hop]
    · -- Both runs go on by the same call.
      have hop : op.isAside = false := by simpa using hop
      have hkeep : withoutAsides ((author, op) :: calls) = (author, op) :: withoutAsides calls :=
        List.filter_cons_of_pos (by simp [hop])
      obtain ⟨hanswer, hnext⟩ := h.after hdb hdb' hregular hop author
      obtain ⟨hanswers, halike⟩ := ih hnext hafter
        (consistent_after_of_regular hdb' hregular author) hrest
      rw [hkeep]
      refine ⟨?_, halike⟩
      show _ = (db'.perform author op).map (·.1) :: ((db'.after author op).run _).1
      rw [← hanswer, ← hanswers]
      simp [answersAside, run, hop]

/-- The current step of a view apart from its assignment is found without regard to assignments. -/
theorem currentStep_unstaffed (pointer : Option String) (steps : List Step) :
    ((pointer.bind fun stepId => Progression.locateFrom? stepId 0 steps).map (·.step)).map
        Step.unstaffed =
      (pointer.bind fun stepId =>
        Progression.locateFrom? stepId 0 (steps.map Step.unstaffed)).map (·.step) := by
  cases pointer with
  | none => rfl
  | some stepId =>
    simp only [Option.bind_some, Progression.locateFrom?_unstaffed]
    cases Progression.locateFrom? stepId 0 steps <;> rfl

/-- The essence of every view is the same in databases that are alike. -/
theorem Alike.status (h : Alike db db') (hdb : db.Consistent) (hdb' : db'.Consistent)
    (text : String) (now : Int) :
    (db.status text now).map StatusView.essence = (db'.status text now).map StatusView.essence := by
  cases hissue : db.issue text with
  | error e =>
    have hissue' := h.issue text ▸ hissue
    simp only [Database.status, hissue, hissue']
    rfl
  | ok issue =>
    rw [status_eq_ok hdb hissue, status_eq_ok hdb' (h.issue text ▸ hissue)]
    have hcourse := h.course_cursorFor issue now
    have hposition : (db.cursorFor issue now).position = (db'.cursorFor issue now).position := by
      rw [Cursor.position_eq, hcourse, ← Cursor.position_eq]
    obtain ⟨hstepId, hstartedAt, hcompletedAt⟩ := Course.mk.injEq .. ▸ hcourse
    refine congrArg Except.ok ?_
    simp only [viewOf, StatusView.essence, hposition, hstepId, hstartedAt, hcompletedAt,
      currentStep_unstaffed, h.storedCatalog, h.history]

/-- Two databases cannot be told apart but by signals of the gate, assignments and signatures. -/
structure Indistinct (db db' : Database) : Prop where
  /-- The issues are the same, with their work statuses. -/
  issues : db.issues = db'.issues
  /-- Every issue is at the same position. -/
  positions : ∀ id, db.positionOf id = db'.positionOf id
  /-- Every issue has the same times of its start and its end. -/
  times : ∀ id, (db.courseOf id).startedAt = (db'.courseOf id).startedAt ∧
    (db.courseOf id).completedAt = (db'.courseOf id).completedAt
  /-- Every history is the same, apart from the signatures. -/
  histories : ∀ id,
    (db.history id).map LedgerEntry.unsigned = (db'.history id).map LedgerEntry.unsigned
  /-- Every view is the same, apart from the gate, the assignments and the signatures, and so is
  every failure to see one. -/
  views : ∀ text now, (db.status text now).map StatusView.essence =
    (db'.status text now).map StatusView.essence

/-- A run cannot be told from the same run without its asides: everything else is answered the same,
and at every moment the databases are indistinct. -/
structure Unswayed (db : Database) (calls : List (Author × Operation)) : Prop where
  /-- Everything else is answered the same. -/
  answers : db.answersAside calls = (db.run (withoutAsides calls)).1
  /-- The databases are indistinct at every moment. -/
  moments : ∀ made, made <+: calls →
    Indistinct (db.run made).2 (db.run (withoutAsides made)).2

/-- No operation touches both the signals of the gate and the courses of issues. -/
structure KeepsApart (db : Database) : Prop where
  /-- A completion touches no signal. -/
  complete : ∀ author text agent notes id,
    (db.after author (.complete text agent notes)).gateOf id = db.gateOf id
  /-- A rejection touches no signal. -/
  reject : ∀ author text agent reason id,
    (db.after author (.reject text agent reason)).gateOf id = db.gateOf id
  /-- A reset touches no signal. -/
  reset : ∀ author text id, (db.after author (.resetPipeline text)).gateOf id = db.gateOf id
  /-- Recording a signal touches no course, no issue and no history. -/
  gate : ∀ author text status error,
    let after := db.after author (.recordGate text status error)
    (∀ id, after.courseOf id = db.courseOf id) ∧ after.issues = db.issues ∧
      ∀ id, after.history id = db.history id

/-- Two databases that are alike cannot be told apart by what counts for positions. -/
theorem Alike.indistinct (h : Alike db db') (hdb : db.Consistent) (hdb' : db'.Consistent) :
    Indistinct db db' where
  issues := h.issues
  positions id := by rw [positionOf_eq_courseOf, h.course, ← positionOf_eq_courseOf]
  times id := by rw [h.course]; exact ⟨rfl, rfl⟩
  histories := h.history
  views := h.status hdb hdb'

/-- What holds of a database and is kept by a call that succeeds holds after the call. -/
theorem after_of_called (hdb : db.Consistent) (hcall : op.isCall = true) {p : Database → Prop}
    (hsame : p db) (hcalled : ∀ reply after, Called db author op reply after → p after) :
    p (db.after author op) := by
  rcases after_cases hdb hcall author with ⟨_, -, hafter⟩ | ⟨reply, -, hafter⟩
  · rw [hafter]
    exact hsame
  · exact hcalled reply _ hafter

/-- A consistent database keeps to the calls that count. -/
theorem keepsApart_of_consistent (hdb : db.Consistent) : KeepsApart db where
  complete author text agent notes id :=
    after_of_called (p := fun after => after.gateOf id = db.gateOf id) hdb rfl rfl
      fun _ _ hcalled => by cases hcalled; exact gateOf_transitioned db author _ _ id
  reject author text agent reason id :=
    after_of_called (p := fun after => after.gateOf id = db.gateOf id) hdb rfl rfl
      fun _ _ hcalled => by cases hcalled; exact gateOf_transitioned db author _ _ id
  reset author text id :=
    after_of_called (p := fun after => after.gateOf id = db.gateOf id) hdb rfl rfl
      fun _ _ hcalled => by cases hcalled; exact gateOf_clearCursor db _ _ id
  gate author text status error :=
    after_of_called (p := fun after => (∀ id, after.courseOf id = db.courseOf id) ∧
        after.issues = db.issues ∧ ∀ id, after.history id = db.history id) hdb rfl
      ⟨fun _ => rfl, rfl, fun _ => rfl⟩ fun _ _ hcalled => by
        cases hcalled
        exact ⟨fun id => courseOf_gated db _ _ _ id, rfl, fun _ => rfl⟩

/-- No run of operations is swayed by its asides. The databases that it leads to keep signals and
courses apart. -/
theorem unswayed_of_run (db : Database) (hdb : db.Consistent) (calls : List (Author × Operation))
    (hcalls : ∀ call ∈ calls, call.2.isRegular = true) :
    Unswayed db calls ∧ KeepsApart (db.run calls).2 := by
  refine ⟨⟨(run_alike (.refl db) hdb hdb hcalls).1, fun made hmade => ?_⟩,
    keepsApart_of_consistent (consistent_run_of_regular hdb hcalls)⟩
  -- A beginning of a run is a run itself.
  have hmadeRegular : ∀ call ∈ made, call.2.isRegular = true := fun call hcall =>
    hcalls call (hmade.subset hcall)
  have hleft : ∀ call ∈ withoutAsides made, call.2.isRegular = true := fun call hcall =>
    hmadeRegular call (List.mem_of_mem_filter hcall)
  exact (run_alike (.refl db) hdb hdb hmadeRegular).2.indistinct
    (consistent_run_of_regular hdb hmadeRegular) (consistent_run_of_regular hdb hleft)

/-- A run with two asides: the only step is assigned after an issue was created, and the gate
reports before the step is completed. -/
def asideRun : List (Author × Operation) :=
  let author (n : Nat) : Author := ⟨"ada", ⟨n, n⟩⟩
  [ (author 1, .createProject ⟨"docs", "Docs", "home", none, some "DOCS", 1, 1, 1⟩),
    (author 2, .addStep ⟨"docs", "draft", .agentWork, none, true, none⟩),
    (author 3, .createIssue "docs" "first" none),
    (author 4, .restaffStep "step_00000002-400" (some "bot")),
    (author 5, .recordGate "DOCS-1" .failed none),
    (author 6, .complete "DOCS-1" none none) ]

/-- The sample run is not swayed, although its asides show in the ledger and in the gate's
signal. -/
theorem unswayed_asideRun :
    (create 0).Consistent ∧ (∀ call ∈ asideRun, call.2.isRegular = true) ∧
      (((create 0).run asideRun).2.history "issue_00000003-400").map (·.agentId) = [some "bot"] ∧
      (((create 0).run (withoutAsides asideRun)).2.history "issue_00000003-400").map (·.agentId) =
        [none] ∧
      ((create 0).run asideRun).2.gateOf "issue_00000003-400" ≠
        ((create 0).run (withoutAsides asideRun)).2.gateOf "issue_00000003-400" ∧
      Unswayed (create 0) asideRun ∧ KeepsApart ((create 0).run asideRun).2 :=
  ⟨(admitted_create 0).toConsistent, by decide, by decide +kernel, by decide +kernel,
    by decide +kernel,
    unswayed_of_run (create 0) (admitted_create 0).toConsistent asideRun (by decide)⟩

end Database

end ReviewPipeline
