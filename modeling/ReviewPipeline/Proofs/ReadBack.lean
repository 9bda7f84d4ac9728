import ReviewPipeline.Proofs.Catalogs
import ReviewPipeline.Proofs.Legibility

/-!
# What Is Answered Is What Is Stored

Six operations answer with a record: the project, the issue, the step, the cursor or the ledger
entry that they wrote. The record is put together in memory, and the row is written beside it, so
that they agree is a matter of proof: whoever reads the record afterwards gets exactly the one that
was answered, and every other record as it was before.

## Main definitions

* `Table.ReadsAlike`: no reader of a table can tell two databases apart;
* `ProjectStored`, `IssueStored`, `StepStored`, `CursorStored`, `EntryAppended`: a record was
  stored, and the others in its table stayed;
* `ReadBack`: the answer of an operation is what it stored.

## Main results

* `readBack_of_deeds`: so it is in every database, whatever was done to it before.
-/

namespace ReviewPipeline

/-- Whether an operation answers with a record that it stores. -/
def Operation.isRecording : Operation → Bool
  | .createProject _ | .createIssue _ _ _ | .addStep _ | .restaffStep _ _ | .recordGate _ _ _
  | .write (.appendEntry _) => true
  | _ => false

/-- Whether a deed is an operation that is no direct change of a table. -/
def Deed.isRegular : Deed → Bool
  | .call _ op => op.isRegular
  | .strike _ => false

/-- The tables that such records are kept in. -/
inductive Table where
  /-- The projects. -/
  | projects
  /-- The issues. -/
  | issues
  /-- The steps. -/
  | steps
  /-- The cursors. -/
  | cursors
  /-- The ledger. -/
  | ledger
  deriving DecidableEq, Repr

/-- The tables that an operation may write, the audit log aside. -/
def Operation.tables : Operation → List Table
  | .createProject _ => [.projects]
  | .createIssue _ _ _ => [.issues, .projects]
  | .addStep _ | .restaffStep _ _ => [.steps]
  | .recordGate _ _ _ => [.cursors]
  | .write (.appendEntry _) => [.ledger]
  | _ => [.projects, .issues, .steps, .cursors, .ledger]

/-- A table has the same rows in two databases. -/
def Table.Same (db db' : Database) : Table → Prop
  | projects => db'.projects = db.projects
  | issues => db'.issues = db.issues
  | steps => db'.steps = db.steps
  | cursors => db'.cursors = db.cursors
  | ledger => db'.ledger = db.ledger

/-- No reader of a table can tell two databases apart. -/
def Table.ReadsAlike (db db' : Database) : Table → Prop
  | projects => (∀ id, db'.project? id = db.project? id) ∧
      ∀ workspace limit, db'.listProjects workspace limit = db.listProjects workspace limit
  | issues => (∀ id, db'.issue? id = db.issue? id) ∧
      ∀ projectId status limit,
        db'.listIssues projectId status limit = db.listIssues projectId status limit
  | steps => (∀ id, db'.step? id = db.step? id) ∧
      ∀ projectId, db'.catalog projectId = db.catalog projectId
  | cursors => ∀ issueId, db'.cursor? issueId = db.cursor? issueId
  | ledger => ∀ issueId, db'.history issueId = db.history issueId

namespace Database

variable {db db' : Database} {author : Author} {op : Operation} {reply : Reply} {id k : String}

/-- A table that is the same reads alike. -/
theorem readsAlike_of_same {table : Table} (h : table.Same db db') : table.ReadsAlike db db' := by
  cases table with
  | projects =>
    have hrows : db'.projects = db.projects := h
    exact ⟨fun _ => by rw [project?, hrows, ← project?],
      fun _ _ => by rw [listProjects, hrows, ← listProjects]⟩
  | issues =>
    have hrows : db'.issues = db.issues := h
    exact ⟨fun _ => by rw [issue?, withShortId, hrows, ← withShortId, ← issue?],
      fun _ _ _ => by rw [listIssues, hrows, ← listIssues]⟩
  | steps =>
    have hrows : db'.steps = db.steps := h
    exact ⟨fun _ => by rw [step?, hrows, ← step?],
      fun _ => by rw [catalog, catalogRows, hrows, ← catalogRows, ← catalog]⟩
  | cursors =>
    have hrows : db'.cursors = db.cursors := h
    exact fun _ => by rw [cursor?, hrows, ← cursor?]
  | ledger =>
    have hrows : db'.ledger = db.ledger := h
    exact fun _ => by rw [history, hrows, ← history]

/-! ### Records and their tables -/

/-- A project was stored, and the others stayed. -/
structure ProjectStored (db db' : Database) (p : Project) : Prop where
  /-- The project is found. -/
  read : db'.project? p.id = .ok (some p)
  /-- Other identifiers are looked up as before. -/
  others : ∀ id, id ≠ p.id → db'.project? id = db.project? id

/-- An issue was stored at a time, its project counted it, and other issues and projects stayed. -/
structure IssueStored (db db' : Database) (now : Int) (issue : Issue) : Prop where
  /-- The issue is found by its full identifier. -/
  read : db'.issue? issue.id = .ok (some issue)
  /-- It is found by its short identifier, if that is nobody's full identifier and no other's short
  one. -/
  readShort : ∀ shortId, issue.shortId = some shortId →
    (∀ row ∈ db.issues, row.record.id ≠ shortId) →
    (∀ row ∈ db.issues, row.record.shortId ≠ some shortId) →
    db'.issue? shortId = .ok (some issue)
  /-- It is no other's short one wherever short identifiers are kept unique. -/
  unique : db.uniqueShortIds = true → ∀ row ∈ db.issues, row.record.shortId ≠ issue.shortId
  /-- Identifiers that do not stand for the issue are looked up as before. -/
  others : ∀ id, id ≠ issue.id → (issue.shortId = some id → db.hasIssue id = true) →
    db'.issue? id = db.issue? id
  /-- Its project counts one more, as far as the number can be read, and was changed just now. -/
  project : ∃ p, db.project? issue.projectId = .ok (some p) ∧
    db'.project? issue.projectId = (readProject (counted p now)).map some
  /-- Other projects stay. -/
  otherProjects : ∀ id, id ≠ issue.projectId → db'.project? id = db.project? id

/-- A step was stored, new or in place of an older version of it, and the others stayed. -/
structure StepStored (db db' : Database) (step : Step) : Prop where
  /-- The step is found. -/
  read : db'.step? step.id = .ok (some step)
  /-- Other identifiers are looked up as before. -/
  others : ∀ id, id ≠ step.id → db'.step? id = db.step? id
  /-- If the catalog could be listed it still can, the step is the only one in it with its
  identifier, and the others are the same, in the same order. -/
  catalog : ∀ before, db.catalog step.projectId = .ok before →
    ∃ after, db'.catalog step.projectId = .ok after ∧
      (after.filter fun s => s.id == step.id) = [step] ∧
      (after.filter fun s => s.id != step.id) = before.filter fun s => s.id != step.id
  /-- Other catalogs stay. -/
  otherCatalogs : ∀ projectId, projectId ≠ step.projectId →
    db'.catalog projectId = db.catalog projectId

/-- A cursor was stored, and those of other issues stayed. -/
structure CursorStored (db db' : Database) (cursor : Cursor) : Prop where
  /-- The cursor is found. -/
  read : db'.cursor? cursor.issueId = .ok (some cursor)
  /-- The cursors of other issues are looked up as before. -/
  others : ∀ issueId, issueId ≠ cursor.issueId → db'.cursor? issueId = db.cursor? issueId

/-- An entry was appended to the history of its issue, and other histories stayed. -/
structure EntryAppended (db db' : Database) (entry : LedgerEntry) : Prop where
  /-- The entry is the last of its history, after those that were there. -/
  read : db'.history entry.issueId = db.history entry.issueId ++ [entry]
  /-- The histories of other issues stay. -/
  others : ∀ issueId, issueId ≠ entry.issueId → db'.history issueId = db.history issueId
  /-- Its number is greater than all before it, those of other issues included. -/
  later : ∀ old ∈ db.ledger, old.seq < entry.seq

/-- The answer of an operation is the record that it stored. -/
inductive Recorded (db : Database) (author : Author) (db' : Database) : Operation → Reply → Prop
  /-- A project was created. -/
  | createProject {p : Project} (h : db.ProjectStored db' p) :
      Recorded db author db' (.createProject p) (.project p)
  /-- An issue was created. -/
  | createIssue {projectId title : String} {description : Option String} {issue : Issue}
      (hproject : issue.projectId = projectId) (h : db.IssueStored db' author.stamp.now issue) :
      Recorded db author db' (.createIssue projectId title description) (.issue issue)
  /-- A step was added, under an identifier that no step had. -/
  | addStep {new : NewStep} {step : Step} (hproject : step.projectId = new.projectId)
      (hnew : db.step? step.id = .ok none) (h : db.StepStored db' step) :
      Recorded db author db' (.addStep new) (.step step)
  /-- A step was assigned. -/
  | restaffStep {stepId : String} {agent : Option String} {step : Step} (hid : step.id = stepId)
      (hagent : step.assignee = agent) (h : db.StepStored db' step) :
      Recorded db author db' (.restaffStep stepId agent) (.step step)
  /-- A signal of the gate was recorded, in the cursor of the issue that was named. -/
  | recordGate {issueId : String} {status : GateStatus} {error : Option String} {issue : Issue}
      {cursor : Cursor} (hissue : db.issue issueId = .ok issue)
      (hcursor : cursor.issueId = issue.id)
      (hgate : cursor.gate = ⟨some status, error, some author.stamp.now⟩)
      (h : db.CursorStored db' cursor) :
      Recorded db author db' (.recordGate issueId status error) (.cursor cursor)
  /-- An entry was appended to the ledger. -/
  | appendEntry {draft : LedgerDraft} {entry : LedgerEntry} (hissue : entry.issueId = draft.issueId)
      (h : db.EntryAppended db' entry) :
      Recorded db author db' (.write (.appendEntry draft)) (.entry (some entry))

/-- The answer of an operation is the record that it stored, and the tables that it does not write
are read as before. -/
structure ReadBack (db : Database) (author : Author) (db' : Database) (op : Operation)
    (reply : Reply) : Prop where
  /-- The record is read back, and the others in its table are read as before. -/
  record : db.Recorded author db' op reply
  /-- Other tables are read as before. -/
  rest : ∀ table : Table, table ∉ op.tables → table.ReadsAlike db db'

/-! ### Projects and issues -/

/-- A project is read from the row found under its identifier, and from nothing else. -/
theorem project?_congr
    (h : (db'.projects.find? fun p => p.id == id) = db.projects.find? fun p => p.id == id) :
    db'.project? id = db.project? id := by
  rw [project?, h, ← project?]

/-- A row that is found is read. -/
theorem project?_of_find? {p : Project} (h : (db.projects.find? fun q => q.id == id) = some p) :
    db.project? id = (readProject p).map some := by
  rw [project?, h]

/-- A project that is appended under a new identifier is stored. -/
theorem projectStored_of_append {p : Project} (hfits : fitsInt32 p.nextIssueNumber = true)
    (hid : ∀ q ∈ db.projects, q.id ≠ p.id) (hprojects : db'.projects = db.projects ++ [p]) :
    db.ProjectStored db' p where
  read := by
    have hfind : (db'.projects.find? fun q => q.id == p.id) = some p := by
      rw [hprojects, find?_concat hid, if_pos rfl]
    rw [project?_of_find? hfind, readProject, if_pos hfits]
    rfl
  others id hother := project?_congr (by rw [hprojects, find?_concat hid, if_neg hother])

/-- What counting an issue does to look-ups of projects. -/
theorem find?_projectsCounted (projectId : String) (now : Int) (id : String) :
    ((db.projectsCounted projectId now).find? fun p => p.id == id) =
      if id = projectId then (db.projects.find? fun p => p.id == id).map (counted · now)
      else db.projects.find? fun p => p.id == id :=
  find?_changed (f := (counted · now)) fun _ => rfl

/-- A project that is read is the record found under its identifier. -/
theorem find?_of_project_eq_ok {p : Project} (h : db.project id = .ok p) :
    (db.projects.find? fun q => q.id == id) = some p ∧ db.project? id = .ok (some p) := by
  unfold Database.project at h
  split at h
  · cases h
  · cases h
  · next found hfound =>
    obtain rfl := Except.ok.inj h
    refine ⟨?_, hfound⟩
    unfold project? at hfound
    split at hfound
    · cases hfound
    · next row hfind =>
      rw [hfind]
      unfold readProject at hfound
      split at hfound
      · simpa [Except.map] using hfound
      · cases hfound

/-- An issue that is appended under new identifiers is stored. -/
theorem issueStored_of_called {projectId title : String} {description : Option String} {p : Project}
    {issue : Issue} (hproject : db.project projectId = .ok p)
    (hissue : issue = Issue.create author.stamp p.id p.nextShortId title description)
    (hid : ∀ row ∈ db.issues, row.record.id ≠ issue.id)
    (hshort : db.uniqueShortIds → ∀ row ∈ db.issues, row.record.shortId ≠ issue.shortId)
    (hissues : db'.issues = db.issues ++ [{ record := issue }])
    (hprojects : db'.projects = db.projectsCounted p.id author.stamp.now) :
    db.IssueStored db' author.stamp.now issue := by
  obtain ⟨hfind, hfound⟩ := find?_of_project_eq_ok hproject
  have hkey : p.id = projectId := (project_eq_ok hproject).2
  have howner : issue.projectId = projectId := by rw [hissue, ← hkey]; rfl
  have hrow : ∀ id, (db'.issues.find? fun row => row.record.id == id) =
      if id = issue.id then some { record := issue }
      else db.issues.find? fun row => row.record.id == id := fun id => by
    rw [hissues]
    exact find?_concat (x := ({ record := issue } : Row Issue)) hid
  have hwith : ∀ shortId, db'.withShortId shortId = db.withShortId shortId ++
      if issue.shortId = some shortId then [{ record := issue }] else [] := fun shortId => by
    rw [withShortId, hissues, List.filter_append, List.filter_singleton, ← withShortId]
    simp
  constructor
  case read => rw [issue?, hrow, if_pos rfl]; rfl
  case readShort =>
    intro shortId hlabel hfull hother
    have hnone : db.withShortId shortId = [] :=
      List.filter_eq_nil_iff.2 fun row hmem => by simpa using hother row hmem
    rw [issue?, hrow]
    by_cases hown : shortId = issue.id
    · rw [if_pos hown]
      rfl
    · rw [if_neg hown, List.find?_eq_none.2 fun row hmem => by simpa using hfull row hmem, hwith,
        hnone, if_pos hlabel]
      rfl
  case unique => exact hshort
  case others =>
    intro id hother hlabel
    rw [issue?, hrow, if_neg hother, issue?]
    cases hfind : db.issues.find? fun row => row.record.id == id with
    | some row => rfl
    | none =>
      -- No issue has the full identifier, so the new one has not this short one.
      have hnot : ¬ db.hasIssue id = true := by
        simpa [hasIssue] using List.find?_eq_none.1 hfind
      rw [hwith, if_neg (mt hlabel hnot), List.append_nil]
  case project =>
    rw [howner]
    refine ⟨p, hfound, project?_of_find? ?_⟩
    rw [hprojects, find?_projectsCounted, if_pos hkey.symm, hfind]
    rfl
  case otherProjects =>
    intro id hother
    refine project?_congr ?_
    rw [hprojects, find?_projectsCounted, if_neg]
    rwa [hkey, ← howner]

/-! ### Steps -/

/-- A step is read from the row found under its identifier, and from nothing else. -/
theorem step?_congr
    (h : (db'.steps.find? fun row => row.record.id == id) =
      db.steps.find? fun row => row.record.id == id) : db'.step? id = db.step? id := by
  rw [step?, h, ← step?]

/-- A step that is found stands in the first row with its identifier. -/
theorem find?_of_step_eq_ok {step : Step} (h : db.step id = .ok step) :
    (db.steps.find? fun row => row.record.id == id) = some { record := step } := by
  unfold Database.step at h
  split at h
  · cases h
  · cases h
  · next found hfound =>
    obtain rfl := Except.ok.inj h
    unfold step? at hfound
    split at hfound
    · cases hfound
    · next row hfind =>
      obtain ⟨read, hread, hsome⟩ := map_eq_ok_iff.1 hfound
      obtain rfl := Option.some.inj hsome
      obtain ⟨record, foreign⟩ := row
      obtain ⟨rfl, rfl⟩ := Row.read_eq_ok_iff.1 hread
      exact hfind

/-- A catalog in which a step stands holds no other step with its identifier. -/
theorem filter_storedCatalog (h : db.Catalogued) {step : Step} {projectId : String}
    (hstep : step ∈ db.storedCatalog projectId) :
    ((db.storedCatalog projectId).filter fun s => s.id == step.id) = [step] :=
  filter_key_eq_singleton (nodup_map_storedCatalog h.ids) hstep

/-- Without a step that was added, a catalog is what it was. -/
theorem filter_storedCatalog_append {step : Step} {projectId : String} (hdb : db.Catalogued)
    (hdb' : db'.Catalogued) (hid : ∀ row ∈ db.steps, row.record.id ≠ step.id)
    (hsteps : db'.steps = db.steps ++ [{ record := step }]) :
    ((db'.storedCatalog projectId).filter fun s => s.id != step.id) =
      (db.storedCatalog projectId).filter fun s => s.id != step.id := by
  -- Both lists hold the same steps in the same order, so they are one.
  have hafter : db.IsCatalog projectId
      ((db'.storedCatalog projectId).filter fun s => s.id != step.id) := by
    refine ⟨fun s => ?_, (hdb'.isCatalog _).ascending.filter _⟩
    simp only [List.mem_filter, mem_storedCatalog, hsteps, List.mem_append, List.mem_singleton,
      bne_iff_ne]
    constructor
    · rintro ⟨⟨row, hrow | rfl, rfl, hproject⟩, hne⟩
      · exact ⟨row, hrow, rfl, hproject⟩
      · exact absurd rfl hne
    · rintro ⟨row, hrow, rfl, hproject⟩
      exact ⟨⟨row, .inl hrow, rfl, hproject⟩, hid row hrow⟩
  have hbefore : db.IsCatalog projectId
      ((db.storedCatalog projectId).filter fun s => s.id != step.id) := by
    refine ⟨fun s => ?_, (hdb.isCatalog _).ascending.filter _⟩
    simp only [List.mem_filter, mem_storedCatalog, bne_iff_ne, and_iff_left_iff_imp]
    rintro ⟨row, hrow, rfl, -⟩
    exact hid row hrow
  exact hafter.unique hbefore

/-- A step that is appended under a new identifier is stored. -/
theorem stepStored_of_append {step : Step} (hdb : db.Catalogued) (hdb' : db'.Catalogued)
    (hid : ∀ row ∈ db.steps, row.record.id ≠ step.id)
    (hsteps : db'.steps = db.steps ++ [{ record := step }]) : db.StepStored db' step := by
  have hrow : ∀ id, (db'.steps.find? fun row => row.record.id == id) =
      if id = step.id then some { record := step }
      else db.steps.find? fun row => row.record.id == id := fun id => by
    rw [hsteps]
    exact find?_concat (x := ({ record := step } : Row Step)) hid
  constructor
  case read => rw [step?, hrow, if_pos rfl]; rfl
  case others =>
    intro id hother
    exact step?_congr (by rw [hrow, if_neg hother])
  case catalog =>
    intro before hbefore
    -- Its rows were readable before, and the new row holds nothing foreign.
    obtain ⟨hwords, rfl⟩ := catalog_eq_ok_iff.1 hbefore
    have hwords' : ∀ row ∈ db'.steps, row.record.projectId = step.projectId →
        row.foreign = none := by
      rw [hsteps]
      exact List.forall_mem_append.2 ⟨hwords, List.forall_mem_singleton.2 fun _ => rfl⟩
    have hmem : step ∈ db'.storedCatalog step.projectId :=
      mem_storedCatalog.2 ⟨{ record := step }, by simp [hsteps], rfl, rfl⟩
    exact ⟨_, catalog_eq_ok_iff.2 ⟨hwords', rfl⟩, filter_storedCatalog hdb' hmem,
      filter_storedCatalog_append hdb hdb' hid hsteps⟩
  case otherCatalogs =>
    intro projectId hother
    have hrows : db'.catalogRows projectId = db.catalogRows projectId := by
      simp [catalogRows, hsteps, List.filter_append, Ne.symm hother]
    rw [Database.catalog, hrows, ← Database.catalog]

/-- What assigning a step does to its row. -/
def assigned (agent : Option String) (now : Int) (row : Row Step) : Row Step :=
  row.modify fun step => { step with assignee := agent, updatedAt := now }

/-- Assigning a step changes its row in its catalog, and no order. -/
theorem catalogRows_assignStep {stepId : String} {agent : Option String} {now : Int}
    (projectId : String) (hsteps : db'.steps = (db.withAssignee stepId agent now).steps) :
    db'.catalogRows projectId =
      Row.changeAt Step.id stepId (assigned agent now) (db.catalogRows projectId) := by
  have hkeeps : ∀ row : Row Step,
      (if row.record.id == stepId then assigned agent now row else row).record.projectId =
          row.record.projectId ∧
        (if row.record.id == stepId then assigned agent now row else row).record.number =
          row.record.number := by
    intro row
    split <;> exact ⟨rfl, rfl⟩
  rw [catalogRows, hsteps]
  exact catalogRows_map (fun row => (hkeeps row).1) fun row => (hkeeps row).2

/-- A step that is assigned is the only one to change. -/
theorem stepStored_of_assignStep {stepId : String} {agent : Option String} {now : Int} {step : Step}
    (hdb : db.Catalogued) (hdb' : db'.Catalogued) (hstep : db.step stepId = .ok step)
    (hsteps : db'.steps = (db.withAssignee step.id agent now).steps) :
    db.StepStored db' { step with assignee := agent, updatedAt := now } := by
  have hfind := find?_of_step_eq_ok hstep
  obtain rfl : step.id = stepId := by simpa using List.find?_some hfind
  have hmem : ({ record := step } : Row Step) ∈ db.steps := List.mem_of_find?_eq_some hfind
  have hrow : ∀ id, (db'.steps.find? fun row => row.record.id == id) =
      if id = step.id then (db.steps.find? fun row => row.record.id == id).map (assigned agent now)
      else db.steps.find? fun row => row.record.id == id := fun id => by
    rw [hsteps]
    exact find?_changed (f := assigned agent now) fun _ => rfl
  constructor
  case read =>
    rw [step?, hrow, if_pos rfl, hfind]
    rfl
  case others =>
    intro id hother
    exact step?_congr (by rw [hrow, if_neg hother])
  case catalog =>
    intro before hbefore
    obtain ⟨hwords, rfl⟩ := catalog_eq_ok_iff.1 hbefore
    have hwords' : ∀ row ∈ db'.steps, row.record.projectId = step.projectId →
        row.foreign = none := by
      intro row hrow hproject
      rw [hsteps] at hrow
      have hchanged : row ∈ Row.changeAt Step.id step.id (assigned agent now) db.steps := hrow
      rcases Row.mem_changeAt hchanged with ⟨hold, -⟩ | ⟨old, hold, -, rfl⟩
      · exact hwords row hold hproject
      · exact hwords old hold hproject
    have hstored : (db'.steps.find? fun row => row.record.id == step.id) =
        some (assigned agent now { record := step }) := by
      rw [hrow, if_pos rfl, hfind]
      rfl
    have hmem' : ({ step with assignee := agent, updatedAt := now } : Step) ∈
        db'.storedCatalog step.projectId :=
      mem_storedCatalog.2 ⟨_, List.mem_of_find?_eq_some hstored, rfl, rfl⟩
    refine ⟨_, catalog_eq_ok_iff.2 ⟨hwords', rfl⟩, filter_storedCatalog hdb' hmem', ?_⟩
    rw [storedCatalog, storedCatalog, List.filter_map, List.filter_map,
      catalogRows_assignStep _ hsteps]
    exact congrArg (List.map _) (Row.filter_changeAt
      (g := fun step => { step with assignee := agent, updatedAt := now }) (fun _ => rfl)
      fun _ => rfl)
  case otherCatalogs =>
    intro projectId hother
    have hsame : db'.catalogRows projectId = db.catalogRows projectId := by
      rw [catalogRows_assignStep _ hsteps]
      refine Row.changeAt_eq_self fun row hrow hid => hother ?_
      rw [catalogRows, List.mem_mergeSort, List.mem_filter] at hrow
      obtain ⟨hrow, hproject⟩ := hrow
      -- The row has the identifier of the step, so it is its row.
      obtain rfl := List.inj_on_of_nodup_map hdb.ids hrow hmem hid
      exact (beq_iff_eq.1 hproject).symm
    rw [Database.catalog, hsame, ← Database.catalog]

/-! ### Cursors and entries -/

/-- A cursor that is read is the cursor of the issue it was read for. -/
theorem issueId_of_cursor? {issueId : String} {cursor : Cursor}
    (h : db.cursor? issueId = .ok (some cursor)) : cursor.issueId = issueId := by
  unfold cursor? at h
  split at h
  · cases h
  · next row hfind =>
    obtain ⟨read, hread, hsome⟩ := map_eq_ok_iff.1 h
    obtain rfl := Option.some.inj hsome
    obtain ⟨-, rfl⟩ := Row.read_eq_ok_iff.1 hread
    simpa using List.find?_some hfind

/-- A cursor that is written is the only one to change. -/
theorem cursor?_cursorsWith {fresh : Cursor} {update : Row Cursor → Row Cursor} {issueId : String}
    (hcursors : db'.cursors = db.cursorsWith fresh update)
    (hupdate : ∀ row, (update row).record.issueId = row.record.issueId)
    (hother : issueId ≠ fresh.issueId) : db'.cursor? issueId = db.cursor? issueId := by
  have hfind : (db'.cursors.find? fun row => row.record.issueId == issueId) =
      db.cursors.find? fun row => row.record.issueId == issueId := by
    rw [hcursors, cursorsWith]
    split
    · exact (find?_changed hupdate).trans (if_neg hother)
    · next hnone =>
      have hnew : db.storedCursor? fresh.issueId = none := by simpa using hnone
      exact (find?_concat (x := ({ record := fresh } : Row Cursor))
        (Row.lookup_eq_none_iff.1 hnew)).trans (if_neg hother)
  rw [cursor?, hfind, ← cursor?]

/-- A signal that is written stands in the cursor of its issue afterwards. -/
theorem gate_of_cursor? {fresh : Cursor} {update : Row Cursor → Row Cursor} {gate : GateSnapshot}
    {issueId : String} {cursor : Cursor} (h : db'.cursor? issueId = .ok (some cursor))
    (hcursors : db'.cursors = db.cursorsWith fresh update) (hissue : fresh.issueId = issueId)
    (hfresh : fresh.gate = gate) (hupdate : ∀ row, (update row).record.gate = gate) :
    cursor.gate = gate := by
  subst hissue
  -- The row that is read under the key is the one written, or the one inserted.
  unfold cursor? at h
  split at h
  · cases h
  next row hfind =>
  obtain ⟨read, hread, hsome⟩ := map_eq_ok_iff.1 h
  obtain rfl := Option.some.inj hsome
  obtain ⟨-, rfl⟩ := Row.read_eq_ok_iff.1 hread
  have hkey : row.record.issueId = fresh.issueId := by simpa using List.find?_some hfind
  have hrow := List.mem_of_find?_eq_some hfind
  rw [hcursors, cursorsWith] at hrow
  split at hrow
  · -- The row was written over, since no other has its key.
    rcases Row.mem_changeAt hrow with ⟨-, hother⟩ | ⟨old, -, -, rfl⟩
    · exact absurd hkey hother
    · exact hupdate old
  · next hnone =>
    have hnew : db.storedCursor? fresh.issueId = none := by simpa using hnone
    rcases List.mem_append.1 hrow with hold | hinserted
    · exact absurd hkey (Row.lookup_eq_none_iff.1 hnew row hold)
    · rw [List.mem_singleton.1 hinserted]
      exact hfresh

/-- The cursor that is answered when a signal is recorded was read back from the table: it is the
one of the issue that was named, and holds the signal. -/
theorem recorded_recordGate {issueId : String} {status : GateStatus} {error : Option String}
    {cursor : Cursor} (h : db.recordGate author issueId status error = .ok (cursor, db')) :
    db.Recorded author db' (.recordGate issueId status error) (.cursor cursor) ∧
      ∃ cursors events last,
        db' = { db with cursors := cursors, events := events, lastEventId := last } := by
  simp only [recordGate, bind_eq_ok_iff] at h
  obtain ⟨issue, hissue, gated, hput, read, hread, h⟩ := h
  rw [putGate, putCursor_eq_ok_iff] at hput
  obtain ⟨-, -, rfl⟩ := hput
  cases read with
  | none => cases h
  | some found =>
    obtain ⟨-, rfl, rfl⟩ := commit_eq_ok_iff.1 h
    have hkey := issueId_of_cursor? hread
    have hgate := gate_of_cursor? hread rfl rfl rfl fun _ => rfl
    refine ⟨.recordGate hissue hkey hgate ⟨?_, fun other hother => ?_⟩, _, _, _, rfl⟩
    · rw [hkey]
      exact hread
    · rw [hkey] at hother
      exact cursor?_cursorsWith rfl (fun _ => rfl) hother

/-- An entry that is appended with the next number is the last one of the ledger. -/
theorem entryAppended_of_append {draft : LedgerDraft} (hdb : db.skeleton.Rooted)
    (hledger : db'.ledger = db.ledger ++ [draft.entry (db.lastSeq + 1)]) :
    db.EntryAppended db' (draft.entry (db.lastSeq + 1)) where
  read := by simp [history, hledger, LedgerDraft.entry]
  others issueId hother := by
    have hnot : ¬ draft.issueId = issueId := fun hsame => hother hsame.symm
    simp [history, hledger, LedgerDraft.entry, hnot]
  later old hold := by
    have hgiven : old.seq ≤ db.lastSeq := hdb.given old hold
    show old.seq < db.lastSeq + 1
    omega

/-! ### Operations -/

/-- What an operation answers is what it stored, in every database with steps in order and a ledger
numbered in the order of writing. -/
theorem readBack_of_perform (hdb : db.Catalogued) (hdb' : db'.Catalogued)
    (hroot : db.skeleton.Rooted) (hrecording : op.isRecording = true) (hstarts : op.StartsInRange)
    (h : db.perform author op = .ok (reply, db')) : db.ReadBack author db' op reply := by
  cases op with
  | createProject p =>
    simp only [perform, answer_eq_ok_iff] at h
    obtain ⟨_, h, rfl⟩ := h
    cases createProject_called h with
    -- The tables that the reply does not name are the same list as before, here and below.
    | createProject hid hprefixes =>
      refine ⟨.createProject (projectStored_of_append hstarts hid rfl), fun table htable => ?_⟩
      cases table with
      | projects => exact absurd List.mem_cons_self htable
      | issues | steps | cursors | ledger => exact readsAlike_of_same rfl
  | createIssue projectId title description =>
    simp only [perform, answer_eq_ok_iff] at h
    obtain ⟨issue, h, rfl⟩ := h
    cases createIssue_called h with
    | createIssue hproject hissue hid hshort =>
      have howner : issue.projectId = projectId := by
        rw [hissue]
        exact (project_eq_ok hproject).2
      refine ⟨.createIssue howner (issueStored_of_called hproject hissue hid hshort rfl rfl),
        fun table htable => ?_⟩
      cases table with
      | issues => exact absurd List.mem_cons_self htable
      | projects => exact absurd (List.mem_cons_of_mem _ List.mem_cons_self) htable
      | steps | cursors | ledger => exact readsAlike_of_same rfl
  | addStep new =>
    simp only [perform, answer_eq_ok_iff] at h
    obtain ⟨step, h, rfl⟩ := h
    cases addStep_called h with
    | addStep _ _ hstep _ _ hid =>
      -- The identifier is new, so before the call no step was found under it.
      have hnew : db.step? step.id = .ok none := by
        rw [step?, List.find?_eq_none.2 fun row hrow => by simpa using hid row hrow]
      have howner : step.projectId = new.projectId := by
        rw [hstep]
        rfl
      refine ⟨.addStep howner hnew (stepStored_of_append hdb hdb' hid rfl), fun table htable => ?_⟩
      cases table with
      | steps => exact absurd List.mem_cons_self htable
      | projects | issues | cursors | ledger => exact readsAlike_of_same rfl
  | restaffStep stepId agent =>
    simp only [perform, answer_eq_ok_iff] at h
    obtain ⟨step, h, rfl⟩ := h
    cases restaffStep_called h with
    | restaffStep hstep =>
      have hid := List.find?_some (find?_of_step_eq_ok hstep)
      refine ⟨.restaffStep (by simpa using hid) rfl
        (stepStored_of_assignStep hdb hdb' hstep rfl), fun table htable => ?_⟩
      cases table with
      | steps => exact absurd List.mem_cons_self htable
      | projects | issues | cursors | ledger => exact readsAlike_of_same rfl
  | recordGate issueId status error =>
    simp only [perform, answer_eq_ok_iff] at h
    obtain ⟨cursor, h, rfl⟩ := h
    obtain ⟨hrecorded, cursors, events, last, rfl⟩ := recorded_recordGate h
    refine ⟨hrecorded, fun table htable => ?_⟩
    cases table with
    | cursors => exact absurd List.mem_cons_self htable
    | projects | issues | steps | ledger => exact readsAlike_of_same rfl
  | write w =>
    -- Of the single writes, only an appended entry is answered with a record.
    cases w with
    | appendEntry draft =>
      obtain ⟨change, hwrite, hdone⟩ := map_eq_ok_iff.1 h
      obtain ⟨⟨entry, next⟩, happend, hchange⟩ := bind_eq_ok_iff.1 hwrite
      cases hchange
      cases hdone
      obtain ⟨-, -, -, rfl, rfl⟩ := appendEntry_eq_ok_iff.1 happend
      refine ⟨.appendEntry rfl (entryAppended_of_append hroot rfl), fun table htable => ?_⟩
      cases table with
      | ledger => exact absurd List.mem_cons_self htable
      | projects | issues | steps | cursors => exact readsAlike_of_same rfl
    | moveCursor _ _ _ | setWorkStatus _ _ | note _ => cases hrecording
  | resetPipeline _ | complete _ _ _ | reject _ _ _ | batch _ _ | applySchema | raw _ =>
    cases hrecording

/-- Operations that are no direct changes of tables keep a database consistent. -/
theorem consistent_afterDeeds (hdb : db.Consistent) {deeds : List Deed}
    (hdeeds : ∀ deed ∈ deeds, deed.isRegular = true) : (db.afterDeeds deeds).Consistent := by
  induction deeds generalizing db with
  | nil => exact hdb
  | cons deed deeds ih =>
    obtain ⟨hdeed, hdeeds⟩ := List.forall_mem_cons.1 hdeeds
    refine ih ?_ hdeeds
    cases deed with
    | call author op =>
      rw [afterDeed_call]
      exact consistent_after_of_regular hdb hdeed author
    | strike strike => cases hdeed

/-- Deeds after which every kind of record can be written: there is a project with a step, an issue,
and another issue that was removed again. -/
def recordedRun : List Deed :=
  let author (n : Nat) : Author := ⟨"ada", ⟨n, n⟩⟩
  [ .call (author 1) (.createProject ⟨"docs", "Docs", "home", none, some "DOCS", 1, 1, 1⟩),
    .call (author 2) (.addStep ⟨"docs", "draft", .agentWork, none, true, none⟩),
    .call (author 3) (.createIssue "docs" "first" none),
    .call (author 4) (.createIssue "docs" "second" none),
    .call (author 5) (.raw (.deleteIssue "issue_00000004-400")) ]

/-- One operation of each kind that answers with a record. -/
def recordingSamples : List Operation :=
  [ .createProject ⟨"café ☕", "", "home", some "", none, -5, 9, 8⟩,
    .createIssue "docs" "naïve 𝔘nicode" (some "two\nlines"),
    .addStep ⟨"docs", " review ", .humanReview, some "ada", false, some 7⟩,
    .restaffStep "step_00000002-400" (some "Ωmega"),
    .recordGate "DOCS-1" .failed (some "no \"reason\""),
    .write (.appendEntry
      ⟨"entry", "issue_00000003-400", "draft", none, 4, .completed, some "☃"⟩) ]

end Database

end ReviewPipeline
