import ReviewPipeline.Proofs.AuditTrail
import ReviewPipeline.Proofs.Opening

/-!
# Outside a Workspace

A project belongs to a workspace, and all else belongs to a project: issues and steps by themselves,
cursors and ledger entries through their issue, audit events through what they are about. Operations
do not know about workspaces. But one that is done to a project, an issue or a step of a workspace
leaves every row outside that workspace as it is, whatever stands in the tables.

Each write is followed by itself: it appends or changes rows of one table, and as long as these are
not outside, what is chosen from the table stays the same, and so do the identifiers by which other
tables are chosen from.

## Main definitions

* `Rows.outside`: the rows that belong to the projects of all other workspaces;
* `Rows.Keyed`: projects, issues and steps have identifiers of their own.

## Main results

* `issue?_eq_some`: what a text is looked up to, whatever stands in the tables;
* `outside_createProject`, `outside_createIssue`, `outside_addStep`, `outside_restaffStep`,
  `outside_recordGate`, `outside_resetPipeline`, `outside_complete`, `outside_reject`: what an
  operation leaves alone.
-/

namespace ReviewPipeline

/-! ### Rows of other workspaces -/

namespace Rows

variable {rows rows' : Rows} {workspace id : String}

/-- The projects of all workspaces but one. -/
def outsideProjects (rows : Rows) (workspace : String) : List Project :=
  rows.projects.filter fun p => p.workspaceId != workspace

/-- Whether a project outside a workspace has this identifier. -/
def hasProjectOutside (rows : Rows) (workspace id : String) : Bool :=
  (rows.outsideProjects workspace).any fun p => p.id == id

/-- The issues of projects outside a workspace. -/
def outsideIssues (rows : Rows) (workspace : String) : List (Row Issue) :=
  rows.issues.filter fun row => rows.hasProjectOutside workspace row.record.projectId

/-- Whether an issue outside a workspace has this identifier. -/
def hasIssueOutside (rows : Rows) (workspace id : String) : Bool :=
  (rows.outsideIssues workspace).any fun row => row.record.id == id

/-- The steps of projects outside a workspace. -/
def outsideSteps (rows : Rows) (workspace : String) : List (Row Step) :=
  rows.steps.filter fun row => rows.hasProjectOutside workspace row.record.projectId

/-- Whether a step outside a workspace has this identifier. -/
def hasStepOutside (rows : Rows) (workspace id : String) : Bool :=
  (rows.outsideSteps workspace).any fun row => row.record.id == id

/-- Whether an audit event with this subject is about something outside a workspace. -/
def isAboutOutside (rows : Rows) (workspace entityType entityId : String) : Bool :=
  entityType == "project" && rows.hasProjectOutside workspace entityId ||
    entityType == "issue" && rows.hasIssueOutside workspace entityId ||
    entityType == "step" && rows.hasStepOutside workspace entityId

/-- The rows outside a workspace: the projects of all other workspaces, and whatever belongs to
them. The counters belong to nobody. -/
def outside (rows : Rows) (workspace : String) : Rows where
  projects := rows.outsideProjects workspace
  issues := rows.outsideIssues workspace
  steps := rows.outsideSteps workspace
  cursors := rows.cursors.filter fun row => rows.hasIssueOutside workspace row.record.issueId
  ledger := rows.ledger.filter fun entry => rows.hasIssueOutside workspace entry.issueId
  events := rows.events.filter fun row =>
    rows.isAboutOutside workspace row.record.entityType row.record.entityId

/-- Projects, issues and steps have identifiers of their own: the identifier is the primary key of
the table in each of the three. -/
structure Keyed (rows : Rows) : Prop where
  /-- No two projects share an identifier. -/
  projectIds : (rows.projects.map (·.id)).Nodup
  /-- No two issues share a full identifier. -/
  issueIds : (rows.issues.map (·.record.id)).Nodup
  /-- No two steps share an identifier. -/
  stepIds : (rows.steps.map (·.record.id)).Nodup

/-- Which projects are outside depends on the rows outside only. -/
theorem hasProjectOutside_congr (h : rows'.outside workspace = rows.outside workspace) :
    rows'.hasProjectOutside workspace id = rows.hasProjectOutside workspace id :=
  congrArg (fun outside : Rows => outside.projects.any fun p => p.id == id) h

/-- Which issues are outside depends on the rows outside only. -/
theorem hasIssueOutside_congr (h : rows'.outside workspace = rows.outside workspace) :
    rows'.hasIssueOutside workspace id = rows.hasIssueOutside workspace id :=
  congrArg (fun outside : Rows => outside.issues.any fun row => row.record.id == id) h

/-- Which steps are outside depends on the rows outside only. -/
theorem hasStepOutside_congr (h : rows'.outside workspace = rows.outside workspace) :
    rows'.hasStepOutside workspace id = rows.hasStepOutside workspace id :=
  congrArg (fun outside : Rows => outside.steps.any fun row => row.record.id == id) h

/-- Whether an event is about something outside depends on the rows outside only. -/
theorem isAboutOutside_congr {entityType : String}
    (h : rows'.outside workspace = rows.outside workspace) :
    rows'.isAboutOutside workspace entityType id = rows.isAboutOutside workspace entityType id := by
  unfold isAboutOutside
  rw [hasProjectOutside_congr h, hasIssueOutside_congr h, hasStepOutside_congr h]

/-- An event about a project that is not outside is not about anything outside. -/
theorem isAboutOutside_project (h : rows.hasProjectOutside workspace id = false) :
    rows.isAboutOutside workspace "project" id = false := by
  simp [isAboutOutside, h]

/-- An event about an issue is outside only if the issue is. -/
theorem isAboutOutside_issue (h : rows.hasIssueOutside workspace id = false) :
    rows.isAboutOutside workspace "issue" id = false := by
  simp [isAboutOutside, h]

/-- An event about a step is outside only if the step is. -/
theorem isAboutOutside_step (h : rows.hasStepOutside workspace id = false) :
    rows.isAboutOutside workspace "step" id = false := by
  simp [isAboutOutside, h]

/-- No project outside a workspace has an identifier iff every project that has it belongs to the
workspace. -/
theorem hasProjectOutside_eq_false_iff :
    rows.hasProjectOutside workspace id = false ↔
      ∀ p ∈ rows.projects, p.id = id → p.workspaceId = workspace := by
  simp only [hasProjectOutside, outsideProjects, List.any_eq_false, List.mem_filter, bne_iff_ne,
    beq_iff_eq, and_imp]
  exact forall₂_congr fun p _ => by tauto

/-- No issue outside a workspace has an identifier iff every issue that has it is one of a project
that is not outside. -/
theorem hasIssueOutside_eq_false_iff :
    rows.hasIssueOutside workspace id = false ↔
      ∀ row ∈ rows.issues, row.record.id = id →
        rows.hasProjectOutside workspace row.record.projectId = false := by
  simp only [hasIssueOutside, outsideIssues, List.any_eq_false, List.mem_filter, beq_iff_eq,
    and_imp]
  refine forall₂_congr fun row _ => ?_
  rw [Bool.eq_false_iff]
  tauto

/-- No step outside a workspace has an identifier iff every step that has it is one of a project
that is not outside. -/
theorem hasStepOutside_eq_false_iff :
    rows.hasStepOutside workspace id = false ↔
      ∀ row ∈ rows.steps, row.record.id = id →
        rows.hasProjectOutside workspace row.record.projectId = false := by
  simp only [hasStepOutside, outsideSteps, List.any_eq_false, List.mem_filter, beq_iff_eq, and_imp]
  refine forall₂_congr fun row _ => ?_
  rw [Bool.eq_false_iff]
  tauto

/-- With identifiers of their own, a project of a workspace tells that its identifier is none of a
project outside. -/
theorem Keyed.hasProjectOutside_eq_false (h : rows.Keyed) {p : Project} (hp : p ∈ rows.projects)
    (hworkspace : p.workspaceId = workspace) : rows.hasProjectOutside workspace p.id = false := by
  refine hasProjectOutside_eq_false_iff.2 fun q hq hid => ?_
  rw [List.inj_on_of_nodup_map h.projectIds hq hp hid, hworkspace]

/-- An issue is inside if its project is. -/
theorem Keyed.hasIssueOutside_eq_false (h : rows.Keyed) {row : Row Issue} (hrow : row ∈ rows.issues)
    (hproject : rows.hasProjectOutside workspace row.record.projectId = false) :
    rows.hasIssueOutside workspace row.record.id = false := by
  refine hasIssueOutside_eq_false_iff.2 fun other hother hid => ?_
  rw [List.inj_on_of_nodup_map h.issueIds hother hrow hid, hproject]

/-- A step is inside if its project is. -/
theorem Keyed.hasStepOutside_eq_false (h : rows.Keyed) {row : Row Step} (hrow : row ∈ rows.steps)
    (hproject : rows.hasProjectOutside workspace row.record.projectId = false) :
    rows.hasStepOutside workspace row.record.id = false := by
  refine hasStepOutside_eq_false_iff.2 fun other hother hid => ?_
  rw [List.inj_on_of_nodup_map h.stepIds hother hrow hid, hproject]

end Rows

/-! ### Writes that are not seen outside -/

/-- What is changed out of sight of a choice does not change the choice. -/
theorem filter_map_of_hidden {α : Type} {p : α → Bool} {f : α → α} {xs : List α}
    (h : ∀ x ∈ xs, f x = x ∨ p x = false ∧ p (f x) = false) :
    (xs.map f).filter p = xs.filter p := by
  -- What changes is out of the choice before and after, so it takes no place in it.
  induction xs with
  | nil => rfl
  | cons x xs ih =>
    obtain ⟨hx, hxs⟩ := List.forall_mem_cons.1 h
    rw [List.map_cons, List.filter_cons, List.filter_cons, ih hxs]
    rcases hx with hsame | ⟨hbefore, hafter⟩
    · rw [hsame]
    · rw [hbefore, hafter]
      rfl

/-- What is appended out of sight of a choice does not change the choice. -/
theorem filter_concat_of_hidden {α : Type} {p : α → Bool} {x : α} {xs : List α}
    (h : p x = false) : (xs ++ [x]).filter p = xs.filter p := by
  rw [List.filter_append, List.filter_singleton, h]
  exact List.append_nil _

namespace Row

/-- Rows that are changed out of sight of a choice do not change the choice. -/
theorem filter_changeAt_of_hidden {α : Type} {key : α → String} {k : String} {f : Row α → Row α}
    {p : Row α → Bool} {rows : List (Row α)}
    (h : ∀ row ∈ rows, key row.record = k → p row = false ∧ p (f row) = false) :
    (changeAt key k f rows).filter p = rows.filter p := by
  refine filter_map_of_hidden fun row hrow => ?_
  by_cases hkey : key row.record = k
  · rw [if_pos (by simpa using hkey)]
    exact .inr (h row hrow hkey)
  · rw [if_neg (by simpa using hkey)]
    exact .inl rfl

end Row

namespace Database

variable {db db' : Database} {author : Author} {workspace id text : String} {issue : Issue}
  {p : Project} {step : Step} {t : Transition} {drafts : List EventDraft} {now : Int}

/-- Projects are written out of sight: all that belongs to a project outside is still found to
belong to it. -/
theorem outside_withProjects {projects : List Project}
    (h : (projects.filter fun p => p.workspaceId != workspace) =
      db.rows.outsideProjects workspace) :
    { db with projects := projects : Database }.rows.outside workspace =
      db.rows.outside workspace := by
  have hprojects : { db with projects := projects : Database }.rows.outsideProjects workspace =
      db.rows.outsideProjects workspace := h
  simp only [Rows.outside, Rows.outsideIssues, Rows.outsideSteps, Rows.isAboutOutside,
    Rows.hasIssueOutside, Rows.hasStepOutside, Rows.hasProjectOutside, hprojects]
  rfl

/-- Issues may change where the outside ones stay. -/
theorem outside_withIssues {issues : List (Row Issue)}
    (h : (issues.filter fun row => db.rows.hasProjectOutside workspace row.record.projectId) =
      db.rows.outsideIssues workspace) :
    { db with issues := issues : Database }.rows.outside workspace = db.rows.outside workspace := by
  have hissues : { db with issues := issues : Database }.rows.outsideIssues workspace =
      db.rows.outsideIssues workspace := h
  simp only [Rows.outside, Rows.isAboutOutside, Rows.hasIssueOutside, hissues]
  rfl

/-- Steps may be replaced, if those outside stay. -/
theorem outside_withSteps {steps : List (Row Step)}
    (h : (steps.filter fun row => db.rows.hasProjectOutside workspace row.record.projectId) =
      db.rows.outsideSteps workspace) :
    { db with steps := steps : Database }.rows.outside workspace = db.rows.outside workspace := by
  have hsteps : { db with steps := steps : Database }.rows.outsideSteps workspace =
      db.rows.outsideSteps workspace := h
  simp only [Rows.outside, Rows.isAboutOutside, Rows.hasStepOutside, hsteps]
  rfl

/-- A project of the workspace is added out of sight. -/
theorem outside_withProject (h : p.workspaceId = workspace) :
    { db with projects := db.projects ++ [p] : Database }.rows.outside workspace =
      db.rows.outside workspace :=
  outside_withProjects (filter_concat_of_hidden (by simp [h]))

/-- The issues of a project are counted up out of sight. -/
theorem outside_withProjectsCounted (h : db.rows.hasProjectOutside workspace id = false) :
    { db with projects := db.projectsCounted id now : Database }.rows.outside workspace =
      db.rows.outside workspace := by
  refine outside_withProjects (filter_map_of_hidden fun q hq => ?_)
  by_cases hid : q.id = id
  · have hworkspace := Rows.hasProjectOutside_eq_false_iff.1 h q hq hid
    exact .inr (by simp [hid, hworkspace])
  · exact .inl (if_neg (by simpa using hid))

/-- An issue is added out of sight. -/
theorem outside_withIssue (h : db.rows.hasProjectOutside workspace issue.projectId = false) :
    { db with issues := db.issues ++ [{ record := issue }] : Database }.rows.outside workspace =
      db.rows.outside workspace :=
  outside_withIssues (filter_concat_of_hidden h)

/-- The work status of an issue is set, or left alone, out of sight. -/
theorem outside_withIssuesAfter {status : Option WorkStatus}
    (h : db.rows.hasIssueOutside workspace id = false) :
    { db with issues := db.issuesAfter id status now : Database }.rows.outside workspace =
      db.rows.outside workspace := by
  cases status with
  | none => rfl
  | some status =>
    refine outside_withIssues (Row.filter_changeAt_of_hidden fun row hrow hid => ?_)
    have hproject := Rows.hasIssueOutside_eq_false_iff.1 h row hrow hid
    exact ⟨hproject, hproject⟩

/-- A step is added out of sight. -/
theorem outside_withStep (h : db.rows.hasProjectOutside workspace step.projectId = false) :
    { db with steps := db.steps ++ [{ record := step }] : Database }.rows.outside workspace =
      db.rows.outside workspace :=
  outside_withSteps (filter_concat_of_hidden h)

/-- A step is assigned out of sight. -/
theorem outside_assignStep {agent : Option String}
    (h : db.rows.hasStepOutside workspace id = false) :
    (db.withAssignee id agent now).rows.outside workspace = db.rows.outside workspace := by
  refine outside_withSteps (Row.filter_changeAt_of_hidden fun row hrow hid => ?_)
  have hproject := Rows.hasStepOutside_eq_false_iff.1 h row hrow hid
  exact ⟨hproject, hproject⟩

/-- Cursors may be replaced, if those outside stay. -/
theorem outside_withCursors {cursors : List (Row Cursor)}
    (h : (cursors.filter fun row => db.rows.hasIssueOutside workspace row.record.issueId) =
      db.cursors.filter fun row => db.rows.hasIssueOutside workspace row.record.issueId) :
    { db with cursors := cursors : Database }.rows.outside workspace =
      db.rows.outside workspace :=
  congrArg (fun cursors => { db.rows.outside workspace with cursors := cursors }) h

/-- The cursor of an issue is changed out of sight. -/
theorem filter_cursors_changeAt {update : Row Cursor → Row Cursor}
    (hupdate : ∀ row, (update row).record.issueId = row.record.issueId)
    (h : db.rows.hasIssueOutside workspace id = false) :
    ((Row.changeAt Cursor.issueId id update db.cursors).filter fun row =>
      db.rows.hasIssueOutside workspace row.record.issueId) =
      db.cursors.filter fun row => db.rows.hasIssueOutside workspace row.record.issueId := by
  refine Row.filter_changeAt_of_hidden fun row _ hid => ?_
  rw [hupdate, hid]
  exact ⟨h, h⟩

/-- The cursor of an issue is written out of sight. -/
theorem outside_withCursor {fresh : Cursor} {update : Row Cursor → Row Cursor}
    (hupdate : ∀ row, (update row).record.issueId = row.record.issueId)
    (h : db.rows.hasIssueOutside workspace fresh.issueId = false) :
    { db with cursors := db.cursorsWith fresh update : Database }.rows.outside workspace =
      db.rows.outside workspace := by
  refine outside_withCursors ?_
  unfold cursorsWith
  split
  · exact filter_cursors_changeAt hupdate h
  · exact filter_concat_of_hidden h

/-- The cursor of an issue is cleared out of sight. -/
theorem outside_clearCursor (h : db.rows.hasIssueOutside workspace id = false) :
    (db.withoutPlace id now).rows.outside workspace = db.rows.outside workspace :=
  outside_withCursors (filter_cursors_changeAt (fun _ => rfl) h)

/-- An entry of the ledger is appended out of sight. -/
theorem outside_withEntry {entry : LedgerEntry} {seq : Int}
    (h : db.rows.hasIssueOutside workspace entry.issueId = false) :
    { db with ledger := db.ledger ++ [entry], lastSeq := seq : Database }.rows.outside workspace =
      db.rows.outside workspace :=
  congrArg (fun ledger : List LedgerEntry => { db.rows.outside workspace with ledger := ledger })
    (filter_concat_of_hidden h)

/-- Events are noted out of sight, after writes that were. -/
theorem outside_noting (hwritten : db'.rows.outside workspace = db.rows.outside workspace)
    (h : ∀ draft ∈ drafts,
      db.rows.isAboutOutside workspace draft.entityType draft.entityId = false) :
    (db'.noting author drafts).rows.outside workspace = db.rows.outside workspace := by
  have hnot : ∀ draft ∈ drafts,
      db'.rows.isAboutOutside workspace draft.entityType draft.entityId = false := by
    intro draft hdraft
    rw [Rows.isAboutOutside_congr hwritten]
    exact h draft hdraft
  have hevents : ((db'.noting author drafts).events.filter fun row =>
      db'.rows.isAboutOutside workspace row.record.entityType row.record.entityId) =
      db'.events.filter fun row =>
        db'.rows.isAboutOutside workspace row.record.entityType row.record.entityId := by
    rw [noting, List.filter_append,
      filter_eventRows_of_forall (fun draft hdraft (_ : Int) => hnot draft hdraft)]
    exact List.append_nil _
  rw [← hwritten]
  exact congrArg (fun events => { db'.rows.outside workspace with events := events }) hevents

/-! ### What look-ups find -/

/-- What is read of a row is its record. -/
theorem record_of_read {α : Type} {row : Row α} {column : Nat} {a : α}
    (h : row.read column = .ok a) : row.record = a := by
  unfold Row.read at h
  split at h
  · exact Except.ok.inj h
  · cases h

/-- Rows that are read as one issue are one row. -/
theorem exists_of_mapM_readIssue {rows : List (Row Issue)}
    (h : rows.mapM readIssue = .ok [issue]) : ∃ row, rows = [row] ∧ row.record = issue := by
  cases rows with
  | nil => cases h
  | cons row rest =>
    simp only [List.mapM_cons, bind_eq_ok_iff] at h
    obtain ⟨first, hfirst, others, hothers, hall⟩ := h
    cases hall
    cases rest with
    | nil => exact ⟨row, rfl, record_of_read hfirst⟩
    | cons second rest =>
      simp only [List.mapM_cons, bind_eq_ok_iff] at hothers
      obtain ⟨_, -, _, -, hnone⟩ := hothers
      cases hnone

/-- What a text is looked up to: the issue with this full identifier or, if there is none, the only
one with this short identifier. -/
theorem issue?_eq_some (h : db.issue? text = .ok (some issue)) :
    ∃ row ∈ db.issues, row.record = issue ∧
      (issue.id = text ∨ (∀ other ∈ db.issues, other.record.id ≠ text) ∧
        db.withShortId text = [row]) := by
  unfold issue? at h
  cases hfind : db.issues.find? fun row => row.record.id == text with
  | some row =>
    rw [hfind] at h
    obtain ⟨read, hread, hissue⟩ := map_eq_ok_iff.1 h
    cases hissue
    -- It is found by its full identifier.
    obtain rfl := record_of_read hread
    have hid : row.record.id = text := by simpa using List.find?_some hfind
    exact ⟨row, List.mem_of_find?_eq_some hfind, rfl, .inl hid⟩
  -- It is found by its short identifier, which only one row has.
  | none =>
    have hnone : ∀ other ∈ db.issues, other.record.id ≠ text := by
      simpa using List.find?_eq_none.1 hfind
    rw [hfind] at h
    dsimp only at h
    split at h
    · cases h
    · cases h
    · next found hread =>
      cases h
      obtain ⟨row, htake, hrecord⟩ := exists_of_mapM_readIssue hread
      have hshort : db.withShortId text = [row] := by
        rcases hrows : db.withShortId text with _ | ⟨first, _ | ⟨second, rest⟩⟩ <;> simp_all
      have hrow : row ∈ db.withShortId text := hshort ▸ List.mem_singleton_self row
      exact ⟨row, List.mem_of_mem_filter hrow, hrecord, .inr ⟨hnone, hshort⟩⟩
    · cases h

/-- An issue that is found is looked up. -/
theorem issue?_of_issue_eq_ok (h : db.issue text = .ok issue) :
    db.issue? text = .ok (some issue) := by
  unfold Database.issue at h
  split at h
  · cases h
  · cases h
  · next hfound => rw [hfound, Except.ok.inj h]

/-- The full identifier of an issue is looked up to an issue that has it. -/
theorem id_of_issue_eq_ok {row : Row Issue} (hrow : row ∈ db.issues)
    (h : db.issue row.record.id = .ok issue) : issue.id = row.record.id := by
  obtain ⟨-, -, -, hid | ⟨hnone, -⟩⟩ := issue?_eq_some (issue?_of_issue_eq_ok h)
  · exact hid
  · exact absurd rfl (hnone row hrow)

/-- An issue that is looked up is there. -/
theorem hasIssue_of_issue?_eq_some (h : db.issue? text = .ok (some issue)) :
    db.hasIssue issue.id = true := by
  obtain ⟨row, hrow, rfl, -⟩ := issue?_eq_some h
  exact List.any_eq_true.2 ⟨row, hrow, beq_self_eq_true _⟩

/-- The cursor from which a transition of an issue starts is the cursor of that issue. -/
theorem issueId_of_cursorOrFresh {cursor : Cursor} (h : db.cursorOrFresh issue now = .ok cursor) :
    cursor.issueId = issue.id := by
  obtain ⟨stored, hstored, rfl⟩ := map_eq_ok_iff.1 h
  unfold cursor? at hstored
  split at hstored
  · cases hstored
    rfl
  · next row hfind =>
    obtain ⟨read, hread, rfl⟩ := map_eq_ok_iff.1 hstored
    obtain rfl := record_of_read hread
    simpa using List.find?_some hfind

/-- The identifier of a step is looked up to a step that has it. -/
theorem step_eq_ok (h : db.step id = .ok step) :
    ∃ row ∈ db.steps, row.record = step ∧ step.id = id := by
  unfold Database.step at h
  split at h
  · cases h
  · cases h
  · next found hfound =>
    obtain rfl := Except.ok.inj h
    unfold step? at hfound
    split at hfound
    · cases hfound
    · next row hfind =>
      obtain ⟨read, hread, hsome⟩ := map_eq_ok_iff.1 hfound
      cases hsome
      obtain rfl := record_of_read hread
      exact ⟨row, List.mem_of_find?_eq_some hfind, rfl, by simpa using List.find?_some hfind⟩

/-- What is planned for the place of an issue is written down about that issue. -/
theorem transitioned_of_situation {s : Situation} {u : Unit}
    (hs : db.situation text author.stamp.now = .ok s)
    (hplanned : Progression.Planned s.steps s.cursor author.stamp t)
    (happly : db.applyTransition author s.issue t = .ok (u, db')) :
    db.issue text = .ok s.issue ∧ t.entry.issueId = s.issue.id ∧
      db' = db.transitioned author s.issue t := by
  simp only [situation, bind_eq_ok_iff] at hs
  obtain ⟨issue, hissue, steps, -, cursor, hcursor, hall⟩ := hs
  cases hall
  have hentry := hplanned.entry_issueId.trans (issueId_of_cursorOrFresh hcursor)
  have hhas := hasIssue_of_issue?_eq_some (issue?_of_issue_eq_ok hissue)
  exact ⟨hissue, hentry, ((applyTransition_eq_ok_iff hhas hentry).1 happly).2⟩

/-! ### Operations -/

/-- A project is created out of sight, in its own workspace. -/
theorem outside_createProject {u : Unit} (hworkspace : p.workspaceId = workspace)
    (h : db.createProject author p = .ok (u, db')) :
    db'.rows.outside workspace = db.rows.outside workspace := by
  cases createProject_called h with
  | createProject hid =>
    have hnew : db.rows.hasProjectOutside workspace p.id = false :=
      Rows.hasProjectOutside_eq_false_iff.2 fun q hq hsame => absurd hsame (hid q hq)
    exact outside_noting (outside_withProject hworkspace)
      (List.forall_mem_singleton.2 (Rows.isAboutOutside_project hnew))

/-- An issue is created out of sight. -/
theorem outside_createIssue {projectId title : String} {description : Option String}
    (hproject : db.rows.hasProjectOutside workspace projectId = false)
    (h : db.createIssue author projectId title description = .ok (issue, db')) :
    db'.rows.outside workspace = db.rows.outside workspace := by
  cases createIssue_called h with
  | @createIssue _ _ _ p _ hfound hissue hid =>
    obtain ⟨-, rfl⟩ := project_eq_ok hfound
    have hnew : db.rows.hasIssueOutside workspace issue.id = false :=
      Rows.hasIssueOutside_eq_false_iff.2 fun row hrow hsame => absurd hsame (hid row hrow)
    let added : Database := { db with issues := db.issues ++ [{ record := issue }] }
    let counted : Database := { added with projects := db.projectsCounted p.id author.stamp.now }
    have hadded : added.rows.outside workspace = db.rows.outside workspace :=
      outside_withIssue (by rw [hissue]; exact hproject)
    have hcounted : counted.rows.outside workspace = db.rows.outside workspace :=
      (outside_withProjectsCounted ((Rows.hasProjectOutside_congr hadded).trans hproject)).trans
        hadded
    exact outside_noting hcounted
      (List.forall_mem_singleton.2 (Rows.isAboutOutside_issue hnew))

/-- A step is added out of sight. -/
theorem outside_addStep {new : NewStep}
    (hproject : db.rows.hasProjectOutside workspace new.projectId = false)
    (h : db.addStep author new = .ok (step, db')) :
    db'.rows.outside workspace = db.rows.outside workspace := by
  cases addStep_called h with
  | addStep _ _ hstep =>
    have hinside : db.rows.hasProjectOutside workspace step.projectId = false := by
      rw [hstep]
      exact hproject
    exact outside_noting (outside_withStep hinside)
      (List.forall_mem_singleton.2 (Rows.isAboutOutside_project hinside))

/-- A step is assigned out of sight. -/
theorem outside_restaffStep {stepId : String} {agent : Option String}
    (hstep : db.rows.hasStepOutside workspace stepId = false)
    (h : db.restaffStep author stepId agent = .ok (step, db')) :
    db'.rows.outside workspace = db.rows.outside workspace := by
  generalize hreply : Reply.step step = reply at *
  have hcalled := hreply ▸ restaffStep_called h
  cases hcalled with
  | restaffStep hfound =>
    obtain ⟨-, -, -, rfl⟩ := step_eq_ok hfound
    exact outside_noting (outside_assignStep hstep)
      (List.forall_mem_singleton.2 (Rows.isAboutOutside_step hstep))

/-- A transition is written down out of sight. -/
theorem outside_transitioned (hentry : t.entry.issueId = issue.id)
    (h : db.rows.hasIssueOutside workspace issue.id = false) :
    (db.transitioned author issue t).rows.outside workspace = db.rows.outside workspace := by
  -- One table after the other, from the issues to the audit log.
  let marked : Database :=
    { db with issues := db.issuesAfter issue.id t.workStatus author.stamp.now }
  let moved : Database :=
    { marked with cursors := marked.cursorsAfter issue t.update author.stamp.now }
  let entered : Database := { moved with
    ledger := db.ledger ++ [t.entry.entry (db.lastSeq + 1)]
    lastSeq := db.lastSeq + 1 }
  have hmarked : marked.rows.outside workspace = db.rows.outside workspace :=
    outside_withIssuesAfter h
  have hmoved : moved.rows.outside workspace = db.rows.outside workspace := by
    refine Eq.trans (outside_withCursor ?_ ?_) hmarked
    · exact fun _ => rfl
    · exact (Rows.hasIssueOutside_congr hmarked).trans h
  have hledger : db.rows.hasIssueOutside workspace t.entry.issueId = false := by
    rw [hentry]
    exact h
  have hentered : entered.rows.outside workspace = db.rows.outside workspace :=
    (outside_withEntry ((Rows.hasIssueOutside_congr hmoved).trans hledger)).trans hmoved
  have hevents : ∀ draft ∈ transitionEvents issue t,
      db.rows.isAboutOutside workspace draft.entityType draft.entityId = false := by
    intro draft hdraft
    obtain ⟨htype, hid⟩ := about_of_isAbout (isAbout_transitionEvents draft hdraft)
    rw [htype, hid]
    exact Rows.isAboutOutside_issue h
  exact outside_noting hentered hevents

section About

variable (hinside : ∀ issue, db.issue text = .ok issue →
  db.rows.hasIssueOutside workspace issue.id = false)

include hinside

/-- A signal of the gate is recorded out of sight. -/
theorem outside_recordGate {status : GateStatus} {error : Option String} {cursor : Cursor}
    (h : db.recordGate author text status error = .ok (cursor, db')) :
    db'.rows.outside workspace = db.rows.outside workspace := by
  simp only [recordGate, bind_eq_ok_iff] at h
  obtain ⟨issue, hissue, gated, hput, read, -, h⟩ := h
  rw [putGate, putCursor_eq_ok_iff] at hput
  obtain ⟨-, -, rfl⟩ := hput
  split at h
  · obtain ⟨-, -, rfl⟩ := commit_eq_ok_iff.1 h
    refine outside_noting (outside_withCursor (fun _ => rfl) (hinside issue hissue)) ?_
    exact List.forall_mem_singleton.2 (Rows.isAboutOutside_issue (hinside issue hissue))
  · cases h

/-- A cursor is cleared out of sight. -/
theorem outside_resetPipeline {u : Unit} (h : db.resetPipeline author text = .ok (u, db')) :
    db'.rows.outside workspace = db.rows.outside workspace := by
  cases resetPipeline_called h with
  | resetPipeline hissue =>
    exact outside_noting (outside_clearCursor (hinside _ hissue))
      (List.forall_mem_singleton.2 (Rows.isAboutOutside_issue (hinside _ hissue)))

/-- A step is completed out of sight. -/
theorem outside_complete {agent notes : Option String} {completion : Completion}
    (h : db.complete author text agent notes = .ok (completion, db')) :
    db'.rows.outside workspace = db.rows.outside workspace := by
  unfold complete at h
  obtain ⟨s, hs, h⟩ := bind_eq_ok_iff.1 h
  split at h
  · cases h
  · simp only [bind_eq_ok_iff] at h
    obtain ⟨t, hplan, ⟨u, after⟩, happly, hreply⟩ := h
    cases hreply
    obtain ⟨hissue, hentry, rfl⟩ := transitioned_of_situation hs
      (Progression.planned_of_planCompletion hplan).1 happly
    exact outside_transitioned hentry (hinside _ hissue)

/-- A step is rejected out of sight. -/
theorem outside_reject {agent : Option String} {reason : String} {rejection : Rejection}
    (h : db.reject author text agent reason = .ok (rejection, db')) :
    db'.rows.outside workspace = db.rows.outside workspace := by
  unfold reject at h
  split at h
  · cases h
  · simp only [bind_eq_ok_iff] at h
    obtain ⟨s, hs, t, hplan, ⟨u, after⟩, happly, hreply⟩ := h
    obtain ⟨hissue, hentry, rfl⟩ := transitioned_of_situation hs
      (Progression.planned_of_planRejection hplan).1 happly
    split at hreply
    · cases hreply
      exact outside_transitioned hentry (hinside _ hissue)
    · cases hreply

end About

end Database

end ReviewPipeline
