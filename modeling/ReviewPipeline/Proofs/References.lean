import ReviewPipeline.Proofs.Scripts

/-!
# What Refers to What

Ledger entries refer to issues, issues and steps to projects, and nothing that is referred to is
removed unless what refers to it goes along, which ledger entries never do. Only a small part of a
database matters for this, its skeleton, and there are only six things that a write of any kind can
do to a skeleton. So what all writes keep is proved about those six.

Rows are removed by conditions here, as many at once as satisfy them; the direct changes of
`ReviewPipeline.Database.Raw`, which name a single project, issue or step, are cases of that.

## Main definitions

* `Skeleton`, `Skeleton.Step`: what references are made of, and what a write can do to it;
* `Skeleton.Rooted`: every reference has its target, and the ledger is numbered in order;
* `Skeleton.Extends`: the ledger has only grown, and what it refers to is still there;
* `Strike`, `Database.strike`: removing rows by a condition, and changing ledger entries.

## Main results

* `Skeleton.Step.grows`: a step keeps a skeleton rooted and extends it;
* `step_of_statement`, `step_of_strike`, `step_of_rawWrite`: every write is a step.
-/

namespace ReviewPipeline

/-- What references are made of. -/
structure Skeleton where
  /-- The identifiers of the projects. -/
  projects : List String
  /-- The identifiers of the issues, each with the one of its project. -/
  issues : List (String × String)
  /-- The identifier of the project of each step. -/
  steps : List String
  /-- The ledger. -/
  ledger : List LedgerEntry
  /-- The number of the last ledger entry. -/
  lastSeq : Int

namespace Skeleton

variable {s s' s'' : Skeleton}

/-- The ledger holds an entry of an issue. -/
def HasHistory (s : Skeleton) (issueId : String) : Prop :=
  ∃ entry ∈ s.ledger, entry.issueId = issueId

/-- Every reference has its target, and the ledger is numbered in the order of writing. -/
structure Rooted (s : Skeleton) : Prop where
  /-- Every ledger entry belongs to an issue. -/
  entries : ∀ entry ∈ s.ledger, ∃ projectId, (entry.issueId, projectId) ∈ s.issues
  /-- Every issue belongs to a project. -/
  issues : ∀ issue ∈ s.issues, issue.2 ∈ s.projects
  /-- Every step belongs to a project. -/
  steps : ∀ projectId ∈ s.steps, projectId ∈ s.projects
  /-- Later entries have greater numbers. -/
  sorted : s.ledger.Pairwise (·.seq < ·.seq)
  /-- No entry has a number past the last one given out. -/
  given : ∀ entry ∈ s.ledger, entry.seq ≤ s.lastSeq

/-- What a single write can do. -/
inductive Step (s : Skeleton) : Skeleton → Prop where
  /-- No reference is touched. -/
  | same : Step s s
  /-- A project is added. -/
  | project (id : String) : Step s { s with projects := s.projects ++ [id] }
  /-- An issue is added to a project. -/
  | issue (id : String) {projectId : String} (h : projectId ∈ s.projects) :
      Step s { s with issues := s.issues ++ [(id, projectId)] }
  /-- A step is added to a project. -/
  | step {projectId : String} (h : projectId ∈ s.projects) :
      Step s { s with steps := s.steps ++ [projectId] }
  /-- An entry is added to the ledger, with the next number. -/
  | entry (draft : LedgerDraft) {projectId : String} (h : (draft.issueId, projectId) ∈ s.issues) :
      Step s { s with
        ledger := s.ledger ++ [draft.entry (s.lastSeq + 1)]
        lastSeq := s.lastSeq + 1 }
  /-- Projects, issues and steps are removed, but no issue with history, and no project of what
  stays. -/
  | removal {projects : List String} {issues : List (String × String)} {steps : List String}
      (hprojects : projects.Sublist s.projects) (hissues : issues.Sublist s.issues)
      (hsteps : steps.Sublist s.steps)
      (hhistory : ∀ issue ∈ s.issues, s.HasHistory issue.1 → issue ∈ issues)
      (howned : ∀ issue ∈ issues, issue.2 ∈ projects)
      (hcatalogs : ∀ projectId ∈ steps, projectId ∈ projects) :
      Step s { s with projects := projects, issues := issues, steps := steps }

/-- The ledger has only grown, and the issues that it referred to are there as before. -/
structure Extends (s s' : Skeleton) : Prop where
  /-- The old ledger is the beginning of the new one. -/
  ledger : s.ledger <+: s'.ledger
  /-- An issue with history stays, in its project. -/
  issues : ∀ issue ∈ s.issues, s.HasHistory issue.1 → issue ∈ s'.issues

/-- History is not lost where the ledger only grows. -/
theorem HasHistory.mono {issueId : String} (h : s.HasHistory issueId)
    (hledger : s.ledger <+: s'.ledger) : s'.HasHistory issueId := by
  obtain ⟨entry, hentry, hissue⟩ := h
  exact ⟨entry, hledger.subset hentry, hissue⟩

/-- A skeleton extends itself. -/
theorem Extends.refl (s : Skeleton) : s.Extends s :=
  ⟨List.prefix_rfl, fun _ hissue _ => hissue⟩

/-- What is extended twice is extended. -/
theorem Extends.trans (h : s.Extends s') (h' : s'.Extends s'') : s.Extends s'' := by
  refine ⟨h.ledger.trans h'.ledger, fun issue hissue hhistory => ?_⟩
  exact h'.issues issue (h.issues issue hissue hhistory) (hhistory.mono h.ledger)

/-- A step keeps every reference and the order of the ledger. -/
theorem Step.rooted (hstep : s.Step s') (h : s.Rooted) : s'.Rooted := by
  cases hstep with
  | same => exact h
  | project id =>
    exact { h with
      issues := fun issue hissue => List.mem_append_left _ (h.issues issue hissue)
      steps := fun projectId hstep => List.mem_append_left _ (h.steps projectId hstep) }
  | issue id hproject =>
    refine { h with entries := fun entry hentry => ?_, issues := ?_ }
    · obtain ⟨projectId, hissue⟩ := h.entries entry hentry
      exact ⟨projectId, List.mem_append_left _ hissue⟩
    · exact List.forall_mem_append.2 ⟨h.issues, List.forall_mem_singleton.2 hproject⟩
  | step hproject =>
    exact { h with
      steps := List.forall_mem_append.2 ⟨h.steps, List.forall_mem_singleton.2 hproject⟩ }
  | entry draft hissue =>
    -- The new number is greater than the last one, so than every other.
    have hnew : ∀ entry ∈ s.ledger, entry.seq < s.lastSeq + 1 := fun entry hentry => by
      have := h.given entry hentry
      omega
    refine { h with entries := ?_, sorted := ?_, given := ?_ }
    · exact List.forall_mem_append.2 ⟨h.entries, List.forall_mem_singleton.2 ⟨_, hissue⟩⟩
    · refine List.pairwise_append.2 ⟨h.sorted, List.pairwise_singleton _ _, ?_⟩
      intro entry hentry
      exact List.forall_mem_singleton.2 (hnew entry hentry)
    · refine List.forall_mem_append.2 ⟨fun entry hentry => ?_, ?_⟩
      · exact Int.le_of_lt (hnew entry hentry)
      · exact List.forall_mem_singleton.2 (Int.le_refl _)
  | removal _ _ _ hhistory howned hcatalogs =>
    -- The issue of an entry has history, so it is not among what is removed.
    refine { h with entries := fun entry hentry => ?_, issues := howned, steps := hcatalogs }
    obtain ⟨projectId, hissue⟩ := h.entries entry hentry
    exact ⟨projectId, hhistory _ hissue ⟨entry, hentry, rfl⟩⟩

/-- A step of a skeleton extends it. -/
theorem Step.extends (hstep : s.Step s') : s.Extends s' := by
  cases hstep with
  | same => exact .refl s
  | project | step => exact ⟨List.prefix_rfl, fun _ hissue _ => hissue⟩
  | issue => exact ⟨List.prefix_rfl, fun _ hissue _ => List.mem_append_left _ hissue⟩
  | entry => exact ⟨List.prefix_append _ _, fun _ hissue _ => hissue⟩
  | removal _ _ _ hhistory => exact ⟨List.prefix_rfl, hhistory⟩

end Skeleton

/-! ### Statements -/

namespace Database

variable {db db' : Database}

/-- What references of a database are made of. -/
def skeleton (db : Database) : Skeleton where
  projects := db.projects.map (·.id)
  issues := db.issues.map fun row => (row.record.id, row.record.projectId)
  steps := db.steps.map (·.record.projectId)
  ledger := db.ledger
  lastSeq := db.lastSeq

/-- A new database is rooted. -/
theorem rooted_create (now : Int) : (create now).skeleton.Rooted := by
  constructor <;> simp [skeleton, create]

/-- The database finds history where its skeleton has some. -/
theorem hasHistory_iff {issueId : String} :
    db.hasHistory issueId = true ↔ db.skeleton.HasHistory issueId := by
  simp [hasHistory, Skeleton.HasHistory, skeleton]

/-- The projects of the skeleton are those of the database. -/
theorem mem_skeleton_projects {id : String} :
    id ∈ db.skeleton.projects ↔ db.hasProject id = true := by
  simp [skeleton, hasProject]

/-- An issue that is there has its project in the skeleton. -/
theorem exists_mem_skeleton_issues {id : String} (h : db.hasIssue id = true) :
    ∃ projectId, (id, projectId) ∈ db.skeleton.issues := by
  obtain ⟨row, hrow, hid⟩ := List.any_eq_true.1 h
  obtain rfl := beq_iff_eq.1 hid
  exact ⟨row.record.projectId, List.mem_map_of_mem hrow⟩

/-- Rows that are changed without a change to a column have the same column afterwards. -/
theorem map_changed {α β : Type} {rows : List α} {column : α → β} {p : α → Bool} {f : α → α}
    (hf : ∀ row, column (f row) = column row) :
    (rows.map fun row => if p row then f row else row).map column = rows.map column := by
  rw [List.map_map]
  refine List.map_congr_left fun row _ => ?_
  rw [Function.comp_apply]
  split
  · exact hf row
  · rfl

/-- Projects may change in all but their identifiers. -/
theorem skeleton_withProjects {projects : List Project}
    (h : projects.map (·.id) = db.projects.map (·.id)) :
    { db with projects := projects : Database }.skeleton = db.skeleton := by
  simp only [skeleton, h]

/-- Issues may change in all but their identifiers and projects. -/
theorem skeleton_withIssues {rows : List (Row Issue)}
    (h : rows.map (fun row => (row.record.id, row.record.projectId)) =
      db.issues.map fun row => (row.record.id, row.record.projectId)) :
    { db with issues := rows : Database }.skeleton = db.skeleton := by
  simp only [skeleton, h]

/-- Steps may change in all but their projects. -/
theorem skeleton_withSteps {rows : List (Row Step)}
    (h : rows.map (·.record.projectId) = db.steps.map (·.record.projectId)) :
    { db with steps := rows : Database }.skeleton = db.skeleton := by
  simp only [skeleton, h]

/-- No change of the skeleton is a step. -/
theorem step_of_skeleton_eq (h : db'.skeleton = db.skeleton) :
    db.skeleton.Step db'.skeleton := by
  rw [h]
  exact .same

/-- Every statement is a step. -/
theorem step_of_statement {statement : Statement} (h : statement.run db = .ok db') :
    db.skeleton.Step db'.skeleton := by
  cases statement with
  -- Inserting a row adds its key; all other statements leave the keys as they are.
  | insertProject p =>
    obtain ⟨-, -, -, rfl⟩ := insertProject_eq_ok_iff.1 h
    have hprojects : { db with projects := db.projects ++ [p] : Database }.skeleton =
        { db.skeleton with projects := db.skeleton.projects ++ [p.id] } := by
      simp only [skeleton, List.map_append, List.map_singleton]
    rw [hprojects]
    exact .project p.id
  | insertIssue issue =>
    obtain ⟨-, -, hproject, rfl⟩ := insertIssue_eq_ok h
    have hissues : { db with issues := db.issues ++ [{ record := issue }] : Database }.skeleton =
        { db.skeleton with issues := db.skeleton.issues ++ [(issue.id, issue.projectId)] } := by
      simp only [skeleton, List.map_append, List.map_singleton]
    rw [hissues]
    exact .issue issue.id (mem_skeleton_projects.2 hproject)
  | countIssue projectId now =>
    rw [countIssue_eq_ok h]
    exact step_of_skeleton_eq (skeleton_withProjects (map_changed fun _ => rfl))
  | insertStep step =>
    obtain ⟨-, -, -, hproject, rfl⟩ := insertStep_eq_ok h
    have hsteps : { db with steps := db.steps ++ [{ record := step }] : Database }.skeleton =
        { db.skeleton with steps := db.skeleton.steps ++ [step.projectId] } := by
      simp only [skeleton, List.map_append, List.map_singleton]
    rw [hsteps]
    exact .step (mem_skeleton_projects.2 hproject)
  | assignStep stepId agent now =>
    obtain ⟨-, rfl⟩ := assignStep_eq_ok_iff.1 h
    exact step_of_skeleton_eq (skeleton_withSteps (map_changed fun _ => rfl))
  | putGate issueId projectId gate now =>
    obtain ⟨-, -, rfl⟩ := putCursor_eq_ok_iff.1 h
    exact step_of_skeleton_eq rfl
  | clearCursor issueId now =>
    obtain ⟨-, rfl⟩ := clearCursor_eq_ok_iff.1 h
    exact step_of_skeleton_eq rfl
  | moveCursor issueId projectId update now =>
    obtain ⟨-, -, rfl⟩ := putCursor_eq_ok_iff.1 h
    exact step_of_skeleton_eq rfl
  | appendEntry draft =>
    -- The entry refers to an issue that is there, as the foreign key demands.
    obtain ⟨⟨entry, db'⟩, happend, rfl⟩ := map_eq_ok_iff.1 h
    obtain ⟨-, -, hissue, -, rfl⟩ := appendEntry_eq_ok_iff.1 happend
    obtain ⟨projectId, hmem⟩ := exists_mem_skeleton_issues hissue
    exact .entry draft hmem
  | setWorkStatus issueId status now =>
    obtain ⟨-, -, rfl⟩ := setWorkStatus_eq_ok_iff.1 h
    exact step_of_skeleton_eq (skeleton_withIssues (map_changed fun _ => rfl))
  | appendEvent actor now draft =>
    obtain ⟨-, -, hdone⟩ := bind_eq_ok_iff.1 h
    cases hdone
    exact step_of_skeleton_eq rfl

/-- A chain of statements keeps a skeleton rooted and extends it. -/
theorem grows_of_chain (h : Chain db db') (hdb : db.skeleton.Rooted) :
    db'.skeleton.Rooted ∧ db.skeleton.Extends db'.skeleton := by
  -- Statements are taken off the end, where the database before is known to be rooted.
  induction h with
  | refl => exact ⟨hdb, .refl _⟩
  | tail _ hlast ih =>
    obtain ⟨statement, hstatement⟩ := hlast
    have hstep := step_of_statement hstatement
    exact ⟨hstep.rooted ih.1, ih.2.trans hstep.extends⟩

end Database

/-! ### Removing rows -/

/-- A removal of all rows that satisfy a condition, or a change of ledger entries that do. -/
inductive Strike where
  /-- Remove projects, with their issues, steps and cursors. -/
  | projects (p : Project → Bool)
  /-- Remove issues, with their cursors. -/
  | issues (p : Issue → Bool)
  /-- Remove steps. -/
  | steps (p : Step → Bool)
  /-- Remove ledger entries. -/
  | entries (p : LedgerEntry → Bool)
  /-- Change ledger entries. -/
  | rewrite (p : LedgerEntry → Bool) (f : LedgerEntry → LedgerEntry)

namespace Database

variable {db db' : Database} {id : String}

/-- Carry out a removal, or refuse it as a whole. Rows that belong to what is removed go along,
except ledger entries, which can neither go nor change. -/
def strike (db : Database) : Strike → Except Error Database
  | .projects p => do
    let gone := (db.projects.filter p).map (·.id)
    let db ← db.removeIssues fun issue => gone.contains issue.projectId
    let projects := db.projects.filter fun q => !p q
    let steps := db.steps.filter fun row => !gone.contains row.record.projectId
    return { db with projects := projects, steps := steps }
  | .issues p => db.removeIssues p
  | .steps p => .ok { db with steps := db.steps.filter fun row => !p row.record }
  | .entries p | .rewrite p _ => do
    require (!db.ledger.any p) .appendOnly
    return db

/-- Issues are removed iff none of them has history. -/
theorem removeIssues_eq_ok {p : Issue → Bool} (h : db.removeIssues p = .ok db') :
    (∀ row ∈ db.issues, p row.record = true → db.hasHistory row.record.id = false) ∧
      ∃ cursors, db' = { db with
        issues := db.issues.filter fun row => !p row.record
        cursors := cursors } := by
  simp only [removeIssues, bind_eq_ok_iff, require_eq_ok_iff, pure, Except.pure, Except.ok.injEq,
    exists_const, Bool.not_eq_true', List.any_eq_false, List.mem_map, List.mem_filter,
    Bool.not_eq_true] at h
  obtain ⟨hgone, rfl⟩ := h
  exact ⟨fun row hrow hp => hgone _ ⟨row, ⟨hrow, hp⟩, rfl⟩, _, rfl⟩

/-- An issue with history is not among those that are removed. -/
theorem mem_of_removeIssues {p : Issue → Bool} (h : db.removeIssues p = .ok db') :
    ∀ issue ∈ db.skeleton.issues, db.skeleton.HasHistory issue.1 → issue ∈ db'.skeleton.issues := by
  intro issue hissue hhistory
  obtain ⟨hfree, cursors, rfl⟩ := removeIssues_eq_ok h
  obtain ⟨row, hrow, rfl⟩ := List.mem_map.1 hissue
  refine List.mem_map_of_mem (List.mem_filter.2 ⟨hrow, ?_⟩)
  cases hp : p row.record with
  | false => rfl
  | true =>
    have hnone := hfree row hrow hp
    rw [hasHistory_iff.2 hhistory] at hnone
    cases hnone

/-- If only one of them has history, no issue is removed. -/
theorem removeIssues_eq_error {p : Issue → Bool} {row : Row Issue} (hrow : row ∈ db.issues)
    (hp : p row.record = true) (hhistory : db.hasHistory row.record.id = true) :
    db.removeIssues p = .error (.database .missingReference) := by
  have hgone : ((db.issues.filter fun row => p row.record).map (·.record.id)).any
      db.hasHistory = true :=
    List.any_eq_true.2
      ⟨_, List.mem_map_of_mem (List.mem_filter.2 ⟨hrow, hp⟩), hhistory⟩
  simp only [removeIssues, hgone]
  rfl

/-- Whatever is removed takes nothing away that is referred to. -/
theorem step_of_strike (hdb : db.skeleton.Rooted) {strike : Strike}
    (h : db.strike strike = .ok db') : db.skeleton.Step db'.skeleton := by
  cases strike with
  | projects p =>
    obtain ⟨db₁, hremove, hdone⟩ := bind_eq_ok_iff.1 h
    cases hdone
    have hhistory := mem_of_removeIssues hremove
    obtain ⟨-, cursors, rfl⟩ := removeIssues_eq_ok hremove
    -- A project that something belongs to stays, unless it is one of those to be removed.
    have hstays : ∀ projectId, db.hasProject projectId = true →
        projectId ∉ (db.projects.filter p).map (·.id) →
        projectId ∈ (db.projects.filter fun q => !p q).map (·.id) := by
      intro projectId hproject hkept
      obtain ⟨q, hq, hid⟩ := List.any_eq_true.1 hproject
      obtain rfl := beq_iff_eq.1 hid
      refine List.mem_map_of_mem (List.mem_filter.2 ⟨hq, ?_⟩)
      cases hp : p q with
      | false => rfl
      | true => exact absurd (List.mem_map_of_mem (List.mem_filter.2 ⟨hq, hp⟩)) hkept
    refine .removal (List.filter_sublist.map _) (List.filter_sublist.map _)
      (List.filter_sublist.map _) hhistory ?_ ?_
    · intro issue hissue
      obtain ⟨row, hrow, rfl⟩ := List.mem_map.1 hissue
      obtain ⟨hrow, hkept⟩ := List.mem_filter.1 hrow
      have hproject := mem_skeleton_projects.1 (hdb.issues _ (List.mem_map_of_mem hrow))
      exact hstays _ hproject (by simpa using hkept)
    · intro projectId hstep
      obtain ⟨row, hrow, rfl⟩ := List.mem_map.1 hstep
      obtain ⟨hrow, hkept⟩ := List.mem_filter.1 hrow
      have hproject := mem_skeleton_projects.1 (hdb.steps _ (List.mem_map_of_mem hrow))
      exact hstays _ hproject (by simpa using hkept)
  | issues p =>
    have hhistory := mem_of_removeIssues h
    obtain ⟨-, cursors, rfl⟩ := removeIssues_eq_ok h
    refine .removal (List.Sublist.refl _) (List.filter_sublist.map _) (List.Sublist.refl _) hhistory
      ?_ hdb.steps
    intro issue hissue
    exact hdb.issues issue ((List.filter_sublist.map _).subset hissue)
  | steps p =>
    cases h
    refine .removal (List.Sublist.refl _) (List.Sublist.refl _) (List.filter_sublist.map _)
      (fun issue hissue _ => hissue) hdb.issues ?_
    intro projectId hstep
    exact hdb.steps projectId ((List.filter_sublist.map _).subset hstep)
  | entries p | rewrite p f =>
    obtain ⟨-, -, hdone⟩ := bind_eq_ok_iff.1 h
    cases hdone
    exact .same

/-- A project is not removed if one of its issues has history. -/
theorem strike_projects_eq_error {p : Project → Bool} {q : Project} {row : Row Issue}
    (hq : q ∈ db.projects) (hp : p q = true) (hrow : row ∈ db.issues)
    (hproject : row.record.projectId = q.id) (hhistory : db.hasHistory row.record.id = true) :
    db.strike (.projects p) = .error (.database .missingReference) := by
  have hgone : ((db.projects.filter p).map (·.id)).contains row.record.projectId = true := by
    rw [hproject, List.contains_iff_mem]
    exact List.mem_map_of_mem (List.mem_filter.2 ⟨hq, hp⟩)
  have hremove := removeIssues_eq_error
    (p := fun issue => ((db.projects.filter p).map (·.id)).contains issue.projectId)
    hrow hgone hhistory
  rw [strike]
  dsimp only
  rw [hremove]
  rfl

/-- A ledger entry is neither removed nor changed. -/
theorem strike_entries_eq_error {p : LedgerEntry → Bool} {entry : LedgerEntry}
    (hentry : entry ∈ db.ledger) (hp : p entry = true) (f : LedgerEntry → LedgerEntry) :
    db.strike (.entries p) = .error (.database .appendOnly) ∧
      db.strike (.rewrite p f) = .error (.database .appendOnly) := by
  have hany : db.ledger.any p = true := List.any_eq_true.2 ⟨entry, hentry, hp⟩
  simp only [strike, hany]
  exact ⟨rfl, rfl⟩

/-! ### Direct changes -/

/-- Removing one project is removing those with its identifier. -/
theorem rawWrite_deleteProject (hdb : db.skeleton.Rooted) :
    (db.rawWrite (.deleteProject id)).map (·.2) = db.strike (.projects fun p => p.id == id) := by
  have hgone : ∀ projectId, ((db.projects.filter fun p => p.id == id).map (·.id)).contains
      projectId = (decide (0 < db.projects.countP fun p => p.id == id) && projectId == id) := by
    intro projectId
    rw [Bool.eq_iff_iff]
    simp only [List.contains_iff_mem, List.mem_map, List.mem_filter, beq_iff_eq, Bool.and_eq_true,
      decide_eq_true_eq, List.countP_pos_iff]
    constructor
    · rintro ⟨p, ⟨hp, hid⟩, rfl⟩
      exact ⟨⟨p, hp, hid⟩, hid⟩
    · rintro ⟨⟨p, hp, hid⟩, rfl⟩
      exact ⟨p, ⟨hp, hid⟩, hid⟩
  -- A step of the project is there only if the project is.
  have hsteps : (db.steps.filter fun row => !(decide (0 < db.projects.countP fun p => p.id == id) &&
      row.record.projectId == id)) = db.steps.filter fun row => row.record.projectId != id := by
    refine List.filter_congr fun row hrow => ?_
    rw [bne]
    by_cases hid : row.record.projectId = id
    · have hproject := mem_skeleton_projects.1 (hdb.steps _ (List.mem_map_of_mem hrow))
      rw [hid] at hproject ⊢
      have hcount : 0 < db.projects.countP fun p => p.id == id :=
        List.countP_pos_iff.2 (List.any_eq_true.1 hproject)
      rw [decide_eq_true hcount, Bool.true_and]
    · rw [beq_eq_false_iff_ne.2 hid, Bool.and_false]
  rw [rawWrite, strike]
  simp only [hgone]
  cases hremove : db.removeIssues fun issue =>
      decide (0 < db.projects.countP fun p => p.id == id) && issue.projectId == id with
  | error e => rfl
  | ok db₁ =>
    obtain ⟨-, cursors, rfl⟩ := removeIssues_eq_ok hremove
    refine congrArg Except.ok ?_
    simp only [hsteps]
    rfl

/-- Removing an issue by name is removing those with that identifier. -/
theorem rawWrite_deleteIssue :
    (db.rawWrite (.deleteIssue id)).map (·.2) =
      db.strike (.issues fun issue => issue.id == id) := by
  rw [rawWrite, strike]
  cases db.removeIssues fun issue => issue.id == id <;> rfl

/-- Removing a step by name is removing those with that identifier. -/
theorem rawWrite_deleteStep :
    (db.rawWrite (.deleteStep id)).map (·.2) = db.strike (.steps fun step => step.id == id) :=
  rfl

/-- Touching the history of an issue is removing its entries, which is refused. -/
theorem rawWrite_touchHistory :
    (db.touchHistory id).map (·.2) = db.strike (.entries fun entry => entry.issueId == id) := by
  rw [touchHistory, strike, hasHistory]
  cases db.ledger.any fun entry => entry.issueId == id <;> rfl

/-- Changing issues directly is an update of rows. -/
theorem updateIssues_eq_ok {id : String} {f : Row Issue → Row Issue} {count : Nat}
    (h : db.updateIssues id f = .ok (count, db')) :
    db' = { db with issues := db.issues.map fun row => if row.record.id == id then f row else row }
      := by
  unfold updateIssues at h
  dsimp only at h
  split at h
  · obtain ⟨-, -, hdone⟩ := bind_eq_ok_iff.1 h
    cases hdone
    rfl
  · cases h
    rfl

/-- Changing steps directly is an update of rows. -/
theorem updateSteps_eq_ok {id : String} {f : Row Step → Row Step} {count : Nat}
    (h : db.updateSteps id f = .ok (count, db')) :
    db' = { db with steps := db.steps.map fun row => if row.record.id == id then f row else row }
      := by
  unfold updateSteps at h
  dsimp only at h
  split at h
  · obtain ⟨-, -, hdone⟩ := bind_eq_ok_iff.1 h
    cases hdone
    rfl
  · cases h
    rfl

/-- Changing issues directly touches no reference if their identifiers and projects stay. -/
theorem skeleton_updateIssues {f : Row Issue → Row Issue} {count : Nat}
    (h : db.updateIssues id f = .ok (count, db'))
    (hf : ∀ row, ((f row).record.id, (f row).record.projectId) =
      (row.record.id, row.record.projectId)) : db'.skeleton = db.skeleton := by
  rw [updateIssues_eq_ok h]
  exact skeleton_withIssues (map_changed hf)

/-- Another word in a closed column changes no other column. -/
theorem record_putWord {α β : Type} {vocabulary : Vocabulary β} {word : String}
    {put : α → β → α} {γ : Type} (column : α → γ) (hput : ∀ a b, column (put a b) = column a)
    (row : Row α) : column (putWord vocabulary word put row).record = column row.record := by
  unfold putWord
  split
  · exact hput _ _
  · rfl

/-- Writing a word into a closed column touches no reference. -/
theorem skeleton_setClosed {column : ClosedColumn} {word : String} {isChecked : Bool} {count : Nat}
    (h : db.setClosed column id word isChecked = .ok (count, db')) :
    db'.skeleton = db.skeleton := by
  cases column with
  | workStatus =>
    obtain ⟨written, hwrite, h⟩ := bind_eq_ok_iff.1 h
    obtain ⟨-, -, hdone⟩ := bind_eq_ok_iff.1 h
    cases hdone
    exact skeleton_updateIssues hwrite
      (record_putWord (fun issue : Issue => (issue.id, issue.projectId)) fun _ _ => rfl)
  | stepKind =>
    obtain ⟨⟨count, db'⟩, hwrite, h⟩ := bind_eq_ok_iff.1 h
    obtain ⟨-, -, hdone⟩ := bind_eq_ok_iff.1 h
    cases hdone
    rw [updateSteps_eq_ok hwrite]
    exact skeleton_withSteps (map_changed (record_putWord Step.projectId fun _ _ => rfl))
  | gateStatus =>
    obtain ⟨-, -, hdone⟩ := bind_eq_ok_iff.1 h
    cases hdone
    rfl

/-- Every direct change is a step. -/
theorem step_of_rawWrite (hdb : db.skeleton.Rooted) {w : RawWrite} {count : Nat}
    (h : db.rawWrite w = .ok (count, db')) : db.skeleton.Step db'.skeleton := by
  -- Deleting is a strike, which the foreign keys allow or not; the others leave the keys.
  have hresult : (db.rawWrite w).map (·.2) = .ok db' := by rw [h]; rfl
  cases w with
  | deleteProject id => exact step_of_strike hdb (rawWrite_deleteProject hdb ▸ hresult)
  | deleteIssue id => exact step_of_strike hdb (rawWrite_deleteIssue ▸ hresult)
  | deleteStep id => exact step_of_strike hdb (rawWrite_deleteStep ▸ hresult)
  | deleteHistory issueId => exact step_of_strike hdb (rawWrite_touchHistory ▸ hresult)
  | updateHistory issueId => exact step_of_strike hdb (rawWrite_touchHistory ▸ hresult)
  | clearShortId issueId =>
    exact step_of_skeleton_eq (skeleton_updateIssues h fun _ => rfl)
  | forceShortId issueId shortId =>
    have hsame := skeleton_updateIssues h fun _ => rfl
    exact step_of_skeleton_eq hsame
  | setEventKind eventId word =>
    cases h
    exact step_of_skeleton_eq rfl
  | setClosed column id word isChecked => exact step_of_skeleton_eq (skeleton_setClosed h)
  | block kind =>
    cases h
    exact step_of_skeleton_eq rfl
  | unblock =>
    cases h
    exact step_of_skeleton_eq rfl

end Database

end ReviewPipeline
