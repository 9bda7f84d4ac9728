import ReviewPipeline.Database.Query
import ReviewPipeline.Database.Schema
import ReviewPipeline.Proofs.Inversion
import ReviewPipeline.Proofs.Tables

/-!
# Stored Records

What the tables hold, read off by key and without regard to foreign words: the issue with an
identifier, the cursor of an issue, the catalog of a project.

## Main definitions

* `storedIssue?`, `storedCursor?`, `storedCatalog`: the records by key;
* `cursorFor`: the stored cursor of an issue, or the one of an issue that was never started;
* `Consistent`: primary keys are unique, references have targets, and no closed column of the
  issues, the steps or the cursors holds a foreign word;
* `Admitted`: everything that the schema demands, which adds the other unique columns, the checks
  and the numbering of the ledger and of the audit log.

## Main results

* `catalog_eq_ok`, `cursor?_eq_ok`, `cursorOrFresh_eq_ok`: in a consistent database, reading answers
  what is stored.
-/

namespace ReviewPipeline.Database

variable {db : Database} {id issueId projectId : String} {issue : Issue} {cursor : Cursor}
  {step : Step} {now : Int}

/-- The stored issue with this full identifier. -/
def storedIssue? (db : Database) (id : String) : Option Issue :=
  Row.lookup Issue.id id db.issues

/-- The stored cursor of an issue. -/
def storedCursor? (db : Database) (issueId : String) : Option Cursor :=
  Row.lookup Cursor.issueId issueId db.cursors

/-- The stored steps of a project, in the order of their numbers. -/
def storedCatalog (db : Database) (projectId : String) : List Step :=
  (db.catalogRows projectId).map (·.record)

/-- The cursor of an issue: the stored one, or that of an issue that was never started. -/
def cursorFor (db : Database) (issue : Issue) (now : Int) : Cursor :=
  (db.storedCursor? issue.id).getD (Cursor.notStarted issue.id issue.projectId now)

/-- Primary keys are unique, references have targets, and closed columns hold known words. -/
structure Consistent (db : Database) : Prop where
  /-- No two projects share an identifier. -/
  projectIds : (db.projects.map (·.id)).Nodup
  /-- No two issues share a full identifier. -/
  issueIds : (db.issues.map (·.record.id)).Nodup
  /-- No two steps share an identifier. -/
  stepIds : (db.steps.map (·.record.id)).Nodup
  /-- No issue has two cursors. -/
  cursorIds : (db.cursors.map (·.record.issueId)).Nodup
  /-- No two ledger entries share an identifier. -/
  entryIds : (db.ledger.map (·.id)).Nodup
  /-- Every work status is a known one. -/
  issueWords : ∀ row ∈ db.issues, row.foreign = none
  /-- Every kind of step is a known one. -/
  stepWords : ∀ row ∈ db.steps, row.foreign = none
  /-- Every gate status is a known one. -/
  cursorWords : ∀ row ∈ db.cursors, row.foreign = none
  /-- Every issue belongs to a project. -/
  issueProjects : ∀ row ∈ db.issues, ∃ p ∈ db.projects, p.id = row.record.projectId
  /-- Every step belongs to a project. -/
  stepProjects : ∀ row ∈ db.steps, ∃ p ∈ db.projects, p.id = row.record.projectId
  /-- Every cursor belongs to an issue. -/
  cursorIssues : ∀ row ∈ db.cursors, ∃ issue ∈ db.issues, issue.record.id = row.record.issueId
  /-- Every ledger entry belongs to an issue. -/
  entryIssues : ∀ entry ∈ db.ledger, ∃ issue ∈ db.issues, issue.record.id = entry.issueId

/-- Everything that the schema demands of a database. -/
structure Admitted (db : Database) : Prop extends Consistent db where
  /-- No two projects share an issue prefix. -/
  issuePrefixes : (db.projects.filterMap (·.issuePrefix)).Nodup
  /-- No two issues share a short identifier. -/
  shortIdentifiers : db.shortIds.Nodup
  /-- No two steps of a project share a number. -/
  stepNumbers : (db.steps.map fun row => (row.record.projectId, row.record.number)).Nodup
  /-- The numbers of steps are positive. -/
  stepsPositive : ∀ row ∈ db.steps, 0 < row.record.number
  /-- The ledger is numbered in the order of writing. -/
  entrySeqs : (db.ledger.map (·.seq)).Pairwise (· < ·)
  /-- No ledger entry has a number past the last one given out. -/
  entrySeqsGiven : ∀ entry ∈ db.ledger, entry.seq ≤ db.lastSeq
  /-- The audit log is numbered in the order of writing. -/
  eventNumbers : (db.events.map (·.record.id)).Pairwise (· < ·)
  /-- No audit event has a number past the last one given out. -/
  eventNumbersGiven : ∀ row ∈ db.events, row.record.id ≤ db.lastEventId

/-- A new database holds nothing that could break a rule. -/
theorem admitted_create (now : Int) : (create now).Admitted := by
  constructor
  · constructor <;> simp [create]
  all_goals simp [create, shortIds]

/-! ### Records by key -/

theorem id_of_storedIssue? (h : db.storedIssue? id = some issue) : issue.id = id := by
  obtain ⟨_, _, _, hid⟩ := Row.exists_of_lookup h
  exact hid

theorem issueId_of_storedCursor? (h : db.storedCursor? issueId = some cursor) :
    cursor.issueId = issueId := by
  obtain ⟨_, _, _, hid⟩ := Row.exists_of_lookup h
  exact hid

/-- A row of an issue is what a look-up of its identifier finds. -/
theorem storedIssue?_eq_some_of_mem (h : db.Consistent) {row : Row Issue} (hrow : row ∈ db.issues) :
    db.storedIssue? row.record.id = some row.record :=
  (Row.lookup_eq_some_iff h.issueIds).2 ⟨row, hrow, rfl, rfl⟩

/-- The row of a cursor is what a look-up of its issue finds. -/
theorem storedCursor?_eq_some_of_mem (h : db.Consistent) {row : Row Cursor}
    (hrow : row ∈ db.cursors) : db.storedCursor? row.record.issueId = some row.record :=
  (Row.lookup_eq_some_iff h.cursorIds).2 ⟨row, hrow, rfl, rfl⟩

theorem hasIssue_iff : db.hasIssue id = true ↔ (db.storedIssue? id).isSome :=
  Row.isSome_lookup_iff.symm

/-- An issue that is not there has no cursor. -/
theorem storedCursor?_eq_none (h : db.Consistent) (hid : db.storedIssue? id = none) :
    db.storedCursor? id = none := by
  refine Row.lookup_eq_none_iff.2 fun row hrow hkey => ?_
  obtain ⟨issueRow, hissue, hissueId⟩ := h.cursorIssues row hrow
  exact Row.lookup_eq_none_iff.1 hid issueRow hissue (hissueId.trans hkey)

/-- An issue that is not there has no history. -/
theorem history_eq_nil (h : db.Consistent) (hid : db.storedIssue? id = none) :
    db.history id = [] := by
  refine List.filter_eq_nil_iff.2 fun entry hentry hkey => ?_
  obtain ⟨issueRow, hissue, hissueId⟩ := h.entryIssues entry hentry
  exact Row.lookup_eq_none_iff.1 hid issueRow hissue (hissueId.trans (by simpa using hkey))

theorem cursorFor_issueId : (db.cursorFor issue now).issueId = issue.id := by
  unfold cursorFor
  cases h : db.storedCursor? issue.id with
  | none => rfl
  | some cursor => exact issueId_of_storedCursor? h

/-! ### Catalogs -/

/-- A catalog holds the steps of its project. -/
theorem mem_storedCatalog :
    step ∈ db.storedCatalog projectId ↔
      ∃ row ∈ db.steps, row.record = step ∧ step.projectId = projectId := by
  simp only [storedCatalog, catalogRows, List.mem_map, List.mem_mergeSort, List.mem_filter,
    beq_iff_eq]
  constructor
  · rintro ⟨row, ⟨hrow, hproject⟩, rfl⟩
    exact ⟨row, hrow, rfl, hproject⟩
  · rintro ⟨row, hrow, rfl, hproject⟩
    exact ⟨row, ⟨hrow, hproject⟩, rfl⟩

/-- A column that is unique among all steps is unique in a catalog. -/
theorem nodup_map_storedCatalog {β : Type} {column : Step → β}
    (h : (db.steps.map fun row => column row.record).Nodup) :
    ((db.storedCatalog projectId).map column).Nodup := by
  -- A catalog is a rearranged part of the table.
  have hperm : (db.catalogRows projectId).Perm
      (db.steps.filter fun row => row.record.projectId == projectId) :=
    List.mergeSort_perm _ _
  rw [storedCatalog, List.map_map, (hperm.map _).nodup_iff]
  exact h.sublist (List.filter_sublist.map _)

/-- No step stands twice in a catalog. -/
theorem nodup_ids_storedCatalog (h : db.Consistent) :
    ((db.storedCatalog projectId).map (·.id)).Nodup :=
  nodup_map_storedCatalog h.stepIds

/-- A catalog is ordered by the numbers of its steps. -/
theorem storedCatalog_sorted : (db.storedCatalog projectId).Pairwise (·.number ≤ ·.number) := by
  rw [storedCatalog, List.pairwise_map]
  have hsorted : (db.catalogRows projectId).Pairwise fun a b =>
      decide (a.record.number ≤ b.record.number) = true :=
    List.pairwise_mergeSort
      (fun a b c hab hbc => by simp only [decide_eq_true_eq] at hab hbc ⊢; omega)
      (fun a b => by simp only [Bool.or_eq_true, decide_eq_true_eq]; omega) _
  exact hsorted.imp fun hle => by simpa using hle

/-! ### Reading -/

/-- Reading a catalog answers the stored steps. -/
theorem catalog_eq_ok (h : db.Consistent) :
    db.catalog projectId = .ok (db.storedCatalog projectId) := by
  refine Row.mapM_read_eq_ok fun row hrow => h.stepWords row ?_
  rw [catalogRows, List.mem_mergeSort] at hrow
  exact List.mem_of_mem_filter hrow

/-- Reading a cursor answers the stored one, if there is one. -/
theorem cursor?_eq_ok (h : db.Consistent) :
    db.cursor? issueId = .ok (db.storedCursor? issueId) := by
  unfold cursor? storedCursor? Row.lookup
  cases hfind : db.cursors.find? fun row => row.record.issueId == issueId with
  | none => rfl
  | some row =>
    simp [readCursor, Row.read_eq_ok (h.cursorWords row (List.mem_of_find?_eq_some hfind)),
      Except.map]

/-- An issue without a cursor is read as one that was never started. -/
theorem cursorOrFresh_eq_ok (h : db.Consistent) :
    db.cursorOrFresh issue now = .ok (db.cursorFor issue now) := by
  rw [cursorOrFresh, cursor?_eq_ok h]
  rfl

end ReviewPipeline.Database
