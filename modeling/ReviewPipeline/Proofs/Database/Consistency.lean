import ReviewPipeline.Proofs.Database.Writes

/-!
# Writes Keep a Database Consistent

One lemma for each way in which a table is written: rows are appended under new keys, or changed
without a change to their keys. A reference keeps its target because no write removes a key.
-/

namespace ReviewPipeline.Database

variable {db : Database}

/-- Noting events touches no table that the rules are about. -/
theorem Consistent.noting (h : db.Consistent) (author : Author) (drafts : List EventDraft) :
    (db.noting author drafts).Consistent :=
  { h with }

/-! ### Projects and issues -/

/-- Projects are kept unique, and targets of references, by a write that only adds identifiers. -/
theorem Consistent.withProjects (h : db.Consistent) {projects : List Project}
    (hids : (projects.map (·.id)).Nodup) (hkept : ∀ p ∈ db.projects, ∃ q ∈ projects, q.id = p.id) :
    { db with projects := projects : Database }.Consistent := by
  have htarget : ∀ k, (∃ p ∈ db.projects, p.id = k) → ∃ p ∈ projects, p.id = k := by
    rintro k ⟨p, hp, rfl⟩
    exact hkept p hp
  exact { h with
    projectIds := hids
    issueProjects := fun row hrow => htarget _ (h.issueProjects row hrow)
    stepProjects := fun row hrow => htarget _ (h.stepProjects row hrow) }

/-- Counting up the issues of a project keeps a database consistent. -/
theorem Consistent.withProjectsCounted (h : db.Consistent) {id : String} {now : Int} :
    { db with projects := db.projectsCounted id now : Database }.Consistent := by
  have hsame : ∀ p : Project, (if p.id == id then
      { p with nextIssueNumber := p.nextIssueNumber + 1, updatedAt := now } else p).id = p.id := by
    intro p
    split <;> rfl
  refine h.withProjects ?_ fun p hp => ⟨_, List.mem_map_of_mem hp, hsame p⟩
  have hids : (db.projectsCounted id now).map (·.id) = db.projects.map (·.id) := by
    rw [projectsCounted, List.map_map]
    exact List.map_congr_left fun p _ => hsame p
  exact hids ▸ h.projectIds

/-- Issues are kept unique, readable and in their projects by a write that only adds
identifiers. -/
theorem Consistent.withIssues (h : db.Consistent) {rows : List (Row Issue)}
    (hids : (rows.map (·.record.id)).Nodup) (hwords : ∀ row ∈ rows, row.foreign = none)
    (hprojects : ∀ row ∈ rows, ∃ p ∈ db.projects, p.id = row.record.projectId)
    (hkept : ∀ row ∈ db.issues, ∃ other ∈ rows, other.record.id = row.record.id) :
    { db with issues := rows : Database }.Consistent := by
  have htarget : ∀ k, (∃ row ∈ db.issues, row.record.id = k) → ∃ row ∈ rows, row.record.id = k := by
    rintro k ⟨row, hrow, rfl⟩
    exact hkept row hrow
  exact { h with
    issueIds := hids
    issueWords := hwords
    issueProjects := hprojects
    cursorIssues := fun row hrow => htarget _ (h.cursorIssues row hrow)
    entryIssues := fun entry hentry => htarget _ (h.entryIssues entry hentry) }

/-- A new issue keeps a database consistent. -/
theorem Consistent.withIssue (h : db.Consistent) {issue : Issue}
    (hid : ∀ row ∈ db.issues, row.record.id ≠ issue.id)
    (hproject : ∃ p ∈ db.projects, p.id = issue.projectId) :
    { db with issues := db.issues ++ [{ record := issue }] : Database }.Consistent := by
  refine h.withIssues (Row.nodup_map_concat h.issueIds hid) ?_ ?_ fun row hrow =>
    ⟨row, List.mem_append_left _ hrow, rfl⟩
  · exact List.forall_mem_append.2 ⟨h.issueWords, List.forall_mem_singleton.2 rfl⟩
  · exact List.forall_mem_append.2 ⟨h.issueProjects, List.forall_mem_singleton.2 hproject⟩

/-- A work status that is set keeps a database consistent. -/
theorem Consistent.withIssuesMarked (h : db.Consistent) (id : String) (status : WorkStatus)
    (now : Int) : { db with issues := db.issuesMarked id status now : Database }.Consistent := by
  have hids : (db.issuesMarked id status now).map (·.record.id) = db.issues.map (·.record.id) :=
    Row.map_changeAt (g := fun issue => { issue with workStatus := status, updatedAt := now })
      (fun _ => rfl) fun _ => rfl
  refine h.withIssues (hids ▸ h.issueIds) ?_ ?_ fun row hrow => ?_
  · intro row hrow
    rcases Row.mem_changeAt hrow with ⟨hold, -⟩ | ⟨old, -, -, rfl⟩
    · exact h.issueWords row hold
    · rfl
  · intro row hrow
    rcases Row.mem_changeAt hrow with ⟨hold, -⟩ | ⟨old, hold, -, rfl⟩
    · exact h.issueProjects row hold
    · exact h.issueProjects old hold
  · -- The row may have changed, but its identifier is still there.
    have hmem : row.record.id ∈ (db.issuesMarked id status now).map (·.record.id) :=
      hids ▸ List.mem_map_of_mem hrow
    exact List.mem_map.1 hmem

/-! ### Steps -/

/-- A new step keeps a database consistent. -/
theorem Consistent.withStep (h : db.Consistent) {step : Step}
    (hid : ∀ row ∈ db.steps, row.record.id ≠ step.id)
    (hproject : ∃ p ∈ db.projects, p.id = step.projectId) :
    { db with steps := db.steps ++ [{ record := step }] : Database }.Consistent :=
  { h with
    stepIds := Row.nodup_map_concat h.stepIds hid
    stepWords := List.forall_mem_append.2 ⟨h.stepWords, List.forall_mem_singleton.2 rfl⟩
    stepProjects :=
      List.forall_mem_append.2 ⟨h.stepProjects, List.forall_mem_singleton.2 hproject⟩ }

/-- Assigning a step keeps a database consistent. -/
theorem Consistent.withAssignee (h : db.Consistent) {id : String} {agent : Option String}
    {now : Int} : (db.withAssignee id agent now).Consistent := by
  have hids : (db.withAssignee id agent now).steps.map (·.record.id) = db.steps.map (·.record.id) :=
    Row.map_changeAt (g := fun step => { step with assignee := agent, updatedAt := now })
      (fun _ => rfl) fun _ => rfl
  refine { h with stepIds := hids ▸ h.stepIds, stepWords := ?_, stepProjects := ?_ }
  · intro row hrow
    rcases Row.mem_changeAt hrow with ⟨hold, -⟩ | ⟨old, hold, -, rfl⟩
    · exact h.stepWords row hold
    · exact h.stepWords old hold
  · intro row hrow
    rcases Row.mem_changeAt hrow with ⟨hold, -⟩ | ⟨old, hold, -, rfl⟩
    · exact h.stepProjects row hold
    · exact h.stepProjects old hold

/-! ### Cursors and the ledger -/

/-- Changing the cursor of one issue keeps a database consistent. -/
theorem Consistent.withCursorsChanged (h : db.Consistent) {id : String}
    {update : Row Cursor → Row Cursor} {g : Cursor → Cursor}
    (hupdate : ∀ row, (update row).record = g row.record) (hkey : ∀ c, (g c).issueId = c.issueId)
    (hword : ∀ row, row.foreign = none → (update row).foreign = none) :
    { db with
        cursors := Row.changeAt Cursor.issueId id update db.cursors : Database }.Consistent := by
  have hids : (Row.changeAt Cursor.issueId id update db.cursors).map (·.record.issueId) =
      db.cursors.map (·.record.issueId) := Row.map_changeAt hupdate hkey
  refine { h with cursorIds := hids ▸ h.cursorIds, cursorWords := ?_, cursorIssues := ?_ }
  · intro row hrow
    rcases Row.mem_changeAt hrow with ⟨hold, -⟩ | ⟨old, hold, -, rfl⟩
    · exact h.cursorWords row hold
    · exact hword old (h.cursorWords old hold)
  · intro row hrow
    rcases Row.mem_changeAt hrow with ⟨hold, -⟩ | ⟨old, hold, -, rfl⟩
    · exact h.cursorIssues row hold
    · rw [hupdate, hkey]
      exact h.cursorIssues old hold

/-- Writing the cursor of an issue that is there keeps a database consistent. -/
theorem Consistent.withCursor (h : db.Consistent) {fresh : Cursor}
    {update : Row Cursor → Row Cursor} {g : Cursor → Cursor}
    (hupdate : ∀ row, (update row).record = g row.record) (hkey : ∀ c, (g c).issueId = c.issueId)
    (hword : ∀ row, row.foreign = none → (update row).foreign = none)
    (hissue : ∃ issue, db.storedIssue? fresh.issueId = some issue) :
    { db with cursors := db.cursorsWith fresh update : Database }.Consistent := by
  unfold cursorsWith
  split
  · exact h.withCursorsChanged hupdate hkey hword
  · next hnone =>
    have hnew : db.storedCursor? fresh.issueId = none := by simpa using hnone
    obtain ⟨issue, hissue⟩ := hissue
    obtain ⟨row, hrow, rfl, hid⟩ := Row.exists_of_lookup hissue
    exact { h with
      cursorIds := Row.nodup_map_concat h.cursorIds (Row.lookup_eq_none_iff.1 hnew)
      cursorWords := List.forall_mem_append.2 ⟨h.cursorWords, List.forall_mem_singleton.2 rfl⟩
      cursorIssues := List.forall_mem_append.2
        ⟨h.cursorIssues, List.forall_mem_singleton.2 ⟨row, hrow, hid⟩⟩ }

/-- A new ledger entry of an issue that is there keeps a database consistent. -/
theorem Consistent.withEntry (h : db.Consistent) (entry : LedgerEntry) (seq : Int)
    (hid : ∀ old ∈ db.ledger, old.id ≠ entry.id)
    (hissue : ∃ issue, db.storedIssue? entry.issueId = some issue) :
    { db with ledger := db.ledger ++ [entry], lastSeq := seq : Database }.Consistent := by
  obtain ⟨issue, hissue⟩ := hissue
  obtain ⟨row, hrow, rfl, hkey⟩ := Row.exists_of_lookup hissue
  exact { h with
    entryIds := Row.nodup_map_concat h.entryIds hid
    entryIssues := List.forall_mem_append.2
      ⟨h.entryIssues, List.forall_mem_singleton.2 ⟨row, hrow, hkey⟩⟩ }

end ReviewPipeline.Database
