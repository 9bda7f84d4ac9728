import ReviewPipeline.Proofs.Transitions

/-!
# What a Transition Leaves Behind

The specification of a transition speaks of the rows of the tables, not of plans: which steps make
up a catalog, who counts as the agent, and which rows are there afterwards. `Footprint` says of
every table what a transition did to it and that nothing else changed.

## Main results

* `isCatalog_storedCatalog`: an admitted database orders the steps of a project by number;
* `footprint_transitioned`: a transition that is written down has the footprint it should have;
* `applyTransition_cases`: writing one down ends in this way or is refused.
-/

namespace ReviewPipeline

/-- The agent of a ledger entry: the one named, trimmed, else the assignee of the step, trimmed;
blank texts count as absent. -/
inductive ActingAgent (named assignee : Option String) : Option String → Prop
  /-- An agent is named. -/
  | named {text : String} (hnamed : named = some text) (htext : Text.trim text ≠ "") :
      ActingAgent named assignee (some (Text.trim text))
  /-- Nobody is named, and the step is assigned. -/
  | assigned {text : String} (hnamed : ∀ blank, named = some blank → Text.trim blank = "")
      (hassignee : assignee = some text) (htext : Text.trim text ≠ "") :
      ActingAgent named assignee (some (Text.trim text))
  /-- Nobody is named, and the step is not assigned. -/
  | nobody (hnamed : ∀ blank, named = some blank → Text.trim blank = "")
      (hassignee : ∀ blank, assignee = some blank → Text.trim blank = "") :
      ActingAgent named assignee none

theorem nonBlank_cases (value : Option String) :
    (∃ text, value = some text ∧ Text.trim text ≠ "" ∧
        Text.nonBlank value = some (Text.trim text)) ∨
      ((∀ blank, value = some blank → Text.trim blank = "") ∧ Text.nonBlank value = none) := by
  cases value with
  | none => exact .inr ⟨nofun, rfl⟩
  | some text =>
    by_cases htext : Text.trim text = ""
    · refine .inr ⟨fun blank hblank => Option.some.inj hblank ▸ htext, ?_⟩
      simp [Text.nonBlank, Text.isAllBlank, htext]
    · refine .inl ⟨text, rfl, htext, ?_⟩
      simp [Text.nonBlank, Text.isAllBlank, htext]

theorem actingAgent_effectiveAgent (named : Option String) (step : Step) :
    ActingAgent named step.assignee (Progression.effectiveAgent named step) := by
  rw [Progression.effectiveAgent]
  rcases nonBlank_cases named with ⟨text, hnamed, htext, heq⟩ | ⟨hnamed, heq⟩
  · rw [heq]
    exact .named hnamed htext
  · rw [heq, Option.none_or]
    rcases nonBlank_cases step.assignee with ⟨text, hassignee, htext, heq⟩ | ⟨hassignee, heq⟩
    · rw [heq]
      exact .assigned hnamed hassignee htext
    · rw [heq]
      exact .nobody hnamed hassignee

/-- The events of a transition, with the change of the work status as a list of at most one. -/
theorem transitionEvents_eq (issue : Issue) (t : Transition) :
    Database.transitionEvents issue t =
      let about (kind : EventKind) : EventDraft :=
        { entityType := "issue", entityId := issue.id, kind := kind }
      (t.workStatus.filter (· ≠ issue.workStatus)).toList.map (fun status =>
          { about .issueStatusChanged with
            oldValue := some issue.workStatus.word
            newValue := some status.word }) ++
        [{ about (match t.outcome with
            | .rejected _ => .stepRejected
            | _ => .stepCompleted) with
            oldValue := some t.fromStepId
            newValue := t.update.stepId
            comment := t.entry.notes }] ++
        if t.completesPipeline then [about .pipelineCompleted] else [] := by
  unfold Database.transitionEvents
  refine congrArg (· ++ _) (congrArg (· ++ _) ?_)
  cases t.workStatus with
  | none => rfl
  | some status => by_cases h : status = issue.workStatus <;> simp [h, Option.filter_some]

namespace Database

variable {db : Database} {author : Author} {issue : Issue} {t : Transition} {projectId : String}
  {steps steps' : List Step}

/-! ### Catalogs -/

/-- The steps of a project in ascending order of their numbers. -/
structure IsCatalog (db : Database) (projectId : String) (steps : List Step) : Prop where
  /-- The catalog holds the stored steps of the project. -/
  mem : ∀ step, step ∈ steps ↔ ∃ row ∈ db.steps, row.record = step ∧ step.projectId = projectId
  /-- Their numbers ascend. -/
  ascending : steps.Pairwise (·.number < ·.number)

/-- There is one way to order the steps of a project. -/
theorem IsCatalog.unique (h : db.IsCatalog projectId steps) (h' : db.IsCatalog projectId steps') :
    steps = steps' := by
  have hnodup : ∀ {steps : List Step}, steps.Pairwise (·.number < ·.number) → steps.Nodup := by
    intro steps hsteps
    refine hsteps.imp ?_
    rintro a _ hlt rfl
    exact Int.lt_irrefl a.number hlt
  have hperm : steps.Perm steps' :=
    (List.perm_ext_iff_of_nodup (hnodup h.ascending) (hnodup h'.ascending)).2 fun step =>
      (h.mem step).trans (h'.mem step).symm
  exact hperm.eq_of_pairwise (fun a b _ _ hab hba => absurd hab (Int.lt_asymm hba)) h.ascending
    h'.ascending

/-- Where no two steps of a project share a number, its steps are ordered by number. -/
theorem isCatalog_of_nodup
    (h : (db.steps.map fun row => (row.record.projectId, row.record.number)).Nodup)
    (projectId : String) : db.IsCatalog projectId (db.storedCatalog projectId) := by
  refine ⟨fun step => mem_storedCatalog, ?_⟩
  -- Two steps of one project share no number, so the order is strict.
  have hnumbers : (db.storedCatalog projectId).Pairwise fun a b => a.number ≠ b.number := by
    have hpairs : ((db.storedCatalog projectId).map fun step =>
        (step.projectId, step.number)).Nodup := nodup_map_storedCatalog h
    refine (List.pairwise_map.1 hpairs).imp_of_mem fun ha hb hne heq => hne ?_
    obtain ⟨-, -, -, ha⟩ := mem_storedCatalog.1 ha
    obtain ⟨-, -, -, hb⟩ := mem_storedCatalog.1 hb
    rw [ha, hb, heq]
  exact (storedCatalog_sorted.and hnumbers).imp fun ⟨hle, hne⟩ => Int.lt_iff_le_and_ne.2 ⟨hle, hne⟩

/-- An admitted database orders the steps of a project by number. -/
theorem isCatalog_storedCatalog (h : db.Admitted) (projectId : String) :
    db.IsCatalog projectId (db.storedCatalog projectId) :=
  isCatalog_of_nodup h.stepNumbers projectId

/-! ### Writes -/

/-- No write of a transition is blocked, and the identifier of its ledger entry is new. -/
structure Writable (db : Database) (author : Author) : Prop where
  /-- Ledger entries can be inserted. -/
  ledger : db.blocked ≠ some .ledgerInsert
  /-- Cursors can be written. -/
  cursor : db.blocked ≠ some .cursorPut
  /-- Issues can be changed. -/
  issue : db.blocked ≠ some .issueUpdate
  /-- Audit events can be inserted. -/
  event : db.blocked ≠ some .eventInsert
  /-- No ledger entry has the identifier that is made for the new one. -/
  fresh : ∀ entry ∈ db.ledger, entry.id ≠ author.stamp.identifier "hist"

/-- What a transition of an issue does to each table: the entry it appends, the cursor and the work
status it leaves, the events it notes, and that nothing else changes. -/
structure Footprint (db after : Database) (author : Author) (issue : Issue) (entry : LedgerEntry)
    (cursor : Cursor) (status : Option WorkStatus) (noted : List EventDraft) : Prop where
  /-- One entry is appended to the ledger, and its number is the last one given out. -/
  ledger : after.ledger = db.ledger ++ [entry] ∧ after.lastSeq = entry.seq
  /-- The issue has one cursor. -/
  cursors : (after.cursors.filter fun row => row.record.issueId == issue.id) =
    [{ record := cursor }]
  /-- The cursors of other issues stay. -/
  otherCursors : (after.cursors.filter fun row => row.record.issueId != issue.id) =
    db.cursors.filter fun row => row.record.issueId != issue.id
  /-- The issue has the new work status, if there is one, and nothing else of it changes. -/
  issues : (after.issues.filter fun row => row.record.id == issue.id) =
    [{ record := issue.marked status author.stamp.now }]
  /-- Other issues stay. -/
  otherIssues : (after.issues.filter fun row => row.record.id != issue.id) =
    db.issues.filter fun row => row.record.id != issue.id
  /-- The events are appended to the audit log and numbered. -/
  events : after.events = db.events ++ eventRows author db.lastEventId noted ∧
    after.lastEventId = db.lastEventId + noted.length
  /-- All else stays. -/
  rest : after.projects = db.projects ∧ after.steps = db.steps ∧ after.versions = db.versions ∧
    after.uniqueShortIds = db.uniqueShortIds ∧ after.blocked = db.blocked

/-- A write of one cursor leaves the cursors of other issues alone. -/
theorem filter_cursorsWith (fresh : Cursor) {update : Row Cursor → Row Cursor} {g : Cursor → Cursor}
    (hupdate : ∀ row, (update row).record = g row.record) (hg : ∀ c, (g c).issueId = c.issueId) :
    ((db.cursorsWith fresh update).filter fun row => row.record.issueId != fresh.issueId) =
      db.cursors.filter fun row => row.record.issueId != fresh.issueId := by
  unfold cursorsWith
  split
  · exact Row.filter_changeAt hupdate hg
  · simp

/-- A work status that is set leaves other issues alone. -/
theorem filter_issuesAfter {id : String} {status : Option WorkStatus} {now : Int} :
    ((db.issuesAfter id status now).filter fun row => row.record.id != id) =
      db.issues.filter fun row => row.record.id != id := by
  cases status with
  | none => rfl
  | some status =>
    exact Row.filter_changeAt
      (g := fun issue => { issue with workStatus := status, updatedAt := now }) (fun _ => rfl)
      fun _ => rfl

/-- A database that can be written accepts every transition. -/
theorem accepts_of_writable (h : db.Writable author)
    (hid : t.entry.id = author.stamp.identifier "hist") : db.Accepts t :=
  ⟨h.ledger, h.cursor, fun _ => h.issue, h.event, hid ▸ h.fresh⟩

/-- A transition that is written down has the footprint it should have. -/
theorem footprint_transitioned (hdb : db.Consistent) (author : Author)
    (hstored : db.storedIssue? issue.id = some issue) (hentry : t.entry.issueId = issue.id)
    (haccepts : db.Accepts t) :
    Footprint db (db.transitioned author issue t) author issue (t.entry.entry (db.lastSeq + 1))
      ((db.cursorFor issue author.stamp.now).apply t.update author.stamp.now) t.workStatus
      (transitionEvents issue t) := by
  have hafter := hdb.transitioned author hstored hentry haccepts.fresh
  have hcursor := storedCursor?_transitioned db author issue t issue.id
  have hissue := storedIssue?_transitioned db author issue t issue.id
  -- The cursor and the issue are looked up under the identifier of the issue.
  rw [if_pos rfl] at hcursor
  rw [if_pos rfl, hstored] at hissue
  refine ⟨⟨rfl, rfl⟩, ?_, ?_, ?_, ?_, ⟨rfl, rfl⟩, rfl, rfl, rfl, rfl, rfl⟩
  · exact Row.filter_eq_of_lookup hafter.cursorIds hafter.cursorWords hcursor
  · exact filter_cursorsWith
      ((Cursor.notStarted issue.id issue.projectId author.stamp.now).apply t.update
        author.stamp.now)
      (g := fun cursor => cursor.apply t.update author.stamp.now) (fun _ => rfl) fun _ => rfl
  · exact Row.filter_eq_of_lookup hafter.issueIds hafter.issueWords hissue
  · exact filter_issuesAfter

/-- Writing a transition down is refused only by a database that cannot be written, and otherwise
has the footprint it should have. -/
theorem applyTransition_cases (hdb : db.Consistent) (author : Author)
    (hstored : db.storedIssue? issue.id = some issue) (hentry : t.entry.issueId = issue.id)
    (hid : t.entry.id = author.stamp.identifier "hist") :
    (∃ fault, db.applyTransition author issue t = .error (.database fault) ∧ ¬ db.Writable author) ∨
      (db.applyTransition author issue t = .ok ((), db.transitioned author issue t) ∧
        Footprint db (db.transitioned author issue t) author issue
          (t.entry.entry (db.lastSeq + 1))
          ((db.cursorFor issue author.stamp.now).apply t.update author.stamp.now) t.workStatus
          (transitionEvents issue t)) := by
  have hhas : db.hasIssue issue.id = true := hasIssue_iff.2 (by simp [hstored])
  cases happly : db.applyTransition author issue t with
  | error e =>
    obtain ⟨fault, rfl⟩ := applyTransition_eq_error hhas happly
    refine .inl ⟨fault, rfl, fun hwritable => ?_⟩
    -- A database that can be written accepts the transition, so it was not refused.
    have hok : db.applyTransition author issue t = .ok ((), db.transitioned author issue t) :=
      (applyTransition_eq_ok_iff hhas hentry).2 ⟨accepts_of_writable hwritable hid, rfl⟩
    cases happly.symm.trans hok
  | ok r =>
    obtain ⟨⟨⟩, after⟩ := r
    obtain ⟨haccepts, rfl⟩ := (applyTransition_eq_ok_iff hhas hentry).1 happly
    exact .inr ⟨rfl, footprint_transitioned hdb author hstored hentry haccepts⟩

end Database

end ReviewPipeline
