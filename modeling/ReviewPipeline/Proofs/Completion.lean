import ReviewPipeline.Proofs.Footprint
import ReviewPipeline.Proofs.Status

/-!
# The Specification of Completions

`CompletionSpec` says what completing the current step of an issue has to answer, on any database
that the schema admits and for any arguments: which error in which case, and otherwise where the
issue is led and what is written. The stored pointer may be stale, and any times may be set.

## Main definitions

* `Leads`: the ways to go on from a place of the catalog;
* `CompletionSpec`: the answers that are right.

## Main results

* `completion_spec`: completing a step meets its specification.
-/

namespace ReviewPipeline

open Progression

/-- Where a completion at a place leads: the step that is current afterwards, the work status that
is set, if any, and whether a person is waited for. -/
inductive Leads (steps : List Step) (place : Place) :
    Option String → Option WorkStatus → Bool → Prop
  /-- The step moves straight on to one that is no person's. -/
  | onward {next : Step} (hnext : steps[place.index + 1]? = some next)
      (hauto : place.step.autoAdvance = true) (hkind : place.step.kind ≠ .humanReview)
      (hperson : next.kind ≠ .humanReview) :
      Leads steps place (some next.id) (some .inProgress) false
  /-- The step moves straight on to one that is a person's. -/
  | toPerson {next : Step} (hnext : steps[place.index + 1]? = some next)
      (hauto : place.step.autoAdvance = true) (hkind : place.step.kind ≠ .humanReview)
      (hperson : next.kind = .humanReview) : Leads steps place (some next.id) (some .review) true
  /-- The step is a person's and not the last one. -/
  | parked (hnext : place.index + 1 < steps.length) (hkind : place.step.kind = .humanReview) :
      Leads steps place (some place.step.id) (some .review) true
  /-- The step is left by hand, and it is not the last one. -/
  | held (hnext : place.index + 1 < steps.length) (hauto : place.step.autoAdvance = false)
      (hkind : place.step.kind ≠ .humanReview) : Leads steps place (some place.step.id) none false
  /-- The step is the last one. -/
  | finished (hlast : place.index + 1 = steps.length) : Leads steps place none (some .done) false

/-- The events that a completion notes: a change of the work status, the step, and the end. -/
def completionEvents (issue : Issue) (step : Step) (pointer : Option String)
    (status : Option WorkStatus) (notes : Option String) : List EventDraft :=
  let about (kind : EventKind) : EventDraft :=
    { entityType := "issue", entityId := issue.id, kind := kind }
  (status.filter (· ≠ issue.workStatus)).toList.map (fun status =>
      { about .issueStatusChanged with
        oldValue := some issue.workStatus.word
        newValue := some status.word }) ++
    [{ about .stepCompleted with
        oldValue := some step.id
        newValue := pointer
        comment := notes }] ++
    if pointer = none then [about .pipelineCompleted] else []

namespace Database

/-- What completing the current step of an issue has to answer. -/
inductive CompletionSpec (db : Database) (author : Author) (id : String)
    (agent notes : Option String) : Except Error (Completion × Database) → Prop
  /-- The identifier names no issue. -/
  | notFound (hnames : ∀ issue, ¬ db.Names id issue) :
      CompletionSpec db author id agent notes (.error (.issueNotFound id))
  /-- The project of the issue has no steps, wherever the issue is. -/
  | noSteps {issue : Issue} (hnames : db.Names id issue)
      (hsteps : ∀ row ∈ db.steps, row.record.projectId ≠ issue.projectId) :
      CompletionSpec db author id agent notes (.error (.noPipelineSteps issue.projectId))
  /-- The pipeline of the issue is completed. -/
  | completed {issue : Issue} {steps : List Step} (hnames : db.Names id issue)
      (hcatalog : db.IsCatalog issue.projectId steps) (hsteps : steps ≠ [])
      (hposition : db.positionOf issue.id = .completed) :
      CompletionSpec db author id agent notes (.error (.alreadyCompleted issue.id))
  /-- The pointer names a step outside the catalog. -/
  | stale {issue : Issue} {steps : List Step} {stepId : String} (hnames : db.Names id issue)
      (hcatalog : db.IsCatalog issue.projectId steps) (hsteps : steps ≠ [])
      (hposition : db.positionOf issue.id = .atStep stepId)
      (hmissing : ∀ step ∈ steps, step.id ≠ stepId) :
      CompletionSpec db author id agent notes (.error (.stalePointer stepId))
  /-- The issue stands at a step, but a write is blocked or the identifier made for the ledger entry
  is taken. -/
  | refused {issue : Issue} {steps : List Step} {place : Place} {fault : Fault}
      (hnames : db.Names id issue) (hcatalog : db.IsCatalog issue.projectId steps)
      (hstands : StandsAt steps (db.positionOf issue.id) place) (hblocked : ¬ db.Writable author) :
      CompletionSpec db author id agent notes (.error (.database fault))
  /-- The issue stands at a step, and the step is completed. -/
  | succeeds {issue : Issue} {steps : List Step} {place : Place} {acting pointer : Option String}
      {status : Option WorkStatus} {parked : Bool} {after : Database}
      (hnames : db.Names id issue) (hcatalog : db.IsCatalog issue.projectId steps)
      (hstands : StandsAt steps (db.positionOf issue.id) place)
      (hagent : ActingAgent agent place.step.assignee acting)
      (hleads : Leads steps place pointer status parked)
      (hfootprint : Footprint db after author issue
        { seq := db.lastSeq + 1
          id := author.stamp.identifier "hist"
          issueId := issue.id
          stepId := place.step.id
          agentId := acting
          startedAt := author.stamp.now
          completedAt := author.stamp.now
          result := .completed
          notes := notes }
        { db.cursorFor issue author.stamp.now with
          stepId := pointer
          startedAt := (db.cursorFor issue author.stamp.now).startedAt.or (some author.stamp.now)
          completedAt := (db.cursorFor issue author.stamp.now).completedAt.or
            (if place.index + 1 = steps.length then some author.stamp.now else none)
          updatedAt := author.stamp.now }
        status (completionEvents issue place.step pointer status notes)) :
      CompletionSpec db author id agent notes
        (.ok (⟨issue.id, place.step.id, pointer, decide (place.index + 1 = steps.length), parked⟩,
          after))

end Database

/-! ### Plans -/

variable {steps : List Step} {cursor : Cursor} {stamp : Stamp} {agent notes : Option String}
  {t : Transition} {place : Place} {issue : Issue}

/-- A planned completion leads on in one of the ways of the specification. -/
theorem leads_of_planCompletion (hcurrent : ensureStarted steps cursor = .ok place)
    (h : planCompletion steps cursor agent notes stamp = .ok t) (issue : Issue) :
    Leads steps place t.update.stepId t.workStatus t.parkedForHumanReview ∧
      t.fromStepId = place.step.id ∧
      t.completesPipeline = decide (place.index + 1 = steps.length) ∧
      t.entry = draft stamp cursor place.step agent .completed notes ∧
      Database.transitionEvents issue t =
        completionEvents issue place.step t.update.stepId t.workStatus notes ∧
      cursor.apply t.update stamp.now =
        { cursor with
          stepId := t.update.stepId
          startedAt := cursor.startedAt.or (some stamp.now)
          completedAt := cursor.completedAt.or
            (if place.index + 1 = steps.length then some stamp.now else none)
          updatedAt := stamp.now } := by
  obtain ⟨hplanned, place', hcurrent', hentry⟩ := planned_of_planCompletion h
  obtain rfl : place = place' := Except.ok.inj (hcurrent.symm.trans hcurrent')
  have hnotes : t.entry.notes = notes := by
    rw [hentry]
    rfl
  -- A time that is set stays, whatever the update brings.
  have hstarted : cursor.startedAt.or (cursor.startedAt.or (some stamp.now)) =
      cursor.startedAt.or (some stamp.now) := by
    cases cursor.startedAt <;> rfl
  have hcompleted : cursor.completedAt.or cursor.completedAt = cursor.completedAt := by
    cases cursor.completedAt <;> rfl
  have hevents := transitionEvents_eq issue t
  rw [hnotes] at hevents
  cases hplanned with
  | @advanced place' next _ _ hplace hnext hmoves =>
    obtain rfl : place = place' := Except.ok.inj (hcurrent.symm.trans hplace)
    have hlast : place.index + 1 ≠ steps.length :=
      Nat.ne_of_lt (List.getElem?_eq_some_iff.1 hnext).1
    refine ⟨?_, rfl, ?_, hentry, hevents, ?_⟩
    · -- The step moves, and who is to act next depends on the kind of the next one.
      have hkind := not_isHumanReview_iff.1 hmoves.2
      cases hhuman : next.isHumanReview with
      | true => exact .toPerson hnext hmoves.1 hkind (isHumanReview_iff.1 hhuman)
      | false => exact .onward hnext hmoves.1 hkind (not_isHumanReview_iff.1 hhuman)
    · exact (decide_eq_false hlast).symm
    · simp only [Cursor.apply, hstarted, hcompleted, hlast, ↓reduceIte, Option.or_none]
  | @held place' next _ _ hplace hnext hstays =>
    obtain rfl : place = place' := Except.ok.inj (hcurrent.symm.trans hplace)
    have hlt : place.index + 1 < steps.length := (List.getElem?_eq_some_iff.1 hnext).1
    have hlast : place.index + 1 ≠ steps.length := Nat.ne_of_lt hlt
    refine ⟨?_, rfl, ?_, hentry, hevents, ?_⟩
    · -- The step holds, either for a person or because it does not advance by itself.
      cases hhuman : place.step.isHumanReview with
      | true => exact .parked hlt (isHumanReview_iff.1 hhuman)
      | false =>
        have hauto : place.step.autoAdvance = false := by simpa [hhuman] using hstays
        exact .held hlt hauto (not_isHumanReview_iff.1 hhuman)
    · exact (decide_eq_false hlast).symm
    · simp only [Cursor.apply, hstarted, hcompleted, hlast, ↓reduceIte, Option.or_none]
  | @finished place' _ _ hplace hnext =>
    obtain rfl : place = place' := Except.ok.inj (hcurrent.symm.trans hplace)
    have hstep := getElem?_of_ensureStarted hcurrent
    -- There is no next step, so this is the last.
    have hlast : place.index + 1 = steps.length :=
      Nat.le_antisymm (List.getElem?_eq_some_iff.1 hstep).1 (List.getElem?_eq_none_iff.1 hnext)
    refine ⟨.finished hlast, rfl, ?_, hentry, hevents, ?_⟩
    · exact (decide_eq_true hlast).symm
    · simp only [Cursor.apply, hstarted, hlast, ↓reduceIte]
  -- A plan for a completion is never a rejection: its entry says so.
  | rejected => cases congrArg LedgerDraft.result hentry

namespace Database

variable {db : Database} {author : Author} {id : String}

/-- A completion of an issue that stands at a step is planned, and then it is refused or written
down. -/
theorem complete_cases_of_standsAt (hdb : db.Consistent) (author : Author)
    (agent notes : Option String) (hissue : db.issue id = .ok issue)
    (hstands : StandsAt (db.storedCatalog issue.projectId) (db.positionOf issue.id) place) :
    ∃ t, planCompletion (db.storedCatalog issue.projectId) (db.cursorFor issue author.stamp.now)
        agent notes author.stamp = .ok t ∧
      ((∃ fault, db.complete author id agent notes = .error (.database fault) ∧
          ¬ db.Writable author) ∨
        (db.complete author id agent notes =
            .ok (completionOf issue t, db.transitioned author issue t) ∧
          Footprint db (db.transitioned author issue t) author issue
            (t.entry.entry (db.lastSeq + 1))
            ((db.cursorFor issue author.stamp.now).apply t.update author.stamp.now) t.workStatus
            (transitionEvents issue t))) := by
  have hstored := storedIssue?_of_issue_eq_ok hdb hissue
  -- The place is the one that the plan acts on, so there is a plan.
  have hcurrent : ensureStarted (db.storedCatalog issue.projectId)
      (db.cursorFor issue author.stamp.now) = .ok place := by
    rw [ensureStarted_eq_ok_iff (nodup_ids_storedCatalog hdb), position_cursorFor]
    exact hstands
  obtain ⟨t, hplan⟩ : ∃ t, planCompletion (db.storedCatalog issue.projectId)
      (db.cursorFor issue author.stamp.now) agent notes author.stamp = .ok t := by
    cases hplan : planCompletion (db.storedCatalog issue.projectId)
        (db.cursorFor issue author.stamp.now) agent notes author.stamp with
    | ok t => exact ⟨t, rfl⟩
    | error e => cases hcurrent.symm.trans (planCompletion_eq_error_iff.1 hplan)
  have hsteps : ¬ (db.storedCatalog issue.projectId).isEmpty = true := by
    have hplace := List.mem_of_getElem? (getElem?_of_ensureStarted hcurrent)
    exact fun hempty => List.not_mem_nil (List.isEmpty_iff.1 hempty ▸ hplace)
  have hcomplete : db.complete author id agent notes =
      (db.applyTransition author issue t).map fun r => (completionOf issue t, r.2) := by
    rw [complete_eq_of_issue_ok hdb hissue, if_neg hsteps, hplan]
    rfl
  obtain ⟨hplanned, _, -, hentry⟩ := planned_of_planCompletion hplan
  refine ⟨t, hplan, ?_⟩
  rcases applyTransition_cases hdb author hstored (hplanned.entry_issueId.trans cursorFor_issueId)
      (by rw [hentry]; rfl) with ⟨fault, happly, hblocked⟩ | ⟨happly, hfootprint⟩
  · rw [hcomplete, happly]
    exact .inl ⟨fault, rfl, hblocked⟩
  · rw [hcomplete, happly]
    exact .inr ⟨rfl, hfootprint⟩

/-- A completion of an issue that stands at a step succeeds, unless a write is refused. -/
theorem completionSpec_of_standsAt (hdb : db.Admitted) (hnames : db.Names id issue)
    (hstands : StandsAt (db.storedCatalog issue.projectId) (db.positionOf issue.id) place) :
    CompletionSpec db author id agent notes (db.complete author id agent notes) := by
  have hconsistent := hdb.toConsistent
  have hcatalog := isCatalog_storedCatalog hdb issue.projectId
  have hcurrent : ensureStarted (db.storedCatalog issue.projectId)
      (db.cursorFor issue author.stamp.now) = .ok place := by
    rw [ensureStarted_eq_ok_iff (nodup_ids_storedCatalog hconsistent), position_cursorFor]
    exact hstands
  obtain ⟨t, hplan, hcases⟩ := complete_cases_of_standsAt hconsistent author agent notes
    ((issue_eq_ok_iff hdb).2 hnames) hstands
  rcases hcases with ⟨fault, hcomplete, hblocked⟩ | ⟨hcomplete, hfootprint⟩
  · rw [hcomplete]
    exact .refused hnames hcatalog hstands hblocked
  · obtain ⟨hleads, hfrom, hfinished, hentry, hevents, hcursor⟩ :=
      leads_of_planCompletion hcurrent hplan issue
    have hagent := actingAgent_effectiveAgent agent place.step
    rw [hcursor, hevents, hentry] at hfootprint
    -- What the plan says of its entry is the entry that is appended.
    have hdraft : (draft author.stamp (db.cursorFor issue author.stamp.now) place.step agent
        .completed notes).entry (db.lastSeq + 1) =
        { seq := db.lastSeq + 1
          id := author.stamp.identifier "hist"
          issueId := issue.id
          stepId := place.step.id
          agentId := effectiveAgent agent place.step
          startedAt := author.stamp.now
          completedAt := author.stamp.now
          result := .completed
          notes := notes } := by
      simp [draft, LedgerDraft.entry, cursorFor_issueId]
    rw [hdraft] at hfootprint
    have hanswer := CompletionSpec.succeeds hnames hcatalog hstands hagent hleads hfootprint
    rw [← hfrom, ← hfinished] at hanswer
    rw [hcomplete]
    exact hanswer

/-- Completing the current step of an issue meets its specification. -/
theorem completion_spec (db : Database) (hdb : db.Admitted) (author : Author) (id : String)
    (agent notes : Option String) :
    CompletionSpec db author id agent notes (db.complete author id agent notes) := by
  have hconsistent := hdb.toConsistent
  by_cases hnamed : ∃ issue, db.Names id issue
  · obtain ⟨issue, hnames⟩ := hnamed
    have hissue := (issue_eq_ok_iff hdb).2 hnames
    have hcatalog := isCatalog_storedCatalog hdb issue.projectId
    by_cases hsteps : db.storedCatalog issue.projectId = []
    · rw [complete_eq_of_issue_ok hconsistent hissue, if_pos (List.isEmpty_iff.2 hsteps)]
      refine .noSteps hnames fun row hrow hproject => ?_
      have hmem := mem_storedCatalog.2 ⟨row, hrow, rfl, hproject⟩
      exact List.not_mem_nil (hsteps ▸ hmem)
    · -- What is left depends on where the issue stands.
      cases hcurrent : ensureStarted (db.storedCatalog issue.projectId)
          (db.cursorFor issue author.stamp.now) with
      | ok place =>
        have hstands := (ensureStarted_eq_ok_iff (nodup_ids_storedCatalog hconsistent)).1 hcurrent
        rw [position_cursorFor] at hstands
        exact completionSpec_of_standsAt hdb hnames hstands
      | error e =>
        have hplan : planCompletion (db.storedCatalog issue.projectId)
            (db.cursorFor issue author.stamp.now) agent notes author.stamp = .error e :=
          planCompletion_eq_error_iff.2 hcurrent
        rw [complete_eq_of_issue_ok hconsistent hissue, if_neg (by simpa using hsteps), hplan]
        unfold ensureStarted at hcurrent
        rw [position_cursorFor] at hcurrent
        cases hposition : db.positionOf issue.id with
        | notStarted =>
          -- An issue that has not started fails to start only without steps.
          rw [hposition] at hcurrent
          cases hcatalog' : db.storedCatalog issue.projectId with
          | nil => exact absurd hcatalog' hsteps
          | cons step steps =>
            rw [hcatalog'] at hcurrent
            cases hcurrent
        | completed =>
          rw [hposition, cursorFor_issueId] at hcurrent
          obtain rfl := Except.error.inj hcurrent
          exact .completed hnames hcatalog hsteps hposition
        | atStep stepId =>
          rw [hposition] at hcurrent
          obtain ⟨rfl, hmissing⟩ := locate_eq_error_iff.1 hcurrent
          exact .stale hnames hcatalog hsteps hposition hmissing
  · have hnone : ∀ issue, ¬ db.Names id issue := fun issue hnames => hnamed ⟨issue, hnames⟩
    rw [complete_eq_of_issue_error hconsistent (issue_eq_error hdb hnone)]
    exact .notFound hnone

/-- A database to try the specification on: an issue that was not started, and a signal of the gate
for it, in a project with two steps. -/
def sampleDatabase : Database where
  projects := [⟨"docs", "Docs", "home", none, some "DOCS", 2, 1, 1⟩]
  issues := [{ record := ⟨"issue", some "DOCS-1", "docs", "first", none, .todo, 2, 2⟩ }]
  steps :=
    [{ record := ⟨"approve", "docs", 7, "approve", .humanReview, none, true, 4, 4⟩ },
      { record := ⟨"draft", "docs", 3, "draft", .agentWork, some " bob ", true, 3, 3⟩ }]
  cursors := [{ record := ⟨"issue", "docs", none, none, none, ⟨some .failed, none, some 4⟩, 4⟩ }]
  uniqueShortIds := true

/-- In the sample database a completion advances the issue to the step of a person. -/
theorem completion_spec_sampleDatabase :
    sampleDatabase.Admitted ∧
      (sampleDatabase.complete ⟨"ada", ⟨5, 5⟩⟩ "DOCS-1" none (some "ok")).map (·.1) =
        .ok ⟨"issue", "draft", some "approve", false, true⟩ ∧
      CompletionSpec sampleDatabase ⟨"ada", ⟨5, 5⟩⟩ "DOCS-1" none (some "ok")
        (sampleDatabase.complete ⟨"ada", ⟨5, 5⟩⟩ "DOCS-1" none (some "ok")) := by
  have hadmitted : sampleDatabase.Admitted := by
    constructor
    · constructor <;> simp [sampleDatabase]
    all_goals simp [sampleDatabase, shortIds]
  refine ⟨hadmitted, ?_, completion_spec sampleDatabase hadmitted _ _ _ _⟩
  have hissue : sampleDatabase.issue "DOCS-1" =
      .ok ⟨"issue", some "DOCS-1", "docs", "first", none, .todo, 2, 2⟩ := by decide +kernel
  have hcatalog : sampleDatabase.storedCatalog "docs" =
      [⟨"draft", "docs", 3, "draft", .agentWork, some " bob ", true, 3, 3⟩,
        ⟨"approve", "docs", 7, "approve", .humanReview, none, true, 4, 4⟩] := by
    simp [storedCatalog, catalogRows, sampleDatabase, List.mergeSort]
  rw [complete_eq_of_issue_ok hadmitted.toConsistent hissue, hcatalog]
  decide +kernel

end Database

end ReviewPipeline
