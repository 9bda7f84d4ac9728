import ReviewPipeline.Proofs.Calls

/-!
# What a Call Does to One Issue and to One Catalog

A call that succeeds touches at most one issue. `Effect` lists what it can do to the issue with a
given identifier, in terms of the stored issue, its cursor and its history; every invariant about
single issues has the cases of `Effect`.

A catalog only ever gains steps, and a step in it changes nothing but its assignee. What stays is
its `Stage`.

## Main results

* `Called.effect`: the effect of a call on any one issue;
* `Called.stages`: a call leaves the stages of a catalog alone or adds a step to it;
* `Called.exists_stage`: no call takes a stage away.
-/

namespace ReviewPipeline

/-- What no call changes about a step. -/
structure Stage where
  /-- The identifier of the step. -/
  id : String
  /-- The kind of work. -/
  kind : StepKind
  /-- Whether completing the step moves straight on. -/
  autoAdvance : Bool
  deriving DecidableEq, Repr

/-- The stage that a step is. -/
def Step.stage (s : Step) : Stage := ⟨s.id, s.kind, s.autoAdvance⟩

/-- A transition as its answer reports it. -/
structure Move where
  /-- The issue. -/
  issueId : String
  /-- The step that was current before. -/
  stepId : String
  /-- The step that is current after it, if there is one. -/
  target : Option String
  /-- How the step ended. -/
  result : StepResult
  deriving DecidableEq, Repr

/-- The transition that an answer reports, if it answers a completion or a rejection. -/
def Reply.move? : Reply → Option Move
  | .completion c => some ⟨c.issueId, c.completedStepId, c.currentStepId, .completed⟩
  | .rejection r => some ⟨r.issueId, r.completedStepId, some r.currentStepId, .rejected⟩
  | _ => none

/-- The answer to a planned transition of an issue. -/
def Transition.move (t : Transition) (issueId : String) : Move :=
  ⟨issueId, t.fromStepId, t.update.stepId, t.entry.result⟩

namespace Database

open Progression

variable {db db' : Database} {author : Author} {op : Operation} {reply : Reply}
  {id projectId : String}

/-- The stages of a project, in order. -/
def stages (db : Database) (projectId : String) : List Stage :=
  (db.storedCatalog projectId).map Step.stage

/-- What a call that succeeds does to the issue with an identifier. -/
inductive Effect (db : Database) (author : Author) (op : Operation) (reply : Reply)
    (db' : Database) (id : String) : Prop
  /-- The call is about something else. -/
  | untouched (hissue : db'.storedIssue? id = db.storedIssue? id)
      (hcursor : db'.storedCursor? id = db.storedCursor? id)
      (hhistory : db'.history id = db.history id)
      (hreply : ∀ move, reply.move? = some move → move.issueId ≠ id)
  /-- The issue is created. -/
  | created {issue : Issue} (hnew : db.storedIssue? id = none)
      (hissue : db'.storedIssue? id = some issue) (htodo : issue.workStatus = .todo)
      (hcursor : db'.storedCursor? id = none) (hhistory : db'.history id = [])
      (hreply : reply.move? = none)
  /-- A signal of the gate is recorded in its cursor. -/
  | gated {issue : Issue} {gate : GateSnapshot} (hstored : db.storedIssue? id = some issue)
      (hissue : db'.storedIssue? id = some issue)
      (hcursor : db'.storedCursor? id = some
        { db.cursorFor issue author.stamp.now with gate := gate, updatedAt := author.stamp.now })
      (hhistory : db'.history id = db.history id) (hreply : reply.move? = none)
  /-- Its cursor is cleared. -/
  | reset {text : String} {issue : Issue} (hop : op = .resetPipeline text)
      (hnamed : db.issue text = .ok issue) (hid : issue.id = id)
      (hissue : db'.storedIssue? id = db.storedIssue? id)
      (hcursor : db'.storedCursor? id =
        (db.storedCursor? id).map fun cursor => cursor.cleared author.stamp.now)
      (hhistory : db'.history id = db.history id) (hreply : reply.move? = none)
  /-- It is moved through its pipeline. -/
  | moved {issue : Issue} {t : Transition} (hstored : db.storedIssue? id = some issue)
      (hplanned : Planned (db.storedCatalog issue.projectId)
        (db.cursorFor issue author.stamp.now) author.stamp t)
      (hissue : db'.storedIssue? id = some (issue.marked t.workStatus author.stamp.now))
      (hcursor : db'.storedCursor? id =
        some ((db.cursorFor issue author.stamp.now).apply t.update author.stamp.now))
      (hhistory : db'.history id = db.history id ++ [t.entry.entry (db.lastSeq + 1)])
      (hreply : reply.move? = some (t.move id))

/-- The effect of a transition on the issue it is made for, and on the others. -/
theorem effect_of_transitioned {issue : Issue} {t : Transition}
    (hstored : db.storedIssue? issue.id = some issue)
    (hplanned : Planned (db.storedCatalog issue.projectId)
      (db.cursorFor issue author.stamp.now) author.stamp t)
    (hreply : reply.move? = some (t.move issue.id)) (id : String) :
    Effect db author op reply (db.transitioned author issue t) id := by
  -- The entry, the cursor and the work status are all of the one issue.
  have hentry : t.entry.issueId = issue.id := hplanned.entry_issueId.trans cursorFor_issueId
  have hissues := storedIssue?_transitioned db author issue t id
  have hcursors := storedCursor?_transitioned db author issue t id
  have hhistories := history_transitioned db author issue t id
  by_cases hid : id = issue.id
  · subst hid
    rw [if_pos rfl, hstored] at hissues
    rw [if_pos rfl] at hcursors
    rw [if_pos hentry] at hhistories
    exact .moved hstored hplanned hissues hcursors hhistories hreply
  · rw [if_neg hid] at hissues hcursors
    rw [if_neg fun h => hid (h.symm.trans hentry)] at hhistories
    refine .untouched hissues hcursors hhistories fun move hmove => ?_
    obtain rfl := Option.some.inj (hreply.symm.trans hmove)
    exact Ne.symm hid

theorem result_of_planCompletion {steps : List Step} {cursor : Cursor} {agent notes : Option String}
    {stamp : Stamp} {t : Transition} (h : planCompletion steps cursor agent notes stamp = .ok t) :
    t.entry.result = .completed := by
  obtain ⟨-, place, -, hentry⟩ := planned_of_planCompletion h
  rw [hentry]
  rfl

theorem move_of_rejected {steps : List Step} {cursor : Cursor} {stamp : Stamp} {t : Transition}
    {target : String} (hplanned : Planned steps cursor stamp t)
    (houtcome : t.outcome = .rejected target) (id : String) :
    t.move id = ⟨id, t.fromStepId, some target, .rejected⟩ := by
  cases hplanned with
  | rejected =>
    cases houtcome
    rfl
  | advanced | held | finished => cases houtcome

/-- The effect of a call on any one issue. -/
theorem Called.effect (h : Called db author op reply db') (hdb : db.Consistent) (id : String) :
    Effect db author op reply db' id := by
  cases h with
  | createProject => exact .untouched rfl rfl rfl nofun
  | @createIssue _ _ _ _ issue hproject hissue hid =>
    have hissues : Row.lookup Issue.id id (db.issues ++ [{ record := issue }]) =
        if id = issue.id then some issue else db.storedIssue? id := Row.lookup_concat hid
    by_cases hsame : id = issue.id
    · -- The identifier is new, so nothing can refer to it yet.
      have hnew : db.storedIssue? id = none := Row.lookup_eq_none_iff.2 (hsame ▸ hid)
      have hcursor := storedCursor?_eq_none hdb hnew
      have hhistory := history_eq_nil hdb hnew
      exact .created hnew (hissues.trans (if_pos hsame)) (by rw [hissue]; rfl) hcursor hhistory rfl
    · exact .untouched (hissues.trans (if_neg hsame)) rfl rfl nofun
  | addStep => exact .untouched rfl rfl rfl nofun
  | restaffStep => exact .untouched rfl rfl rfl nofun
  | @recordGate _ _ _ issue gate _ hissue =>
    -- The signal is written into the cursor of the issue, and into no other.
    have hcursors := lookup_cursorsGated db issue gate author.stamp.now id
    by_cases hsame : id = issue.id
    · subst hsame
      have hstored := storedIssue?_of_issue_eq_ok hdb hissue
      exact .gated hstored hstored (hcursors.trans (if_pos rfl)) rfl rfl
    · exact .untouched rfl (hcursors.trans (if_neg hsame)) rfl nofun
  | @resetPipeline _ issue hissue =>
    have hcursors : (db.withoutPlace issue.id author.stamp.now).storedCursor? id =
        if id = issue.id then (db.storedCursor? id).map (·.cleared author.stamp.now)
        else db.storedCursor? id := Row.lookup_changeAt (fun _ => rfl) fun _ => rfl
    -- So it is with a cleared cursor, if there is one.
    by_cases hsame : id = issue.id
    · exact .reset rfl hissue hsame.symm rfl (hcursors.trans (if_pos hsame)) rfl rfl
    · exact .untouched rfl (hcursors.trans (if_neg hsame)) rfl nofun
  | complete hissue hplan =>
    refine effect_of_transitioned (storedIssue?_of_issue_eq_ok hdb hissue)
      (planned_of_planCompletion hplan).1 ?_ id
    rw [Transition.move, result_of_planCompletion hplan]
    rfl
  | @reject _ _ _ target _ _ t _ hissue hplan houtcome =>
    obtain ⟨hplanned, -⟩ := planned_of_planRejection hplan
    refine effect_of_transitioned (storedIssue?_of_issue_eq_ok hdb hissue) hplanned ?_ id
    rw [move_of_rejected hplanned houtcome]
    rfl

/-- A call is a transition of the issue with an identifier, written down, or its answer reports no
transition of this issue. -/
theorem Called.transition_or (h : Called db author op reply db') (hdb : db.Consistent)
    (id : String) :
    (∃ issue t, db.storedIssue? id = some issue ∧
        Planned (db.storedCatalog issue.projectId) (db.cursorFor issue author.stamp.now)
          author.stamp t ∧
        reply.move? = some (t.move id) ∧
        (t.entry.result = .completed → reply = .completion (completionOf issue t)) ∧
        db' = db.transitioned author issue t) ∨
      ∀ move, reply.move? = some move → move.issueId ≠ id := by
  cases h with
  | createProject | createIssue | addStep | restaffStep | recordGate | resetPipeline =>
    exact .inr nofun
  | @complete _ _ _ issue t hissue hplan =>
    have hmove : (Reply.completion (completionOf issue t)).move? = some (t.move issue.id) := by
      rw [Transition.move, result_of_planCompletion hplan]
      rfl
    by_cases hid : issue.id = id
    · subst hid
      exact .inl ⟨issue, t, storedIssue?_of_issue_eq_ok hdb hissue,
        (planned_of_planCompletion hplan).1, hmove, fun _ => rfl, rfl⟩
    · refine .inr fun move hreply => ?_
      rw [← Option.some.inj (hmove.symm.trans hreply)]
      exact hid
  | @reject _ _ _ target _ issue t _ hissue hplan houtcome =>
    have hplanned := (planned_of_planRejection hplan).1
    have hmove := move_of_rejected hplanned houtcome issue.id
    by_cases hid : issue.id = id
    · subst hid
      refine .inl ⟨issue, t, storedIssue?_of_issue_eq_ok hdb hissue, hplanned,
        congrArg some hmove.symm, fun hcompleted => ?_, rfl⟩
      -- The move of a rejection is no completion.
      cases hcompleted.symm.trans (congrArg Move.result hmove)
    · refine .inr fun move hreply => ?_
      rw [← Option.some.inj hreply]
      exact hid

/-! ### Catalogs -/

/-- A change of steps that keeps the columns by which they are chosen and ordered commutes with
both. -/
theorem catalogRows_map {write : Row Step → Row Step}
    (hproject : ∀ row, (write row).record.projectId = row.record.projectId)
    (hnumber : ∀ row, (write row).record.number = row.record.number) :
    { db with steps := db.steps.map write : Database }.catalogRows projectId =
      (db.catalogRows projectId).map write := by
  have hfilter : ((db.steps.map write).filter fun row => row.record.projectId == projectId) =
      (db.steps.filter fun row => row.record.projectId == projectId).map write := by
    rw [List.filter_map]
    exact congrArg _ (List.filter_congr fun row _ => by simp [hproject])
  refine (congrArg (List.mergeSort · _) hfilter).trans (List.map_mergeSort ?_).symm
  intro a _ b _
  rw [hnumber, hnumber]

/-- Assigning a step changes no stage. -/
theorem stages_assignStep {stepId : String} {agent : Option String} {now : Int} :
    (db.withAssignee stepId agent now).stages projectId = db.stages projectId := by
  let write : Row Step → Row Step := fun row =>
    if row.record.id == stepId then
      row.modify fun step => { step with assignee := agent, updatedAt := now }
    else row
  have hkeeps : ∀ row, (write row).record.projectId = row.record.projectId ∧
      (write row).record.number = row.record.number ∧
      (write row).record.stage = row.record.stage := by
    intro row
    simp only [write]
    split <;> exact ⟨rfl, rfl, rfl⟩
  have hrows : (db.withAssignee stepId agent now).catalogRows projectId =
      (db.catalogRows projectId).map write :=
    catalogRows_map (fun row => (hkeeps row).1) fun row => (hkeeps row).2.1
  rw [stages, storedCatalog, hrows, stages, storedCatalog, List.map_map, List.map_map, List.map_map]
  exact List.map_congr_left fun row _ => (hkeeps row).2.2

/-- A call leaves the stages of a catalog alone or adds a step to it. -/
theorem Called.stages (h : Called db author op reply db') (projectId : String) :
    db'.stages projectId = db.stages projectId ∨
      ∃ new step, op = .addStep new ∧ (∀ row ∈ db.steps, row.record.id ≠ step.id) ∧
        ∀ s, s ∈ db'.storedCatalog projectId ↔
          s ∈ db.storedCatalog projectId ∨ (s = step ∧ step.projectId = projectId) := by
  cases h with
  | @addStep new _ step _ _ _ _ _ hid =>
    refine .inr ⟨new, step, rfl, hid, fun s => ?_⟩
    simp only [mem_storedCatalog, noting, List.mem_append, List.mem_singleton]
    constructor
    · rintro ⟨row, hrow | rfl, rfl, hproject⟩
      · exact .inl ⟨row, hrow, rfl, hproject⟩
      · exact .inr ⟨rfl, hproject⟩
    · rintro (⟨row, hrow, rfl, hproject⟩ | ⟨rfl, hproject⟩)
      · exact ⟨row, .inl hrow, rfl, hproject⟩
      · exact ⟨_, .inr rfl, rfl, hproject⟩
  | restaffStep => exact .inl stages_assignStep
  | createProject | createIssue | recordGate | resetPipeline | complete | reject => exact .inl rfl

/-- No call takes a stage away. -/
theorem Called.exists_stage (h : Called db author op reply db') {step : Step}
    (hstep : step ∈ db.storedCatalog projectId) :
    ∃ step' ∈ db'.storedCatalog projectId, step'.stage = step.stage := by
  rcases h.stages projectId with hsame | ⟨_, _, -, -, hadded⟩
  · have hmem : step.stage ∈ db'.stages projectId := hsame ▸ List.mem_map_of_mem hstep
    exact List.mem_map.1 hmem
  · exact ⟨step, (hadded step).2 (.inl hstep), rfl⟩

end Database

end ReviewPipeline
