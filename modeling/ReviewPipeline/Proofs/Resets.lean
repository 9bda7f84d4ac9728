import ReviewPipeline.Proofs.Answers
import ReviewPipeline.Proofs.WorkStatus

/-!
# Work Status after Resets

Clearing a cursor leaves the work status alone, and so does completing a step that is left by hand.
An issue that was done or up for review when it was reset can therefore keep this status for as
long as it is only completed at such a first step. This is the one way in which the work status
gets out of step with the position; every other transition brings the two together again.

## Main definitions

* `StatusView.Synced`: a view shows a work status that goes with the position;
* `Lingers`: in a run, an issue was reset under a work status and has only been held since.

## Main results

* `not_synced_resetRun`: a reset and a completion that leave a done issue at its first step;
* `synced_or_lingers`: after any run of calls, every issue is in step, or its status lingers.
-/

namespace ReviewPipeline

open Progression

/-- The work status goes with the position: an issue is done exactly at the end, and up for review
exactly at a person's step. -/
structure StatusView.Synced (view : StatusView) : Prop where
  /-- Done is what is completed. -/
  done : view.issue.workStatus = .done ↔ view.position = .completed
  /-- Up for review is what waits for a person. -/
  review : view.issue.workStatus = .review ↔
    ∃ step, view.currentStep = some step ∧ step.kind = .humanReview

/-- A work status that goes with a position in a catalog. -/
def WorkStatus.Matches (status : WorkStatus) (position : Position) (steps : List Step) : Prop :=
  match position with
  | .notStarted => status ≠ .done ∧ status ≠ .review
  | .atStep stepId => ∃ step ∈ steps, step.id = stepId ∧
      if step.isHumanReview then status = .review else status ≠ .done ∧ status ≠ .review
  | .completed => status = .done

/-- An answer reports no transition of an issue, or a completion that left it at its step and did
not leave it waiting for a person. -/
def Idles (id : String) (answer : Except Error Reply) : Prop :=
  ∀ reply move, answer = .ok reply → reply.move? = some move → move.issueId = id →
    ∃ c, reply = .completion c ∧ c.currentStepId = some c.completedStepId ∧
      c.parkedForHumanReview = false

variable {steps steps' : List Step} {cursor : Cursor} {stamp : Stamp} {t : Transition}
  {status : WorkStatus} {position : Position} {id : String}

theorem WorkStatus.Matches.mono (h : status.Matches position steps)
    (hsteps : ∀ step ∈ steps, ∃ step' ∈ steps', step'.stage = step.stage) :
    status.Matches position steps' := by
  cases position with
  | notStarted => exact h
  | completed => exact h
  | atStep stepId =>
    exact exists_step_mono
      (P := fun human => if human then status = .review else status ≠ .done ∧ status ≠ .review)
      h hsteps

/-- A transition that writes a work status writes one that goes with the position it leads to. -/
theorem matches_of_planned (hplanned : Planned steps cursor stamp t)
    (hstatus : t.workStatus = some status) (now : Int) :
    status.Matches (cursor.apply t.update now).position steps := by
  rw [hplanned.position_apply]
  cases landing_of_planned hplanned with
  | atEnd hpointer _ _ hmark =>
    rw [hpointer]
    exact Option.some.inj (hstatus.symm.trans hmark)
  | @atStep _ step hstep hpointer _ _ hmark =>
    rw [hpointer]
    refine ⟨step, List.mem_of_getElem? hstep, rfl, ?_⟩
    rcases hmark with hmark | ⟨hnone, -⟩
    · rw [Option.some.inj (hstatus.symm.trans hmark)]
      cases step.isHumanReview <;> simp
    · cases hnone.symm.trans hstatus

/-- The step at which an issue stands, if it is not a person's, goes with the same work statuses as
the position before the issue was started there. -/
theorem matches_of_standsAt {place : Place} (hstands : StandsAt steps position place)
    (hkind : place.step.isHumanReview = false) (h : status.Matches position steps) :
    status.Matches (.atStep place.step.id) steps := by
  cases hstands with
  | @first step hstep =>
    refine ⟨step, List.mem_of_getElem? hstep, rfl, ?_⟩
    rw [hkind, if_neg Bool.false_ne_true]
    exact h
  | pointed => exact h

/-- A transition that writes no work status holds the issue at a step that is not a person's. The
status goes with that step, if it went with the position before. -/
theorem held_of_planned (hids : (steps.map (·.id)).Nodup) (hplanned : Planned steps cursor stamp t)
    (hnone : t.workStatus = none) (now : Int) :
    t.entry.result = .completed ∧ t.update.stepId = some t.fromStepId ∧
      t.parkedForHumanReview = false ∧
      (status.Matches cursor.position steps →
        status.Matches (cursor.apply t.update now).position steps) := by
  cases landing_of_planned hplanned with
  | atEnd _ _ _ hmark => cases hnone.symm.trans hmark
  | @atStep index step hstep hpointer _ hparked hmark =>
    rcases hmark with hmark | ⟨-, hkind, hid, hresult⟩
    · cases hnone.symm.trans hmark
    · refine ⟨hresult, hpointer.trans (congrArg some hid), hparked.trans hkind, fun h => ?_⟩
      -- The issue stood at this very step.
      obtain ⟨place, hcurrent, hfrom, -⟩ := hplanned.exists_place
      have hstands := (ensureStarted_eq_ok_iff hids).1 hcurrent
      have hsame : place.step = step :=
        List.inj_on_of_nodup_map hids (List.mem_of_getElem? hstands.getElem?)
          (List.mem_of_getElem? hstep) (hfrom.symm.trans hid.symm)
      rw [hplanned.position_apply, hpointer, ← hsame]
      exact matches_of_standsAt hstands (hsame ▸ hkind) h

/-! ### Runs -/

namespace Database

variable {db : Database} {author : Author} {op : Operation} {issue : Issue}
  {calls : List (Author × Operation)} {now : Int}

/-- In a run, an issue was reset while it had a work status, and since then every transition of it
was a completion that left it at its step and did not leave it waiting for a person. -/
inductive Lingers (db : Database) (id : String) (status : WorkStatus) :
    List (Author × Operation) → Prop
  /-- The issue is reset. -/
  | reset {made : List (Author × Operation)} {author : Author} {text : String} {issue : Issue}
      {after : Database} (hissue : (db.run made).2.issue text = .ok issue) (hid : issue.id = id)
      (hstatus : issue.workStatus = status)
      (hdone : (db.run made).2.resetPipeline author text = .ok ((), after)) :
      Lingers db id status (made ++ [(author, .resetPipeline text)])
  /-- A call does not move it on. -/
  | idle {made : List (Author × Operation)} {author : Author} {op : Operation}
      (h : Lingers db id status made)
      (hidle : Idles id (((db.run made).2.perform author op).map (·.1))) :
      Lingers db id status (made ++ [(author, op)])

/-- The work status of an issue, if there is such an issue, goes with its position, or it lingers
since a reset. -/
def Tended (db : Database) (calls : List (Author × Operation)) (id : String) : Prop :=
  ∀ issue, (db.run calls).2.storedIssue? id = some issue →
    issue.workStatus.Matches ((db.run calls).2.positionOf id)
        ((db.run calls).2.storedCatalog issue.projectId) ∨
      ((issue.workStatus = .done ∨ issue.workStatus = .review) ∧
        Lingers db id issue.workStatus calls)

/-- Nothing about an issue changes but its catalog, and no transition of it is answered. -/
theorem Tended.of_same (h : Tended db calls id)
    (hissue : ((db.run calls).2.after author op).storedIssue? id =
      (db.run calls).2.storedIssue? id)
    (hposition : ((db.run calls).2.after author op).positionOf id =
      (db.run calls).2.positionOf id)
    (hsteps : ∀ projectId, ∀ step ∈ (db.run calls).2.storedCatalog projectId,
      ∃ step' ∈ ((db.run calls).2.after author op).storedCatalog projectId,
        step'.stage = step.stage)
    (hidle : Idles id (((db.run calls).2.perform author op).map (·.1))) :
    Tended db (calls ++ [(author, op)]) id := by
  intro issue hstored
  rw [run_concat] at hstored ⊢
  rw [hissue] at hstored
  rcases h issue hstored with hmatches | ⟨hstatus, hlingers⟩
  · left
    rw [hposition]
    exact hmatches.mono (hsteps issue.projectId)
  · exact .inr ⟨hstatus, .idle hlingers hidle⟩

theorem positionOf_cleared {other : Database}
    (hcursor : other.storedCursor? id =
      (db.storedCursor? id).map fun cursor => cursor.cleared now) :
    other.positionOf id = .notStarted := by
  rw [positionOf, hcursor]
  cases db.storedCursor? id <;> rfl

/-- One more call: a work status that a transition writes goes with the position, and one that is
not written goes with it, or lingers, as before. -/
theorem Tended.concat (h : Tended db calls id) (hdb : (db.run calls).2.Consistent)
    (hcall : op.isCall = true) (author : Author) : Tended db (calls ++ [(author, op)]) id := by
  rcases after_cases hdb hcall author with ⟨e, hperform, hsame⟩ | ⟨reply, hperform, hcalled⟩
  · -- A failed call changes nothing and is no transition.
    refine h.of_same (by rw [hsame]) (by rw [hsame]) ?_ ?_
    · rw [hsame]
      exact fun _ step hstep => ⟨step, hstep, rfl⟩
    · rw [hperform]
      rintro _ _ ⟨⟩
  have hsteps : ∀ projectId, ∀ step ∈ (db.run calls).2.storedCatalog projectId,
      ∃ step' ∈ ((db.run calls).2.after author op).storedCatalog projectId,
        step'.stage = step.stage := fun _ _ hstep => hcalled.exists_stage hstep
  rcases hcalled.transition_or hdb id with
    ⟨issue, t, hstored, hplanned, hreply, hanswer, hafter⟩ | hother
  · obtain rfl := id_of_storedIssue? hstored
    have hissue := storedIssue?_transitioned (db.run calls).2 author issue t issue.id
    have hcursor := storedCursor?_transitioned (db.run calls).2 author issue t issue.id
    rw [if_pos rfl, hstored, ← hafter] at hissue
    rw [if_pos rfl, ← hafter] at hcursor
    intro found hfound
    rw [run_concat] at hfound ⊢
    obtain rfl := Option.some.inj (hissue.symm.trans hfound)
    rw [positionOf, hcursor, Option.elim_some, Issue.marked_projectId, Issue.marked_workStatus]
    cases hmark : t.workStatus with
    | some status =>
      exact .inl ((matches_of_planned hplanned hmark _).mono (hsteps issue.projectId))
    | none =>
      obtain ⟨hresult, hpointer, hparked, hmatches⟩ :=
        held_of_planned (nodup_ids_storedCatalog hdb) hplanned hmark author.stamp.now
      rcases h issue hstored with hbefore | ⟨hstatus, hlingers⟩
      · rw [← position_cursorFor _ issue author.stamp.now] at hbefore
        exact .inl ((hmatches hbefore).mono (hsteps issue.projectId))
      · refine .inr ⟨hstatus, .idle hlingers ?_⟩
        -- The answer is a completion that did not move the issue.
        rintro _ move hok - -
        rw [hperform] at hok
        rw [← Except.ok.inj hok]
        exact ⟨_, hanswer hresult, hpointer, hparked⟩
  · have hidle : Idles id (((db.run calls).2.perform author op).map (·.1)) := by
      rintro _ move hok hmove hid
      rw [hperform] at hok
      rw [← Except.ok.inj hok] at hmove
      exact absurd hid (hother move hmove)
    cases hcalled.effect hdb id with
    | untouched hissue hcursor => exact h.of_same hissue (positionOf_eq hcursor) hsteps hidle
    | @created issue hnew hissue htodo hcursor =>
      intro found hfound
      rw [run_concat] at hfound ⊢
      obtain rfl := Option.some.inj (hissue.symm.trans hfound)
      left
      rw [positionOf, hcursor, htodo]
      exact ⟨by decide, by decide⟩
    | @gated issue gate hstored hissue hcursor =>
      obtain rfl := id_of_storedIssue? hstored
      exact h.of_same (hissue.trans hstored.symm) (positionOf_gated hcursor) hsteps hidle
    | @reset text issue hop hnamed hid hissue hcursor =>
      subst hop
      intro found hfound
      have hstored := storedIssue?_of_issue_eq_ok hdb hnamed
      rw [run_concat] at hfound ⊢
      rw [hissue, ← hid, hstored] at hfound
      obtain rfl := Option.some.inj hfound
      by_cases hstatus : issue.workStatus = .done ∨ issue.workStatus = .review
      · -- The status was one that the position before the start does not go with.
        simp only [perform, answer_eq_ok_iff] at hperform
        obtain ⟨_, hperform, -⟩ := hperform
        exact .inr ⟨hstatus, .reset hnamed hid rfl hperform⟩
      · left
        rw [positionOf_cleared hcursor]
        exact not_or.1 hstatus
    | moved _ _ _ _ _ hreply => exact absurd rfl (hother _ hreply)

/-- A run of calls from a new database keeps every issue tended. -/
theorem tended_run (created : Int) (id : String) (hcalls : ∀ call ∈ calls, call.2.isCall = true) :
    Tended (create created) calls id := by
  -- What is tended looks back on the calls of the run, so a run grows at its end.
  induction calls using List.reverseRecOn with
  | nil => exact fun issue hstored => by cases hstored
  | append_singleton calls call ih =>
    obtain ⟨hbefore, hlast⟩ := List.forall_mem_append.1 hcalls
    have hdb := consistent_run (admitted_create created).toConsistent hbefore
    exact (ih hbefore).concat hdb (hlast call (List.mem_singleton_self call)) call.1

/-- A view of an issue whose work status goes with its position shows it as such. -/
theorem synced_viewOf (hdb : db.Consistent)
    (h : issue.workStatus.Matches (db.positionOf issue.id) (db.storedCatalog issue.projectId)) :
    (db.viewOf issue now).Synced := by
  have hposition : (db.viewOf issue now).position = db.positionOf issue.id := position_cursorFor ..
  have hissue : (db.viewOf issue now).issue = issue := rfl
  constructor
  · rw [hposition, hissue]
    cases hat : db.positionOf issue.id with
    | notStarted =>
      rw [hat] at h
      simp [h.1]
    | completed =>
      rw [hat] at h
      exact ⟨fun _ => rfl, fun _ => h⟩
    | atStep stepId =>
      rw [hat] at h
      obtain ⟨step, -, -, hstatus⟩ := h
      cases hkind : step.isHumanReview <;> simp_all
  · rw [currentStep_viewOf, hissue]
    cases hat : db.positionOf issue.id with
    | notStarted =>
      rw [hat] at h
      simp [h.2]
    | completed =>
      rw [hat] at h
      have hdone : issue.workStatus = .done := h
      simp [hdone]
    | atStep stepId =>
      rw [hat] at h
      obtain ⟨step, hstep, rfl, hstatus⟩ := h
      -- The pointer is located at the step with which the status goes.
      obtain ⟨index, hindex⟩ := List.mem_iff_getElem?.1 hstep
      have hlocate := locateFrom?_getElem? (nodup_ids_storedCatalog hdb) hindex
      simp only [hlocate, Option.map_some, Option.some.injEq, exists_eq_left', ← isHumanReview_iff]
      cases hkind : step.isHumanReview <;> simp_all

/-! ### A status that lingers -/

/-- A run in which an issue is completed, and then reset in front of a longer catalog. Its first
step is left by hand. -/
def resetRun : List (Author × Operation) :=
  let author (n : Nat) : Author := ⟨"ada", ⟨n, n⟩⟩
  [ (author 1, .createProject ⟨"docs", "Docs", "home", none, some "DOCS", 1, 1, 1⟩),
    (author 2, .addStep ⟨"docs", "draft", .agentWork, none, false, none⟩),
    (author 3, .createIssue "docs" "first" none),
    (author 4, .complete "DOCS-1" none none),
    (author 5, .addStep ⟨"docs", "publish", .agentWork, none, true, none⟩),
    (author 6, .resetPipeline "DOCS-1") ]

/-- The issue of this run, which is still done. -/
def doneIssue : Issue :=
  ⟨"issue_00000003-400", some "DOCS-1", "docs", "first", none, .done, 3, 4⟩

/-- A completion that holds the issue at its first step. -/
def holding : Transition where
  fromStepId := "step_00000002-400"
  entry := ⟨"hist_00000007-400", doneIssue.id, "step_00000002-400", none, 7, .completed, none⟩
  update := ⟨some "step_00000002-400", some 7, none⟩
  workStatus := none
  outcome := .held false

theorem complete_resetRun :
    ((create 0).run resetRun).2.complete ⟨"ada", ⟨7, 7⟩⟩ "DOCS-1" none none =
      .ok (completionOf doneIssue holding,
        ((create 0).run resetRun).2.transitioned ⟨"ada", ⟨7, 7⟩⟩ doneIssue holding) := by
  have hdb : ((create 0).run resetRun).2.Consistent :=
    consistent_run (admitted_create 0).toConsistent (by decide)
  have hissue : ((create 0).run resetRun).2.issue "DOCS-1" = .ok doneIssue := by decide +kernel
  have hrows : (((create 0).run resetRun).2.steps.filter fun row =>
      row.record.projectId == "docs") =
        [{ record := ⟨"step_00000002-400", "docs", 1, "draft", .agentWork, none, false, 2, 2⟩ },
          { record := ⟨"step_00000005-400", "docs", 2, "publish", .agentWork, none, true, 5, 5⟩ }
        ] := by
    decide +kernel
  -- Only these two rows are to be sorted.
  have hcatalog : ((create 0).run resetRun).2.storedCatalog "docs" =
      [⟨"step_00000002-400", "docs", 1, "draft", .agentWork, none, false, 2, 2⟩,
        ⟨"step_00000005-400", "docs", 2, "publish", .agentWork, none, true, 5, 5⟩] := by
    rw [storedCatalog, catalogRows, hrows]
    simp [List.mergeSort]
  have hproject : doneIssue.projectId = "docs" := rfl
  rw [complete_eq_of_issue_ok hdb hissue, hproject, hcatalog]
  decide +kernel

/-- After this run, a completion succeeds, leaves the issue at its first step, and leaves it out of
step: it is still shown as done. -/
theorem not_synced_resetRun :
    (∀ call ∈ resetRun, call.2.isCall = true) ∧
      ∃ completion after view,
        ((create 0).run resetRun).2.complete ⟨"ada", ⟨7, 7⟩⟩ "DOCS-1" none none =
            .ok (completion, after) ∧
          after.status "DOCS-1" 9 = .ok view ∧ view.issue.workStatus = .done ∧
          view.position = .atStep "step_00000002-400" ∧ ¬ view.Synced := by
  have hcalls : ∀ call ∈ resetRun, call.2.isCall = true := by decide
  have hdb : ((create 0).run resetRun).2.Consistent :=
    consistent_run (admitted_create 0).toConsistent hcalls
  have hissue : ((create 0).run resetRun).2.issue "DOCS-1" = .ok doneIssue := by decide +kernel
  have hafter := (complete_called hdb complete_resetRun).consistent hdb
  have hmarked := issue_transitioned hdb hafter hissue
  -- The position is still at a step, although the status says that the work is done.
  have hposition : ((((create 0).run resetRun).2.transitioned ⟨"ada", ⟨7, 7⟩⟩ doneIssue
      holding).viewOf (doneIssue.marked none 7) 9).position = .atStep "step_00000002-400" := by
    decide +kernel
  refine ⟨hcalls, _, _, _, complete_resetRun, status_eq_ok hafter hmarked, rfl, hposition, ?_⟩
  intro hsynced
  cases hposition.symm.trans (hsynced.done.1 rfl)

/-- After any run of calls from a new database, the status of every issue can be looked at, and its
work status goes with its position; or it was done or up for review when it was reset, and still
is, because all that happened to it since are completions that held it at a step which is left by
hand. -/
theorem synced_or_lingers (created : Int) (calls : List (Author × Operation))
    (hcalls : ∀ call ∈ calls, call.2.isCall = true) (now : Int) :
    ∀ row ∈ ((create created).run calls).2.issues,
      ∃ view, ((create created).run calls).2.status row.record.id now = .ok view ∧
        view.issue = row.record ∧
        (view.Synced ∨
          ((view.issue.workStatus = .done ∨ view.issue.workStatus = .review) ∧
            Lingers (create created) row.record.id view.issue.workStatus calls)) := by
  intro row hrow
  have hdb := consistent_run (admitted_create created).toConsistent hcalls
  have hstored := storedIssue?_eq_some_of_mem hdb hrow
  refine ⟨_, status_eq_ok hdb (issue_eq_ok_of_stored hdb hstored), rfl, ?_⟩
  rcases tended_run created row.record.id hcalls row.record hstored with hmatches | hlingers
  · exact .inl (synced_viewOf hdb hmatches)
  · exact .inr hlingers

/-- Every issue of the run above is in step, or its status lingers. -/
theorem synced_or_lingers_resetRun :
    (∀ call ∈ resetRun, call.2.isCall = true) ∧
      ∀ row ∈ ((create 0).run resetRun).2.issues,
        ∃ view, ((create 0).run resetRun).2.status row.record.id 9 = .ok view ∧
          view.issue = row.record ∧
          (view.Synced ∨
            ((view.issue.workStatus = .done ∨ view.issue.workStatus = .review) ∧
              Lingers (create 0) row.record.id view.issue.workStatus resetRun)) :=
  ⟨by decide, synced_or_lingers 0 resetRun (by decide) 9⟩

end Database

end ReviewPipeline
