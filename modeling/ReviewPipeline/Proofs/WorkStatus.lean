import ReviewPipeline.Proofs.Runs
import ReviewPipeline.Proofs.Status

/-!
# The Work Status Follows the Position

The pipeline writes the work status of an issue whenever it moves the issue, with one exception:
completing a step that is left by hand changes neither the place nor the status. So an issue at its
first step can still count as not worked on, but only until it is moved for the first time.

## Main definitions

* `WorkStatus.Suits`: a work status that an issue can have at a position;
* `Displaced`: some answer of a run reports that an issue was moved to another step;
* `InSync`: what a view shows about the work status of its issue.

## Main results

* `suits_of_planned`: a planned transition leads to a suitable status;
* `inSync_of_run`: in a run without resets the status of every issue is in sync.
-/

namespace ReviewPipeline

/-- A work status that an issue can have at a position, without any reset. -/
def WorkStatus.Suits (status : WorkStatus) (position : Position) (steps : List Step) : Prop :=
  match position with
  | .notStarted => status = .todo
  | .atStep stepId =>
    ∃ step ∈ steps, step.id = stepId ∧
      if step.isHumanReview then status = .review
      else status = .inProgress ∨ status = .todo
  | .completed => status = .done

/-- A transition led to another step: it advanced the issue or sent it back. -/
def Move.IsShift (move : Move) : Prop :=
  move.result = .rejected ∨ ∃ target, move.target = some target ∧ target ≠ move.stepId

/-- An answer reports that an issue was moved to another step. -/
def Displaces (issueId : String) (answer : Except Error Reply) : Prop :=
  ∃ reply move, answer = .ok reply ∧ reply.move? = some move ∧ move.issueId = issueId ∧
    move.IsShift

/-- An issue was moved to another step in a run with these answers. -/
def Displaced (issueId : String) (answers : List (Except Error Reply)) : Prop :=
  ∃ answer ∈ answers, Displaces issueId answer

variable {steps steps' : List Step} {cursor : Cursor} {stamp : Stamp} {t : Transition}
  {status : WorkStatus} {position : Position} {id : String} {answers : List (Except Error Reply)}
  {answer : Except Error Reply} {reply : Reply}

theorem displaced_concat :
    Displaced id (answers ++ [answer]) ↔ Displaced id answers ∨ Displaces id answer := by
  simp only [Displaced, List.mem_append, List.mem_singleton]
  constructor
  · rintro ⟨found, hmem | rfl, hdisplaces⟩
    · exact .inl ⟨found, hmem, hdisplaces⟩
    · exact .inr hdisplaces
  · rintro (⟨found, hmem, hdisplaces⟩ | hdisplaces)
    · exact ⟨found, .inl hmem, hdisplaces⟩
    · exact ⟨answer, .inr rfl, hdisplaces⟩

theorem not_displaces_error {e : Error} : ¬ Displaces id (.error e) := by
  rintro ⟨_, _, ⟨⟩, -⟩

theorem not_displaces_of_move? (h : ∀ move, reply.move? = some move → move.issueId ≠ id) :
    ¬ Displaces id (.ok reply) := by
  rintro ⟨_, move, ⟨⟩, hmove, hid, -⟩
  exact h move hmove hid

/-- What holds of the step under an identifier, as far as it goes by who has to act there, still
holds when steps are added to the catalog or assigned to somebody else. -/
theorem exists_step_mono {P : Bool → Prop} {stepId : String}
    (h : ∃ step ∈ steps, step.id = stepId ∧ P step.isHumanReview)
    (hsteps : ∀ step ∈ steps, ∃ step' ∈ steps', step'.stage = step.stage) :
    ∃ step ∈ steps', step.id = stepId ∧ P step.isHumanReview := by
  obtain ⟨step, hstep, hid, hkind⟩ := h
  obtain ⟨step', hstep', hstage⟩ := hsteps step hstep
  have hsame : step'.isHumanReview = step.isHumanReview :=
    congrArg (fun stage : Stage => stage.kind.isGate) hstage
  exact ⟨step', hstep', (congrArg Stage.id hstage).trans hid, hsame ▸ hkind⟩

/-- Steps that are added to a catalog, or assigned to somebody else, change no status. -/
theorem WorkStatus.Suits.mono (h : status.Suits position steps)
    (hsteps : ∀ step ∈ steps, ∃ step' ∈ steps', step'.stage = step.stage) :
    status.Suits position steps' := by
  cases position with
  | notStarted => exact h
  | completed => exact h
  | atStep stepId =>
    exact exists_step_mono
      (P := fun human => if human then status = .review else status = .inProgress ∨ status = .todo)
      h hsteps

namespace Progression

/-- The step that a completion acts on, if it is not a person's, had one of two statuses. -/
theorem inProgress_or_todo_of_ensureStarted {place : Place} (hids : (steps.map (·.id)).Nodup)
    (hcurrent : ensureStarted steps cursor = .ok place) (hkind : place.step.isHumanReview = false)
    (h : status.Suits cursor.position steps) : status = .inProgress ∨ status = .todo := by
  unfold ensureStarted at hcurrent
  cases hposition : cursor.position with
  | notStarted =>
    rw [hposition] at h
    exact .inr h
  | completed =>
    rw [hposition] at hcurrent
    cases hcurrent
  | atStep stepId =>
    rw [hposition] at h hcurrent
    obtain ⟨step, hstep, hid, hstatus⟩ := h
    -- Two steps of the catalog with the pointer's identifier are one.
    obtain ⟨hplace, hplaceId⟩ := getElem?_of_locate hcurrent
    have hsame : step = place.step :=
      List.inj_on_of_nodup_map hids hstep (List.mem_of_getElem? hplace) (hid.trans hplaceId.symm)
    rw [hsame, hkind] at hstatus
    simpa using hstatus

/-- A planned transition leads to a status that suits its position. An issue that still counts as
not worked on did so before, and stays at its step. -/
theorem suits_of_planned (hids : (steps.map (·.id)).Nodup)
    (hplanned : Planned steps cursor stamp t) (h : status.Suits cursor.position steps) (now : Int)
    (id : String) :
    (t.workStatus.getD status).Suits (cursor.apply t.update now).position steps ∧
      (t.workStatus.getD status = .todo → status = .todo ∧ ¬ (t.move id).IsShift) := by
  cases hplanned with
  | @advanced place next _ _ hcurrent hnext =>
    -- The status is set by the kind of the next step, which is never not worked on.
    refine ⟨⟨next, List.mem_of_getElem? hnext, rfl, ?_⟩, ?_⟩
    · cases next.isHumanReview <;> simp
    · cases next.isHumanReview <;> simp
  | @held place next _ _ hcurrent =>
    -- Only here the status can stay; then it has to have suited the same step before.
    have hmem := List.mem_of_getElem? (getElem?_of_ensureStarted hcurrent)
    refine ⟨⟨place.step, hmem, rfl, ?_⟩, ?_⟩
    · cases hkind : place.step.isHumanReview with
      | true => simp
      | false => simpa using inProgress_or_todo_of_ensureStarted hids hcurrent hkind h
    · intro htodo
      refine ⟨?_, ?_⟩
      · cases hkind : place.step.isHumanReview with
        | true => simp [hkind] at htodo
        | false => simpa [hkind] using htodo
      · simp [Transition.move, Move.IsShift, draft]
  | finished =>
    have hcompleted : (cursor.completedAt.or (some stamp.now)).isSome := by simp
    obtain ⟨time, htime⟩ := Option.isSome_iff_exists.1 hcompleted
    refine ⟨?_, fun htodo => ?_⟩
    · simp [Cursor.position, Cursor.apply, htime, WorkStatus.Suits]
    · cases htodo
  | @rejected _ _ target index _ _ _ _ hindex htarget =>
    -- A rejection never lands on a person's step.
    obtain ⟨step, hstep, hkind⟩ := not_waits_iff.1 (not_waits_of_previousActionable hindex)
    obtain rfl := Option.some.inj (hstep.symm.trans htarget)
    refine ⟨⟨step, List.mem_of_getElem? htarget, rfl, ?_⟩, fun htodo => ?_⟩
    · simp [hkind]
    · cases htodo

end Progression

/-! ### Runs -/

namespace Database

open Progression

variable {db db' : Database} {author : Author} {op : Operation} {issue : Issue}
  {calls : List (Author × Operation)}

/-- The issue with an identifier, if there is one, has a status that suits its position, and no
answer says that it was moved while it still counts as not worked on. -/
def Suited (db : Database) (answers : List (Except Error Reply)) (id : String) : Prop :=
  match db.storedIssue? id with
  | none => ¬ Displaced id answers
  | some issue =>
    issue.workStatus.Suits (db.positionOf id) (db.storedCatalog issue.projectId) ∧
      (issue.workStatus = .todo → ¬ Displaced id answers)

/-- Nothing about an issue changes but its catalog, and no answer moves it. -/
theorem Suited.of_same (h : Suited db answers id)
    (hissue : db'.storedIssue? id = db.storedIssue? id)
    (hposition : db'.positionOf id = db.positionOf id)
    (hsteps : ∀ projectId, ∀ step ∈ db.storedCatalog projectId,
      ∃ step' ∈ db'.storedCatalog projectId, step'.stage = step.stage)
    (hanswer : ¬ Displaces id answer) : Suited db' (answers ++ [answer]) id := by
  -- An answer that displaces nothing makes no difference to whether one did.
  have hdisplaced : ¬ Displaced id answers → ¬ Displaced id (answers ++ [answer]) := by
    rw [displaced_concat, not_or]
    exact fun hbefore => ⟨hbefore, hanswer⟩
  unfold Suited at h ⊢
  rw [hissue]
  cases hstored : db.storedIssue? id with
  | none =>
    rw [hstored] at h
    exact hdisplaced h
  | some issue =>
    rw [hstored] at h
    obtain ⟨hsuits, htodo⟩ := h
    rw [hposition]
    exact ⟨hsuits.mono (hsteps issue.projectId), fun hstatus => hdisplaced (htodo hstatus)⟩

/-- A call that clears no cursor keeps an issue suited. -/
theorem Suited.after (h : Suited db answers id) (hdb : db.Consistent)
    (hcall : op.isResetFree = true) :
    Suited (db.after author op) (answers ++ [(db.perform author op).map (·.1)]) id := by
  rcases after_cases hdb (Operation.isCall_of_isResetFree hcall) author with
    ⟨e, hperform, hsame⟩ | ⟨reply, hperform, hcalled⟩
  · rw [hsame, hperform]
    exact h.of_same rfl rfl (fun _ step hstep => ⟨step, hstep, rfl⟩) not_displaces_error
  · rw [hperform]
    have hsteps : ∀ projectId, ∀ step ∈ db.storedCatalog projectId,
        ∃ step' ∈ (db.after author op).storedCatalog projectId, step'.stage = step.stage :=
      fun _ _ hstep => hcalled.exists_stage hstep
    cases hcalled.effect hdb id with
    | untouched hissue hcursor _ hreply =>
      exact h.of_same hissue (positionOf_eq hcursor) hsteps (not_displaces_of_move? hreply)
    | @created issue hnew hissue htodo hcursor _ hreply =>
      rw [Suited, hnew] at h
      rw [Suited, hissue, positionOf, hcursor]
      -- No earlier answer can be about an issue that was not there.
      have hanswer : ¬ Displaces id (.ok reply) := not_displaces_of_move? (by simp [hreply])
      exact ⟨htodo, fun _ => by
        rw [displaced_concat, not_or]
        exact ⟨h, hanswer⟩⟩
    | @gated issue gate hstored hissue hcursor _ hreply =>
      obtain rfl := id_of_storedIssue? hstored
      exact h.of_same (hissue.trans hstored.symm) (positionOf_gated hcursor) hsteps
        (not_displaces_of_move? (by simp [hreply]))
    | reset hop =>
      subst hop
      cases hcall
    | @moved issue t hstored hplanned hissue hcursor _ hreply =>
      obtain rfl := id_of_storedIssue? hstored
      rw [Suited, hstored, ← position_cursorFor db issue author.stamp.now] at h
      obtain ⟨hsuits, htodo⟩ := h
      obtain ⟨hafter, hstays⟩ := suits_of_planned (nodup_ids_storedCatalog hdb) hplanned hsuits
        author.stamp.now issue.id
      rw [Suited, hissue, positionOf, hcursor]
      dsimp only
      rw [Issue.marked_workStatus, Issue.marked_projectId]
      refine ⟨hafter.mono (hsteps issue.projectId), fun hstatus => ?_⟩
      -- The issue still counts as not worked on, so this call did not move it either.
      obtain ⟨hbefore, hshift⟩ := hstays hstatus
      rw [displaced_concat, not_or]
      refine ⟨htodo hbefore, ?_⟩
      rintro ⟨_, move, ⟨⟩, hmove, -, hmoved⟩
      rw [Option.some.inj (hmove.symm.trans hreply)] at hmoved
      exact hshift hmoved

/-- A run without resets from a new database keeps every issue suited. -/
theorem suited_run (created : Int) (id : String)
    (hcalls : ∀ call ∈ calls, call.2.isResetFree = true) :
    Suited ((create created).run calls).2 ((create created).run calls).1 id := by
  -- Being suited speaks of the answers given so far, so a run grows at its end.
  induction calls using List.reverseRecOn with
  | nil => exact fun ⟨_, hmem, _⟩ => List.not_mem_nil hmem
  | append_singleton calls call ih =>
    obtain ⟨hbefore, hlast⟩ := List.forall_mem_append.1 hcalls
    have hdb := consistent_run (admitted_create created).toConsistent fun call hcall =>
      Operation.isCall_of_isResetFree (hbefore call hcall)
    rw [run_concat]
    exact (ih hbefore).after hdb (hlast call (List.mem_singleton_self call))

/-- What a view shows about the work status of its issue, after a run with these answers. -/
structure InSync (answers : List (Except Error Reply)) (view : StatusView) : Prop where
  /-- The issue is done exactly when its pipeline is completed. -/
  done : view.issue.workStatus = .done ↔ view.position = .completed
  /-- It waits for a review exactly when it is at a person's step. -/
  review : view.issue.workStatus = .review ↔
    ∃ step ∈ view.steps, view.position = .atStep step.id ∧ step.kind = .humanReview
  /-- Before it is started, nobody has worked on it. -/
  notStarted : view.position = .notStarted → view.issue.workStatus = .todo
  /-- At any other step it is being worked on, or it has not been moved yet. -/
  atStep : ∀ step ∈ view.steps, view.position = .atStep step.id → step.kind ≠ .humanReview →
    view.issue.workStatus = .inProgress ∨
      (view.issue.workStatus = .todo ∧ ¬ Displaced view.issue.id answers)
  /-- A position at a step is at a step of the catalog. -/
  located : ∀ stepId, view.position = .atStep stepId → ∃ step ∈ view.steps, step.id = stepId
  /-- It is never blocked. -/
  notBlocked : view.issue.workStatus ≠ .blocked

theorem inSync_of_suits {view : StatusView} (hids : (view.steps.map (·.id)).Nodup)
    (hsuits : view.issue.workStatus.Suits view.position view.steps)
    (htodo : view.issue.workStatus = .todo → ¬ Displaced view.issue.id answers) :
    InSync answers view := by
  cases hposition : view.position with
  | notStarted =>
    rw [hposition] at hsuits
    have hstatus : view.issue.workStatus = .todo := hsuits
    constructor <;> simp [hposition, hstatus]
  | completed =>
    rw [hposition] at hsuits
    have hstatus : view.issue.workStatus = .done := hsuits
    constructor <;> simp [hposition, hstatus]
  | atStep stepId =>
    rw [hposition] at hsuits
    obtain ⟨step, hstep, rfl, hstatus⟩ := hsuits
    -- The catalog holds one step under the pointer's identifier.
    have hsame : ∀ other ∈ view.steps, step.id = other.id → other = step := fun other hother hid =>
      List.inj_on_of_nodup_map hids hother hstep hid.symm
    split at hstatus
    · next hhuman =>
      -- At a person's step the issue waits for a review, and for nothing else.
      have hreview := isHumanReview_iff.1 hhuman
      constructor
      · simp [hposition, hstatus]
      · simp only [hstatus, true_iff]
        exact ⟨step, hstep, hposition, hreview⟩
      · simp [hposition]
      · intro other hother hid hother'
        rw [hsame other hother (Position.atStep.inj (hposition.symm.trans hid))] at hother'
        exact absurd hreview hother'
      · rintro _ hid
        exact ⟨step, hstep, Position.atStep.inj (hposition.symm.trans hid)⟩
      · simp [hstatus]
    · next hhuman =>
      -- At any other step it is in progress, or not worked on.
      constructor
      · rcases hstatus with hstatus | hstatus <;> simp [hposition, hstatus]
      · constructor
        · rcases hstatus with hstatus | hstatus <;> simp [hstatus]
        · rintro ⟨other, hother, hid, hreview⟩
          rw [hsame other hother (Position.atStep.inj (hposition.symm.trans hid))] at hreview
          exact absurd (isHumanReview_iff.2 hreview) hhuman
      · simp [hposition]
      · intro other hother hid hother'
        exact hstatus.imp_right fun h => ⟨h, htodo h⟩
      · rintro _ hid
        exact ⟨step, hstep, Position.atStep.inj (hposition.symm.trans hid)⟩
      · rcases hstatus with hstatus | hstatus <;> simp [hstatus]

/-- After any run without resets from a new database, the status of every issue can be looked at,
and its work status is in sync with its position. -/
theorem inSync_of_run (created : Int) (calls : List (Author × Operation))
    (hcalls : ∀ call ∈ calls, call.2.isResetFree = true) (now : Int) :
    ∀ row ∈ ((create created).run calls).2.issues,
      ∃ view, ((create created).run calls).2.status row.record.id now = .ok view ∧
        view.issue = row.record ∧ InSync ((create created).run calls).1 view := by
  intro row hrow
  have hdb := consistent_run (admitted_create created).toConsistent fun call hcall =>
    Operation.isCall_of_isResetFree (hcalls call hcall)
  have hstored := storedIssue?_eq_some_of_mem hdb hrow
  have hsuited := suited_run created row.record.id hcalls
  rw [Suited, hstored, ← position_cursorFor _ _ now] at hsuited
  refine ⟨_, status_eq_ok hdb (issue_eq_ok_of_stored hdb hstored), rfl, ?_⟩
  exact inSync_of_suits (nodup_ids_storedCatalog hdb) hsuited.1 hsuited.2

/-- The issue of the sample run is in sync. -/
theorem inSync_sampleRun :
    (∀ call ∈ sampleRun, call.2.isResetFree = true) ∧
      ∀ row ∈ ((create 0).run sampleRun).2.issues,
        ∃ view, ((create 0).run sampleRun).2.status row.record.id 9 = .ok view ∧
          view.issue = row.record ∧ InSync ((create 0).run sampleRun).1 view :=
  ⟨by decide, inSync_of_run 0 sampleRun (by decide) 9⟩

end Database

end ReviewPipeline
