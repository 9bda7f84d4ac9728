import ReviewPipeline.Proofs.Agreement
import ReviewPipeline.Proofs.Course

/-!
# Plans and Staffing

Whom a step is assigned to shows in one place only: the agent that signs the ledger entry. Plans
made from two catalogs that differ in their assignments, for cursors on the same course, are
therefore the same up to that signature (`planCompletion_agree`, `planRejection_agree`).

Each function of `ReviewPipeline.Progression` is followed on a catalog whose assignments are taken
out (`Step.unstaffed`); what it answers there is what it answers on the catalog itself, with the
assignments taken out.
-/

namespace ReviewPipeline

/-- A step apart from its assignment. -/
def Step.unstaffed (s : Step) : Step := { s with assignee := none, updatedAt := 0 }

/-- A place apart from the assignment of its step. -/
def Place.unstaffed (p : Place) : Place := ⟨p.index, p.step.unstaffed⟩

/-- An entry of the ledger apart from its signature. -/
def LedgerEntry.unsigned (e : LedgerEntry) : LedgerEntry := { e with agentId := none }

/-- An entry to be written apart from its signature. -/
def LedgerDraft.unsigned (d : LedgerDraft) : LedgerDraft := { d with agentId := none }

/-- A transition apart from the signature of its entry. -/
def Transition.unsigned (t : Transition) : Transition := { t with entry := t.entry.unsigned }

namespace Progression

variable {steps steps' : List Step} {cursor cursor' : Cursor} {stamp : Stamp}
  {agent notes : Option String} {reason : String}

/-! ### Places -/

/-- Where a step is found does not depend on the staffing. -/
theorem locateFrom?_unstaffed (stepId : String) (start : Nat) (steps : List Step) :
    locateFrom? stepId start (steps.map Step.unstaffed) =
      (locateFrom? stepId start steps).map Place.unstaffed := by
  induction steps generalizing start with
  | nil => rfl
  | cons step steps ih =>
    simp only [List.map_cons, locateFrom?, ih]
    by_cases hid : step.id = stepId
    · simp [hid, Step.unstaffed, Place.unstaffed]
    · simp [hid, Step.unstaffed]

/-- Where a step of a catalog is located does not depend on the staffing. -/
theorem locate_unstaffed (steps : List Step) (stepId : String) :
    locate (steps.map Step.unstaffed) stepId = (locate steps stepId).map Place.unstaffed := by
  unfold locate
  rw [locateFrom?_unstaffed]
  cases locateFrom? stepId 0 steps <;> rfl

/-- Where a cursor starts does not depend on the staffing. -/
theorem ensureStarted_unstaffed (steps : List Step) (cursor : Cursor) :
    ensureStarted (steps.map Step.unstaffed) cursor =
      (ensureStarted steps cursor).map Place.unstaffed := by
  unfold ensureStarted
  cases cursor.position with
  | notStarted => cases steps <;> rfl
  | atStep stepId => exact locate_unstaffed steps stepId
  | completed => rfl

/-- The last actionable step does not depend on the staffing. -/
theorem lastActionable_unstaffed (steps : List Step) (count : Nat) :
    lastActionable (steps.map Step.unstaffed) count = lastActionable steps count := by
  induction count with
  | zero => rfl
  | succ count ih =>
    simp only [lastActionable, List.getElem?_map, ih]
    cases steps[count]? <;> rfl

/-- The step to go back to does not depend on the staffing. -/
theorem previousActionable_unstaffed (steps : List Step) (index : Nat) :
    previousActionable (steps.map Step.unstaffed) index = previousActionable steps index := by
  rw [previousActionable, previousActionable, lastActionable_unstaffed, List.length_map]

/-! ### Plans -/

/-- A completion is planned without regard to assignments, up to the signature. -/
theorem planCompletion_unstaffed (steps : List Step) (cursor : Cursor)
    (agent notes : Option String) (stamp : Stamp) :
    (planCompletion (steps.map Step.unstaffed) cursor agent notes stamp).map Transition.unsigned =
      (planCompletion steps cursor agent notes stamp).map Transition.unsigned := by
  unfold planCompletion
  rw [ensureStarted_unstaffed]
  cases ensureStarted steps cursor with
  | error e => rfl
  | ok place =>
    have houtcome : completionOutcome place.step.unstaffed
        (steps.map Step.unstaffed)[place.index + 1]? =
          completionOutcome place.step steps[place.index + 1]? := by
      rw [List.getElem?_map]
      cases steps[place.index + 1]? <;> rfl
    simp only [Except.map, Place.unstaffed, houtcome]
    cases completionOutcome place.step steps[place.index + 1]? <;> rfl

/-- A rejection is planned without regard to assignments, up to the signature. -/
theorem planRejection_unstaffed (steps : List Step) (cursor : Cursor) (agent : Option String)
    (reason : String) (stamp : Stamp) :
    (planRejection (steps.map Step.unstaffed) cursor agent reason stamp).map Transition.unsigned =
      (planRejection steps cursor agent reason stamp).map Transition.unsigned := by
  unfold planRejection
  cases cursor.stepId with
  | none => rfl
  | some stepId =>
    dsimp only
    rw [locate_unstaffed]
    cases locate steps stepId with
    | error e => rfl
    | ok place =>
      have htarget : (previousActionable (steps.map Step.unstaffed) place.index).bind
          ((steps.map Step.unstaffed)[·]?) =
            ((previousActionable steps place.index).bind (steps[·]?)).map Step.unstaffed := by
        rw [previousActionable_unstaffed]
        cases previousActionable steps place.index <;> simp
      simp only [Except.map, Place.unstaffed, htarget]
      by_cases hfirst : place.index = 0
      · simp only [if_pos hfirst]
        rfl
      · simp only [if_neg hfirst]
        cases (previousActionable steps place.index).bind (steps[·]?) <;> rfl

/-- With a step in the catalog, a completion is planned from the course of the cursor. -/
theorem planCompletion_of_course (hsteps : steps ≠ []) (hcourse : cursor.course = cursor'.course)
    (hissue : cursor.issueId = cursor'.issueId) :
    planCompletion steps cursor agent notes stamp =
      planCompletion steps cursor' agent notes stamp := by
  obtain ⟨hstepId, hstartedAt, hcompletedAt⟩ := Course.mk.injEq .. ▸ hcourse
  have hplace : ensureStarted steps cursor = ensureStarted steps cursor' := by
    unfold ensureStarted
    rw [cursor.position_eq, hcourse, ← cursor'.position_eq, hissue]
    -- The project is only named when there is no step.
    cases steps with
    | nil => exact absurd rfl hsteps
    | cons step steps => rfl
  simp only [planCompletion, hplace, draft, hissue, hstartedAt, hcompletedAt]

/-- A rejection is planned from the course of the cursor. -/
theorem planRejection_of_course (hcourse : cursor.course = cursor'.course)
    (hissue : cursor.issueId = cursor'.issueId) :
    planRejection steps cursor agent reason stamp =
      planRejection steps cursor' agent reason stamp := by
  obtain ⟨hstepId, hstartedAt, hcompletedAt⟩ := Course.mk.injEq .. ▸ hcourse
  simp only [planRejection, draft, hissue, hstepId, hstartedAt, hcompletedAt]

/-- Completions planned from differently assigned catalogs and from cursors on the same course are
the same up to the signature. -/
theorem planCompletion_agree (hwork : steps.map Step.unstaffed = steps'.map Step.unstaffed)
    (hsteps : steps ≠ []) (hcourse : cursor.course = cursor'.course)
    (hissue : cursor.issueId = cursor'.issueId) :
    Agree (fun t t' => t.unsigned = t'.unsigned) (planCompletion steps cursor agent notes stamp)
      (planCompletion steps' cursor' agent notes stamp) := by
  refine .of_map_eq ?_
  rw [planCompletion_of_course hsteps hcourse hissue, ← planCompletion_unstaffed, hwork,
    planCompletion_unstaffed]

/-- Rejections planned from differently assigned catalogs and from cursors on the same course are
the same up to the signature. -/
theorem planRejection_agree (hwork : steps.map Step.unstaffed = steps'.map Step.unstaffed)
    (hcourse : cursor.course = cursor'.course) (hissue : cursor.issueId = cursor'.issueId) :
    Agree (fun t t' => t.unsigned = t'.unsigned) (planRejection steps cursor agent reason stamp)
      (planRejection steps' cursor' agent reason stamp) := by
  refine .of_map_eq ?_
  rw [planRejection_of_course hcourse hissue, ← planRejection_unstaffed, hwork,
    planRejection_unstaffed]

end Progression

end ReviewPipeline
