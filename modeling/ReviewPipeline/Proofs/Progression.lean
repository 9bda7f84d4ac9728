import Mathlib.Data.List.Nodup
import ReviewPipeline.Progression

/-!
# Plans by Cases

What the functions of `ReviewPipeline.Progression` answer, said through the places of the catalog.

* `locate_eq_ok_iff`: in a catalog without repeated steps, a step is located at the one place that
  holds it; a step that is not there makes the pointer stale (`locate_eq_error_iff`);
* `previousActionable_eq_some_iff`: a rejection lands on the greatest earlier place whose step does
  not wait for a person;
* `Planned`: the four kinds of transitions, each with what it writes. Every plan is one of them
  (`planned_of_planCompletion`, `planned_of_planRejection`), so a property of transitions has four
  cases;
* `Landing`: a transition leads to the end or to a step of the catalog, and says so in everything
  that it writes.
-/

namespace ReviewPipeline

/-- A step is for human review when its kind says so. -/
theorem isHumanReview_iff {step : Step} :
    step.isHumanReview = true ↔ step.kind = .humanReview := by
  cases hkind : step.kind <;> simp [Step.isHumanReview, StepKind.isGate, hkind]

/-- A step is not for human review when its kind is another. -/
theorem not_isHumanReview_iff {step : Step} :
    step.isHumanReview = false ↔ step.kind ≠ .humanReview := by
  rw [← Bool.not_eq_true, isHumanReview_iff]

namespace Progression

variable {steps : List Step} {stepId : String} {place : Place} {cursor : Cursor} {stamp : Stamp}
  {agent notes : Option String} {reason : String} {t : Transition} {e : Error}

/-! ### Places -/

/-- A step is located at a place that holds it, and no place before does. -/
theorem locateFrom?_eq_some_iff {start : Nat} :
    locateFrom? stepId start steps = some place ↔
      ∃ i, place.index = start + i ∧ steps[i]? = some place.step ∧ place.step.id = stepId ∧
        ∀ j < i, ∀ step, steps[j]? = some step → step.id ≠ stepId := by
  induction steps generalizing start with
  | nil => simp [locateFrom?]
  | cons step steps ih =>
    rw [locateFrom?]
    split
    · next h =>
      -- The first step is the one; any place further on would come after it.
      constructor
      · rintro ⟨⟩
        exact ⟨0, by simp, by simp, h, by simp⟩
      · rintro ⟨i, hindex, hstep, -, hfirst⟩
        cases i with
        | zero =>
          obtain ⟨index, found⟩ := place
          simp_all
        | succ i => exact absurd h (hfirst 0 (by omega) step rfl)
    · next h =>
      -- The search goes on, and every place moves by one.
      rw [ih]
      constructor
      · rintro ⟨i, hindex, hstep, hid, hfirst⟩
        refine ⟨i + 1, by omega, by simpa using hstep, hid, fun j hj found hfound => ?_⟩
        cases j with
        | zero =>
          obtain rfl : step = found := by simpa using hfound
          exact h
        | succ j => exact hfirst j (by omega) found (by simpa using hfound)
      · rintro ⟨i, hindex, hstep, hid, hfirst⟩
        cases i with
        | zero =>
          obtain rfl : step = place.step := by simpa using hstep
          exact absurd hid h
        | succ i =>
          refine ⟨i, by omega, by simpa using hstep, hid, fun j hj found hfound => ?_⟩
          exact hfirst (j + 1) (by omega) found (by simpa using hfound)

/-- A step is not located when no step of the list has its identifier. -/
theorem locateFrom?_eq_none_iff (start : Nat) :
    locateFrom? stepId start steps = none ↔ ∀ step ∈ steps, step.id ≠ stepId := by
  induction steps generalizing start with
  | nil => simp [locateFrom?]
  | cons step steps ih =>
    rw [locateFrom?, List.forall_mem_cons]
    split
    · next h => simp [h]
    · next h => rw [ih, and_iff_right h]

/-- The places of a catalog hold different steps. -/
theorem index_unique (h : (steps.map (·.id)).Nodup) {i j : Nat} {step other : Step}
    (hi : steps[i]? = some step) (hj : steps[j]? = some other) (hid : step.id = other.id) :
    i = j := by
  have hilt : i < (steps.map (·.id)).length := by
    simpa using (List.getElem?_eq_some_iff.1 hi).1
  exact (List.getElem?_inj hilt h).1 (by simp [hi, hj, hid])

/-- A located step stands at its place and has the identifier looked for. -/
theorem getElem?_of_locate (h : locate steps stepId = .ok place) :
    steps[place.index]? = some place.step ∧ place.step.id = stepId := by
  unfold locate at h
  split at h
  · next found hfound =>
    cases h
    obtain ⟨i, hindex, hstep, hid, -⟩ := locateFrom?_eq_some_iff.1 hfound
    rw [Nat.zero_add] at hindex
    exact ⟨hindex ▸ hstep, hid⟩
  · cases h

/-- In a catalog without repeated steps, each step is found at its own place. -/
theorem locateFrom?_getElem? (h : (steps.map (·.id)).Nodup) {index : Nat} {step : Step}
    (hstep : steps[index]? = some step) : locateFrom? step.id 0 steps = some ⟨index, step⟩ := by
  refine locateFrom?_eq_some_iff.2 ⟨index, by simp, hstep, rfl, ?_⟩
  -- An earlier place with the same step would be this one.
  intro j hj other hother hsame
  have hindex := index_unique h hother hstep hsame
  omega

/-- In a catalog without repeated steps, a step is located at the one place that holds it. -/
theorem locate_eq_ok_iff (h : (steps.map (·.id)).Nodup) :
    locate steps stepId = .ok place ↔
      steps[place.index]? = some place.step ∧ place.step.id = stepId := by
  refine ⟨getElem?_of_locate, ?_⟩
  rintro ⟨hstep, rfl⟩
  rw [locate, locateFrom?_getElem? h hstep]

/-- A pointer is stale iff the catalog does not hold its step. -/
theorem locate_eq_error_iff :
    locate steps stepId = .error e ↔
      e = .stalePointer stepId ∧ ∀ step ∈ steps, step.id ≠ stepId := by
  rw [← locateFrom?_eq_none_iff 0]
  unfold locate
  split <;> simp [*, eq_comm]

/-- A completion acts on a place of the catalog. -/
theorem getElem?_of_ensureStarted (h : ensureStarted steps cursor = .ok place) :
    steps[place.index]? = some place.step := by
  unfold ensureStarted at h
  split at h
  · split at h
    · cases h
      rfl
    · cases h
  · exact (getElem?_of_locate h).1
  · cases h

/-- A cursor that points at a step starts there. -/
theorem ensureStarted_of_pointer (hpointer : cursor.stepId = some stepId) :
    ensureStarted steps cursor = locate steps stepId := by
  unfold ensureStarted Cursor.position
  rw [hpointer]

/-- The place at which an issue stands: that of the step its pointer names, or the first one if it
was not started. -/
inductive StandsAt (steps : List Step) : Position → Place → Prop
  /-- The issue was not started. -/
  | first {step : Step} (hstep : steps[0]? = some step) : StandsAt steps .notStarted ⟨0, step⟩
  /-- The pointer names a step of the catalog. -/
  | pointed {index : Nat} {step : Step} (hstep : steps[index]? = some step) :
      StandsAt steps (.atStep step.id) ⟨index, step⟩

/-- The place a position stands at is one of the catalog. -/
theorem StandsAt.getElem? {position : Position} (h : StandsAt steps position place) :
    steps[place.index]? = some place.step := by
  cases h with
  | first hstep => exact hstep
  | pointed hstep => exact hstep

/-- A completion acts on the place at which the issue stands. -/
theorem ensureStarted_eq_ok_iff (h : (steps.map (·.id)).Nodup) :
    ensureStarted steps cursor = .ok place ↔ StandsAt steps cursor.position place := by
  unfold ensureStarted
  cases cursor.position with
  | notStarted =>
    cases steps with
    | nil =>
      refine ⟨nofun, fun hstands => ?_⟩
      cases hstands with
      | first hstep => cases hstep
    | cons step steps =>
      constructor
      · rintro ⟨⟩
        exact .first rfl
      · intro hstands
        cases hstands with
        | first hstep => rw [← Option.some.inj hstep]
  | atStep stepId =>
    refine (locate_eq_ok_iff h).trans ?_
    constructor
    · rintro ⟨hstep, rfl⟩
      exact .pointed hstep
    · intro hstands
      cases hstands with
      | pointed hstep => exact ⟨hstep, rfl⟩
  | completed => exact ⟨nofun, nofun⟩

/-- Nothing at a place can be sent back to: it is past the end, or its step waits for a person. -/
def Waits (steps : List Step) (index : Nat) : Prop :=
  ∀ step, steps[index]? = some step → step.isHumanReview = true

/-- A place does not wait iff it holds a step that does not. -/
theorem not_waits_iff {index : Nat} :
    ¬ Waits steps index ↔ ∃ step, steps[index]? = some step ∧ step.isHumanReview = false := by
  simp [Waits]

/-- The search for an earlier place passes over one that waits, and ends at one that does not. -/
theorem lastActionable_succ (steps : List Step) (count : Nat) :
    (Waits steps count ∧ lastActionable steps (count + 1) = lastActionable steps count) ∨
      (¬ Waits steps count ∧ lastActionable steps (count + 1) = some count) := by
  rw [lastActionable, not_waits_iff]
  cases hstep : steps[count]? with
  | none => exact .inl ⟨by simp [Waits, hstep], rfl⟩
  | some step =>
    cases hhuman : step.isHumanReview with
    | true => exact .inl ⟨by simp [Waits, hstep, hhuman], by simp [hhuman]⟩
    | false => exact .inr ⟨⟨step, rfl, hhuman⟩, by simp [hhuman]⟩

/-- What the search finds is the last place among the first `count` that does not wait. -/
theorem lastActionable_eq_some_iff {count i : Nat} :
    lastActionable steps count = some i ↔
      i < count ∧ ¬ Waits steps i ∧ ∀ j, i < j → j < count → Waits steps j := by
  induction count with
  | zero => simp [lastActionable]
  | succ count ih =>
    -- The last place is passed over, and then waits itself, or it is the one found.
    rcases lastActionable_succ steps count with ⟨hwaits, heq⟩ | ⟨hwaits, heq⟩
    · rw [heq, ih]
      constructor
      · rintro ⟨hlt, hi, hbetween⟩
        refine ⟨by omega, hi, fun j hij hj => ?_⟩
        rcases Nat.lt_succ_iff_lt_or_eq.1 hj with hj | rfl
        · exact hbetween j hij hj
        · exact hwaits
      · rintro ⟨hlt, hi, hbetween⟩
        have hne : i ≠ count := fun h => hi (h ▸ hwaits)
        exact ⟨by omega, hi, fun j hij hj => hbetween j hij (by omega)⟩
    · rw [heq, Option.some.injEq]
      constructor
      · rintro rfl
        exact ⟨by omega, hwaits, fun j hij hj => by omega⟩
      · rintro ⟨hlt, -, hbetween⟩
        by_contra hne
        exact hwaits (hbetween count (by omega) (by omega))

/-- A step with an actionable one before it does not wait. -/
theorem not_waits_of_previousActionable {index i : Nat}
    (h : previousActionable steps index = some i) : ¬ Waits steps i :=
  (lastActionable_eq_some_iff.1 h).2.1

/-- The search finds nothing iff all of the first `count` places wait. -/
theorem lastActionable_eq_none_iff {count : Nat} :
    lastActionable steps count = none ↔ ∀ j < count, Waits steps j := by
  -- The search goes down from the end, so the place that is looked at first is the last one.
  induction count with
  | zero => simp [lastActionable]
  | succ count ih =>
    rcases lastActionable_succ steps count with ⟨hwaits, heq⟩ | ⟨hwaits, heq⟩
    · rw [heq, ih]
      refine ⟨fun h j hj => ?_, fun h j hj => h j (by omega)⟩
      rcases Nat.lt_succ_iff_lt_or_eq.1 hj with hj | rfl
      · exact h j hj
      · exact hwaits
    · rw [heq]
      exact ⟨nofun, fun h => absurd (h count (by omega)) hwaits⟩

/-- A rejection at a place of the catalog lands on the greatest earlier place that does not wait. -/
theorem previousActionable_eq_some_iff {index i : Nat} (hindex : index < steps.length) :
    previousActionable steps index = some i ↔
      i < index ∧ ¬ Waits steps i ∧ ∀ j, i < j → j < index → Waits steps j := by
  rw [previousActionable, Nat.min_eq_left (by omega), lastActionable_eq_some_iff]

/-! ### Plans -/

/-- The four kinds of transitions, each with what it writes. -/
inductive Planned (steps : List Step) (cursor : Cursor) (stamp : Stamp) : Transition → Prop
  /-- A step that moves straight on is completed, and it is not the last one. -/
  | advanced {place : Place} {next : Step} {agent notes : Option String}
      (hcurrent : ensureStarted steps cursor = .ok place)
      (hnext : steps[place.index + 1]? = some next)
      (hmoves : place.step.autoAdvance = true ∧ place.step.isHumanReview = false) :
      Planned steps cursor stamp
        { fromStepId := place.step.id
          entry := draft stamp cursor place.step agent .completed notes
          update := ⟨some next.id, cursor.startedAt.or (some stamp.now), cursor.completedAt⟩
          workStatus := some (if next.isHumanReview then .review else .inProgress)
          outcome := .advanced next.id next.isHumanReview }
  /-- A step that has to be left from outside is completed, and it is not the last one. -/
  | held {place : Place} {next : Step} {agent notes : Option String}
      (hcurrent : ensureStarted steps cursor = .ok place)
      (hnext : steps[place.index + 1]? = some next)
      (hstays : place.step.autoAdvance = false ∨ place.step.isHumanReview = true) :
      Planned steps cursor stamp
        { fromStepId := place.step.id
          entry := draft stamp cursor place.step agent .completed notes
          update := ⟨some place.step.id, cursor.startedAt.or (some stamp.now), cursor.completedAt⟩
          workStatus := if place.step.isHumanReview then some .review else none
          outcome := .held place.step.isHumanReview }
  /-- The last step is completed. -/
  | finished {place : Place} {agent notes : Option String}
      (hcurrent : ensureStarted steps cursor = .ok place)
      (hnext : steps[place.index + 1]? = none) :
      Planned steps cursor stamp
        { fromStepId := place.step.id
          entry := draft stamp cursor place.step agent .completed notes
          update := ⟨none, cursor.startedAt.or (some stamp.now), some stamp.now⟩
          workStatus := some .done
          outcome := .finished }
  /-- A step is rejected. -/
  | rejected {stepId : String} {place : Place} {target : Step} {index : Nat}
      {agent : Option String} {reason : String}
      (hpointer : cursor.stepId = some stepId)
      (hcurrent : locate steps stepId = .ok place)
      (hindex : previousActionable steps place.index = some index)
      (htarget : steps[index]? = some target) :
      Planned steps cursor stamp
        { fromStepId := place.step.id
          entry := draft stamp cursor place.step agent .rejected (some reason)
          update := ⟨some target.id, cursor.startedAt, cursor.completedAt⟩
          workStatus := some .inProgress
          outcome := .rejected target.id }

/-- The entry of a planned transition is about the issue of the cursor. -/
theorem Planned.entry_issueId (h : Planned steps cursor stamp t) :
    t.entry.issueId = cursor.issueId := by
  cases h <;> rfl

/-- Whatever is planned acts on the place at which the issue stands. -/
theorem Planned.exists_place (h : Planned steps cursor stamp t) :
    ∃ place, ensureStarted steps cursor = .ok place ∧ t.fromStepId = place.step.id ∧
      t.entry.stepId = place.step.id := by
  cases h with
  | advanced hcurrent => exact ⟨_, hcurrent, rfl, rfl⟩
  | held hcurrent => exact ⟨_, hcurrent, rfl, rfl⟩
  | finished hcurrent => exact ⟨_, hcurrent, rfl, rfl⟩
  | rejected hpointer hcurrent =>
    exact ⟨_, (ensureStarted_of_pointer hpointer).trans hcurrent, rfl, rfl⟩

/-- Where a transition leaves the issue, and what it reports and writes there. -/
inductive Landing (steps : List Step) (t : Transition) : Prop
  /-- The pipeline is finished. -/
  | atEnd (hpointer : t.update.stepId = none) (hfinished : t.completesPipeline = true)
      (hparked : t.parkedForHumanReview = false) (hstatus : t.workStatus = some .done)
  /-- The issue is at a step of the catalog. The work status goes by the kind of that step, and only
  where the issue did not move it may be left alone. -/
  | atStep {index : Nat} {step : Step} (hstep : steps[index]? = some step)
      (hpointer : t.update.stepId = some step.id) (hfinished : t.completesPipeline = false)
      (hparked : t.parkedForHumanReview = step.isHumanReview)
      (hstatus : t.workStatus = some (if step.isHumanReview then .review else .inProgress) ∨
        (t.workStatus = none ∧ step.isHumanReview = false ∧ step.id = t.fromStepId ∧
          t.entry.result = .completed))

/-- A planned transition lands where the specification of landings says. -/
theorem landing_of_planned (h : Planned steps cursor stamp t) : Landing steps t := by
  cases h with
  | @advanced place next _ _ hcurrent hnext hmoves =>
    exact .atStep hnext rfl rfl rfl (.inl rfl)
  | @held place next _ _ hcurrent hnext hstays =>
    refine .atStep (getElem?_of_ensureStarted hcurrent) rfl rfl rfl ?_
    cases hhuman : place.step.isHumanReview with
    | true => exact .inl (by simp)
    | false => exact .inr ⟨by simp, rfl, rfl, rfl⟩
  | finished => exact .atEnd rfl rfl rfl rfl
  | @rejected stepId place target index _ _ hpointer hcurrent hindex htarget =>
    -- The search ends at a step that does not wait for a person.
    obtain ⟨step, hstep, hhuman⟩ := not_waits_iff.1 (not_waits_of_previousActionable hindex)
    obtain rfl := Option.some.inj (hstep.symm.trans htarget)
    refine .atStep htarget rfl rfl hhuman.symm (.inl ?_)
    simp [hhuman]

/-- The pointer alone tells the position after a transition: without one, the pipeline is
completed. -/
theorem Planned.position_apply (h : Planned steps cursor stamp t) (now : Int) :
    (cursor.apply t.update now).position = t.update.stepId.elim .completed .atStep := by
  cases h with
  | advanced | held | rejected => rfl
  | finished =>
    -- The time of completion is set now, or it was before.
    cases hcompleted : cursor.completedAt <;> simp [Cursor.apply, Cursor.position, hcompleted]

/-- A planned completion is one of the first three kinds. -/
theorem planned_of_planCompletion (h : planCompletion steps cursor agent notes stamp = .ok t) :
    Planned steps cursor stamp t ∧ ∃ place, ensureStarted steps cursor = .ok place ∧
      t.entry = draft stamp cursor place.step agent .completed notes := by
  unfold planCompletion at h
  split at h
  · cases h
  · next place hcurrent =>
    simp only [completionOutcome] at h
    -- Whether there is a next step decides between the end and a move.
    cases hnext : steps[place.index + 1]? with
    | none =>
      simp only [hnext] at h
      cases h
      exact ⟨.finished hcurrent hnext, place, hcurrent, rfl⟩
    | some next =>
      simp only [hnext] at h
      -- Whether the step moves on by itself decides between a move and a hold.
      cases hmoves : place.step.autoAdvance && !place.step.isHumanReview with
      | true =>
        simp only [hmoves, ↓reduceIte] at h
        cases h
        exact ⟨.advanced hcurrent hnext (by simpa using hmoves), place, hcurrent, rfl⟩
      | false =>
        simp only [hmoves, Bool.false_eq_true, ↓reduceIte] at h
        cases h
        have hstays : place.step.autoAdvance = false ∨ place.step.isHumanReview = true := by
          cases hauto : place.step.autoAdvance
          · exact .inl rfl
          · exact .inr (by simpa [hauto] using hmoves)
        exact ⟨.held hcurrent hnext hstays, place, hcurrent, rfl⟩

/-- A completion cannot be planned exactly where there is no step to act on. -/
theorem planCompletion_eq_error_iff :
    planCompletion steps cursor agent notes stamp = .error e ↔
      ensureStarted steps cursor = .error e := by
  unfold planCompletion
  cases ensureStarted steps cursor with
  | error e' => simp
  | ok place =>
    dsimp only
    split <;> simp

/-- A planned rejection is of the fourth kind. -/
theorem planned_of_planRejection (h : planRejection steps cursor agent reason stamp = .ok t) :
    Planned steps cursor stamp t ∧ ∃ place target,
      t.entry = draft stamp cursor place agent .rejected (some reason) ∧
        t.outcome = .rejected target := by
  unfold planRejection at h
  split at h
  · cases h
  · next stepId hpointer =>
    split at h
    · cases h
    · next place hcurrent =>
      split at h
      · cases h
      · split at h
        · cases h
        · -- A target is among the steps before, and the plan sends back to it.
          next target htarget =>
          cases h
          obtain ⟨index, hindex, htarget⟩ := Option.bind_eq_some_iff.1 htarget
          exact ⟨.rejected hpointer hcurrent hindex htarget, place.step, target.id, rfl, rfl⟩

end Progression

end ReviewPipeline
