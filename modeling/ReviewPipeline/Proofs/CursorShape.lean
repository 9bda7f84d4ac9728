import ReviewPipeline.Proofs.Runs

/-!
# The Shapes of Cursors

Three columns of a cursor say where its issue is: the pointer, the time of the first transition and
the time of completion. Calls fill them in only three combinations, and the pointer of a cursor
never leaves the catalog of the issue's own project.

## Main definitions

* `CursorShape`, `Cursor.HasShape`: the three combinations;
* `Database.Shaped`: every cursor belongs to the project of its issue and has a shape.

## Main results

* `hasShape_apply`: a planned transition turns one shape into another;
* `Called.shaped`: every call keeps every cursor in shape;
* `cursor_shapes_of_run`: after any run of calls each cursor has exactly one shape, and no
  completion or rejection finds a stale pointer.
-/

namespace ReviewPipeline

/-- The combinations of pointer and times that a cursor takes. -/
inductive CursorShape where
  /-- No pointer and no time. -/
  | notStarted
  /-- A pointer and the time of the first transition. -/
  | atStep
  /-- No pointer, and both times. -/
  | completed
  deriving DecidableEq, Repr

/-- A cursor has a shape with respect to a catalog, which has to hold the step it points to. -/
def Cursor.HasShape (c : Cursor) (steps : List Step) : CursorShape → Prop
  | .notStarted => c.stepId = none ∧ c.startedAt = none ∧ c.completedAt = none
  | .atStep =>
    (∃ step ∈ steps, c.stepId = some step.id) ∧ c.startedAt.isSome ∧ c.completedAt = none
  | .completed => c.stepId = none ∧ c.startedAt.isSome ∧ c.completedAt.isSome

/-- The shape of a cursor after a transition. -/
def Transition.shape (t : Transition) : CursorShape :=
  if t.completesPipeline then .completed else .atStep

variable {cursor : Cursor} {steps steps' : List Step} {shape other : CursorShape} {stamp : Stamp}
  {t : Transition} {now : Int} {stepId : String}

/-- A cursor has at most one shape. -/
theorem Cursor.HasShape.unique (h : cursor.HasShape steps shape)
    (hother : cursor.HasShape steps other) : shape = other := by
  cases shape <;> cases other <;> simp_all [HasShape]

/-- A cursor keeps its shape while the catalog only gains steps. -/
theorem Cursor.HasShape.mono (h : cursor.HasShape steps shape)
    (hsteps : ∀ step ∈ steps, ∃ step' ∈ steps', step'.id = step.id) :
    cursor.HasShape steps' shape := by
  cases shape with
  | notStarted => exact h
  | completed => exact h
  | atStep =>
    obtain ⟨⟨step, hstep, hpointer⟩, htimes⟩ := h
    obtain ⟨step', hstep', hid⟩ := hsteps step hstep
    exact ⟨⟨step', hstep', hid ▸ hpointer⟩, htimes⟩

/-! ### Transitions -/

namespace Progression

/-- A completion acts on a cursor that is not completed. -/
theorem completedAt_of_ensureStarted {place : Place} (h : ensureStarted steps cursor = .ok place)
    (hshape : cursor.HasShape steps shape) : cursor.completedAt = none := by
  cases shape with
  | notStarted => exact hshape.2.2
  | atStep => exact hshape.2.2
  | completed =>
    obtain ⟨hpointer, -, hcompleted⟩ := hshape
    obtain ⟨time, htime⟩ := Option.isSome_iff_exists.1 hcompleted
    simp [ensureStarted, Cursor.position, hpointer, htime] at h

/-- A planned transition turns the shape of a cursor into another one. -/
theorem hasShape_apply (h : Planned steps cursor stamp t) (hshape : cursor.HasShape steps shape) :
    (cursor.apply t.update now).HasShape steps t.shape := by
  cases h with
  | @advanced place next _ _ hcurrent hnext =>
    -- A time that is written here stays, and none is written over.
    have hcompleted := completedAt_of_ensureStarted hcurrent hshape
    refine ⟨⟨next, List.mem_of_getElem? hnext, rfl⟩, ?_, ?_⟩
    · simp [Cursor.apply]
    · simp [Cursor.apply, hcompleted]
  | @held place _ _ _ hcurrent =>
    have hcompleted := completedAt_of_ensureStarted hcurrent hshape
    have hmem := List.mem_of_getElem? (getElem?_of_ensureStarted hcurrent)
    refine ⟨⟨place.step, hmem, rfl⟩, ?_, ?_⟩
    · simp [Cursor.apply]
    · simp [Cursor.apply, hcompleted]
  | finished =>
    refine ⟨rfl, ?_, ?_⟩
    · simp [Cursor.apply]
    · simp [Cursor.apply]
  | @rejected _ _ target _ _ _ hpointer _ _ htarget =>
    -- Only a cursor at a step has a pointer, so the times are those of that shape.
    cases shape with
    | notStarted => cases hpointer.symm.trans hshape.1
    | completed => cases hpointer.symm.trans hshape.1
    | atStep =>
      obtain ⟨-, hstarted, hcompleted⟩ := hshape
      refine ⟨⟨target, List.mem_of_getElem? htarget, rfl⟩, ?_, ?_⟩
      · simp [Cursor.apply, hstarted]
      · simp [Cursor.apply, hcompleted]

/-- A pointer into the catalog is located. -/
theorem locate_ne_error {e : Error} (h : ∃ step ∈ steps, cursor.stepId = some step.id)
    (hpointer : cursor.stepId = some stepId) : locate steps stepId ≠ .error e := by
  intro herror
  obtain ⟨step, hstep, hid⟩ := h
  obtain ⟨-, hmissing⟩ := locate_eq_error_iff.1 herror
  exact hmissing step hstep (Option.some.inj (hid.symm.trans hpointer))

/-- A cursor in shape makes no completion fail with a stale pointer. -/
theorem planCompletion_ne_stalePointer {agent notes : Option String}
    (hshape : cursor.HasShape steps shape) :
    planCompletion steps cursor agent notes stamp ≠ .error (.stalePointer stepId) := by
  intro h
  have hcurrent := planCompletion_eq_error_iff.1 h
  unfold ensureStarted Cursor.position at hcurrent
  cases shape with
  | notStarted =>
    obtain ⟨hpointer, -, hcompleted⟩ := hshape
    simp only [hpointer, hcompleted] at hcurrent
    split at hcurrent <;> cases hcurrent
  | atStep =>
    obtain ⟨⟨step, hstep, hpointer⟩, -⟩ := hshape
    simp only [hpointer] at hcurrent
    exact locate_ne_error ⟨step, hstep, hpointer⟩ hpointer hcurrent
  | completed =>
    obtain ⟨hpointer, -, hcompleted⟩ := hshape
    obtain ⟨time, htime⟩ := Option.isSome_iff_exists.1 hcompleted
    simp only [hpointer, htime] at hcurrent
    -- Both are conflicts; their messages differ from the first letter on.
    have hmessage := congrArg String.toList (Error.conflict.inj (Except.error.inj hcurrent))
    simp at hmessage

/-- A cursor in shape makes no rejection fail with a stale pointer. -/
theorem planRejection_ne_stalePointer {agent : Option String} {reason : String}
    (hshape : cursor.HasShape steps shape) :
    planRejection steps cursor agent reason stamp ≠ .error (.stalePointer stepId) := by
  intro h
  unfold planRejection at h
  split at h
  · cases h
  · next pointer hpointer =>
    split at h
    · next e herror =>
      -- Where the shape says that there is no pointer, there is none that could be stale.
      cases shape with
      | notStarted => cases hpointer.symm.trans hshape.1
      | completed => cases hpointer.symm.trans hshape.1
      | atStep => exact locate_ne_error hshape.1 hpointer herror
    · split at h
      · have hmessage := congrArg String.toList (Error.conflict.inj (Except.error.inj h))
        simp at hmessage
      · split at h
        · have hmessage := congrArg String.toList (Error.conflict.inj (Except.error.inj h))
          simp at hmessage
        · cases h

end Progression

/-! ### Cursors of a database -/

namespace Database

open Progression

variable {db db' : Database} {author : Author} {op : Operation} {reply : Reply} {issue : Issue}
  {id : String} {agent notes : Option String} {reason : String}

/-- A cursor belongs to a project and has a shape with respect to its catalog. -/
def Fits (db : Database) (cursor : Cursor) (projectId : String) : Prop :=
  cursor.projectId = projectId ∧ ∃ shape, cursor.HasShape (db.storedCatalog projectId) shape

/-- Every cursor fits the project of its issue. -/
def Shaped (db : Database) : Prop :=
  ∀ id issue cursor, db.storedIssue? id = some issue → db.storedCursor? id = some cursor →
    db.Fits cursor issue.projectId

/-- The cursor of an issue fits its project, also if it is not stored. -/
theorem Shaped.cursorFor (h : db.Shaped) (hissue : db.storedIssue? id = some issue) (now : Int) :
    db.Fits (db.cursorFor issue now) issue.projectId := by
  obtain rfl := id_of_storedIssue? hissue
  unfold Database.cursorFor
  cases hcursor : db.storedCursor? issue.id with
  | none => exact ⟨rfl, .notStarted, rfl, rfl, rfl⟩
  | some cursor => exact h issue.id issue cursor hissue hcursor

/-- A cursor that fits a project does so after every call. -/
theorem Called.fits (h : Called db author op reply db') {projectId : String}
    (hfits : db.Fits cursor projectId) : db'.Fits cursor projectId := by
  obtain ⟨hproject, shape, hshape⟩ := hfits
  refine ⟨hproject, shape, hshape.mono fun step hstep => ?_⟩
  obtain ⟨step', hstep', hstage⟩ := h.exists_stage hstep
  exact ⟨step', hstep', congrArg Stage.id hstage⟩

/-- Every call keeps every cursor in shape. -/
theorem Called.shaped (h : Called db author op reply db') (hdb : db.Consistent) (hs : db.Shaped) :
    db'.Shaped := by
  intro id issue' cursor hissue' hcursor'
  cases h.effect hdb id with
  | untouched hissue hcursor =>
    exact h.fits (hs id issue' cursor (hissue.symm.trans hissue') (hcursor.symm.trans hcursor'))
  | created _ _ _ hcursor => cases hcursor.symm.trans hcursor'
  | @gated issue gate hstored hissue hcursor =>
    obtain rfl := Option.some.inj (hissue.symm.trans hissue')
    obtain rfl := Option.some.inj (hcursor.symm.trans hcursor')
    -- The gate's signal is none of the columns that make up the shape.
    obtain ⟨hproject, shape, hshape⟩ := h.fits (hs.cursorFor hstored author.stamp.now)
    exact ⟨hproject, shape, by cases shape <;> exact hshape⟩
  | reset _ _ _ hissue hcursor =>
    obtain ⟨cursor, hstored, rfl⟩ := Option.map_eq_some_iff.1 (hcursor.symm.trans hcursor')
    have hfits := hs id issue' cursor (hissue.symm.trans hissue') hstored
    exact ⟨hfits.1, .notStarted, rfl, rfl, rfl⟩
  | @moved issue t hstored hplanned hissue hcursor =>
    obtain rfl := Option.some.inj (hissue.symm.trans hissue')
    obtain rfl := Option.some.inj (hcursor.symm.trans hcursor')
    obtain ⟨hproject, shape, hshape⟩ := hs.cursorFor hstored author.stamp.now
    rw [Issue.marked_projectId]
    exact h.fits ⟨hproject, t.shape, hasShape_apply hplanned hshape⟩

/-- A database in shape makes no completion fail with a stale pointer. -/
theorem complete_ne_stalePointer (hdb : db.Consistent) (hs : db.Shaped) :
    db.complete author id agent notes ≠ .error (.stalePointer stepId) := by
  intro h
  cases hissue : db.issue id with
  | error e =>
    rw [complete_eq_of_issue_error hdb hissue] at h
    exact issue_error_kind hdb hissue (by rw [Except.error.inj h]; rfl)
  | ok issue =>
    rw [complete_eq_of_issue_ok hdb hissue] at h
    split at h
    · cases h
    · have hstored := storedIssue?_of_issue_eq_ok hdb hissue
      rcases bind_eq_error_iff.1 h with hplan | ⟨t, -, happly⟩
      · obtain ⟨-, shape, hshape⟩ := hs.cursorFor hstored author.stamp.now
        exact planCompletion_ne_stalePointer hshape hplan
      · obtain ⟨fault, hfault⟩ := applyTransition_eq_error
          (hasIssue_iff.2 (by simp [hstored])) (map_eq_error_iff.1 happly)
        cases hfault

/-- A database in shape makes no rejection fail with a stale pointer. -/
theorem reject_ne_stalePointer (hdb : db.Consistent) (hs : db.Shaped) :
    db.reject author id agent reason ≠ .error (.stalePointer stepId) := by
  intro h
  cases hreason : Text.nonBlank (some reason) with
  | none =>
    rw [reject_eq_of_blank hreason] at h
    cases h
  | some trimmed =>
    cases hissue : db.issue id with
    | error e =>
      rw [reject_eq_of_issue_error hdb hreason hissue] at h
      exact issue_error_kind hdb hissue (by rw [Except.error.inj h]; rfl)
    | ok issue =>
      rw [reject_eq_of_issue_ok hdb hreason hissue] at h
      have hstored := storedIssue?_of_issue_eq_ok hdb hissue
      rcases bind_eq_error_iff.1 h with hplan | ⟨t, -, h⟩
      · obtain ⟨-, shape, hshape⟩ := hs.cursorFor hstored author.stamp.now
        exact planRejection_ne_stalePointer hshape hplan
      · rcases bind_eq_error_iff.1 h with happly | ⟨_, -, hanswer⟩
        · obtain ⟨fault, hfault⟩ := applyTransition_eq_error
            (hasIssue_iff.2 (by simp [hstored])) happly
          cases hfault
        · split at hanswer <;> cases hanswer

/-! ### Runs -/

/-- A new database holds no issue. -/
theorem shaped_create {created : Int} : (create created).Shaped := by
  intro id issue cursor hissue
  simp [storedIssue?, create, Row.lookup] at hissue

/-- A run of calls from a new database keeps every cursor in shape. -/
theorem shaped_run (created : Int) {calls : List (Author × Operation)}
    (hcalls : ∀ call ∈ calls, call.2.isCall = true) : ((create created).run calls).2.Shaped := by
  -- A step needs a consistent database besides the shapes, and that holds after any run of calls.
  induction calls using List.reverseRecOn with
  | nil => exact shaped_create
  | append_singleton calls call ih =>
    obtain ⟨hbefore, hlast⟩ := List.forall_mem_append.1 hcalls
    have hdb := consistent_run (admitted_create created).toConsistent hbefore
    have hs := ih hbefore
    rw [run_concat]
    rcases after_cases hdb (hlast call (List.mem_singleton_self call)) call.1 with
      ⟨_, -, hsame⟩ | ⟨_, -, hcalled⟩
    · rwa [hsame]
    · exact hcalled.shaped hdb hs

/-- What a reader finds in the cursors of a database. -/
structure CursorsInShape (db : Database) : Prop where
  /-- No issue has two cursors. -/
  unique : (db.cursors.map (·.record.issueId)).Nodup
  /-- A cursor belongs to the project of its issue and has exactly one of the three shapes, with
  the pointer in the project's catalog. -/
  shape : ∀ issue ∈ db.issues, ∀ row ∈ db.cursors, row.record.issueId = issue.record.id →
    row.foreign = none ∧ row.record.projectId = issue.record.projectId ∧
      ∃ steps, db.catalog issue.record.projectId = .ok steps ∧
        ∃! shape, row.record.HasShape steps shape
  /-- No completion fails because of a stale pointer. -/
  complete : ∀ author id agent notes stepId,
    db.complete author id agent notes ≠ .error (.stalePointer stepId)
  /-- No rejection fails because of a stale pointer. -/
  reject : ∀ author id agent reason stepId,
    db.reject author id agent reason ≠ .error (.stalePointer stepId)

/-- After any run of calls from a new database all cursors are in shape. -/
theorem cursorsInShape_of_run (created : Int) (calls : List (Author × Operation))
    (hcalls : ∀ call ∈ calls, call.2.isCall = true) :
    CursorsInShape ((create created).run calls).2 := by
  have hdb := consistent_run (admitted_create created).toConsistent hcalls
  have hs := shaped_run created hcalls
  refine ⟨hdb.cursorIds, fun issue hissue row hrow hid => ?_, ?_, ?_⟩
  · have hcursor := hid ▸ storedCursor?_eq_some_of_mem hdb hrow
    obtain ⟨hproject, shape, hshape⟩ :=
      hs _ _ _ (storedIssue?_eq_some_of_mem hdb hissue) hcursor
    exact ⟨hdb.cursorWords row hrow, hproject, _, catalog_eq_ok hdb, shape, hshape,
      fun other hother => hother.unique hshape⟩
  · exact fun _ _ _ _ _ => complete_ne_stalePointer hdb hs
  · exact fun _ _ _ _ _ => reject_ne_stalePointer hdb hs

/-- The cursors are in shape after the sample run. Up to its last call, it holds one cursor. -/
theorem cursorsInShape_sampleRun :
    (∀ call ∈ sampleRun, call.2.isCall = true) ∧
      ((create 0).run (sampleRun.take 4)).2.cursors.map (·.record.issueId) =
        ["issue_00000003-400"] ∧
      CursorsInShape ((create 0).run sampleRun).2 :=
  ⟨by decide, by decide +kernel, cursorsInShape_of_run 0 sampleRun (by decide)⟩

end Database

end ReviewPipeline
