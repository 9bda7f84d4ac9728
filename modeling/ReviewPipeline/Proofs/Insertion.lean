import ReviewPipeline.Proofs.ReadBack

/-!
# Adding a Step Inserts It in Order

A catalog is a strictly ascending list of positive numbers, whatever was done to the database. A
step that is added to it goes in at the place of its number and moves no other step; without a
number it goes to the end, behind gaps as well.

The checks that are made before a step is inserted agree with the constraints of its table, so a
step whose identifier is new is never refused by a constraint. What is left besides an invalid
request and a project that is not there is a project that cannot be read, because the number of its
next issue has left its range (`not_added_afterLastNumber`).

## Main definitions

* `Inserted`: a step is inserted at its place, and nothing else that can be read changes;
* `InsertsInOrder`: how adding a step ends, case by case.

## Main results

* `storedCatalog_insert`: the catalog after a step with a new number was stored;
* `addStep_eq`: adding a step in closed form;
* `insertsInOrder_afterDeeds`: adding a step is an insertion, in every database that is reached.
-/

namespace ReviewPipeline.Database

variable {db db' : Database} {author : Author} {new : NewStep} {step : Step} {steps : List Step}
  {projectId : String}

/-! ### Ascending lists -/

/-- A step between the steps with smaller numbers and those with greater ones. -/
theorem ascending_insert (h : steps.Pairwise (·.number < ·.number)) (step : Step) :
    ((steps.filter fun s => s.number < step.number) ++
      step :: steps.filter fun s => step.number < s.number).Pairwise (·.number < ·.number) := by
  have hfront : ∀ s ∈ steps.filter fun s => s.number < step.number, s.number < step.number :=
    fun s hs => by simpa using (List.mem_filter.1 hs).2
  have hback : ∀ s ∈ steps.filter fun s => step.number < s.number, step.number < s.number :=
    fun s hs => by simpa using (List.mem_filter.1 hs).2
  refine List.pairwise_append.2 ⟨h.filter _, List.pairwise_cons.2 ⟨hback, h.filter _⟩, ?_⟩
  intro a ha b hb
  rcases List.mem_cons.1 hb with rfl | hb
  · exact hfront a ha
  · exact Int.lt_trans (hfront a ha) (hback b hb)

/-- A step is in the part with smaller numbers or in that with greater ones. -/
theorem mem_parts {n : Int} {s : Step} (hnew : ∀ s ∈ steps, s.number ≠ n) :
    (s ∈ steps.filter (fun s => s.number < n) ∨ s ∈ steps.filter fun s => n < s.number) ↔
      s ∈ steps := by
  simp only [List.mem_filter, decide_eq_true_eq, ← and_or_left, and_iff_left_iff_imp]
  intro hs
  exact Int.lt_or_gt_of_ne (hnew s hs)

/-- A catalog is made of the steps with smaller numbers than a new one and of those with greater
numbers. -/
theorem storedCatalog_split (hdb : db.Catalogued)
    (hnew : ∀ s ∈ db.storedCatalog projectId, s.number ≠ step.number) :
    db.storedCatalog projectId =
      ((db.storedCatalog projectId).filter fun s => s.number < step.number) ++
        (db.storedCatalog projectId).filter fun s => step.number < s.number := by
  -- A catalog is determined by its steps and their order.
  have hcatalog := hdb.isCatalog projectId
  refine hcatalog.unique ⟨fun s => ?_, ?_⟩
  · rw [List.mem_append, mem_parts hnew, hcatalog.mem]
  · exact (ascending_insert hcatalog.ascending step).sublist
      ((List.sublist_cons_self step _).append_left _)

/-- A step that is stored with a new number stands at its place. -/
theorem storedCatalog_insert (hdb : db.Catalogued) (hdb' : db'.Catalogued)
    (hnew : ∀ s ∈ db.storedCatalog step.projectId, s.number ≠ step.number)
    (hsteps : db'.steps = db.steps ++ [{ record := step }]) :
    db'.storedCatalog step.projectId =
      ((db.storedCatalog step.projectId).filter fun s => s.number < step.number) ++
        step :: (db.storedCatalog step.projectId).filter fun s => step.number < s.number := by
  refine (hdb'.isCatalog _).unique
    ⟨fun s => ?_, ascending_insert (hdb.isCatalog step.projectId).ascending step⟩
  rw [List.mem_append, List.mem_cons, or_left_comm, mem_parts hnew, mem_storedCatalog, hsteps]
  simp only [List.mem_append, List.mem_singleton]
  constructor
  · rintro (rfl | ⟨row, hrow, rfl, hproject⟩)
    · exact ⟨_, .inr rfl, rfl, rfl⟩
    · exact ⟨row, .inl hrow, rfl, hproject⟩
  · rintro ⟨row, hrow | rfl, rfl, hproject⟩
    · exact .inr ⟨row, hrow, rfl, hproject⟩
    · exact .inl rfl

/-! ### The last number -/

/-- No step of a project has a number past the last one. -/
theorem number_le_lastStepNumber {s : Step} (hs : s ∈ db.storedCatalog projectId) :
    s.number ≤ db.lastStepNumber projectId := by
  obtain ⟨row, hrow, rfl, hproject⟩ := mem_storedCatalog.1 hs
  have hmem : row.record.number ∈
      (db.steps.filter fun row => row.record.projectId == projectId).map (·.record.number) :=
    List.mem_map_of_mem (List.mem_filter.2 ⟨hrow, by simpa using hproject⟩)
  obtain ⟨last, hlast⟩ := Option.isSome_iff_exists.1 (List.isSome_max?_of_mem hmem)
  rw [lastStepNumber, hlast]
  exact (List.max?_le_iff hlast).1 (Int.le_refl last) _ hmem

/-- The last number of a catalog is not negative. -/
theorem lastStepNumber_nonneg (hdb : db.Catalogued) (projectId : String) :
    0 ≤ db.lastStepNumber projectId := by
  rw [lastStepNumber]
  cases hlast : ((db.steps.filter fun row => row.record.projectId == projectId).map
      (·.record.number)).max? with
  | none => exact Int.le_refl 0
  | some last =>
    obtain ⟨row, hrow, rfl⟩ := List.mem_map.1 (List.max?_mem hlast)
    exact Int.le_of_lt (hdb.positive row (List.mem_of_mem_filter hrow))

/-- A number is taken if a step of the catalog has it. -/
theorem hasStepNumber_iff {n : Int} :
    db.hasStepNumber projectId n = true ↔ ∃ s ∈ db.storedCatalog projectId, s.number = n := by
  simp only [hasStepNumber, List.any_eq_true, Bool.and_eq_true, beq_iff_eq, mem_storedCatalog]
  constructor
  · rintro ⟨row, hrow, hproject, hnumber⟩
    exact ⟨row.record, ⟨row, hrow, rfl, hproject⟩, hnumber⟩
  · rintro ⟨_, ⟨row, hrow, rfl, hproject⟩, hnumber⟩
    exact ⟨row, hrow, hproject, hnumber⟩

/-! ### Adding a step -/

/-- The step that adding one comes to: under the number that is asked for, or one past the last. -/
def stepFor (db : Database) (author : Author) (new : NewStep) : Step :=
  new.toStep author.stamp (new.number.getD (db.lastStepNumber new.projectId + 1))

/-- The event that reports an added step. -/
def stepEvent (step : Step) : EventDraft where
  entityType := "project"
  entityId := step.projectId
  kind := .stepAdded
  newValue := some step.id

/-- The database with a step added to it. -/
def withStepAdded (db : Database) (author : Author) (step : Step) : Database :=
  { db with steps := db.steps ++ [{ record := step }] : Database }.noting author [stepEvent step]

/-- A step can be written down: no write that it takes is blocked, and its identifier is new. -/
structure TakesStep (db : Database) (author : Author) : Prop where
  /-- Steps can be inserted. -/
  step : db.blocked ≠ some .stepInsert
  /-- Audit events can be inserted. -/
  event : db.blocked ≠ some .eventInsert
  /-- No step has the identifier that is made for the new one. -/
  fresh : ∀ row ∈ db.steps, row.record.id ≠ author.stamp.identifier "step"

/-- Adding a step whose number is positive and new breaks no constraint. -/
theorem insertStep_eq (htakes : db.TakesStep author)
    (hid : step.id = author.stamp.identifier "step")
    (hproject : db.hasProject step.projectId = true) (hpositive : 0 < step.number)
    (hnumber : db.hasStepNumber step.projectId step.number = false) :
    db.insertStep step = .ok { db with steps := db.steps ++ [{ record := step }] } := by
  have hfresh : (db.steps.any fun row => row.record.id == step.id) = false := by
    simpa [hid] using htakes.fresh
  rw [hasStepNumber] at hnumber
  rw [insertStep, permit, if_neg htakes.step, decide_eq_true hpositive, hnumber, hfresh, hproject]
  rfl

/-- Adding a step in closed form. -/
theorem addStep_eq (htakes : db.TakesStep author) (new : NewStep) :
    db.addStep author new =
      if Text.isAllBlank new.name then .error .blankStepName
      else db.project new.projectId >>= fun _ => db.stepNumber new.projectId new.number >>= fun _ =>
        if (db.stepFor author new).number ≤ 0 then
          .error (.stepNumberNotPositive (db.stepFor author new).number)
        else if db.hasStepNumber new.projectId (db.stepFor author new).number then
          .error (.stepNumberTaken (db.stepFor author new).number new.projectId)
        else .ok (db.stepFor author new, db.withStepAdded author (db.stepFor author new)) := by
  simp only [addStep, throw_bind_eq]
  cases hblank : Text.isAllBlank new.name with
  | true => rfl
  | false =>
    cases hproject : db.project new.projectId with
    | error e => rfl
    | ok p =>
    cases hchosen : db.stepNumber new.projectId new.number with
    | error e => rfl
    | ok number =>
      obtain ⟨rfl, -⟩ := stepNumber_eq_ok_iff.1 hchosen
      show (if (db.stepFor author new).number ≤ 0 then _
        else if db.hasStepNumber new.projectId (db.stepFor author new).number then _
        else db.insertStep (db.stepFor author new) >>= fun next =>
          Change.commit ⟨db.stepFor author new, [stepEvent (db.stepFor author new)], next⟩ author) =
        if (db.stepFor author new).number ≤ 0 then _ else _
      split
      · rfl
      · next hpositive =>
        split
        · rfl
        · next htaken =>
          -- What the checks have let through breaks no constraint.
          have hexists : db.hasProject new.projectId = true := by
            obtain ⟨hp, hid⟩ := project_eq_ok hproject
            exact List.any_eq_true.2 ⟨p, hp, by simpa using hid⟩
          rw [insertStep_eq htakes rfl hexists (Int.not_le.1 hpositive)
            (Bool.eq_false_iff.2 htaken)]
          exact commit_eq_ok_iff.2 ⟨fun _ => htakes.event, rfl, rfl⟩

/-- A project that is there can be read, or the number of its next issue has left its range. -/
theorem project_cases (db : Database) (id : String) :
    (∃ p, db.project id = .ok p) ∨
      ((∀ p ∈ db.projects, p.id ≠ id) ∧ db.project id = .error (.projectNotFound id)) ∨
      ∃ p ∈ db.projects, p.id = id ∧ fitsInt32 p.nextIssueNumber = false ∧
        db.project id = .error (.database (.outOfRange 5 p.nextIssueNumber)) := by
  rw [Database.project, project?]
  cases hfind : db.projects.find? fun p => p.id == id with
  | none =>
    refine .inr (.inl ⟨fun p hp => ?_, rfl⟩)
    simpa using List.find?_eq_none.1 hfind p hp
  | some p =>
    have hid : p.id = id := by simpa using List.find?_some hfind
    dsimp only
    cases hrange : fitsInt32 p.nextIssueNumber with
    | true =>
      rw [readProject, if_pos hrange]
      exact .inl ⟨p, rfl⟩
    | false =>
      rw [readProject, if_neg (Bool.eq_false_iff.1 hrange)]
      exact .inr (.inr ⟨p, List.mem_of_find?_eq_some hfind, hid, hrange, rfl⟩)

/-- What adding a step answers, by what stands in the way. -/
inductive StepAnswer (db : Database) (author : Author) (new : NewStep) :
    Except Error (Step × Database) → Prop
  /-- The name is blank. -/
  | blank (hname : Text.isAllBlank new.name = true) :
      StepAnswer db author new (.error .blankStepName)
  /-- There is no such project. -/
  | notFound (hname : Text.isAllBlank new.name = false)
      (hnone : ∀ p ∈ db.projects, p.id ≠ new.projectId)
      (hproject : db.project new.projectId = .error (.projectNotFound new.projectId)) :
      StepAnswer db author new (.error (.projectNotFound new.projectId))
  /-- The project cannot be read. -/
  | unreadable {p : Project} (hname : Text.isAllBlank new.name = false) (hp : p ∈ db.projects)
      (hid : p.id = new.projectId) (hrange : fitsInt32 p.nextIssueNumber = false)
      (hproject : db.project new.projectId = .error (.database (.outOfRange 5 p.nextIssueNumber))) :
      StepAnswer db author new (.error (.database (.outOfRange 5 p.nextIssueNumber)))
  /-- No number is asked for, and 64 bits do not hold the one after the last. -/
  | overflow {p : Project} (hname : Text.isAllBlank new.name = false)
      (hproject : db.project new.projectId = .ok p) (hnumber : new.number = none)
      (hpast : fitsInt64 (db.lastStepNumber new.projectId + 1) = false) :
      StepAnswer db author new (.error (.crashed .numberOverflow))
  /-- The number that is asked for is not positive. -/
  | notPositive {p : Project} {n : Int} (hname : Text.isAllBlank new.name = false)
      (hproject : db.project new.projectId = .ok p) (hnumber : new.number = some n)
      (hn : n ≤ 0) : StepAnswer db author new (.error (.stepNumberNotPositive n))
  /-- The number that is asked for is that of another step. -/
  | taken {p : Project} {s : Step} (hname : Text.isAllBlank new.name = false)
      (hproject : db.project new.projectId = .ok p) (hnumber : new.number = some s.number)
      (hs : s ∈ db.storedCatalog new.projectId) :
      StepAnswer db author new (.error (.stepNumberTaken s.number new.projectId))
  /-- The step is added. -/
  | added {p : Project} (hname : Text.isAllBlank new.name = false)
      (hproject : db.project new.projectId = .ok p)
      (hfits : new.number = none → fitsInt64 (db.lastStepNumber new.projectId + 1) = true)
      (hpositive : 0 < (db.stepFor author new).number)
      (hnew : ∀ s ∈ db.storedCatalog new.projectId, s.number ≠ (db.stepFor author new).number) :
      StepAnswer db author new
        (.ok (db.stepFor author new, db.withStepAdded author (db.stepFor author new)))

/-- A step is added under the number that is asked for. -/
theorem number_stepFor {n : Int} (h : new.number = some n) :
    (db.stepFor author new).number = n := by
  rw [stepFor, NewStep.toStep, h, Option.getD_some]

/-- Without a number, a step is added behind all others. -/
theorem lt_stepFor_of_none (hnone : new.number = none) {s : Step}
    (hs : s ∈ db.storedCatalog new.projectId) : s.number < (db.stepFor author new).number := by
  have hlast := number_le_lastStepNumber hs
  rw [stepFor, NewStep.toStep, hnone]
  exact Int.lt_add_one_of_le hlast

/-- Adding a step ends in one of these ways. -/
theorem stepAnswer_addStep (hdb : db.Catalogued) (htakes : db.TakesStep author) (new : NewStep) :
    StepAnswer db author new (db.addStep author new) := by
  have hlast := lastStepNumber_nonneg hdb new.projectId
  rw [addStep_eq htakes]
  cases hname : Text.isAllBlank new.name with
  | true => exact .blank hname
  | false =>
    rcases project_cases db new.projectId with
      ⟨p, hproject⟩ | ⟨hnone, hproject⟩ | ⟨p, hp, hid, hrange, hproject⟩
    · rw [hproject]
      show StepAnswer db author new (db.stepNumber new.projectId new.number >>= fun _ =>
        if (db.stepFor author new).number ≤ 0 then _ else _)
      cases hchosen : db.stepNumber new.projectId new.number with
      | error e =>
        obtain ⟨rfl, hnumber, hpast⟩ := stepNumber_eq_error_iff.1 hchosen
        exact .overflow hname hproject hnumber hpast
      | ok number =>
      have hfits := (stepNumber_eq_ok_iff.1 hchosen).2
      show StepAnswer db author new (if (db.stepFor author new).number ≤ 0 then _ else _)
      split
      · next hpositive =>
        cases hnumber : new.number with
        | some n =>
          rw [number_stepFor hnumber] at hpositive ⊢
          exact .notPositive hname hproject hnumber hpositive
        | none =>
          -- The last number is not negative, so one past it is positive.
          simp only [stepFor, NewStep.toStep, hnumber, Option.getD_none] at hpositive
          omega
      · next hpositive =>
        split
        · next htaken =>
          obtain ⟨s, hs, hsame⟩ := hasStepNumber_iff.1 htaken
          cases hnumber : new.number with
          | some n =>
            rw [number_stepFor hnumber] at hsame ⊢
            subst hsame
            exact .taken hname hproject hnumber hs
          | none => exact absurd hsame (Int.ne_of_lt (lt_stepFor_of_none hnumber hs))
        · next htaken =>
          refine .added hname hproject hfits (Int.not_le.1 hpositive) fun s hs hsame => htaken ?_
          exact hasStepNumber_iff.2 ⟨s, hs, hsame⟩
    · rw [hproject]
      exact .notFound hname hnone hproject
    · rw [hproject]
      exact .unreadable hname hp hid hrange hproject

/-! ### What an added step changes -/

/-- A step is inserted into its catalog at its place, and nothing else that can be read changes. -/
structure Inserted (db : Database) (step : Step) (db' : Database) : Prop where
  /-- The catalog is as before, with the step between those with smaller numbers and those with
  greater ones. -/
  catalog : ∀ steps, db.catalog step.projectId = .ok steps → ∃ front back,
    steps = front ++ back ∧ db'.catalog step.projectId = .ok (front ++ step :: back) ∧
      (∀ s ∈ front, s.number < step.number) ∧ ∀ s ∈ back, step.number < s.number
  /-- Other catalogs are as before. -/
  others : ∀ projectId, projectId ≠ step.projectId → db'.catalog projectId = db.catalog projectId
  /-- The projects, the issues with their work status, the cursors and the history are as before. -/
  rest : db'.projects = db.projects ∧ db'.issues = db.issues ∧ db'.cursors = db.cursors ∧
    db'.ledger = db.ledger

/-- A step that is added changes no other catalog. -/
theorem catalog_eq_of_ne (hsteps : db'.steps = db.steps ++ [{ record := step }])
    (hne : projectId ≠ step.projectId) : db'.catalog projectId = db.catalog projectId := by
  rw [catalog, catalogRows, hsteps, List.filter_append, catalog, catalogRows]
  simp [Ne.symm hne]

/-- A step under a new number is inserted at its place. -/
theorem inserted_withStepAdded (hdb : db.Catalogued) (author : Author)
    (hfresh : ∀ row ∈ db.steps, row.record.id ≠ step.id) (hpositive : 0 < step.number)
    (hnew : ∀ s ∈ db.storedCatalog step.projectId, s.number ≠ step.number) :
    db.Inserted step (db.withStepAdded author step) := by
  -- The new number is free in the whole project, so the catalog has its place for it.
  have hsteps : (db.withStepAdded author step).steps = db.steps ++ [{ record := step }] := rfl
  have hnumber : ∀ row ∈ db.steps, row.record.projectId = step.projectId →
      row.record.number ≠ step.number := fun row hrow hproject =>
    hnew row.record (mem_storedCatalog.2 ⟨row, hrow, rfl, hproject⟩)
  have hdb' : (db.withStepAdded author step).Catalogued :=
    (Restocked.added hsteps hpositive hfresh hnumber).catalogued hdb
  constructor
  case catalog =>
    intro steps hread
    obtain ⟨hwords, rfl⟩ := catalog_eq_ok_iff.1 hread
    have hsplit : db.storedCatalog step.projectId = _ ++ _ := storedCatalog_split hdb hnew
    refine ⟨_, _, hsplit, ?_, fun s hs => ?_, fun s hs => ?_⟩
    · refine catalog_eq_ok_iff.2 ⟨fun row hrow hproject => ?_,
        (storedCatalog_insert hdb hdb' hnew hsteps).symm⟩
      rw [hsteps, List.mem_append, List.mem_singleton] at hrow
      rcases hrow with hrow | rfl
      · exact hwords row hrow hproject
      · rfl
    · simpa using (List.mem_filter.1 hs).2
    · simpa using (List.mem_filter.1 hs).2
  case others => exact fun projectId hne => catalog_eq_of_ne hsteps hne
  case rest => exact ⟨rfl, rfl, rfl, rfl⟩

/-! ### How adding a step ends -/

/-- How adding a step ends, case by case: which requests are invalid, when the project is not found
or cannot be read, and that everything else inserts the step in order. -/
structure InsertsInOrder (db : Database) (author : Author) (new : NewStep) : Prop where
  /-- A request is invalid iff the name is blank, or the project can be read and the number that is
  asked for is not positive or that of another step. -/
  invalid : (∃ e, db.addStep author new = .error e ∧ e.kind = .validation) ↔
    Text.isAllBlank new.name = true ∨ (∃ p, db.project new.projectId = .ok p) ∧
      ∃ n, new.number = some n ∧ (n ≤ 0 ∨ ∃ s ∈ db.storedCatalog new.projectId, s.number = n)
  /-- The project is not found iff the name is not blank and there is no such project. -/
  notFound : db.addStep author new = .error (.projectNotFound new.projectId) ↔
    Text.isAllBlank new.name = false ∧ ∀ p ∈ db.projects, p.id ≠ new.projectId
  /-- The database fails iff the name is not blank and the project, which is there, cannot be read
  because the number of its next issue has left its range. No constraint is ever broken. -/
  unreadable : ∀ fault, db.addStep author new = .error (.database fault) ↔
    Text.isAllBlank new.name = false ∧ db.project new.projectId = .error (.database fault) ∧
      ∃ p ∈ db.projects, p.id = new.projectId ∧ fitsInt32 p.nextIssueNumber = false ∧
        fault = .outOfRange 5 p.nextIssueNumber
  /-- The program breaks off iff the name is not blank, the project can be read, no number is asked
  for, and 64 bits do not hold the one after the last. -/
  overflows : ∀ cause, db.addStep author new = .error (.crashed cause) ↔
    cause = .numberOverflow ∧ Text.isAllBlank new.name = false ∧
      (∃ p, db.project new.projectId = .ok p) ∧ new.number = none ∧
      fitsInt64 (db.lastStepNumber new.projectId + 1) = false
  /-- In every other case a step is added. -/
  adds : (∃ step db', db.addStep author new = .ok (step, db')) ↔
    Text.isAllBlank new.name = false ∧ (∃ p, db.project new.projectId = .ok p) ∧
      (∀ n, new.number = some n →
        0 < n ∧ ∀ s ∈ db.storedCatalog new.projectId, s.number ≠ n) ∧
      (new.number = none → fitsInt64 (db.lastStepNumber new.projectId + 1) = true)
  /-- A step that is added is inserted at its place. -/
  inserted : ∀ step db', db.addStep author new = .ok (step, db') →
    step = db.stepFor author new ∧ db.Inserted step db'
  /-- Without a number, its place is the last one. -/
  last : new.number = none → ∀ step db' steps, db.addStep author new = .ok (step, db') →
    db.catalog step.projectId = .ok steps → db'.catalog step.projectId = .ok (steps ++ [step])

/-- A step with the greatest number comes last. -/
theorem Inserted.catalog_eq_concat (h : db.Inserted step db')
    (hread : db.catalog step.projectId = .ok steps) (hlast : ∀ s ∈ steps, s.number < step.number) :
    db'.catalog step.projectId = .ok (steps ++ [step]) := by
  obtain ⟨front, back, rfl, hread', -, hback⟩ := h.catalog steps hread
  -- A step behind the new one would have both a smaller and a greater number.
  have hnone : back = [] := List.eq_nil_iff_forall_not_mem.2 fun s hs =>
    Int.lt_asymm (hback s hs) (hlast s (List.mem_append_right front hs))
  rw [hread', hnone, List.append_nil]

section Answers

variable {result : Except Error (Step × Database)} (h : StepAnswer db author new result)

include h

/-- When the request is refused as invalid. -/
theorem StepAnswer.invalid_iff : (∃ e, result = .error e ∧ e.kind = .validation) ↔
    Text.isAllBlank new.name = true ∨ (∃ p, db.project new.projectId = .ok p) ∧
      ∃ n, new.number = some n ∧
        (n ≤ 0 ∨ ∃ s ∈ db.storedCatalog new.projectId, s.number = n) := by
  cases h with
  | blank hname => exact iff_of_true ⟨_, rfl, rfl⟩ (.inl hname)
  | notFound hname _ hproject | unreadable hname _ _ _ hproject =>
    refine iff_of_false ?_ (by simp [hname, hproject])
    rintro ⟨_, ⟨⟩, ⟨⟩⟩
  | overflow hname _ hnumber =>
    refine iff_of_false ?_ (by simp [hname, hnumber])
    rintro ⟨_, ⟨⟩, ⟨⟩⟩
  | notPositive hname hproject hnumber hn =>
    exact iff_of_true ⟨_, rfl, rfl⟩ (.inr ⟨⟨_, hproject⟩, _, hnumber, .inl hn⟩)
  | taken hname hproject hnumber hs =>
    exact iff_of_true ⟨_, rfl, rfl⟩ (.inr ⟨⟨_, hproject⟩, _, hnumber, .inr ⟨_, hs, rfl⟩⟩)
  | added hname hproject _ hpositive hnew =>
    refine iff_of_false nofun ?_
    rintro (hblank | ⟨-, n, hnumber, hn⟩)
    · -- A step that was added was not refused, neither for its number nor for its name.
      cases hblank.symm.trans hname
    · rw [number_stepFor hnumber] at hpositive hnew
      rcases hn with hn | ⟨s, hs, hsame⟩
      · exact Int.not_le.2 hpositive hn
      · exact hnew s hs hsame

/-- When the project is not found. -/
theorem StepAnswer.notFound_iff : result = .error (.projectNotFound new.projectId) ↔
    Text.isAllBlank new.name = false ∧ ∀ p ∈ db.projects, p.id ≠ new.projectId := by
  cases h with
  | blank hname =>
    refine iff_of_false nofun ?_
    rintro ⟨hname', -⟩
    cases hname.symm.trans hname'
  | notFound hname hnone => exact iff_of_true rfl ⟨hname, hnone⟩
  | unreadable _ hp hid => exact iff_of_false nofun fun hnone => hnone.2 _ hp hid
  | overflow _ hproject | notPositive _ hproject | taken _ hproject | added _ hproject =>
    obtain ⟨hp, hid⟩ := project_eq_ok hproject
    exact iff_of_false nofun fun hnone => hnone.2 _ hp hid

/-- When the database refuses, which is for the counter of the project only. -/
theorem StepAnswer.unreadable_iff (fault : Fault) : result = .error (.database fault) ↔
    Text.isAllBlank new.name = false ∧ db.project new.projectId = .error (.database fault) ∧
      ∃ p ∈ db.projects, p.id = new.projectId ∧ fitsInt32 p.nextIssueNumber = false ∧
        fault = .outOfRange 5 p.nextIssueNumber := by
  cases h with
  | blank hname =>
    refine iff_of_false nofun ?_
    rintro ⟨hname', -⟩
    cases hname.symm.trans hname'
  | unreadable hname hp hid hrange hproject =>
    constructor
    · rintro ⟨⟩
      exact ⟨hname, hproject, _, hp, hid, hrange, rfl⟩
    · rintro ⟨-, hread, -⟩
      exact congrArg _ (Except.error.inj (hproject.symm.trans hread))
  | notFound _ _ hproject | overflow _ hproject | notPositive _ hproject | taken _ hproject
  | added _ hproject =>
    refine iff_of_false nofun ?_
    rintro ⟨-, hread, -⟩
    cases hproject.symm.trans hread

/-- When the program breaks off. -/
theorem StepAnswer.overflow_iff (cause : Crash) : result = .error (.crashed cause) ↔
    cause = .numberOverflow ∧ Text.isAllBlank new.name = false ∧
      (∃ p, db.project new.projectId = .ok p) ∧ new.number = none ∧
      fitsInt64 (db.lastStepNumber new.projectId + 1) = false := by
  cases h with
  | blank hname => exact iff_of_false nofun fun h => nomatch hname.symm.trans h.2.1
  | notFound _ _ hproject | unreadable _ _ _ _ hproject =>
    refine iff_of_false nofun ?_
    rintro ⟨-, -, ⟨p, hread⟩, -⟩
    cases hproject.symm.trans hread
  | overflow hname hproject hnumber hpast =>
    constructor
    · rintro ⟨⟩
      exact ⟨rfl, hname, ⟨_, hproject⟩, hnumber, hpast⟩
    · rintro ⟨rfl, -⟩
      rfl
  | notPositive _ _ hnumber | taken _ _ hnumber =>
    exact iff_of_false nofun fun h => nomatch hnumber.symm.trans h.2.2.2.1
  | added _ _ hfits =>
    exact iff_of_false nofun fun h => nomatch (hfits h.2.2.2.1).symm.trans h.2.2.2.2

/-- When the step is added. -/
theorem StepAnswer.adds_iff : (∃ step db', result = .ok (step, db')) ↔
    Text.isAllBlank new.name = false ∧ (∃ p, db.project new.projectId = .ok p) ∧
      (∀ n, new.number = some n →
        0 < n ∧ ∀ s ∈ db.storedCatalog new.projectId, s.number ≠ n) ∧
      (new.number = none → fitsInt64 (db.lastStepNumber new.projectId + 1) = true) := by
  cases h with
  -- In each case but the last, one of the conditions fails.
  | blank hname =>
    refine iff_of_false (by simp) ?_
    rintro ⟨hname', -⟩
    cases hname.symm.trans hname'
  | notFound _ _ hproject | unreadable _ _ _ _ hproject =>
    refine iff_of_false (by simp) ?_
    rintro ⟨-, ⟨p, hread⟩, -⟩
    cases hproject.symm.trans hread
  | overflow _ _ hnumber hpast =>
    refine iff_of_false (by simp) ?_
    rintro ⟨-, -, -, hfits⟩
    cases (hfits hnumber).symm.trans hpast
  | notPositive _ _ hnumber hn =>
    refine iff_of_false (by simp) ?_
    rintro ⟨-, -, hadds, -⟩
    exact Int.not_le.2 (hadds _ hnumber).1 hn
  | taken _ _ hnumber hs =>
    refine iff_of_false (by simp) ?_
    rintro ⟨-, -, hadds, -⟩
    exact (hadds _ hnumber).2 _ hs rfl
  | added hname hproject hfits hpositive hnew =>
    refine iff_of_true ⟨_, _, rfl⟩ ⟨hname, ⟨_, hproject⟩, fun n hnumber => ?_, hfits⟩
    rw [number_stepFor hnumber] at hpositive hnew
    exact ⟨hpositive, hnew⟩

end Answers

/-- In a database with its catalogs in order, steps are inserted in order. -/
theorem insertsInOrder (hdb : db.Catalogued) (htakes : db.TakesStep author) (new : NewStep) :
    db.InsertsInOrder author new := by
  have hanswer := stepAnswer_addStep hdb htakes new
  have hinserted : ∀ step db', db.addStep author new = .ok (step, db') →
      step = db.stepFor author new ∧ db.Inserted step db' := by
    intro step db' hdone
    rw [hdone] at hanswer
    cases hanswer with
    | added hname hproject _ hpositive hnew =>
      exact ⟨rfl, inserted_withStepAdded hdb author htakes.fresh hpositive hnew⟩
  constructor
  case invalid => exact hanswer.invalid_iff
  case notFound => exact hanswer.notFound_iff
  case unreadable => exact hanswer.unreadable_iff
  case overflows => exact hanswer.overflow_iff
  case adds => exact hanswer.adds_iff
  case inserted => exact hinserted
  case last =>
    intro hnone step db' steps hdone hread
    obtain ⟨rfl, hdone⟩ := hinserted step db' hdone
    refine hdone.catalog_eq_concat hread fun s hs => lt_stepFor_of_none hnone ?_
    obtain ⟨-, rfl⟩ := catalog_eq_ok_iff.1 hread
    exact hs

/-- Whatever was done to a database, every catalog that is listed ascends strictly, with positive
numbers, and adding a step inserts it in order. While tables were not changed directly, every
catalog can be listed. -/
theorem insertsInOrder_afterDeeds (created : Int) (deeds : List Deed) :
    let db := (create created).afterDeeds deeds
    (∀ projectId steps, db.catalog projectId = .ok steps →
      steps.Pairwise (·.number < ·.number) ∧ ∀ s ∈ steps, 0 < s.number) ∧
    ((∀ deed ∈ deeds, deed.isRegular = true) → ∀ projectId, ∃ steps,
      db.catalog projectId = .ok steps) ∧
    ∀ author, db.TakesStep author → ∀ new, db.InsertsInOrder author new := by
  intro db
  have hdb : db.Catalogued := catalogued_afterDeeds (catalogued_create created) deeds
  refine ⟨fun projectId steps hread => ?_, fun hdeeds projectId => ?_,
    fun author htakes new => insertsInOrder hdb htakes new⟩
  · obtain ⟨-, rfl⟩ := catalog_eq_ok_iff.1 hread
    refine ⟨(hdb.isCatalog projectId).ascending, fun s hs => ?_⟩
    obtain ⟨row, hrow, rfl, -⟩ := mem_storedCatalog.1 hs
    exact hdb.positive row hrow
  · exact ⟨_, catalog_eq_ok (consistent_afterDeeds (admitted_create created).toConsistent hdeeds)⟩

/-- A run that leaves gaps in the numbers of a catalog, and steps to be added to it. -/
def gappedRun : List Deed :=
  let author (n : Nat) : Author := ⟨"ada", ⟨n, n⟩⟩
  [ .call (author 1) (.createProject ⟨"docs", "Docs", "home", none, some "DOCS", 1, 1, 1⟩),
    .call (author 2) (.addStep ⟨"docs", "publish", .agentWork, none, true, some 5⟩),
    .call (author 3) (.addStep ⟨"docs", "draft", .agentWork, none, true, some 2⟩) ]

/-- A step goes in between the two that are there, or behind them, and not in the place of one. -/
theorem insertsInOrder_gappedRun :
    let db := (create 0).afterDeeds gappedRun
    let author : Author := ⟨"bob", ⟨9, 9⟩⟩
    let review (number : Option Int) : NewStep :=
      ⟨"docs", " review ", .humanReview, none, false, number⟩
    db.TakesStep author ∧ (∀ number, db.InsertsInOrder author (review number)) ∧
      db.addStep author (review (some 5)) = .error (.stepNumberTaken 5 "docs") ∧
      (∃ step db', db.addStep author (review (some 3)) = .ok (step, db') ∧ step.number = 3 ∧
        db.Inserted step db') ∧
      ∃ steps step db', db.catalog "docs" = .ok steps ∧
        db.addStep author (review none) = .ok (step, db') ∧ step.number = 6 ∧
        db'.catalog "docs" = .ok (steps ++ [step]) := by
  intro db author review
  have htakes : db.TakesStep author :=
    ⟨by decide +kernel, by decide +kernel, by decide +kernel⟩
  -- The answers are evaluated; that they are insertions in order is the general statement.
  obtain ⟨-, hlisted, hinserts⟩ := insertsInOrder_afterDeeds 0 gappedRun
  have hbetween : db.addStep author (review (some 3)) =
      .ok (db.stepFor author (review (some 3)), db.withStepAdded author
        (db.stepFor author (review (some 3)))) := by decide +kernel
  have hbehind : db.addStep author (review none) =
      .ok (db.stepFor author (review none), db.withStepAdded author
        (db.stepFor author (review none))) := by decide +kernel
  obtain ⟨steps, hsteps⟩ := hlisted (by decide) "docs"
  refine ⟨htakes, fun number => hinserts author htakes _, by decide +kernel, ?_, ?_⟩
  · exact ⟨_, _, hbetween, by decide +kernel,
      ((hinserts author htakes _).inserted _ _ hbetween).2⟩
  · exact ⟨steps, _, _, hsteps, hbehind, by decide +kernel,
      (hinserts author htakes _).last rfl _ _ steps hbehind hsteps⟩

/-- A project with an issue under the last number cannot be read any more, so no step is added to
it, although it is there and nothing else stands in the way. -/
theorem not_added_afterLastNumber :
    let db := ((create 1700000000000).run lastNumberRun).2
    let author : Author := ⟨"tester", ⟨1700000003000, 3⟩⟩
    let new : NewStep := ⟨"proj_00000001-400", "draft", .agentWork, none, true, none⟩
    (((create 1700000000000).run lastNumberRun).1.all fun answer => answer.isOk) = true ∧
      db.TakesStep author ∧ Text.isAllBlank new.name = false ∧
      (db.projects.any fun p => p.id == new.projectId) = true ∧ new.number = none ∧
      db.addStep author new = .error (.database (.outOfRange 5 2147483648)) :=
  ⟨by decide +kernel, ⟨by decide +kernel, by decide +kernel, by decide +kernel⟩,
    by decide +kernel, by decide +kernel, rfl, by decide +kernel⟩

end ReviewPipeline.Database
