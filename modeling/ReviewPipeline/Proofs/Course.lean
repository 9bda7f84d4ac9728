import ReviewPipeline.Proofs.Calls
import ReviewPipeline.Proofs.Status

/-!
# Course and Gate

A cursor holds two things that have nothing to do with each other: how far its issue is, which is
the pointer with the two times (`Course`), and what the gate last reported. An issue without a
cursor has a blank course and no signal, and so has one whose cursor was cleared; neither
reading tells the two apart.

## Main results

* `courseOf_transitioned`, `gateOf_transitioned`: a transition moves the course of its issue by
  its update and leaves every signal alone;
* `courseOf_gated`: a signal leaves all course alone;
* `courseOf_clearCursor`, `gateOf_clearCursor`: clearing a cursor takes the course of its issue
  back to the beginning and leaves every signal alone.
-/

namespace ReviewPipeline

/-- How far an issue is. -/
structure Course where
  /-- The pointer. -/
  stepId : Option String
  /-- When the first transition happened. -/
  startedAt : Option Int
  /-- When the last step was completed. -/
  completedAt : Option Int
  deriving DecidableEq, Repr

namespace Course

/-- The course of an issue that no transition has touched. -/
def blank : Course := ⟨none, none, none⟩

/-- The position that a course stands for. -/
def position (c : Course) : Position :=
  match c.stepId, c.completedAt with
  | some stepId, _ => .atStep stepId
  | none, some _ => .completed
  | none, none => .notStarted

/-- A course after an update: the pointer is replaced, a time that is set stays. -/
def apply (c : Course) (update : CursorUpdate) : Course where
  stepId := update.stepId
  startedAt := c.startedAt.or update.startedAt
  completedAt := c.completedAt.or update.completedAt

end Course

/-- The course that a cursor shows. -/
def Cursor.course (c : Cursor) : Course := ⟨c.stepId, c.startedAt, c.completedAt⟩

/-- The position is a matter of the course. -/
theorem Cursor.position_eq (c : Cursor) : c.position = c.course.position := rfl

namespace Database

variable {db : Database} {author : Author} {issue : Issue} {t : Transition} {now : Int}

/-- How far the issue with an identifier is. -/
def courseOf (db : Database) (id : String) : Course :=
  (db.storedCursor? id).elim .blank Cursor.course

/-- The gate's signal about the issue with an identifier. -/
def gateOf (db : Database) (id : String) : GateSnapshot :=
  (db.storedCursor? id).elim {} Cursor.gate

/-- The position of an issue is read from its course. -/
theorem positionOf_eq_courseOf (db : Database) (id : String) :
    db.positionOf id = (db.courseOf id).position := by
  unfold positionOf courseOf
  cases db.storedCursor? id <;> rfl

/-- The course of the cursor an issue is worked from is that of the stored one. -/
theorem course_cursorFor (db : Database) (issue : Issue) (now : Int) :
    (db.cursorFor issue now).course = db.courseOf issue.id := by
  unfold cursorFor courseOf
  cases db.storedCursor? issue.id <;> rfl

/-! ### Writes of cursors -/

/-- What is read off a cursor that was written, where reading it off the row that is written over
and off the row that is inserted comes to the same change `f`. -/
theorem elim_lookup_cursorsWith {β : Type} {fresh : Cursor} {update : Row Cursor → Row Cursor}
    {g : Cursor → Cursor} {o : Cursor → β} {b : β} {f : β → β}
    (hupdate : ∀ row, (update row).record = g row.record) (hkey : ∀ c, (g c).issueId = c.issueId)
    (hchange : ∀ c, o (g c) = f (o c)) (hfresh : o fresh = f b) (id : String) :
    (Row.lookup Cursor.issueId id (db.cursorsWith fresh update)).elim b o =
      if id = fresh.issueId then f ((db.storedCursor? id).elim b o)
      else (db.storedCursor? id).elim b o := by
  rw [lookup_cursorsWith hupdate hkey]
  by_cases hid : id = fresh.issueId
  · rw [if_pos hid, if_pos hid, hid]
    cases db.storedCursor? fresh.issueId with
    | none => exact hfresh
    | some cursor => exact hchange cursor
  · rw [if_neg hid, if_neg hid]

/-- What is read off a cursor that was cleared. -/
theorem elim_storedCursor?_clearCursor {β : Type} {o : Cursor → β} {b : β} {f : β → β}
    (hchange : ∀ c : Cursor, o (c.cleared now) = f (o c)) (hblank : f b = b)
    (issueId id : String) :
    ((db.withoutPlace issueId now).storedCursor? id).elim b o =
      if id = issueId then f ((db.storedCursor? id).elim b o)
      else (db.storedCursor? id).elim b o := by
  have hlookup : (db.withoutPlace issueId now).storedCursor? id =
      if id = issueId then (db.storedCursor? id).map (·.cleared now) else db.storedCursor? id :=
    Row.lookup_changeAt (fun _ => rfl) fun _ => rfl
  rw [hlookup]
  by_cases hid : id = issueId
  · rw [if_pos hid, if_pos hid]
    cases db.storedCursor? id with
    | none => exact hblank.symm
    | some cursor => exact hchange cursor
  · rw [if_neg hid, if_neg hid]

/-- Moving a cursor moves the course of its issue. -/
theorem courseOf_moved (db : Database) (issueId projectId : String) (update : CursorUpdate)
    (now : Int) (id : String) :
    ({ db with
        cursors := db.cursorsWith ((Cursor.notStarted issueId projectId now).apply update now)
          (Row.modify · fun cursor => cursor.apply update now) } : Database).courseOf id =
      if id = issueId then (db.courseOf id).apply update else db.courseOf id :=
  elim_lookup_cursorsWith (g := fun cursor => cursor.apply update now) (o := Cursor.course)
    (b := .blank) (f := fun course => course.apply update) (fun _ => rfl) (fun _ => rfl)
    (fun _ => rfl) rfl id

/-- A transition takes the course of its issue one step on, and no other. -/
theorem courseOf_transitioned (db : Database) (author : Author) (issue : Issue) (t : Transition)
    (id : String) :
    (db.transitioned author issue t).courseOf id =
      if id = issue.id then (db.courseOf id).apply t.update else db.courseOf id :=
  courseOf_moved db issue.id issue.projectId t.update author.stamp.now id

/-- A transition leaves the gate signals. -/
theorem gateOf_transitioned (db : Database) (author : Author) (issue : Issue) (t : Transition)
    (id : String) : (db.transitioned author issue t).gateOf id = db.gateOf id :=
  (elim_lookup_cursorsWith (g := fun cursor => cursor.apply t.update author.stamp.now)
    (o := Cursor.gate) (b := {}) (f := fun gate => gate) (fun _ => rfl) (fun _ => rfl)
    (fun _ => rfl) rfl id).trans (ite_self _)

/-- A gate signal leaves the courses. -/
theorem courseOf_gated (db : Database) (issue : Issue) (gate : GateSnapshot) (now : Int)
    (id : String) :
    ({ db with cursors := db.cursorsGated issue gate now } : Database).courseOf id =
      db.courseOf id :=
  (elim_lookup_cursorsWith (g := fun cursor => { cursor with gate := gate, updatedAt := now })
    (o := Cursor.course) (b := .blank) (f := fun course => course) (fun _ => rfl)
    (fun _ => rfl) (fun _ => rfl) rfl id).trans (ite_self _)

/-- A reset blanks the course of its issue, and no other. -/
theorem courseOf_clearCursor (db : Database) (issueId : String) (now : Int) (id : String) :
    (db.withoutPlace issueId now).courseOf id =
      if id = issueId then .blank else db.courseOf id :=
  elim_storedCursor?_clearCursor (o := Cursor.course) (f := fun _ => .blank) (fun _ => rfl) rfl
    issueId id

/-- A reset leaves the gate signals. -/
theorem gateOf_clearCursor (db : Database) (issueId : String) (now : Int) (id : String) :
    (db.withoutPlace issueId now).gateOf id = db.gateOf id :=
  (elim_storedCursor?_clearCursor (o := Cursor.gate) (f := fun gate => gate) (fun _ => rfl) rfl
    issueId id).trans (ite_self _)

end Database

end ReviewPipeline
