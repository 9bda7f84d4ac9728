import Mathlib.Data.List.DropRight
import ReviewPipeline.Proofs.Requests
import ReviewPipeline.Proofs.Upkeep

/-!
# What the Writes of a Cursor Come To

The row of a cursor is written in three ways. An update moves the pointer and offers times, which
are taken only where none is set; a signal of the gate writes the gate's columns and nothing else of
note; a reset takes the pointer and the times back to nothing. The first two insert the row if it is
not there yet.

Whatever the order in which these writes are made, the row that they leave is read off their list
column by column (`Cursor.SumsUp`): the pointer is the last one given since the last reset, a time
is the first one given since then, the signal is the last one of all, the time of the row is that of
the last write, and its project is that of the write that inserted it.

## Main definitions

* `CursorWrite`, `CursorWrite.apply`: a write of one row, and what it makes of the row;
* `Database.writesOf`, `Database.cursorWrites`: the rows that an operation writes, and all writes of
  one row in a run;
* `CursorCall`: the calls that write the cursor of an issue and do nothing else to it.

## Main results

* `storedCursor?_run`: a row after a run is what the writes of it make of the row before;
* `sumsUp_foldl`: what a list of writes comes to;
* `cursorWrites_of_calls`: where nothing is blocked, every call on an issue that is there is a
  write of its row and of no other.
-/

namespace ReviewPipeline

/-- A write of the cursor of one issue. -/
inductive CursorWrite where
  /-- The pointer is moved, and times are offered. -/
  | move (projectId : String) (update : CursorUpdate) (time : Int)
  /-- A signal of the gate is recorded. -/
  | signal (projectId : String) (gate : GateSnapshot) (time : Int)
  /-- The pointer and the times are cleared, if there is a row. -/
  | clear (time : Int)
  deriving DecidableEq, Repr

namespace CursorWrite

/-- When a write is made. -/
def time : CursorWrite → Int
  | move _ _ time | signal _ _ time | clear time => time

/-- The pointer and the times that a write gives. -/
def update? : CursorWrite → Option CursorUpdate
  | move _ update _ => some update
  | signal .. | clear _ => none

/-- The signal that a write records. -/
def gate? : CursorWrite → Option GateSnapshot
  | signal _ gate _ => some gate
  | move .. | clear _ => none

/-- The project under which a write inserts a row that is not there. -/
def projectId? : CursorWrite → Option String
  | move projectId _ _ | signal projectId _ _ => some projectId
  | clear _ => none

/-- Whether a write clears the row. -/
def isClear : CursorWrite → Bool
  | clear _ => true
  | move .. | signal .. => false

/-- What a write makes of the row of an issue. -/
def apply (id : String) (row : Option Cursor) : CursorWrite → Option Cursor
  | move projectId update time =>
    some ((row.getD (.notStarted id projectId time)).apply update time)
  | signal projectId gate time =>
    some { row.getD (.notStarted id projectId time) with gate := gate, updatedAt := time }
  | clear time => row.map (·.cleared time)

/-- The writes after the last one that clears the row. -/
def sinceClear (writes : List CursorWrite) : List CursorWrite :=
  writes.rtakeWhile fun w => !w.isClear

/-- The pointers and times that were given after the row was last cleared. -/
def updates (writes : List CursorWrite) : List CursorUpdate :=
  (sinceClear writes).filterMap update?

/-- The course from which the updates start: none, if the row was cleared. -/
def origin (before : Option Cursor) (writes : List CursorWrite) : Course :=
  if writes.any isClear then .blank else before.elim .blank Cursor.course

end CursorWrite

/-- What the row of an issue has come to after a list of writes, column by column. -/
structure Cursor.SumsUp (id : String) (before : Option Cursor) (writes : List CursorWrite)
    (after : Cursor) : Prop where
  /-- The row is that of the issue. -/
  issueId : after.issueId = id
  /-- The project is that of the row before or, if there was none, of the first write that
  inserts one. -/
  projectId : (before.map (·.projectId)).or (writes.findSome? (·.projectId?)) = some after.projectId
  /-- The pointer is the last one given, be it none. -/
  stepId : after.stepId = ((CursorWrite.updates writes).getLast?.map (·.stepId)).getD
    (CursorWrite.origin before writes).stepId
  /-- The time of the first transition is the one that was set, or the first one given. -/
  startedAt : after.startedAt = (CursorWrite.origin before writes).startedAt.or
    ((CursorWrite.updates writes).findSome? (·.startedAt))
  /-- The time of completion is the one that was set, or the first one given. -/
  completedAt : after.completedAt = (CursorWrite.origin before writes).completedAt.or
    ((CursorWrite.updates writes).findSome? (·.completedAt))
  /-- The signal is the last one recorded, also across resets. -/
  gate : after.gate = (writes.filterMap (·.gate?)).getLast?.getD (before.elim {} Cursor.gate)
  /-- The time of the row is that of the last write. -/
  updatedAt : (writes.getLast?.map (·.time)).or (before.map (·.updatedAt)) = some after.updatedAt

/-! ### A list of writes -/

/-- A course after several updates. -/
def Course.applyAll (course : Course) (updates : List CursorUpdate) : Course where
  stepId := (updates.getLast?.map (·.stepId)).getD course.stepId
  startedAt := course.startedAt.or (updates.findSome? (·.startedAt))
  completedAt := course.completedAt.or (updates.findSome? (·.completedAt))

/-- Without updates, a course is what it was. -/
theorem Course.applyAll_nil (course : Course) : course.applyAll [] = course := by
  simp [applyAll]

/-- The last update comes last. -/
theorem Course.applyAll_concat (course : Course) (updates : List CursorUpdate)
    (update : CursorUpdate) :
    course.applyAll (updates ++ [update]) = (course.applyAll updates).apply update := by
  simp [applyAll, Course.apply, List.findSome?_append, Option.or_assoc]

namespace CursorWrite

variable {id : String} {before : Option Cursor} {writes : List CursorWrite} {w : CursorWrite}

/-- Clearing forgets the updates so far, and a move adds one. -/
theorem updates_concat : updates (writes ++ [w]) =
    if w.isClear then [] else updates writes ++ w.update?.toList := by
  rw [updates, sinceClear, List.rtakeWhile_concat]
  cases w <;> simp [isClear, update?, updates, sinceClear]

/-- Clearing goes back to a blank course. -/
theorem origin_concat : origin before (writes ++ [w]) =
    if w.isClear then .blank else origin before writes := by
  cases w <;> simp [origin, isClear]

/-- A write moves the course, leaves it alone or takes it back to the beginning. -/
theorem course_apply (row : Option Cursor) :
    (apply id row w).elim .blank Cursor.course =
      if w.isClear then .blank
      else
        w.update?.elim (row.elim .blank Cursor.course) (row.elim .blank Cursor.course).apply := by
  cases w <;> cases row <;> rfl

/-- A write records its signal or leaves the last one alone. -/
theorem gate_apply (row : Option Cursor) :
    (apply id row w).elim {} Cursor.gate = w.gate?.getD (row.elim {} Cursor.gate) := by
  cases w <;> cases row <;> rfl

/-- A row keeps its project, and a write that inserts one gives it the project. -/
theorem projectId_apply (row : Option Cursor) :
    (apply id row w).map (·.projectId) = (row.map (·.projectId)).or w.projectId? := by
  cases w <;> cases row <;> rfl

/-- A write keeps the cursor with its issue. -/
theorem issueId_apply {row : Option Cursor} (h : ∀ c, row = some c → c.issueId = id) :
    ∀ c, apply id row w = some c → c.issueId = id := by
  cases w with
  | move | signal =>
    rintro _ ⟨⟩
    cases row with
    | none => rfl
    | some c => exact h c rfl
  | clear time =>
    intro c hc
    obtain ⟨old, hold, rfl⟩ := Option.map_eq_some_iff.1 hc
    exact h old hold

/-- The course of a row that was written starts from its origin and follows the updates. -/
theorem course_foldl (id : String) (before : Option Cursor) (writes : List CursorWrite) :
    (writes.foldl (apply id) before).elim .blank Cursor.course =
      (origin before writes).applyAll (updates writes) := by
  -- The updates that count are those at the end, so the list grows there.
  induction writes using List.reverseRecOn with
  | nil => exact (Course.applyAll_nil _).symm
  | append_singleton writes w ih =>
    rw [List.foldl_concat, course_apply, ih, updates_concat, origin_concat]
    cases hclear : w.isClear with
    | true => exact (Course.applyAll_nil _).symm
    | false =>
      cases w.update? with
      | none => simp
      | some update => exact (Course.applyAll_concat _ _ update).symm

/-- After any writes, the signal is the last that was recorded. -/
theorem gate_foldl (id : String) (before : Option Cursor) (writes : List CursorWrite) :
    (writes.foldl (apply id) before).elim {} Cursor.gate =
      (writes.filterMap gate?).getLast?.getD (before.elim {} Cursor.gate) := by
  induction writes using List.reverseRecOn with
  | nil => rfl
  | append_singleton writes w ih =>
    rw [List.foldl_concat, gate_apply, ih, List.filterMap_append]
    cases hgate : w.gate? <;> simp [hgate]

/-- The project is the one the cursor was made for. -/
theorem projectId_foldl (id : String) (before : Option Cursor) (writes : List CursorWrite) :
    (writes.foldl (apply id) before).map (·.projectId) =
      (before.map (·.projectId)).or (writes.findSome? (·.projectId?)) := by
  induction writes using List.reverseRecOn with
  | nil => simp
  | append_singleton writes w ih =>
    rw [List.foldl_concat, projectId_apply, ih, List.findSome?_append, Option.or_assoc]
    simp

/-- Writes keep the cursor with its issue. -/
theorem issueId_foldl (hbefore : ∀ c, before = some c → c.issueId = id) :
    ∀ c, writes.foldl (apply id) before = some c → c.issueId = id := by
  induction writes using List.reverseRecOn with
  | nil => exact hbefore
  | append_singleton writes w ih =>
    rw [List.foldl_concat]
    exact issueId_apply ih

/-- If there is a row after a write, it has the time of the write. -/
theorem updatedAt_apply {row : Option Cursor} {c : Cursor} (h : apply id row w = some c) :
    c.updatedAt = w.time := by
  cases w with
  | move | signal =>
    cases h
    rfl
  | clear time =>
    obtain ⟨_, -, rfl⟩ := Option.map_eq_some_iff.1 h
    rfl

/-- After any writes, the date is that of the last. -/
theorem updatedAt_foldl {c : Cursor} (h : writes.foldl (apply id) before = some c) :
    (writes.getLast?.map (·.time)).or (before.map (·.updatedAt)) = some c.updatedAt := by
  cases writes using List.reverseRecOn with
  | nil =>
    obtain rfl : before = some c := h
    rfl
  | append_singleton writes w =>
    rw [List.foldl_concat] at h
    simp [updatedAt_apply h]

/-- The row after a list of writes, if there is one, sums the writes up. -/
theorem sumsUp_foldl (hbefore : ∀ c, before = some c → c.issueId = id) {c : Cursor}
    (h : writes.foldl (apply id) before = some c) : c.SumsUp id before writes := by
  have hcourse : c.course = (origin before writes).applyAll (updates writes) := by
    rw [← course_foldl id, h]
    rfl
  have hgate := gate_foldl id before writes
  have hproject := projectId_foldl id before writes
  rw [h] at hgate hproject
  exact
    { issueId := issueId_foldl hbefore c h
      projectId := hproject.symm
      stepId := congrArg Course.stepId hcourse
      startedAt := congrArg Course.startedAt hcourse
      completedAt := congrArg Course.completedAt hcourse
      gate := hgate
      updatedAt := updatedAt_foldl h }

/-- There is no row after a list of writes iff there was none and no write inserts one. -/
theorem foldl_eq_none_iff :
    writes.foldl (apply id) before = none ↔ before = none ∧ ∀ w ∈ writes, w.isClear = true := by
  rw [← Option.map_eq_none_iff (f := (·.projectId)), projectId_foldl, Option.or_eq_none_iff,
    Option.map_eq_none_iff, List.findSome?_eq_none_iff]
  refine and_congr_right fun _ => forall₂_congr fun w _ => ?_
  cases w <;> simp [projectId?, isClear]

end CursorWrite

/-! ### The writes of a run -/

/-- The writes of a cursor that a single write makes, with their issue. -/
def Database.SingleWrite.cursorWrites (now : Int) : SingleWrite → List (String × CursorWrite)
  | .moveCursor issueId projectId update => [(issueId, .move projectId update now)]
  | .appendEntry _ | .setWorkStatus _ _ | .note _ => []

/-- The writes of one issue's cursor. -/
def CursorWrite.on (id : String) (writes : List (String × CursorWrite)) : List CursorWrite :=
  (writes.filter (·.1 == id)).map (·.2)

/-- A call that writes the cursor of an issue and does nothing else to it. -/
inductive CursorCall where
  /-- Move the cursor. -/
  | move (projectId : String) (update : CursorUpdate)
  /-- Record a signal of the gate. -/
  | signal (status : GateStatus) (error : Option String)
  /-- Clear the cursor. -/
  | reset
  deriving DecidableEq, Repr

/-- The operation that makes a call on the issue with a full identifier. -/
def CursorCall.on (id : String) : CursorCall → Operation
  | move projectId update => .write (.moveCursor id projectId update)
  | signal status error => .recordGate id status error
  | reset => .resetPipeline id

/-- The write that a call on an issue makes. A signal inserts a row under the issue's project. -/
def CursorCall.toWrite (projectId : String) (now : Int) : CursorCall → CursorWrite
  | move projectId update => .move projectId update now
  | signal status error => .signal projectId ⟨some status, error, some now⟩ now
  | reset => .clear now

/-- A call about cursors is regular. -/
theorem CursorCall.isRegular_on (call : CursorCall) (id : String) :
    (call.on id).isRegular = true := by
  cases call <;> rfl

namespace Database

variable {db db' db'' : Database} {author : Author} {op : Operation} {reply : Reply} {now : Int}
  {writes writes' : List (String × CursorWrite)} {id : String}

/-- The write of a cursor that a completion or a rejection makes, if a transition is planned. -/
def writesOfRequest (db : Database) (author : Author) (text : String) (request : Request) :
    List (String × CursorWrite) :=
  match db.issue text with
  | .error _ => []
  | .ok issue =>
    match request.plan (db.storedCatalog issue.projectId) issue.projectId
      (db.cursorFor issue author.stamp.now) author.stamp with
    | .error _ => []
    | .ok t => [(issue.id, .move issue.projectId t.update author.stamp.now)]

/-- The writes of cursors of which an operation consists, in order, each with its issue. -/
def writesOf (db : Database) (author : Author) : Operation → List (String × CursorWrite)
  | .write w => w.cursorWrites author.stamp.now
  | .batch ws _ => ws.flatMap (·.cursorWrites author.stamp.now)
  | .recordGate text status error =>
    match db.issue text with
    | .error _ => []
    | .ok issue =>
      [(issue.id, .signal issue.projectId ⟨some status, error, some author.stamp.now⟩
        author.stamp.now)]
  | .resetPipeline text =>
    match db.issue text with
    | .error _ => []
    | .ok issue => [(issue.id, .clear author.stamp.now)]
  | .complete text agent notes => db.writesOfRequest author text (.complete agent notes)
  | .reject text agent reason => db.writesOfRequest author text (.reject agent reason)
  | .createProject _ | .createIssue .. | .addStep _ | .restaffStep .. | .applySchema | .raw _ => []

/-- The writes of cursors that are made in a run. A call that fails makes none. -/
def cursorWrites (db : Database) : List (Author × Operation) → List (String × CursorWrite)
  | [] => []
  | (author, op) :: rest =>
    (if (db.perform author op).isOk then db.writesOf author op else []) ++
      (db.after author op).cursorWrites rest

/-- Between two databases, exactly these writes of cursors were made. -/
def Wrote (db : Database) (writes : List (String × CursorWrite)) (db' : Database) : Prop :=
  ∀ id, db'.storedCursor? id =
    (CursorWrite.on id writes).foldl (CursorWrite.apply id) (db.storedCursor? id)

/-- Where cursors are the same, nothing was written. -/
theorem wrote_nil (h : db'.cursors = db.cursors) : db.Wrote [] db' := by
  intro id
  rw [storedCursor?, h]
  rfl

/-- What was written in two parts was written one after the other. -/
theorem Wrote.append (h : db.Wrote writes db') (h' : db'.Wrote writes' db'') :
    db.Wrote (writes ++ writes') db'' := by
  intro id
  rw [h' id, h id, CursorWrite.on, CursorWrite.on, CursorWrite.on, List.filter_append,
    List.map_append, List.foldl_append]

/-- A write of one row is a change of this row, and every other row is as before. -/
theorem wrote_single {issueId : String} {w : CursorWrite}
    (h : ∀ id, db'.storedCursor? id =
      if id = issueId then CursorWrite.apply id (db.storedCursor? id) w else db.storedCursor? id) :
    db.Wrote [(issueId, w)] db' := by
  intro id
  rw [h id]
  by_cases hid : id = issueId
  · simp [CursorWrite.on, hid]
  · simp [CursorWrite.on, hid, Ne.symm hid]

/-- A move writes a move. -/
theorem wrote_moveCursor {issueId projectId : String} {update : CursorUpdate}
    (h : db.moveCursor issueId projectId update now = .ok db') :
    db.Wrote [(issueId, .move projectId update now)] db' := by
  obtain ⟨-, -, rfl⟩ := putCursor_eq_ok_iff.1 h
  refine wrote_single fun id => ?_
  refine (lookup_cursorsWith (g := fun cursor => cursor.apply update now) (fun _ => rfl)
    (fun _ => rfl) id).trans ?_
  show (if id = issueId then _ else _) = _
  split
  · next hid =>
    subst hid
    show some (((db.storedCursor? id).map _).getD _) = _
    cases db.storedCursor? id <;> rfl
  · rfl

/-- A single write makes its write of a cursor, if it has one. -/
theorem wrote_singleWrite {w : SingleWrite} {change : Change (Option LedgerEntry)}
    (h : db.singleWrite now w = .ok change) : db.Wrote (w.cursorWrites now) change.db := by
  cases w with
  | moveCursor issueId projectId update =>
    obtain ⟨moved, hmoved, hdone⟩ := bind_eq_ok_iff.1 h
    cases hdone
    exact wrote_moveCursor hmoved
  | appendEntry draft =>
    obtain ⟨⟨entry, next⟩, happend, hdone⟩ := bind_eq_ok_iff.1 h
    cases hdone
    obtain ⟨-, -, -, -, rfl⟩ := appendEntry_eq_ok_iff.1 happend
    exact wrote_nil rfl
  | setWorkStatus issueId status =>
    obtain ⟨marked, hmarked, hdone⟩ := bind_eq_ok_iff.1 h
    cases hdone
    obtain ⟨-, -, rfl⟩ := setWorkStatus_eq_ok_iff.1 hmarked
    exact wrote_nil rfl
  | note event =>
    cases h
    exact wrote_nil rfl

/-- Several writes are written one after the other. -/
theorem wrote_writeAll {ws : List SingleWrite} {change : Change (List (Option LedgerEntry))}
    (h : db.writeAll now ws = .ok change) :
    db.Wrote (ws.flatMap (·.cursorWrites now)) change.db := by
  -- Each write meets the database that the one before has left.
  induction ws generalizing db change with
  | nil =>
    cases h
    exact wrote_nil rfl
  | cons w ws ih =>
    simp only [writeAll, bind_eq_ok_iff, pure, Except.pure, Except.ok.injEq] at h
    obtain ⟨first, hfirst, rest, hrest, rfl⟩ := h
    have hrests : first.db.Wrote (ws.flatMap (·.cursorWrites now)) rest.db := ih hrest
    exact (wrote_singleWrite hfirst).append hrests

/-- A transition writes a move. -/
theorem wrote_transitioned (db : Database) (author : Author) (issue : Issue) (t : Transition) :
    db.Wrote [(issue.id, .move issue.projectId t.update author.stamp.now)]
      (db.transitioned author issue t) := by
  refine wrote_single fun id => (storedCursor?_transitioned db author issue t id).trans ?_
  split
  · next hid =>
    subst hid
    rfl
  · rfl

/-- A request that succeeds has moved the cursor by what was planned. -/
theorem wrote_request (hdb : db.Consistent) {text : String} (request : Request)
    (h : db.perform author (request.on text) = .ok (reply, db')) :
    db.Wrote (db.writesOfRequest author text request) db' := by
  rw [perform_request hdb] at h
  obtain ⟨-, -, h⟩ := bind_eq_ok_iff.1 h
  obtain ⟨issue, hissue, h⟩ := bind_eq_ok_iff.1 h
  obtain ⟨t, hplan, h⟩ := bind_eq_ok_iff.1 h
  obtain ⟨_, htransit, hdone⟩ := map_eq_ok_iff.1 h
  cases hdone
  unfold transit at htransit
  split at htransit
  · cases htransit
  · cases htransit
    rw [writesOfRequest, hissue]
    simp only [hplan]
    exact wrote_transitioned db author issue t

/-- A call that succeeds has made the writes of which it consists. -/
theorem wrote_of_call (hdb : db.Consistent) (hcall : op.isCall = true)
    (h : db.perform author op = .ok (reply, db')) : db.Wrote (db.writesOf author op) db' := by
  cases called_of_perform hdb hcall h with
  | createProject | createIssue | addStep | restaffStep => exact wrote_nil rfl
  | @recordGate _ status error issue gate _ hissue hgate =>
    rw [writesOf, hissue, ← hgate]
    refine wrote_single fun id => (lookup_cursorsGated db issue gate author.stamp.now id).trans ?_
    split
    · next hid =>
      subst hid
      rfl
    · rfl
  | @resetPipeline _ issue hissue =>
    rw [writesOf, hissue]
    exact wrote_single fun id => Row.lookup_changeAt (fun _ => rfl) fun _ => rfl
  | @complete text agent notes => exact wrote_request hdb (.complete agent notes) h
  | @reject text reason _ _ agent => exact wrote_request hdb (.reject agent reason) h

/-- An operation that succeeds has made the writes of which it consists. -/
theorem wrote_of_perform (hdb : db.Consistent) (hregular : op.isRegular = true)
    (h : db.perform author op = .ok (reply, db')) : db.Wrote (db.writesOf author op) db' := by
  cases op with
  | write w =>
    obtain ⟨change, hwrite, hdone⟩ := map_eq_ok_iff.1 h
    cases hdone
    exact wrote_singleWrite hwrite
  | batch ws failure =>
    obtain ⟨entries, h, -⟩ := answer_eq_ok_iff.1 h
    obtain ⟨change, hwrites, rfl⟩ := batch_eq_ok h
    exact wrote_writeAll hwrites
  | applySchema =>
    obtain ⟨_, happlied, hdone⟩ := map_eq_ok_iff.1 h
    cases hdone
    obtain ⟨-, rfl⟩ := applySchema_eq_ok_iff.1 happlied
    exact wrote_nil rfl
  | raw w => cases hregular
  | _ => exact wrote_of_call hdb rfl h

/-- After a run, every row is what the writes of it make of the row before. -/
theorem wrote_run (hdb : db.Consistent) {calls : List (Author × Operation)}
    (hcalls : ∀ call ∈ calls, call.2.isRegular = true) :
    db.Wrote (db.cursorWrites calls) (db.run calls).2 := by
  induction calls generalizing db with
  | nil => exact wrote_nil rfl
  | cons call calls ih =>
    obtain ⟨author, op⟩ := call
    obtain ⟨hcall, hrest⟩ := List.forall_mem_cons.1 hcalls
    -- A call that fails leaves the rows alone, and none of its writes count.
    refine Wrote.append ?_ (ih (consistent_after_of_regular hdb hcall author) hrest)
    rw [after]
    cases hperform : db.perform author op with
    | error e => exact wrote_nil rfl
    | ok r => exact wrote_of_perform hdb hcall hperform

/-! ### Calls on issues that are there -/

/-- A full identifier of an issue that is there is looked up to that issue. -/
theorem issue_eq_ok_of_storedIssue? (hdb : db.Consistent) {issue : Issue}
    (hissue : db.storedIssue? id = some issue) : db.issue id = .ok issue := by
  rw [issue_eq hdb, hissue]

/-- A call about cursors writes what it is for, in the project of the issue. -/
theorem writesOf_on (hdb : db.Consistent) {issue : Issue} (hissue : db.storedIssue? id = some issue)
    (author : Author) (call : CursorCall) :
    db.writesOf author (call.on id) = [(id, call.toWrite issue.projectId author.stamp.now)] := by
  obtain rfl := id_of_storedIssue? hissue
  have hlookup := issue_eq_ok_of_storedIssue? hdb hissue
  cases call with
  | move projectId update => rfl
  | signal status error => rw [CursorCall.on, writesOf, hlookup, CursorCall.toWrite]
  | reset => rw [CursorCall.on, writesOf, hlookup, CursorCall.toWrite]

/-- Where nothing is blocked, a call on an issue that is there succeeds, and touches no issue. -/
theorem exists_perform_on (hdb : db.Consistent) (hblocked : db.blocked = none)
    (hid : db.hasIssue id = true) (author : Author) (call : CursorCall) :
    ∃ reply db', db.perform author (call.on id) = .ok (reply, db') ∧ db'.blocked = none ∧
      db'.issues = db.issues := by
  have hfree : ∀ kind, db.blocked ≠ some kind := fun kind h => by simp [hblocked] at h
  obtain ⟨issue, hissue⟩ := Option.isSome_iff_exists.1 (hasIssue_iff.1 hid)
  have hlookup := issue_eq_ok_of_storedIssue? hdb hissue
  cases call with
  | move projectId update =>
    -- The issue is not looked up here: it is there for the row to refer to.
    have hmoved : ∃ moved, db.moveCursor id projectId update author.stamp.now = .ok moved ∧
        moved.blocked = none ∧ moved.issues = db.issues :=
      ⟨_, putCursor_eq_ok_iff.2 ⟨hfree _, .inr hid, rfl⟩, hblocked, rfl⟩
    obtain ⟨moved, hmoved, hrest⟩ := hmoved
    refine ⟨.entry none, moved, ?_, hrest⟩
    rw [CursorCall.on, perform, singleWrite, hmoved]
    rfl
  | signal status error =>
    have hperform := perform_recordGate hdb author id status error
    rw [hlookup] at hperform
    exact ⟨_, _, hperform.trans (if_neg (not_or.2 ⟨hfree _, hfree _⟩)), hblocked, rfl⟩
  | reset =>
    have hperform : db.perform author (.resetPipeline id) = _ := perform_resetPipeline author id
    rw [hlookup] at hperform
    exact ⟨_, _, hperform.trans (if_neg (not_or.2 ⟨hfree _, hfree _⟩)), hblocked, rfl⟩

/-- The run of calls on issues that are named by their full identifiers. -/
def runOf (calls : List (Author × String × CursorCall)) : List (Author × Operation) :=
  calls.map fun call => (call.1, call.2.2.on call.2.1)

/-- Where nothing is blocked, calls on issues that are there all succeed, and each of them is a
write of the row of its issue. -/
theorem cursorWrites_runOf (hdb : db.Consistent) (hblocked : db.blocked = none)
    {calls : List (Author × String × CursorCall)}
    (hcalls : ∀ call ∈ calls, db.hasIssue call.2.1 = true) :
    (∀ answer ∈ (db.run (runOf calls)).1, answer.isOk = true) ∧
      ∀ id projectId, (∀ issue, db.storedIssue? id = some issue → issue.projectId = projectId) →
        CursorWrite.on id (db.cursorWrites (runOf calls)) =
          (calls.filter (·.2.1 == id)).map fun call =>
            call.2.2.toWrite projectId call.1.stamp.now := by
  induction calls generalizing db with
  | nil => exact ⟨List.forall_mem_nil _, fun _ _ _ => rfl⟩
  | cons call calls ih =>
    obtain ⟨author, id, call⟩ := call
    obtain ⟨hcall, hrest⟩ := List.forall_mem_cons.1 hcalls
    obtain ⟨reply, db', hperform, hblocked', hissues⟩ :=
      exists_perform_on hdb hblocked hcall author call
    have hafter : db.after author (call.on id) = db' := by rw [after, hperform]
    have hdb' : db'.Consistent :=
      hafter ▸ consistent_after_of_regular hdb (call.isRegular_on id) author
    -- The issues are as before, so the calls that are left are on issues that are there.
    have hstored : ∀ other, db'.storedIssue? other = db.storedIssue? other := fun other => by
      rw [storedIssue?, hissues, storedIssue?]
    obtain ⟨hanswers, hwrites⟩ := ih hdb' hblocked' fun later hlater => by
      rw [hasIssue_iff, hstored, ← hasIssue_iff]
      exact hrest later hlater
    rw [runOf, List.map_cons, ← runOf, run, hafter, cursorWrites, hafter, hperform]
    refine ⟨List.forall_mem_cons.2 ⟨rfl, hanswers⟩, fun other projectId hproject => ?_⟩
    have hrests := hwrites other projectId fun issue hissue =>
      hproject issue ((hstored other).symm.trans hissue)
    obtain ⟨issue, hissue⟩ := Option.isSome_iff_exists.1 (hasIssue_iff.1 hcall)
    rw [writesOf_on hdb hissue]
    by_cases hother : id = other
    · subst hother
      rw [hproject issue hissue]
      simpa [CursorWrite.on, Except.isOk, Except.toBool] using hrests
    · simpa [CursorWrite.on, Except.isOk, Except.toBool, hother] using hrests

/-- An update of a cursor keeps the times that are set and replaces the pointer, a signal of the
gate replaces the signal, and a reset takes the pointer and the times back to nothing.

After every run, whatever else is done in it, the row of a cursor sums up the writes of it that were
made, and a row that is not written is as before. Where nothing is blocked, calls on issues that are
there all succeed, and the writes of an issue's row are the calls on this issue, in order. -/
theorem cursor_sums_up_writes (hdb : db.Consistent) :
    (∀ calls : List (Author × Operation), (∀ call ∈ calls, call.2.isRegular = true) → ∀ id,
      let writes := CursorWrite.on id (db.cursorWrites calls)
      ∃ before after, db.cursor? id = .ok before ∧ (db.run calls).2.cursor? id = .ok after ∧
        (after = none ↔ before = none ∧ ∀ w ∈ writes, w.isClear = true) ∧
        (∀ c, after = some c → c.SumsUp id before writes) ∧ (writes = [] → after = before)) ∧
    (db.blocked = none → ∀ calls : List (Author × String × CursorCall),
      (∀ call ∈ calls, db.hasIssue call.2.1 = true) →
      (∀ answer ∈ (db.run (runOf calls)).1, answer.isOk = true) ∧
      (∀ issue, db.issue issue.id = .ok issue →
        CursorWrite.on issue.id (db.cursorWrites (runOf calls)) =
          (calls.filter (·.2.1 == issue.id)).map fun call =>
            call.2.2.toWrite issue.projectId call.1.stamp.now) ∧
      ∀ id, (∀ call ∈ calls, call.2.1 ≠ id) →
        (db.run (runOf calls)).2.cursor? id = db.cursor? id) := by
  have hlaw : ∀ calls : List (Author × Operation), (∀ call ∈ calls, call.2.isRegular = true) →
      (db.run calls).2.Consistent ∧ db.Wrote (db.cursorWrites calls) (db.run calls).2 :=
    fun calls hcalls => ⟨consistent_run_of_regular hdb hcalls, wrote_run hdb hcalls⟩
  constructor
  · intro calls hcalls id writes
    obtain ⟨hafter, hwrote⟩ := hlaw calls hcalls
    refine ⟨_, _, cursor?_eq_ok hdb, cursor?_eq_ok hafter, ?_, fun c hc => ?_, fun hnone => ?_⟩
    · rw [hwrote id]
      exact CursorWrite.foldl_eq_none_iff
    · rw [hwrote id] at hc
      exact CursorWrite.sumsUp_foldl (fun c => issueId_of_storedCursor?) hc
    · rw [hwrote id]
      exact congrArg (List.foldl _ _) hnone
  · intro hblocked calls hcalls
    obtain ⟨hanswers, hwrites⟩ := cursorWrites_runOf hdb hblocked hcalls
    refine ⟨hanswers, fun issue hissue => ?_, fun id hid => ?_⟩
    · refine hwrites issue.id issue.projectId fun found hfound => ?_
      rw [storedIssue?_of_issue_eq_ok hdb hissue] at hfound
      rw [Option.some.inj hfound]
    · obtain ⟨hafter, hwrote⟩ := hlaw (runOf calls) fun call hcall => by
        obtain ⟨made, -, rfl⟩ := List.mem_map.1 hcall
        exact made.2.2.isRegular_on made.2.1
      -- No call is on this issue, so there is no write of its row.
      have hnone : (calls.filter (·.2.1 == id)) = [] :=
        List.filter_eq_nil_iff.2 fun call hcall => by simpa using hid call hcall
      have hwritten := hwrites id (((db.storedIssue? id).map (·.projectId)).getD "")
        fun issue hissue => by simp [hissue]
      rw [cursor?_eq_ok hdb, cursor?_eq_ok hafter, hwrote id, hwritten, hnone]
      rfl

/-- An issue to try the statement on, and calls on it: its row is inserted by a signal of the gate,
its times are offered late and twice, its pointer is taken away, and all of this starts afresh after
a reset. -/
theorem cursor_sums_up_writes_sample :
    let db := ((Database.create 0).run (sampleRun.take 3)).2
    let id := "issue_00000003-400"
    let author (n : Nat) : Author := ⟨"ada", ⟨n, n⟩⟩
    let calls : List (Author × String × CursorCall) :=
      [ (author 10, id, .signal .failed (some "no context")),
        (author 11, id, .move "docs" ⟨some "draft", none, none⟩),
        (author 12, id, .move "docs" ⟨some "edit", some 100, none⟩),
        (author 13, id, .move "docs" ⟨none, some 999, some 200⟩),
        (author 14, id, .reset),
        (author 15, id, .move "docs" ⟨some "draft", some 7, none⟩),
        (author 16, id, .move "docs" ⟨some "edit", some 8, none⟩) ]
    let cursorAfter (n : Nat) := (db.run (runOf (calls.take n))).2.cursor? id
    let gate : GateSnapshot := ⟨some .failed, some "no context", some 10⟩
    (∀ answer ∈ (db.run (runOf calls)).1, answer.isOk = true) ∧
      (∃ c, cursorAfter 7 = .ok (some c) ∧
        c.SumsUp id none (calls.map fun call => call.2.2.toWrite "docs" call.1.stamp.now)) ∧
      cursorAfter 4 = .ok (some ⟨id, "docs", none, some 100, some 200, gate, 13⟩) ∧
      cursorAfter 5 = .ok (some ⟨id, "docs", none, none, none, gate, 14⟩) ∧
      cursorAfter 7 = .ok (some ⟨id, "docs", some "edit", some 7, none, gate, 16⟩) := by
  intro db id author calls cursorAfter gate
  have hdb : db.Consistent := consistent_run (admitted_create 0).toConsistent (by decide)
  obtain ⟨hlaw, hfree⟩ := cursor_sums_up_writes hdb
  obtain ⟨hanswers, hwrites, -⟩ := hfree (by decide +kernel) calls (by decide +kernel)
  obtain ⟨before, after, hbefore, hafter, -, hsum, -⟩ := hlaw (runOf calls) (by decide) id
  -- The last cursor is evaluated, and the writes of the run are those that it sums up.
  have hlast : cursorAfter 7 = .ok (some ⟨id, "docs", some "edit", some 7, none, gate, 16⟩) := by
    decide +kernel
  have hnone : db.cursor? id = .ok none := by decide +kernel
  obtain rfl := Except.ok.inj (hbefore.symm.trans hnone)
  have hsums := hsum _ (Except.ok.inj (hafter.symm.trans hlast))
  have hissue : db.issue id = .ok ⟨id, some "DOCS-1", "docs", "first", none, .todo, 3, 3⟩ := by
    decide +kernel
  rw [hwrites ⟨id, some "DOCS-1", "docs", "first", none, .todo, 3, 3⟩ hissue] at hsums
  exact ⟨hanswers, ⟨_, hlast, hsums⟩, by decide +kernel, by decide +kernel, hlast⟩

end Database

end ReviewPipeline
