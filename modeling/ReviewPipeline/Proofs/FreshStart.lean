import ReviewPipeline.Proofs.Answers
import ReviewPipeline.Proofs.Dossiers

/-!
# A Reset Issue Behaves like a Fresh One

Clearing a cursor leaves a row whose pointer and times are empty, beside a history and a work status
that tell of the past; a new issue has neither row nor history. Requests do not see the difference:
made on both issues at the same times, they are answered alike and lead through the same positions,
and the histories grow by the same entries.

Two runs are compared call by call. What carries the comparison is that both issues have the same
course, that what the one history gained since the reset is the other history, and that the
identifiers of entries are taken in both runs alike (`Twins`).

## Main definitions

* `Trial`: a request made on two issues at the same time;
* `outcomeOf`: an answer, apart from the issue that it names and the wording of a failure;
* `Dated`: the times of a course are those of a history.

## Main results

* `Twins.perform`, `Twins.run`: a trial, and a run of trials, is answered alike on both issues;
* `freshStart_of_reset`: after a reset, an issue fares as a new issue of its project does.
-/

namespace ReviewPipeline

open Progression

/-! ### What two issues can share -/

/-- An entry of the ledger apart from its number, its identifier and its issue. -/
def LedgerEntry.anonymous (e : LedgerEntry) : LedgerEntry :=
  { e with seq := 0, id := "", issueId := "" }

/-- A planned transition apart from the identifier of its entry and its issue. -/
def Transition.anonymous (t : Transition) : Transition :=
  { t with entry := { t.entry with id := "", issueId := "" } }

/-- An answer to a request apart from its issue. -/
def Reply.anonymous : Reply → Reply
  | .completion c => .completion { c with issueId := "" }
  | .rejection r => .rejection { r with issueId := "" }
  | reply => reply

/-- What is answered, apart from the issue that the answer names and from the wording of a
failure. -/
def outcomeOf (answer : Except Error Reply) : Except ErrorKind Reply :=
  (answer.mapError Error.kind).map Reply.anonymous

theorem mapError_bind {ε ε' α β : Type} {g : ε → ε'} {x : Except ε α} {f : α → Except ε β} :
    (x >>= f).mapError g = x.mapError g >>= fun a => (f a).mapError g := by
  cases x <;> rfl

theorem mapError_eq_ok_iff {ε ε' α : Type} {g : ε → ε'} {x : Except ε α} {a : α} :
    x.mapError g = .ok a ↔ x = .ok a := by
  cases x <;> simp [Except.mapError]

section Plans

variable {steps : List Step} {projectId : String} {cursor cursor' : Cursor} {stamp stamp' : Stamp}

/-- Where an issue stands is a matter of its course, and so is the kind of failure if it stands
nowhere. -/
theorem ensureStarted_kind (steps : List Step) (hcourse : cursor.course = cursor'.course) :
    (ensureStarted steps cursor).mapError Error.kind =
      (ensureStarted steps cursor').mapError Error.kind := by
  unfold ensureStarted
  rw [cursor.position_eq, hcourse, ← cursor'.position_eq]
  cases cursor'.position with
  | notStarted => cases steps <;> rfl
  | atStep stepId => rfl
  | completed => rfl

/-- A completion is planned from the course and the time. -/
theorem planCompletion_anonymous (hcourse : cursor.course = cursor'.course)
    (hnow : stamp.now = stamp'.now) (agent notes : Option String) :
    Agree (fun t t' => t.anonymous = t'.anonymous)
      ((planCompletion steps cursor agent notes stamp).mapError Error.kind)
      ((planCompletion steps cursor' agent notes stamp').mapError Error.kind) := by
  obtain ⟨-, hstartedAt, hcompletedAt⟩ := Course.mk.injEq .. ▸ hcourse
  have hplaces := ensureStarted_kind steps hcourse
  unfold planCompletion
  cases hplace : ensureStarted steps cursor with
  | error e =>
    cases hplace' : ensureStarted steps cursor' with
    | error e' =>
      rw [hplace, hplace'] at hplaces
      have hkind : e.kind = e'.kind := Except.error.inj hplaces
      show Agree _ (.error e.kind) (.error e'.kind)
      rw [hkind]
      exact .error _
    | ok place' => simp [hplace, hplace', Except.mapError] at hplaces
  | ok place =>
    have hplace' : ensureStarted steps cursor' = .ok place := by
      rw [hplace] at hplaces
      exact mapError_eq_ok_iff.1 hplaces.symm
    simp only [hplace', hstartedAt, hcompletedAt, hnow]
    -- The outcome depends on the catalog alone.
    cases completionOutcome place.step steps[place.index + 1]? <;>
      exact .ok (by simp [Transition.anonymous, draft, hnow])

/-- A rejection is planned from the course and the time. -/
theorem planRejection_anonymous (hcourse : cursor.course = cursor'.course)
    (hnow : stamp.now = stamp'.now) (agent : Option String) (reason : String) :
    Agree (fun t t' => t.anonymous = t'.anonymous)
      ((planRejection steps cursor agent reason stamp).mapError Error.kind)
      ((planRejection steps cursor' agent reason stamp').mapError Error.kind) := by
  obtain ⟨hstepId, hstartedAt, hcompletedAt⟩ := Course.mk.injEq .. ▸ hcourse
  unfold planRejection
  rw [hstepId]
  cases cursor'.stepId with
  | none => exact .error _
  | some stepId =>
    dsimp only
    cases locate steps stepId with
    | error e => exact .error _
    | ok place =>
      by_cases hfirst : place.index = 0
      · simp only [if_pos hfirst]
        exact .error _
      · simp only [if_neg hfirst]
        cases (previousActionable steps place.index).bind (steps[·]?) with
        | none => exact .error _
        | some target =>
          exact .ok (by simp [Transition.anonymous, draft, hstartedAt, hcompletedAt, hnow])

/-- A request is planned from the course and the time. -/
theorem plan_anonymous (hcourse : cursor.course = cursor'.course) (hnow : stamp.now = stamp'.now)
    (request : Request) :
    Agree (fun t t' => t.anonymous = t'.anonymous)
      ((request.plan steps projectId cursor stamp).mapError Error.kind)
      ((request.plan steps projectId cursor' stamp').mapError Error.kind) := by
  cases request with
  | complete agent notes =>
    rw [Request.plan, Request.plan]
    by_cases hempty : steps.isEmpty
    · rw [if_pos hempty, if_pos hempty]
      exact .error _
    · rw [if_neg hempty, if_neg hempty]
      exact planCompletion_anonymous hcourse hnow agent notes
  | reject agent reason => exact planRejection_anonymous hcourse hnow agent (Text.trim reason)

/-- The answer to a request is read off its plan, but for the issue. -/
theorem reply_anonymous {issue issue' : Issue} {t t' : Transition}
    (h : t.anonymous = t'.anonymous) (request : Request) :
    (request.reply issue t).anonymous = (request.reply issue' t').anonymous := by
  have hfrom : t.fromStepId = t'.fromStepId := congrArg (·.fromStepId) h
  have hupdate : t.update = t'.update := congrArg (·.update) h
  have houtcome : t.outcome = t'.outcome := congrArg (·.outcome) h
  cases request with
  | complete agent notes =>
    simp [Request.reply, Reply.anonymous, Database.completionOf, Transition.completesPipeline,
      Transition.parkedForHumanReview, hfrom, hupdate, houtcome]
  | reject agent reason =>
    simp [Request.reply, Reply.anonymous, rejectionOf, hfrom, hupdate]

end Plans

/-! ### Times -/

/-- The times of a course are those of a history: it started with the first entry, and if it is
completed, it was with the last. -/
structure Dated (entries : List LedgerEntry) (course : Course) : Prop where
  /-- Without an entry, the course is blank. -/
  blank : entries = [] → course = .blank
  /-- The time of the first transition is that of the first entry. -/
  startedAt : course.startedAt = entries.head?.map (·.startedAt)
  /-- The time of completion, if there is one, is that of the last entry. -/
  completedAt : ∀ time, course.completedAt = some time →
    course.stepId = none ∧ entries.getLast?.map (·.completedAt) = some time

theorem dated_nil : Dated [] .blank := ⟨fun _ => rfl, rfl, nofun⟩

section Dates

variable {steps : List Step} {cursor : Cursor} {stamp : Stamp} {t : Transition}
  {entries : List LedgerEntry}

/-- An issue that stands at a place is not completed. -/
theorem Dated.completedAt_eq_none (h : Dated entries cursor.course) {place : Place}
    (hplace : ensureStarted steps cursor = .ok place) : cursor.completedAt = none := by
  cases hcompleted : cursor.completedAt with
  | none => rfl
  | some time =>
    obtain ⟨hpointer, -⟩ := h.completedAt time hcompleted
    have hpointer : cursor.stepId = none := hpointer
    simp [ensureStarted, Cursor.position, hpointer, hcompleted] at hplace

/-- A transition keeps the times those of the history. -/
theorem Dated.concat (h : Dated entries cursor.course) (hplanned : Planned steps cursor stamp t)
    (seq : Int) :
    Dated (entries ++ [t.entry.entry seq]) (cursor.course.apply t.update) := by
  obtain ⟨place, hplace, -⟩ := hplanned.exists_place
  have hcompleted : cursor.course.completedAt = none := h.completedAt_eq_none hplace
  have hstarted : cursor.startedAt = cursor.course.startedAt := rfl
  refine ⟨by simp, ?_, ?_⟩
  · -- The first entry stays the first; if there is none, this one is, and it is a completion.
    show cursor.course.startedAt.or t.update.startedAt = _
    rw [List.head?_append, Option.map_or, ← h.startedAt]
    cases hplanned with
    | advanced | held | finished =>
      show _ = cursor.course.startedAt.or (some stamp.now)
      rw [hstarted]
      cases cursor.course.startedAt <;> rfl
    | rejected hpointer =>
      have hne : entries ≠ [] := by
        intro hnil
        have hblank : cursor.stepId = none := congrArg Course.stepId (h.blank hnil)
        rw [hpointer] at hblank
        cases hblank
      obtain ⟨first, rest, rfl⟩ := List.exists_cons_of_ne_nil hne
      rw [hstarted, h.startedAt]
      rfl
  · -- No time is written over, so only the last step of a catalog sets one.
    show ∀ time, cursor.course.completedAt.or t.update.completedAt = some time → _
    rw [hcompleted, Option.none_or, List.getLast?_concat]
    have hnone : cursor.completedAt = none := hcompleted
    cases hplanned with
    | advanced | held | rejected => simp [hnone]
    | finished => exact fun time htime => ⟨rfl, htime⟩

end Dates

/-! ### Two issues side by side -/

/-- A request that is made on two issues at the same time. -/
structure Trial where
  /-- The request. -/
  request : Request
  /-- Who makes it on the one issue. -/
  author : Author
  /-- Who makes it on the other. -/
  author' : Author
  /-- The clock shows the same. -/
  sameTime : author.stamp.now = author'.stamp.now

namespace Trial

/-- The call on the one issue. -/
def onOne (text : String) (trial : Trial) : Author × Operation :=
  (trial.author, trial.request.on text)

/-- The call on the other issue. -/
def onOther (text : String) (trial : Trial) : Author × Operation :=
  (trial.author', trial.request.on text)

end Trial

namespace Database

variable {db db' base reset created : Database} {author author' creator : Author}
  {issue fresh : Issue} {text text' title : String} {description : Option String}
  {t t' : Transition} {reply : Reply} {trials : List Trial}

/-- A text names an issue, as far as identifier and project tell. -/
def Serves (db : Database) (text : String) (issue : Issue) : Prop :=
  ∃ current, db.issue text = .ok current ∧ current.id = issue.id ∧
    current.projectId = issue.projectId

/-- A transition does not change which issue a text names. -/
theorem serves_transitioned {current : Issue} (hdb : db.Consistent)
    (hafter : (db.transitioned author current t).Consistent)
    (hcurrent : db.issue text = .ok current) (hid : current.id = issue.id)
    (hproject : current.projectId = issue.projectId) :
    (db.transitioned author current t).Serves text issue := by
  refine ⟨_, issue_transitioned hdb hafter hcurrent, ?_, ?_⟩
  · rw [Issue.marked_id, hid]
  · rw [Issue.marked_projectId, hproject]

/-- The identifiers that trials bring are as new in the one run as in the other. -/
structure EntriesMatch (db : Database) (trials : List Trial) : Prop where
  /-- They are taken in both runs or in none. -/
  taken : ∀ trial ∈ trials,
    db.hasEntry trial.author.entryId = db.hasEntry trial.author'.entryId
  /-- They repeat in both runs or in none. -/
  repeated : ∀ trial ∈ trials, ∀ other ∈ trials,
    trial.author.entryId = other.author.entryId ↔ trial.author'.entryId = other.author'.entryId

/-- One database holds about an issue what the other one holds about another issue, the past of the
first issue aside. -/
structure Twins (past : Database) (text text' : String) (issue fresh : Issue) (trials : List Trial)
    (db db' : Database) : Prop where
  /-- The one database is consistent. -/
  consistent : db.Consistent
  /-- So is the other. -/
  consistent' : db'.Consistent
  /-- The one issue is named by its text. -/
  serves : db.Serves text issue
  /-- The other issue is named by its own. -/
  serves' : db'.Serves text' fresh
  /-- There are the same steps. -/
  steps : db.steps = db'.steps
  /-- The same kind of write is blocked. -/
  blocked : db.blocked = db'.blocked
  /-- Both issues are equally far. -/
  course : db.courseOf issue.id = db'.courseOf fresh.id
  /-- The gate's signal is the one of the past. -/
  gate : db.gateOf issue.id = past.gateOf issue.id
  /-- The one history is the past one, with the entries of the other after it. -/
  history : ∃ entries, db.history issue.id = past.history issue.id ++ entries ∧
    entries.map LedgerEntry.anonymous = (db'.history fresh.id).map LedgerEntry.anonymous ∧
    Dated entries (db.courseOf issue.id)
  /-- The identifiers that trials bring are taken in both or in none. -/
  taken : ∀ trial ∈ trials,
    db.hasEntry trial.author.entryId = db'.hasEntry trial.author'.entryId

namespace Twins

variable {past : Database} {current current' : Issue} {trial : Trial}

/-- A trial that both databases take moves both issues alike. -/
theorem transitioned (h : Twins past text text' issue fresh trials db db')
    (hmatch : past.EntriesMatch trials) (htrial : trial ∈ trials)
    (hcurrent : db.issue text = .ok current) (hid : current.id = issue.id)
    (hproject : current.projectId = issue.projectId)
    (hcurrent' : db'.issue text' = .ok current') (hid' : current'.id = fresh.id)
    (hproject' : current'.projectId = fresh.projectId) {steps : List Step}
    (hplanned : Planned steps (db.cursorFor current trial.author.stamp.now) trial.author.stamp t)
    (hplanned' : Planned steps (db'.cursorFor current' trial.author'.stamp.now)
      trial.author'.stamp t')
    (hsame : t.anonymous = t'.anonymous) (haccepts : db.Accepts t) (haccepts' : db'.Accepts t') :
    Twins past text text' issue fresh trials (db.transitioned trial.author current t)
      (db'.transitioned trial.author' current' t') := by
  have hentry : t.entry.issueId = current.id := hplanned.entry_issueId.trans cursorFor_issueId
  have hentry' : t'.entry.issueId = current'.id := hplanned'.entry_issueId.trans cursorFor_issueId
  have hafter := h.consistent.transitioned trial.author
    (storedIssue?_of_issue_eq_ok h.consistent hcurrent) hentry haccepts.fresh
  have hafter' := h.consistent'.transitioned trial.author'
    (storedIssue?_of_issue_eq_ok h.consistent' hcurrent') hentry' haccepts'.fresh
  have hupdate : t.update = t'.update := congrArg (·.update) hsame
  refine ⟨hafter, hafter', serves_transitioned h.consistent hafter hcurrent hid hproject,
    serves_transitioned h.consistent' hafter' hcurrent' hid' hproject', h.steps, h.blocked, ?_, ?_,
    ?_, ?_⟩
  · rw [courseOf_transitioned, courseOf_transitioned, if_pos hid.symm, if_pos hid'.symm, h.course,
      hupdate]
  · rw [gateOf_transitioned, h.gate]
  · obtain ⟨entries, hhistory, hentries, hdated⟩ := h.history
    refine ⟨entries ++ [t.entry.entry (db.lastSeq + 1)], ?_, ?_, ?_⟩
    · rw [history_transitioned, if_pos (hentry.trans hid), hhistory, List.append_assoc]
    · rw [history_transitioned, if_pos (hentry'.trans hid'), List.map_append, List.map_append,
        hentries]
      have hdraft : t.anonymous.entry.entry 0 = t'.anonymous.entry.entry 0 := by rw [hsame]
      exact congrArg (_ ++ [·]) hdraft
    · rw [courseOf_transitioned, if_pos hid.symm]
      have hcourse := course_cursorFor db current trial.author.stamp.now
      rw [hid] at hcourse
      rw [← hcourse] at hdated ⊢
      exact hdated.concat hplanned (db.lastSeq + 1)
  · intro other hother
    -- Both runs gain the identifier of the trial, and it repeats in both or in none.
    have hrepeated :
        (t.entry.id == other.author.entryId) = (t'.entry.id == other.author'.entryId) := by
      rw [Bool.eq_iff_iff, beq_iff_eq, beq_iff_eq, hplanned.entry_id, hplanned'.entry_id]
      exact hmatch.repeated trial htrial other hother
    rw [hasEntry_transitioned, hasEntry_transitioned, h.taken other hother, hrepeated]

/-- A trial is answered alike on both issues, and leaves them alike. -/
theorem perform (h : Twins past text text' issue fresh trials db db')
    (hproject : issue.projectId = fresh.projectId) (hmatch : past.EntriesMatch trials)
    (htrial : trial ∈ trials) :
    Agree
      (fun r r' => r.1.anonymous = r'.1.anonymous ∧
        Twins past text text' issue fresh trials r.2 r'.2)
      ((db.perform trial.author (trial.request.on text)).mapError Error.kind)
      ((db'.perform trial.author' (trial.request.on text')).mapError Error.kind) := by
  obtain ⟨current, hcurrent, hid, hcurrentProject⟩ := h.serves
  obtain ⟨current', hcurrent', hid', hcurrentProject'⟩ := h.serves'
  rw [perform_request h.consistent, perform_request h.consistent', hcurrent, hcurrent',
    mapError_bind (x := trial.request.check), mapError_bind (x := trial.request.check)]
  refine Agree.bind_same fun _ => ?_
  show Agree _ ((db.fulfil ..).mapError _) ((db'.fulfil ..).mapError _)
  -- Both requests are planned from the same catalog, the same course and the same time.
  have hcatalog : db'.storedCatalog current'.projectId = db.storedCatalog current.projectId := by
    rw [storedCatalog, storedCatalog, catalogRows, catalogRows, h.steps, hcurrentProject,
      hcurrentProject', hproject]
  have hsameProject : current'.projectId = current.projectId := by
    rw [hcurrentProject, hcurrentProject', hproject]
  have hcourse : (db.cursorFor current trial.author.stamp.now).course =
      (db'.cursorFor current' trial.author'.stamp.now).course := by
    rw [course_cursorFor, course_cursorFor, hid, hid', h.course]
  rw [fulfil, fulfil, hcatalog, hsameProject, mapError_bind, mapError_bind]
  refine (plan_anonymous hcourse trial.sameTime trial.request).and_eq.bind ?_
  rintro t t' ⟨hsame, hplan, hplan'⟩
  have hplanned := Request.planned_of_plan (mapError_eq_ok_iff.1 hplan)
  have hplanned' := Request.planned_of_plan (mapError_eq_ok_iff.1 hplan')
  have hrefusal : db.refusal? t = db'.refusal? t' := by
    refine refusal?_congr h.blocked ?_ (congrArg (·.workStatus) hsame)
    rw [hplanned.entry_id, hplanned'.entry_id]
    exact h.taken trial htrial
  unfold transit
  cases hrefused : db.refusal? t with
  | some fault =>
    rw [← hrefusal, hrefused]
    exact .error _
  | none =>
    have hrefused' : db'.refusal? t' = none := hrefusal ▸ hrefused
    rw [hrefused']
    exact .ok ⟨reply_anonymous hsame trial.request,
      h.transitioned hmatch htrial hcurrent hid hcurrentProject hcurrent' hid' hcurrentProject'
        hplanned hplanned' hsame (refusal?_eq_none_iff.1 hrefused)
        (refusal?_eq_none_iff.1 hrefused')⟩

/-- What is answered to a trial, and what is left after it. -/
theorem after (h : Twins past text text' issue fresh trials db db')
    (hproject : issue.projectId = fresh.projectId) (hmatch : past.EntriesMatch trials)
    (htrial : trial ∈ trials) :
    outcomeOf ((db.perform trial.author (trial.request.on text)).map (·.1)) =
        outcomeOf ((db'.perform trial.author' (trial.request.on text')).map (·.1)) ∧
      Twins past text text' issue fresh trials (db.after trial.author (trial.request.on text))
        (db'.after trial.author' (trial.request.on text')) := by
  -- The answers agree, and so do the databases, or else both calls fail alike.
  have hagree := h.perform hproject hmatch htrial
  unfold Database.after outcomeOf
  generalize db.perform trial.author (trial.request.on text) = x at hagree ⊢
  generalize db'.perform trial.author' (trial.request.on text') = y at hagree ⊢
  cases x with
  | ok r =>
    cases y with
    | ok r' =>
      cases hagree with
      | ok hok => exact ⟨congrArg Except.ok hok.1, hok.2⟩
    | error e' => cases hagree
  | error e =>
    cases y with
    | ok r' => cases hagree
    | error e' =>
      have hkind : e.kind = e'.kind := hagree.eq_of_error
      exact ⟨congrArg Except.error hkind, h⟩

/-- A run of trials is answered alike on both issues, and leaves them alike. -/
theorem run (h : Twins past text text' issue fresh trials db db')
    (hproject : issue.projectId = fresh.projectId) (hmatch : past.EntriesMatch trials)
    {made : List Trial} (hmade : ∀ trial ∈ made, trial ∈ trials) :
    (db.run (made.map (Trial.onOne text))).1.map outcomeOf =
        (db'.run (made.map (Trial.onOther text'))).1.map outcomeOf ∧
      Twins past text text' issue fresh trials (db.run (made.map (Trial.onOne text))).2
        (db'.run (made.map (Trial.onOther text'))).2 := by
  -- After each trial both issues are twins again, with the same trials ahead.
  induction made generalizing db db' with
  | nil => exact ⟨rfl, h⟩
  | cons trial made ih =>
    obtain ⟨htrial, hrest⟩ := List.forall_mem_cons.1 hmade
    obtain ⟨hanswer, hafter⟩ := h.after hproject hmatch htrial
    obtain ⟨hanswers, hfinal⟩ := ih hafter hrest
    exact ⟨congrArg₂ List.cons hanswer hanswers, hfinal⟩

end Twins

/-! ### After a reset -/

/-- The database after a reset of an issue. -/
def afterReset (db : Database) (author : Author) (issue : Issue) : Database :=
  (db.withoutPlace issue.id author.stamp.now).noting author [resetEvent issue]

/-- Neither of the two writes of a reset is blocked. -/
structure AllowsReset (db : Database) : Prop where
  /-- Cursors can be cleared. -/
  clear : db.blocked ≠ some .cursorClear
  /-- Audit events can be inserted. -/
  event : db.blocked ≠ some .eventInsert

/-- A reset that is not blocked is carried out. -/
theorem perform_resetPipeline_ok (hissue : db.issue text = .ok issue) (hallows : db.AllowsReset)
    (author : Author) :
    db.perform author (.resetPipeline text) = .ok (.done, db.afterReset author issue) := by
  rw [perform_resetPipeline, hissue]
  exact if_neg (not_or.2 ⟨hallows.clear, hallows.event⟩)

/-- A database with the date of an issue's cursor renewed. -/
def touchCursor (db : Database) (issueId : String) (now : Int) : Database :=
  { db with
    cursors := Row.changeAt Cursor.issueId issueId
      (Row.modify · fun cursor => { cursor with updatedAt := now }) db.cursors }

/-- A second reset finds nothing to clear. -/
theorem afterReset_afterReset (db : Database) (author author' : Author) (issue : Issue) :
    (db.afterReset author issue).afterReset author' issue =
      ((db.afterReset author issue).touchCursor issue.id author'.stamp.now).noting author'
        [resetEvent issue] := by
  have hcursors : ((db.afterReset author issue).withoutPlace issue.id author'.stamp.now).cursors =
      ((db.afterReset author issue).touchCursor issue.id author'.stamp.now).cursors := by
    show List.map _ (List.map _ db.cursors) = Row.changeAt _ _ _ (List.map _ db.cursors)
    rw [Row.changeAt, List.map_map, List.map_map]
    refine List.map_congr_left fun row _ => ?_
    by_cases hrow : row.record.issueId = issue.id <;> simp [hrow, Row.modify]
  exact congrArg (fun cursors =>
    ({ db.afterReset author issue with cursors := cursors } : Database).noting author'
      [resetEvent issue]) hcursors

/-- After a reset, an issue fares as a new one: what is told about trials made on both. -/
structure FaresAsNew (db reset created : Database) (text text' : String) (issue fresh : Issue)
    (trials : List Trial) : Prop where
  /-- The trials are answered alike. -/
  answers : (reset.run (trials.map (Trial.onOne text))).1.map outcomeOf =
    (created.run (trials.map (Trial.onOther text'))).1.map outcomeOf
  /-- After each of them, both issues are at the same position. -/
  positions : ∀ count,
    (reset.run ((trials.take count).map (Trial.onOne text))).2.positionOf issue.id =
      (created.run ((trials.take count).map (Trial.onOther text'))).2.positionOf fresh.id
  /-- The entries of the new issue come after the history from before, with their times. -/
  history : ∃ entries,
    (reset.run (trials.map (Trial.onOne text))).2.history issue.id =
        db.history issue.id ++ entries ∧
      entries.map LedgerEntry.anonymous =
        ((created.run (trials.map (Trial.onOther text'))).2.history fresh.id).map
          LedgerEntry.anonymous ∧
      Dated entries ((reset.run (trials.map (Trial.onOne text))).2.courseOf issue.id)
  /-- The gate's signal is kept. -/
  gate : (reset.run (trials.map (Trial.onOne text))).2.gateOf issue.id = db.gateOf issue.id

/-- A new issue and a reset one of the same project are twins. -/
theorem twins_of_reset (hdb : db.Consistent) (hissue : db.issue text = .ok issue)
    (hbase : base = db ∨ base = db.afterReset author issue)
    (hcreate : base.perform creator (.createIssue issue.projectId title description) =
      .ok (.issue fresh, created))
    (hfresh : created.issue text' = .ok fresh) (hmatch : db.EntriesMatch trials) :
    Twins db text text' issue fresh trials (db.afterReset author issue) created ∧
      issue.projectId = fresh.projectId := by
  have hreset : (db.afterReset author issue).Consistent := (hdb.withoutPlace _ _).noting _ _
  -- The reset changes nothing that a new issue is made from.
  have hbaseConsistent : base.Consistent := by
    rcases hbase with rfl | rfl
    · exact hdb
    · exact hreset
  have hsame : base.steps = db.steps ∧ base.blocked = db.blocked ∧ base.ledger = db.ledger := by
    rcases hbase with rfl | rfl <;> exact ⟨rfl, rfl, rfl⟩
  obtain ⟨hsteps, hblocked, hledger⟩ := hsame
  have hcalled := called_of_perform hbaseConsistent rfl hcreate
  have hcreatedConsistent := hcalled.consistent hbaseConsistent
  cases hcalled with
  | @createIssue _ _ _ p _ hproject hcreated hid =>
    have hnew : base.storedIssue? fresh.id = none := Row.lookup_eq_none_iff.2 hid
    refine ⟨⟨hreset, hcreatedConsistent, ⟨issue, hissue, rfl, rfl⟩, ⟨fresh, hfresh, rfl, rfl⟩,
      hsteps.symm, hblocked.symm, ?_, ?_, ⟨[], ?_, ?_, ?_⟩, ?_⟩, ?_⟩
    · show (db.withoutPlace issue.id author.stamp.now).courseOf issue.id = base.courseOf fresh.id
      rw [courseOf_clearCursor, if_pos rfl, courseOf, storedCursor?_eq_none hbaseConsistent hnew]
      rfl
    · exact gateOf_clearCursor db issue.id author.stamp.now issue.id
    · exact (List.append_nil _).symm
    · show _ = (base.history fresh.id).map _
      rw [history_eq_nil hbaseConsistent hnew]
    · show Dated [] ((db.withoutPlace issue.id author.stamp.now).courseOf issue.id)
      rw [courseOf_clearCursor, if_pos rfl]
      exact dated_nil
    · intro trial htrial
      show db.hasEntry trial.author.entryId = base.hasEntry trial.author'.entryId
      rw [hmatch.taken trial htrial, hasEntry, hasEntry, hledger]
    · rw [hcreated, ← (project_eq_ok hproject).2, Issue.create]

/-- A reset issue behaves like a fresh one. Whatever happened to it before, requests on it and on
an issue newly created in its project, before the reset or after it, are answered alike and lead
through the same positions; its history goes on with the entries of the new one, the times of its
course are those of these entries, and the gate's signal is kept. A second reset in a row renews the
date of the cursor and notes an event. -/
theorem freshStart_of_reset (hdb : db.Consistent) (hissue : db.issue text = .ok issue)
    (hallows : db.AllowsReset) (author : Author) :
    db.perform author (.resetPipeline text) = .ok (.done, db.afterReset author issue) ∧
      (∀ base created creator title description fresh text' trials,
        base = db ∨ base = db.afterReset author issue →
        base.perform creator (.createIssue issue.projectId title description) =
          .ok (.issue fresh, created) →
        created.issue text' = .ok fresh → db.EntriesMatch trials →
        FaresAsNew db (db.afterReset author issue) created text text' issue fresh trials) ∧
      ∀ author', (db.afterReset author issue).perform author' (.resetPipeline text) =
        .ok (.done, ((db.afterReset author issue).touchCursor issue.id author'.stamp.now).noting
          author' [resetEvent issue]) := by
  refine ⟨perform_resetPipeline_ok hissue hallows author, ?_, fun author' => ?_⟩
  · -- The issue that was reset and the new one are twins, and stay so in every trial.
    intro base created creator title description fresh text' trials hbase hcreate hfresh hmatch
    obtain ⟨htwins, hprojects⟩ := twins_of_reset hdb hissue hbase hcreate hfresh hmatch
    obtain ⟨hanswers, hafter⟩ := htwins.run hprojects hmatch fun trial htrial => htrial
    refine ⟨hanswers, fun count => ?_, hafter.history, hafter.gate⟩
    have hmade : ∀ trial ∈ trials.take count, trial ∈ trials := fun trial => List.mem_of_mem_take
    rw [positionOf_eq_courseOf, positionOf_eq_courseOf,
      (htwins.run hprojects hmatch hmade).2.course]
  · -- Neither the issue nor the block is touched by the first reset.
    have hissue' : (db.afterReset author issue).issue text = .ok issue := hissue
    have hallows' : (db.afterReset author issue).AllowsReset := ⟨hallows.clear, hallows.event⟩
    rw [← afterReset_afterReset]
    exact perform_resetPipeline_ok hissue' hallows' author'

/-- An issue that was moved to a step, and then this step was removed. -/
def strandedSample : Database where
  projects := [⟨"docs", "Docs", "home", none, some "DOCS", 2, 1, 4⟩]
  issues := [{ record :=
    ⟨"issue_00000004-400", some "DOCS-1", "docs", "first", none, .inProgress, 4, 5⟩ }]
  steps := [{ record := ⟨"step_00000002-400", "docs", 1, "draft", .agentWork, none, true, 2, 2⟩ }]
  cursors := [{ record :=
    ⟨"issue_00000004-400", "docs", some "step_00000003-400", some 5, none, {}, 5⟩ }]
  ledger := [⟨1, "hist_00000005-400", "issue_00000004-400", "step_00000002-400", some "bot", 5, 5,
    .completed, none⟩]
  lastSeq := 1
  uniqueShortIds := true

/-- The stranded issue can be completed no more, but after a reset it fares as a new one: the only
step is completed, and a second completion and a rejection fail. -/
theorem freshStart_strandedSample :
    let author (n : Nat) : Author := ⟨"ada", ⟨n, n⟩⟩
    let trials : List Trial :=
      [⟨.complete none (some "at last"), author 8, ⟨"bob", ⟨8, 18⟩⟩, rfl⟩,
        ⟨.complete none none, author 9, ⟨"bob", ⟨9, 19⟩⟩, rfl⟩,
        ⟨.reject none "late", author 10, ⟨"bob", ⟨10, 20⟩⟩, rfl⟩]
    (strandedSample.perform (author 6) (.complete "DOCS-1" none none)).toOption = none ∧
      ∃ issue fresh created, strandedSample.issue "DOCS-1" = .ok issue ∧
        strandedSample.perform (author 7) (.createIssue issue.projectId "second" none) =
          .ok (.issue fresh, created) ∧
        FaresAsNew strandedSample (strandedSample.afterReset (author 6) issue) created "DOCS-1"
          "DOCS-2" issue fresh trials ∧
        ((strandedSample.afterReset (author 6) issue).run
            (trials.map (Trial.onOne "DOCS-1"))).1.map outcomeOf =
          [.ok (.completion ⟨"", "step_00000002-400", none, true, false⟩), .error .conflict,
            .error .validation] := by
  intro author trials
  have hconsistent : strandedSample.Consistent := by
    constructor <;> decide +kernel
  let issue : Issue :=
    ⟨"issue_00000004-400", some "DOCS-1", "docs", "first", none, .inProgress, 4, 5⟩
  let fresh : Issue := ⟨"issue_00000007-400", some "DOCS-2", "docs", "second", none, .todo, 7, 7⟩
  have hissue : strandedSample.issue "DOCS-1" = .ok issue := by decide +kernel
  -- It does not matter that the issue cannot be worked on before the reset.
  obtain ⟨-, hfares, -⟩ := freshStart_of_reset hconsistent hissue ⟨by decide, by decide⟩ (author 6)
  have hcreate : strandedSample.perform (author 7) (.createIssue "docs" "second" none) =
      .ok (.issue fresh, strandedSample.after (author 7) (.createIssue "docs" "second" none)) := by
    decide +kernel
  refine ⟨by decide +kernel, issue, fresh, _, hissue, hcreate, ?_, by decide +kernel⟩
  exact hfares strandedSample _ (author 7) "second" none fresh "DOCS-2" trials (.inl rfl) hcreate
    (by decide +kernel) ⟨by decide +kernel, by decide +kernel⟩

end Database

end ReviewPipeline
