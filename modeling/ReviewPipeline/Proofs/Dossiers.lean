import ReviewPipeline.Proofs.Agreement
import ReviewPipeline.Proofs.AuditTrail
import ReviewPipeline.Proofs.Requests

/-!
# Dossiers

What a database holds about one issue is its dossier: the issue, its cursor, its history and the
events about it, the last two without their numbers. What it holds otherwise, and no operation on a
single issue changes, are the commons: the projects, the steps, which issues there are under which
identifiers, the events about other things, and the block on writes.

An errand is what can be asked about a single issue: a request to move it, a signal of the gate, or
a reset. It reads the commons and the dossier of its issue, and it writes that dossier and no other.
The one thing besides is whether the identifier of a new ledger entry is taken.

## Main results

* `perform_errand`: the errands in one closed form;
* `confined_of_deal`: an errand changes the dossier of its issue only;
* `deal_agree`: what it answers and writes is determined by the commons and that dossier.
-/

namespace ReviewPipeline

/-- The text by which an operation on a single issue names the issue. -/
def Operation.subject? : Operation → Option String
  | .complete text _ _ | .reject text _ _ | .recordGate text _ _ | .resetPipeline text => some text
  | _ => none

/-- What can be asked about a single issue. -/
inductive Errand where
  /-- Move the issue. -/
  | request (request : Request)
  /-- Record a signal of the gate. -/
  | gate (status : GateStatus) (error : Option String)
  /-- Clear the cursor. -/
  | reset
  deriving DecidableEq, Repr

namespace Errand

/-- The operation that runs an errand on the issue with an identifier. -/
def on (text : String) : Errand → Operation
  | request r => r.on text
  | gate status error => .recordGate text status error
  | reset => .resetPipeline text

/-- Whether an errand can be run at all. -/
def check : Errand → Except Error Unit
  | request r => r.check
  | gate _ _ | reset => .ok ()

/-- An errand is a call, whatever text names its issue. -/
@[simp]
theorem isCall_on (errand : Errand) (text : String) : (errand.on text).isCall = true := by
  cases errand with
  | request r => exact r.isCall_on text
  | gate | reset => rfl

end Errand

/-- An operation on a single issue is an errand on that issue. -/
theorem Operation.exists_errand {op : Operation} {text : String} (h : op.subject? = some text) :
    ∃ errand : Errand, op = errand.on text := by
  cases op with
  | complete text' agent notes =>
    cases h
    exact ⟨.request (.complete agent notes), rfl⟩
  | reject text' agent reason =>
    cases h
    exact ⟨.request (.reject agent reason), rfl⟩
  | recordGate text' status error =>
    cases h
    exact ⟨.gate status error, rfl⟩
  | resetPipeline text' =>
    cases h
    exact ⟨.reset, rfl⟩
  | _ => cases h

/-- The full and the short identifier of an issue. -/
def Issue.identifiers (issue : Issue) : String × Option String := (issue.id, issue.shortId)

/-- An entry of the ledger apart from its number. -/
def LedgerEntry.unnumbered (e : LedgerEntry) : LedgerEntry := { e with seq := 0 }

/-- An event apart from its number. -/
def Event.unnumbered (e : Event) : Event := { e with id := 0 }

/-- What a database holds about one issue. -/
@[ext]
structure Dossier where
  /-- The issue. -/
  issue : Option Issue
  /-- Its cursor. -/
  cursor : Option Cursor
  /-- Its history, without the numbers of the entries. -/
  history : List LedgerEntry
  /-- The events about it, without their numbers. -/
  events : List (Row Event)

namespace Dossier

/-- A dossier after more events. -/
def noted (d : Dossier) (events : List (Row Event)) : Dossier :=
  { d with events := d.events ++ events }

/-- A dossier after its cursor is written. -/
def withCursor (d : Dossier) (cursor : Option Cursor) : Dossier := { d with cursor := cursor }

/-- A dossier after a transition of its issue, the events of it aside. -/
def moved (d : Dossier) (author : Author) (issue : Issue) (t : Transition) : Dossier :=
  { d with
    issue := d.issue.map fun issue => issue.marked t.workStatus author.stamp.now
    cursor := some ((d.cursor.getD (.notStarted issue.id issue.projectId author.stamp.now)).apply
      t.update author.stamp.now)
    history := d.history ++ [t.entry.entry 0] }

end Dossier

/-- What no operation on a single issue changes. -/
@[ext]
structure Commons where
  /-- The projects. -/
  projects : List Project
  /-- The steps. -/
  steps : List (Row Step)
  /-- The full and short identifiers of the issues. -/
  directory : List (String × Option String)
  /-- The events that are not about issues. -/
  otherEvents : List (Row Event)
  /-- The versions of the schema. -/
  versions : List (String × Int)
  /-- Whether short identifiers are kept unique. -/
  uniqueShortIds : Bool
  /-- The kind of write that is blocked. -/
  blocked : Option WriteKind

/-- The identifier that an author brings for an entry of the ledger. -/
def Author.entryId (author : Author) : String := author.stamp.identifier "hist"

/-- Whatever is planned is recorded under the identifier that its author brings. -/
theorem Progression.Planned.entry_id {steps : List Step} {cursor : Cursor} {author : Author}
    {t : Transition} (h : Planned steps cursor author.stamp t) : t.entry.id = author.entryId := by
  cases h <;> rfl

namespace Database

variable {db db' next : Database} {author : Author} {op : Operation} {text id : String}
  {issue : Issue} {t : Transition} {drafts : List EventDraft} {reply : Reply}

/-- The full and short identifiers of the issues. -/
def directory (db : Database) : List (String × Option String) :=
  db.issues.map fun row => row.record.identifiers

/-- The rows of the events about an issue. -/
def eventsOn (db : Database) (id : String) : List (Row Event) :=
  db.events.filter fun row => row.record.entityType == "issue" && row.record.entityId == id

/-- What the database holds about an issue. -/
def dossier (db : Database) (id : String) : Dossier where
  issue := db.storedIssue? id
  cursor := db.storedCursor? id
  history := (db.history id).map LedgerEntry.unnumbered
  events := (db.eventsOn id).map fun row => row.modify Event.unnumbered

/-- What the database holds otherwise. -/
def commons (db : Database) : Commons where
  projects := db.projects
  steps := db.steps
  directory := db.directory
  otherEvents := db.events.filter fun row => row.record.entityType != "issue"
  versions := db.versions
  uniqueShortIds := db.uniqueShortIds
  blocked := db.blocked

/-- Whether an entry of the ledger has this identifier. -/
def hasEntry (db : Database) (id : String) : Bool :=
  db.ledger.any fun entry => entry.id == id

/-! ### Naming an issue -/

/-- The full identifier of the issue that a text names, according to a directory. -/
def resolve (directory : List (String × Option String)) (text : String) : Except Error String :=
  if directory.any (·.1 == text) then .ok text
  else
    match directory.filter (·.2 == some text) with
    | [] => .error (.issueNotFound text)
    | [entry] => .ok entry.1
    | _ => .error (.ambiguousShortId text)

/-- Which issue a text names is a matter of the directory. -/
theorem issue_map_id (hdb : db.Consistent) (text : String) :
    (db.issue text).map (·.id) = resolve db.directory text := by
  have hfull : db.directory.any (·.1 == text) = (db.storedIssue? text).isSome := by
    rw [← Bool.eq_iff_iff.2 hasIssue_iff, directory, List.any_map]
    rfl
  have hshort : db.directory.filter (·.2 == some text) =
      (db.withShortId text).map fun row => row.record.identifiers := by
    rw [directory, List.filter_map]
    rfl
  rw [issue_eq hdb, resolve, hfull, hshort]
  cases hstored : db.storedIssue? text with
  | some issue => exact congrArg Except.ok (id_of_storedIssue? hstored)
  | none => rcases db.withShortId text with _ | ⟨row, _ | ⟨row', rows⟩⟩ <;> rfl

/-- A text that names an issue names it wherever the directory is the same, and is looked up to
whatever is stored there. -/
theorem issue_eq_ok_of_directory (hdb : db.Consistent) (hdb' : db'.Consistent)
    (hdirectory : db.directory = db'.directory) (hissue : db.issue text = .ok issue) :
    ∃ issue', db'.issue text = .ok issue' ∧ db'.storedIssue? issue.id = some issue' := by
  have hresolve := issue_map_id hdb text
  rw [hissue, hdirectory, ← issue_map_id hdb'] at hresolve
  obtain ⟨issue', hissue', hid⟩ := map_eq_ok_iff.1 hresolve.symm
  have hid : issue'.id = issue.id := hid
  exact ⟨issue', hissue', hid ▸ storedIssue?_of_issue_eq_ok hdb' hissue'⟩

/-- A text that names no issue names none wherever the directory is the same. -/
theorem issue_eq_error_of_directory (hdb : db.Consistent) (hdb' : db'.Consistent)
    (hdirectory : db.directory = db'.directory) {e : Error} (hissue : db.issue text = .error e) :
    db'.issue text = .error e := by
  have hresolve := issue_map_id hdb text
  rw [hissue, hdirectory, ← issue_map_id hdb'] at hresolve
  exact map_eq_error_iff.1 hresolve.symm

/-! ### Events -/

/-- What drafts become in the audit log, apart from the numbers. -/
def unnumberedRows (author : Author) (drafts : List EventDraft) : List (Row Event) :=
  drafts.map fun draft => { record := draft.event 0 author.actor author.stamp.now }

/-- Apart from their numbers, the rows of noted events depend on the drafts alone. -/
theorem eventRows_unnumbered (author : Author) (last : Int) (drafts : List EventDraft) :
    (eventRows author last drafts).map (fun row => row.modify Event.unnumbered) =
      unnumberedRows author drafts := by
  induction drafts generalizing last with
  | nil => rfl
  | cons draft drafts ih =>
    rw [eventRows, List.map_cons, ih]
    rfl

/-- Events about an issue are added to its dossier. -/
theorem dossier_noting (habout : ∀ draft ∈ drafts, draft.isAbout issue.id = true) (id : String) :
    (db.noting author drafts).dossier id =
      if id = issue.id then (db.dossier id).noted (unnumberedRows author drafts)
      else db.dossier id := by
  -- All the events are about the issue, so that they are in its dossier or in none.
  have hdrafts : ∀ draft ∈ drafts, ∀ n,
      ((draft.event n author.actor author.stamp.now).entityType == "issue" &&
        (draft.event n author.actor author.stamp.now).entityId == id) = (issue.id == id) := by
    intro draft hdraft n
    obtain ⟨htype, hid⟩ := about_of_isAbout (habout draft hdraft)
    simp [EventDraft.event, htype, hid]
  have hfilter := filter_eventRows_of_forall
    (p := fun row => row.record.entityType == "issue" && row.record.entityId == id) hdrafts
    db.lastEventId
  have hevents :
      ((db.noting author drafts).eventsOn id).map (fun row => row.modify Event.unnumbered) =
      (db.eventsOn id).map (fun row => row.modify Event.unnumbered) ++
        if id = issue.id then unnumberedRows author drafts else [] := by
    rw [eventsOn, noting, List.filter_append, hfilter, List.map_append]
    by_cases hid : id = issue.id
    · simp [hid, eventsOn, eventRows_unnumbered]
    · simp [hid, Ne.symm hid, eventsOn]
  by_cases hid : id = issue.id
  · rw [if_pos hid] at hevents ⊢
    exact Dossier.ext rfl rfl rfl hevents
  · rw [if_neg hid] at hevents ⊢
    exact Dossier.ext rfl rfl rfl (hevents.trans (List.append_nil _))

/-- Events about an issue leave the commons alone. -/
theorem commons_noting (habout : ∀ draft ∈ drafts, draft.isAbout issue.id = true) :
    (db.noting author drafts).commons = db.commons := by
  have hdrafts : ∀ draft ∈ drafts, ∀ n,
      ((draft.event n author.actor author.stamp.now).entityType != "issue") = false := by
    intro draft hdraft n
    simp [EventDraft.event, (about_of_isAbout (habout draft hdraft)).1]
  have hfilter := filter_eventRows_of_forall (p := fun row => row.record.entityType != "issue")
    hdrafts db.lastEventId
  have hothers : (db.noting author drafts).commons.otherEvents = db.commons.otherEvents := by
    show (db.events ++ _).filter _ = _
    rw [List.filter_append, hfilter]
    exact List.append_nil _
  exact Commons.ext rfl rfl rfl hothers rfl rfl rfl

/-! ### Writes -/

/-- A write of the cursor of an issue concerns its dossier. -/
theorem dossier_withCursors {cursors : List (Row Cursor)} {cursor : Option Cursor}
    (hcursors : ∀ id, Row.lookup Cursor.issueId id cursors =
      if id = issue.id then cursor else db.storedCursor? id) (id : String) :
    ({ db with cursors := cursors } : Database).dossier id =
      if id = issue.id then (db.dossier id).withCursor cursor else db.dossier id := by
  have hlookup : ({ db with cursors := cursors } : Database).storedCursor? id =
      if id = issue.id then cursor else db.storedCursor? id := hcursors id
  by_cases hid : id = issue.id
  · rw [if_pos hid] at hlookup ⊢
    exact Dossier.ext rfl hlookup rfl rfl
  · rw [if_neg hid] at hlookup ⊢
    exact Dossier.ext rfl hlookup rfl rfl

/-- A transition concerns the dossier of its issue. -/
theorem dossier_transitioned (hentry : t.entry.issueId = issue.id) (id : String) :
    (db.transitioned author issue t).dossier id =
      if id = issue.id then
        ((db.dossier id).moved author issue t).noted
          (unnumberedRows author (transitionEvents issue t))
      else db.dossier id := by
  let moved : Database := { db with
    issues := db.issuesAfter issue.id t.workStatus author.stamp.now
    cursors := db.cursorsAfter issue t.update author.stamp.now
    ledger := db.ledger ++ [t.entry.entry (db.lastSeq + 1)]
    lastSeq := db.lastSeq + 1 }
  -- The events aside, a transition is a new status, a new cursor and one more entry.
  have hissue : moved.storedIssue? id = _ := storedIssue?_transitioned db author issue t id
  have hcursor : moved.storedCursor? id = _ := storedCursor?_transitioned db author issue t id
  have hhistory : moved.history id = _ := history_transitioned db author issue t id
  show (moved.noting author (transitionEvents issue t)).dossier id = _
  rw [dossier_noting isAbout_transitionEvents]
  by_cases hid : id = issue.id
  · subst hid
    rw [if_pos rfl] at hissue hcursor ⊢
    rw [if_pos hentry] at hhistory
    rw [if_pos rfl]
    refine congrArg (Dossier.noted · _) (Dossier.ext hissue hcursor ?_ rfl)
    show (moved.history issue.id).map _ = _
    rw [hhistory, List.map_append]
    rfl
  · rw [if_neg hid] at hissue hcursor ⊢
    rw [hentry, if_neg (Ne.symm hid)] at hhistory
    rw [if_neg hid]
    exact Dossier.ext hissue hcursor (congrArg (List.map _) hhistory) rfl

/-- No transition changes the commons. -/
theorem commons_transitioned : (db.transitioned author issue t).commons = db.commons := by
  let moved : Database := { db with
    issues := db.issuesAfter issue.id t.workStatus author.stamp.now
    cursors := db.cursorsAfter issue t.update author.stamp.now
    ledger := db.ledger ++ [t.entry.entry (db.lastSeq + 1)]
    lastSeq := db.lastSeq + 1 }
  -- A new work status leaves the identifiers as they are.
  have hdirectory : moved.directory = db.directory := by
    show (db.issuesAfter issue.id t.workStatus author.stamp.now).map _ = _
    unfold issuesAfter
    cases t.workStatus with
    | none => rfl
    | some status =>
      exact Row.map_changeAt
        (g := fun issue => { issue with workStatus := status, updatedAt := author.stamp.now })
        (fun _ => rfl) fun _ => rfl
  calc (moved.noting author (transitionEvents issue t)).commons
      = moved.commons := commons_noting isAbout_transitionEvents
    _ = db.commons := Commons.ext rfl rfl hdirectory rfl rfl rfl rfl

/-! ### Errands -/

/-- Run an errand on an issue that was looked up. -/
def deal (db : Database) (author : Author) (issue : Issue) :
    Errand → Except Error (Reply × Database)
  | .request request =>
    db.fulfil author issue
      (request.plan (db.storedCatalog issue.projectId) issue.projectId
        (db.cursorFor issue author.stamp.now) author.stamp)
      fun t => request.reply issue t
  | .gate status error =>
    let gate : GateSnapshot := ⟨some status, error, some author.stamp.now⟩
    let cursor := db.cursorFor issue author.stamp.now
    if db.blocked = some .cursorPut ∨ db.blocked = some .eventInsert then
      .error (.database .blocked)
    else
      .ok (.cursor { cursor with gate := gate, updatedAt := author.stamp.now },
        { db with cursors := db.cursorsGated issue gate author.stamp.now : Database }.noting
          author [gateEvent issue status])
  | .reset =>
    if db.blocked = some .cursorClear ∨ db.blocked = some .eventInsert then
      .error (.database .blocked)
    else .ok (.done, (db.withoutPlace issue.id author.stamp.now).noting author [resetEvent issue])

/-- An errand is checked, its issue is looked up, and then it is run. -/
theorem perform_errand (hdb : db.Consistent) (author : Author) (text : String) (errand : Errand) :
    db.perform author (errand.on text) =
      errand.check >>= fun _ => db.issue text >>= fun issue => db.deal author issue errand := by
  cases errand with
  | request r => exact perform_request hdb author text r
  | gate status error => exact perform_recordGate hdb author text status error
  | reset => exact perform_resetPipeline author text

/-- A database differs from the one before an errand in the dossier of one issue only, and perhaps
in an entry under the identifier that the errand brings. -/
structure Confined (db : Database) (author : Author) (id : String) (db' : Database) : Prop where
  /-- The commons are the same. -/
  commons : db'.commons = db.commons
  /-- So are the other dossiers. -/
  dossiers : ∀ other, other ≠ id → db'.dossier other = db.dossier other
  /-- There are the same identifiers of entries. -/
  entries : ∀ id, id ≠ author.entryId → db'.hasEntry id = db.hasEntry id

/-- A transition takes the identifier of its entry. -/
theorem hasEntry_transitioned (id : String) :
    (db.transitioned author issue t).hasEntry id = (db.hasEntry id || t.entry.id == id) := by
  show (db.ledger ++ [t.entry.entry (db.lastSeq + 1)]).any _ = _
  rw [List.any_append, List.any_cons, List.any_nil, Bool.or_false]
  rfl

/-- A transition succeeds unless something refuses it, and then leaves what it is to leave. -/
theorem transit_eq_ok_iff :
    db.transit author issue t = .ok db' ↔
      db.refusal? t = none ∧ db' = db.transitioned author issue t := by
  unfold transit
  cases db.refusal? t with
  | none => simp [eq_comm]
  | some fault => simp

/-- Transitions are refused alike where the same kind of write is blocked, where both identifiers of
entries are taken or free, and where both set a work status or none. -/
theorem refusal?_congr {t' : Transition} (hblocked : db.blocked = db'.blocked)
    (htaken : db.hasEntry t.entry.id = db'.hasEntry t'.entry.id)
    (hstatus : t.workStatus = t'.workStatus) : db.refusal? t = db'.refusal? t' := by
  have htaken : (db.ledger.any fun entry => entry.id == t.entry.id) =
      db'.ledger.any fun entry => entry.id == t'.entry.id := htaken
  rw [refusal?, refusal?, hblocked, htaken, hstatus]

/-- Clearing the place of an issue changes the cursor of this issue only. -/
theorem lookup_cleared (issue : Issue) (now : Int) (id : String) :
    Row.lookup Cursor.issueId id (db.withoutPlace issue.id now).cursors =
      if id = issue.id then (db.storedCursor? issue.id).map (·.cleared now)
      else db.storedCursor? id := by
  refine (Row.lookup_changeAt (g := fun c : Cursor => c.cleared now) (fun _ => rfl)
    fun _ => rfl).trans ?_
  by_cases hid : id = issue.id
  · rw [if_pos hid, if_pos hid, hid]
    rfl
  · rw [if_neg hid, if_neg hid]
    rfl

/-- The event of a gate signal is about its issue. -/
theorem isAbout_gateEvent (status : GateStatus) :
    ∀ draft ∈ [gateEvent issue status], draft.isAbout issue.id = true := by
  simp [EventDraft.isAbout, gateEvent]

/-- The event of a reset is about its issue. -/
theorem isAbout_resetEvent : ∀ draft ∈ [resetEvent issue], draft.isAbout issue.id = true := by
  simp [EventDraft.isAbout, resetEvent]

section WriteCursor

variable {cursors : List (Row Cursor)} {cursor : Option Cursor}
  (hcursors : ∀ id, Row.lookup Cursor.issueId id cursors =
    if id = issue.id then cursor else db.storedCursor? id)
  (habout : ∀ draft ∈ drafts, draft.isAbout issue.id = true)

include hcursors habout

/-- Noting events about an issue is confined to it. -/
theorem confined_of_noting :
    db.Confined author issue.id
      (({ db with cursors := cursors } : Database).noting author drafts) where
  commons := commons_noting habout
  dossiers other hother := by
    rw [dossier_noting habout, if_neg hother, dossier_withCursors hcursors, if_neg hother]
  entries _ _ := rfl

/-- The dossier of an issue after its events are noted. -/
theorem dossier_of_noting :
    (({ db with cursors := cursors } : Database).noting author drafts).dossier issue.id =
      ((db.dossier issue.id).withCursor cursor).noted (unnumberedRows author drafts) := by
  rw [dossier_noting habout, if_pos rfl, dossier_withCursors hcursors, if_pos rfl]

end WriteCursor

/-- What an errand leaves is confined to the dossier of its issue. -/
theorem confined_of_deal {errand : Errand} (h : db.deal author issue errand = .ok (reply, db')) :
    db.Confined author issue.id db' := by
  cases errand with
  | request request =>
    obtain ⟨t, hplan, htransit⟩ := bind_eq_ok_iff.1 h
    obtain ⟨next, hnext, hdone⟩ := map_eq_ok_iff.1 htransit
    cases hdone
    obtain ⟨-, rfl⟩ := transit_eq_ok_iff.1 hnext
    have hplanned := Request.planned_of_plan hplan
    have hentry : t.entry.issueId = issue.id := hplanned.entry_issueId.trans cursorFor_issueId
    -- What is common stays, other dossiers stay, and no other entry is taken.
    refine ⟨commons_transitioned, fun other hother => ?_, fun id hid => ?_⟩
    · rw [dossier_transitioned hentry, if_neg hother]
    · have hnew : (t.entry.id == id) = false := by
        rw [hplanned.entry_id]
        exact beq_false_of_ne (Ne.symm hid)
      rw [hasEntry_transitioned, hnew, Bool.or_false]
  | gate status error =>
    rw [deal] at h
    split at h
    · cases h
    · cases h
      exact confined_of_noting (lookup_cursorsGated db issue _ _) (isAbout_gateEvent status)
  | reset =>
    rw [deal] at h
    split at h
    · cases h
    · cases h
      exact confined_of_noting (lookup_cleared issue _) isAbout_resetEvent

/-- What an errand answers and leaves in the dossier of its issue, and whether it leaves an entry,
is determined by this dossier, by the commons, and by whether there was such an entry before. -/
theorem deal_agree (hcommons : db.commons = db'.commons)
    (hdossier : db.dossier issue.id = db'.dossier issue.id)
    (htaken : db.hasEntry author.entryId = db'.hasEntry author.entryId) (errand : Errand) :
    Agree
      (fun r r' => r.1 = r'.1 ∧ r.2.dossier issue.id = r'.2.dossier issue.id ∧
        r.2.hasEntry author.entryId = r'.2.hasEntry author.entryId)
      (db.deal author issue errand) (db'.deal author issue errand) := by
  have hblocked : db.blocked = db'.blocked := congrArg Commons.blocked hcommons
  have hstored : db.storedCursor? issue.id = db'.storedCursor? issue.id :=
    congrArg Dossier.cursor hdossier
  have hcursor : db.cursorFor issue author.stamp.now = db'.cursorFor issue author.stamp.now := by
    rw [cursorFor, hstored, ← cursorFor]
  cases errand with
  | request request =>
    have hcatalog : db.storedCatalog issue.projectId = db'.storedCatalog issue.projectId := by
      have hsteps : db.steps = db'.steps := congrArg Commons.steps hcommons
      rw [storedCatalog, catalogRows, hsteps, ← catalogRows, ← storedCatalog]
    rw [deal, deal, fulfil, fulfil, hcatalog, hcursor]
    -- The same plan is made for both, as catalogs and cursors agree.
    refine (Agree.of_eq rfl).and_eq.bind ?_
    rintro t _ ⟨rfl, hplan, -⟩
    have hplanned := Request.planned_of_plan hplan
    have hentry : t.entry.issueId = issue.id := hplanned.entry_issueId.trans cursorFor_issueId
    have hrefusal : db.refusal? t = db'.refusal? t :=
      refusal?_congr hblocked (hplanned.entry_id ▸ htaken) rfl
    rw [transit, transit, hrefusal]
    cases db'.refusal? t with
    | some fault => exact .error _
    | none =>
      refine .ok ⟨rfl, ?_, ?_⟩
      · rw [dossier_transitioned hentry, dossier_transitioned hentry, if_pos rfl, if_pos rfl,
          hdossier]
      · rw [hasEntry_transitioned, hasEntry_transitioned, htaken]
  | gate status error =>
    let gated (cursor : Cursor) : Reply := .cursor
      { cursor with
        gate := ⟨some status, error, some author.stamp.now⟩
        updatedAt := author.stamp.now }
    -- What blocks the write blocks it in both, and the dossiers are made from equal ones.
    refine Agree.guard (by rw [hblocked]) (.ok ⟨congrArg gated hcursor, ?_, htaken⟩)
    refine (dossier_of_noting (lookup_cursorsGated db issue _ _)
      (isAbout_gateEvent status)).trans ?_
    rw [hdossier, hcursor]
    exact (dossier_of_noting (lookup_cursorsGated db' issue _ _) (isAbout_gateEvent status)).symm
  | reset =>
    refine Agree.guard (by rw [hblocked]) (.ok ⟨rfl, ?_, htaken⟩)
    refine (dossier_of_noting (lookup_cleared issue _) isAbout_resetEvent).trans ?_
    rw [hdossier, hstored]
    exact (dossier_of_noting (lookup_cleared issue _) isAbout_resetEvent).symm

end Database

end ReviewPipeline
