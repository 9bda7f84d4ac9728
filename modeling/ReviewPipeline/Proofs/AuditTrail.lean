import ReviewPipeline.Proofs.AppendOnly
import ReviewPipeline.Proofs.Footprint
import ReviewPipeline.Proofs.Replay

/-!
# The Audit Log Agrees with the Ledger

A transition is recorded twice, as an entry of the ledger and as events of the audit log. The two
are written at different times and by different means, yet after any run of calls they tell the same
story of every issue: each entry has its event, in the same order, an event of completion follows
where the pipeline was finished, and the changes of the work status form one chain from the first
status to the one that is stored.

## Main definitions

* `Database.audited`: the events about an issue;
* `Database.landings`: the positions to which the transitions of an issue led in a run;
* `closing`: the events that go with an entry of the ledger and the position it led to;
* `Changes`: changes of a value, each from where the one before ended;
* `AuditTrail`: the events about an issue agree with its history and its work status.

## Main results

* `closing_of_planned`: the events of one transition go with its entry;
* `auditTrail_of_run`: after any run of calls, every issue has its audit trail.
-/

namespace ReviewPipeline

open Progression

/-! ### What events tell -/

/-- What an event tells, apart from its number, its actor and its time. -/
def Event.draft (e : Event) : EventDraft where
  entityType := e.entityType
  entityId := e.entityId
  kind := e.kind
  oldValue := e.oldValue
  newValue := e.newValue
  comment := e.comment

/-- Whether an event is about the issue with an identifier. -/
def EventDraft.isAbout (id : String) (d : EventDraft) : Bool :=
  d.entityType == "issue" && d.entityId == id

/-- Whether an event reports the end of a step or of a pipeline. -/
def EventKind.isClosing : EventKind → Bool
  | .stepCompleted | .stepRejected | .pipelineCompleted => true
  | _ => false

/-- The pointer at a position. -/
def Position.pointer? : Position → Option String
  | .atStep stepId => some stepId
  | _ => none

/-- The events that go with an entry of the ledger and the position to which its transition led: the
end of the step and, where the pipeline was finished, its end. -/
def closing (entry : LedgerEntry) (position : Position) : List EventDraft :=
  { entityType := "issue"
    entityId := entry.issueId
    kind := match entry.result with
      | .completed => .stepCompleted
      | .rejected => .stepRejected
    oldValue := some entry.stepId
    newValue := position.pointer?
    comment := entry.notes } ::
  if position = .completed then
    [{ entityType := "issue", entityId := entry.issueId, kind := .pipelineCompleted }]
  else []

/-- Events change a value step by step: each takes it from where the one before left it, to another
one. -/
inductive Changes : (first : String) → List EventDraft → (last : String) → Prop
  /-- Without an event, the value stays. -/
  | none {value : String} : Changes value [] value
  /-- An event changes the value before any others do. -/
  | cons {first next last : String} {event : EventDraft} {events : List EventDraft}
      (hold : event.oldValue = some first) (hnew : event.newValue = some next)
      (hne : next ≠ first) (hrest : Changes next events last) :
      Changes first (event :: events) last

/-- A chain of changes is continued by one from where it ends. -/
theorem Changes.concat {first last next : String} {events : List EventDraft} {event : EventDraft}
    (h : Changes first events last) (hold : event.oldValue = some last)
    (hnew : event.newValue = some next) (hne : next ≠ last) :
    Changes first (events ++ [event]) next := by
  induction h with
  | none => exact .cons hold hnew hne .none
  | cons hold' hnew' hne' _ ih => exact .cons hold' hnew' hne' (ih hold hne)

/-- Different work statuses have different words. -/
theorem WorkStatus.word_injective {status other : WorkStatus} (h : status.word = other.word) :
    status = other := by
  have hread := WorkStatus.ofWord?_word status
  rw [h, WorkStatus.ofWord?_word] at hread
  exact (Option.some.inj hread).symm

/-! ### The events of one transition -/

section Planned

variable {steps : List Step} {cursor : Cursor} {stamp : Stamp} {t : Transition} {issue : Issue}

/-- The events of a transition about its step and its pipeline are those that go with its entry and
the position to which it leads. -/
theorem closing_of_planned (hplanned : Planned steps cursor stamp t)
    (hid : t.entry.issueId = issue.id) (now seq : Int) :
    (Database.transitionEvents issue t).filter (·.kind.isClosing) =
      closing (t.entry.entry seq) (cursor.apply t.update now).position := by
  rw [hplanned.position_apply, transitionEvents_eq]
  -- A change of the work status is not among them.
  rw [List.filter_append, List.filter_append, List.filter_eq_nil_iff.2, List.nil_append]
  · have hissue : (t.entry.entry seq).issueId = issue.id := hid
    rw [closing, hissue]
    -- The kind of the transition fixes its result, its pointer and whether it is the last one.
    cases hplanned <;> rfl
  · intro event hevent
    obtain ⟨status, -, rfl⟩ := List.mem_map.1 hevent
    exact Bool.false_ne_true

/-- The events of a transition about the work status change it from what it was before to what it is
after, if that is a change. -/
theorem changes_of_transition {first : String} {events : List EventDraft}
    (h : Changes first events issue.workStatus.word) (now : Int) :
    Changes first
      (events ++ (Database.transitionEvents issue t).filter (·.kind = .issueStatusChanged))
      (issue.marked t.workStatus now).workStatus.word := by
  rw [Issue.marked_workStatus]
  unfold Database.transitionEvents Transition.completesPipeline
  -- Whatever the outcome is, the events that tell it are of other kinds.
  cases t.workStatus with
  | none => cases t.outcome <;> simpa using h
  | some status =>
    by_cases hsame : status = issue.workStatus
    · cases t.outcome <;> simpa [hsame] using h
    · have hword : status.word ≠ issue.workStatus.word :=
        fun hword => hsame (WorkStatus.word_injective hword)
      have hchanged : Changes first
          (events ++ [{ entityType := "issue", entityId := issue.id, kind := .issueStatusChanged,
                        oldValue := some issue.workStatus.word, newValue := some status.word }])
          status.word := h.concat rfl rfl hword
      cases t.outcome <;> simpa [hsame] using hchanged

end Planned

/-! ### The events about an issue -/

namespace Database

variable {db db' : Database} {author : Author} {op : Operation} {reply : Reply} {id : String}
  {issue : Issue} {t : Transition} {drafts : List EventDraft} {calls : List (Author × Operation)}

/-- The events about an issue in the order of the log, without those of a foreign kind. -/
def audited (db : Database) (id : String) : List Event :=
  (db.events.filter fun row =>
    row.record.entityType == "issue" && row.record.entityId == id).filterMap knownEvent?

/-- What the events about an issue tell, in order. -/
def trail (db : Database) (id : String) : List EventDraft :=
  (db.audited id).map Event.draft

/-- The positions to which the transitions of an issue led in a run, each looked at right after its
call. -/
def landings (db : Database) (id : String) : List (Author × Operation) → List Position
  | [] => []
  | (author, op) :: rest =>
    let later := (db.after author op).landings id rest
    if (moveOf id author ((db.perform author op).map (·.1))).isSome then
      (db.after author op).positionOf id :: later
    else later

/-- The events about an issue agree with its history, with the positions to which its transitions
led, and with its work status. -/
structure AuditTrail (db : Database) (issue : Issue) (positions : List Position) : Prop where
  /-- No event is of a foreign kind. -/
  known : ∀ row ∈ db.events, row.foreign = none
  /-- The events are listed in the order of their numbers. -/
  eventIds : ((db.audited issue.id).map (·.id)).Pairwise (· < ·)
  /-- The entries are listed in the order of their numbers. -/
  entrySeqs : ((db.history issue.id).map (·.seq)).Pairwise (· < ·)
  /-- There is one position for each entry. -/
  length_eq : positions.length = (db.history issue.id).length
  /-- The events about steps and pipelines are those that go with the entries and positions. -/
  closings : (db.trail issue.id).filter (·.kind.isClosing) =
    ((db.history issue.id).zip positions).flatMap fun made => closing made.1 made.2
  /-- The changes of the work status lead from the first one to the stored one. -/
  changes : Changes "todo" ((db.trail issue.id).filter (·.kind = .issueStatusChanged))
    issue.workStatus.word

/-! ### One call -/

/-- The rows that drafts become are about the same issue and tell the same. -/
theorem filter_eventRows (last : Int) (drafts : List EventDraft) :
    (((eventRows author last drafts).filter fun row =>
      row.record.entityType == "issue" && row.record.entityId == id).filterMap knownEvent?).map
        Event.draft = drafts.filter (·.isAbout id) := by
  -- Numbers of rows go on from the last one, which is why it is general here.
  induction drafts generalizing last with
  | nil => rfl
  | cons draft drafts ih =>
    cases habout : draft.isAbout id with
    | true =>
      rw [eventRows, List.filter_cons_of_pos (by exact habout), List.filter_cons_of_pos habout,
        ← ih (last + 1)]
      rfl
    | false =>
      have hnot : ¬ draft.isAbout id = true := Bool.not_eq_true _ ▸ habout
      rw [eventRows, List.filter_cons_of_neg (by exact hnot), List.filter_cons_of_neg hnot,
        ih (last + 1)]

/-- What is appended to the log is appended to the trail of the issue that it is about. -/
theorem trail_of_events
    (hevents : db'.events = db.events ++ eventRows author db.lastEventId drafts) :
    db'.trail id = db.trail id ++ drafts.filter (·.isAbout id) := by
  rw [trail, audited, hevents, List.filter_append, List.filterMap_append, List.map_append,
    filter_eventRows]
  rfl

/-- All events of a transition are about its issue. -/
theorem isAbout_of_mem_transitionEvents {event : EventDraft}
    (hevent : event ∈ transitionEvents issue t) (id : String) :
    event.isAbout id = (issue.id == id) := by
  have hentity : event.entityType = "issue" ∧ event.entityId = issue.id := by
    rw [transitionEvents_eq, List.mem_append, List.mem_append, List.mem_map, List.mem_singleton,
      List.mem_ite_nil_right, List.mem_singleton] at hevent
    rcases hevent with (⟨_, -, rfl⟩ | rfl) | ⟨-, rfl⟩ <;> exact ⟨rfl, rfl⟩
  rw [EventDraft.isAbout, hentity.1, hentity.2]
  rfl

/-- An event about an issue is about nothing else. -/
theorem about_of_isAbout {draft : EventDraft} (habout : draft.isAbout issue.id = true) :
    draft.entityType = "issue" ∧ draft.entityId = issue.id := by
  simpa [EventDraft.isAbout] using habout

/-- The events of a transition are about its issue. -/
theorem isAbout_transitionEvents :
    ∀ draft ∈ transitionEvents issue t, draft.isAbout issue.id = true := by
  intro draft hdraft
  rw [isAbout_of_mem_transitionEvents hdraft, beq_self_eq_true]

/-- A transition tells its events about its issue, and none about another. -/
theorem trail_transitioned (db : Database) (author : Author) (issue : Issue) (t : Transition)
    (id : String) :
    (db.transitioned author issue t).trail id =
      db.trail id ++ if issue.id = id then transitionEvents issue t else [] := by
  have habout : ∀ event ∈ transitionEvents issue t, event.isAbout id = (issue.id == id) :=
    fun event hevent => isAbout_of_mem_transitionEvents hevent id
  have htrail : (db.transitioned author issue t).trail id =
      db.trail id ++ (transitionEvents issue t).filter (·.isAbout id) := trail_of_events rfl
  rw [htrail]
  split
  · next hid => rw [List.filter_eq_self.2 fun event hevent => by simp [habout event hevent, hid]]
  · next hid =>
    rw [List.filter_eq_nil_iff.2 fun event hevent => by simp [habout event hevent, hid]]

/-- A call whose answer reports no transition of an issue tells nothing about its steps, its
pipeline or its work status. -/
theorem Called.trail_quiet (h : Called db author op reply db')
    (hother : ∀ move, reply.move? = some move → move.issueId ≠ id) :
    ∃ told, db'.trail id = db.trail id ++ told ∧
      ∀ event ∈ told, event.kind.isClosing = false ∧ event.kind ≠ .issueStatusChanged := by
  -- A call that is no transition notes one event, which is of another kind.
  have hsingle : ∀ draft : EventDraft,
      db'.events = db.events ++ eventRows author db.lastEventId [draft] →
      draft.kind.isClosing = false → draft.kind ≠ .issueStatusChanged →
      ∃ told, db'.trail id = db.trail id ++ told ∧
        ∀ event ∈ told, event.kind.isClosing = false ∧ event.kind ≠ .issueStatusChanged := by
    intro draft hevents hclosing hstatus
    refine ⟨_, trail_of_events hevents, fun event hevent => ?_⟩
    obtain rfl := List.mem_singleton.1 (List.mem_of_mem_filter hevent)
    exact ⟨hclosing, hstatus⟩
  cases h with
  | createProject => exact hsingle _ rfl rfl nofun
  | createIssue => exact hsingle _ rfl rfl nofun
  | addStep => exact hsingle _ rfl rfl nofun
  | restaffStep => exact hsingle _ rfl rfl nofun
  | recordGate => exact hsingle _ rfl rfl nofun
  | resetPipeline => exact hsingle _ rfl rfl nofun
  | @complete _ _ _ issue =>
    have hid : issue.id ≠ id := hother _ rfl
    exact ⟨[], by rw [trail_transitioned, if_neg hid], nofun⟩
  | @reject _ _ _ _ _ issue =>
    have hid : issue.id ≠ id := hother _ rfl
    exact ⟨[], by rw [trail_transitioned, if_neg hid], nofun⟩

/-! ### The order of the log -/

/-- The audit log is numbered in the order of writing, and holds no event of a foreign kind. -/
structure Numbered (db : Database) : Prop where
  /-- No event is of a foreign kind. -/
  known : ∀ row ∈ db.events, row.foreign = none
  /-- Later events have greater numbers. -/
  ascending : db.events.Pairwise (·.record.id < ·.record.id)
  /-- No event has a number past the last one given out. -/
  given : ∀ row ∈ db.events, row.record.id ≤ db.lastEventId

/-- New events are known and numbered on from the last. -/
theorem numbered_eventRows (author : Author) (last : Int) (drafts : List EventDraft) :
    (∀ row ∈ eventRows author last drafts, row.foreign = none ∧ last < row.record.id ∧
        row.record.id ≤ last + drafts.length) ∧
      (eventRows author last drafts).Pairwise (·.record.id < ·.record.id) := by
  induction drafts generalizing last with
  | nil => simp [eventRows]
  | cons draft drafts ih =>
    obtain ⟨hrows, hascending⟩ := ih (last + 1)
    rw [eventRows, List.forall_mem_cons, List.pairwise_cons, List.length_cons]
    -- The first row has the number after the last one given out, and the others follow.
    have hfirst : (draft.event (last + 1) author.actor author.stamp.now).id = last + 1 := rfl
    refine ⟨⟨⟨rfl, ?_, ?_⟩, fun row hrow => ?_⟩, fun row hrow => ?_, hascending⟩
    · rw [hfirst]
      omega
    · rw [hfirst]
      omega
    · obtain ⟨hknown, hlast, hgiven⟩ := hrows row hrow
      exact ⟨hknown, by omega, by omega⟩
    · rw [hfirst]
      exact (hrows row hrow).2.1

/-- A log that is continued so stays numbered. -/
theorem Numbered.of_events (h : db.Numbered)
    (hevents : db'.events = db.events ++ eventRows author db.lastEventId drafts)
    (hlast : db'.lastEventId = db.lastEventId + drafts.length) : db'.Numbered := by
  obtain ⟨hrows, hascending⟩ := numbered_eventRows author db.lastEventId drafts
  constructor
  · rw [hevents, List.forall_mem_append]
    exact ⟨h.known, fun row hrow => (hrows row hrow).1⟩
  · rw [hevents, List.pairwise_append]
    refine ⟨h.ascending, hascending, fun old hold new hnew => ?_⟩
    exact Int.lt_of_le_of_lt (h.given old hold) (hrows new hnew).2.1
  · rw [hevents, hlast, List.forall_mem_append]
    refine ⟨fun row hrow => ?_, fun row hrow => (hrows row hrow).2.2⟩
    have hgiven := h.given row hrow
    omega

/-- A call keeps the log numbered. -/
theorem Called.numbered (h : Called db author op reply db') (hdb : db.Numbered) : db'.Numbered := by
  cases h with
  | createProject => exact hdb.of_events rfl rfl
  | createIssue => exact hdb.of_events rfl rfl
  | addStep => exact hdb.of_events rfl rfl
  | restaffStep => exact hdb.of_events rfl rfl
  | recordGate => exact hdb.of_events rfl rfl
  | resetPipeline => exact hdb.of_events rfl rfl
  | complete => exact hdb.of_events rfl rfl
  | reject => exact hdb.of_events rfl rfl

/-- A known event is the record of its row. -/
theorem eq_record_of_knownEvent? {row : Row Event} {event : Event}
    (h : knownEvent? row = some event) : event = row.record := by
  unfold knownEvent? at h
  split at h
  · exact (Option.some.inj h).symm
  · cases h

/-- The events about an issue are listed in the order of their numbers. -/
theorem Numbered.audited (h : db.Numbered) (id : String) :
    ((db.audited id).map (·.id)).Pairwise (· < ·) := by
  rw [List.pairwise_map, Database.audited, List.pairwise_filterMap]
  refine (h.ascending.sublist List.filter_sublist).imp ?_
  intro row row' hlt event hevent event' hevent'
  rw [eq_record_of_knownEvent? hevent, eq_record_of_knownEvent? hevent']
  exact hlt

/-! ### Runs -/

/-- A call more adds its landing, if it moves the issue. -/
theorem landings_concat :
    db.landings id (calls ++ [(author, op)]) =
      db.landings id calls ++
        if (moveOf id author (((db.run calls).2.perform author op).map (·.1))).isSome then
          [((db.run calls).2.after author op).positionOf id]
        else [] := by
  -- Landings are collected from the first call on, so this is an induction from the front.
  induction calls generalizing db with
  | nil => rfl
  | cons call calls ih =>
    rw [List.cons_append, landings, landings, ih, run]
    split <;> rfl

/-- What is told about the issue with an identifier, whether there is one or not. Before it is
there, its status counts as the first one. -/
structure Told (db : Database) (id : String) (positions : List Position) : Prop where
  /-- There is one position for each entry. -/
  length_eq : positions.length = (db.history id).length
  /-- The events about steps and pipelines are those that go with the entries and positions. -/
  closings : (db.trail id).filter (·.kind.isClosing) =
    ((db.history id).zip positions).flatMap fun made => closing made.1 made.2
  /-- The changes of the work status lead to the stored one. -/
  changes : Changes "todo" ((db.trail id).filter (·.kind = .issueStatusChanged))
    ((db.storedIssue? id).elim .todo Issue.workStatus).word

variable {positions : List Position}

/-- What is told stays right while nothing happens that would have to be told. -/
theorem Told.of_quiet (h : db.Told id positions) {told : List EventDraft}
    (htrail : db'.trail id = db.trail id ++ told)
    (hquiet : ∀ event ∈ told, event.kind.isClosing = false ∧ event.kind ≠ .issueStatusChanged)
    (hhistory : db'.history id = db.history id)
    (hstatus : (db'.storedIssue? id).elim .todo Issue.workStatus =
      (db.storedIssue? id).elim .todo Issue.workStatus) : db'.Told id positions := by
  have hclosing : told.filter (·.kind.isClosing) = [] :=
    List.filter_eq_nil_iff.2 fun event hevent => by simp [(hquiet event hevent).1]
  have hchange : told.filter (·.kind = .issueStatusChanged) = [] :=
    List.filter_eq_nil_iff.2 fun event hevent => by simp [(hquiet event hevent).2]
  constructor
  · rw [hhistory]
    exact h.length_eq
  · rw [htrail, hhistory, List.filter_append, hclosing, List.append_nil]
    exact h.closings
  · rw [htrail, hstatus, List.filter_append, hchange, List.append_nil]
    exact h.changes

/-- A transition of an issue tells its entry, the position to which it leads and the change of the
work status. -/
theorem Told.transitioned (h : db.Told id positions) (hstored : db.storedIssue? id = some issue)
    (hplanned : Planned (db.storedCatalog issue.projectId) (db.cursorFor issue author.stamp.now)
      author.stamp t) :
    (db.transitioned author issue t).Told id
      (positions ++ [(db.transitioned author issue t).positionOf id]) := by
  obtain rfl := id_of_storedIssue? hstored
  have hentry : t.entry.issueId = issue.id := hplanned.entry_issueId.trans cursorFor_issueId
  have hhistory := history_transitioned db author issue t issue.id
  have hissue := storedIssue?_transitioned db author issue t issue.id
  have hcursor := storedCursor?_transitioned db author issue t issue.id
  have htrail := trail_transitioned db author issue t issue.id
  rw [if_pos hentry] at hhistory
  rw [if_pos rfl, hstored] at hissue
  rw [if_pos rfl] at hcursor htrail
  constructor
  · -- One entry is added, and one position.
    rw [hhistory, List.length_append, List.length_append, h.length_eq]
    rfl
  · -- The closing event tells the position that the transition leads to.
    have hposition : (db.transitioned author issue t).positionOf issue.id =
        ((db.cursorFor issue author.stamp.now).apply t.update author.stamp.now).position := by
      rw [positionOf, hcursor]
      rfl
    rw [htrail, hhistory, List.filter_append, h.closings, List.zip_append h.length_eq.symm,
      List.flatMap_append, closing_of_planned hplanned hentry author.stamp.now (db.lastSeq + 1),
      hposition]
    simp
  · -- The changes of status go on from the status that was stored.
    have hchanges := h.changes
    rw [hstored] at hchanges
    rw [htrail, hissue, List.filter_append]
    exact changes_of_transition hchanges author.stamp.now

/-- After one more call everything that was to be told about an issue is told. -/
theorem Told.after (h : db.Told id positions) (hdb : db.Consistent) (hcall : op.isCall = true)
    (author : Author) :
    (db.after author op).Told id (positions ++
      if (moveOf id author ((db.perform author op).map (·.1))).isSome then
        [(db.after author op).positionOf id]
      else []) := by
  rcases after_cases hdb hcall author with ⟨e, hperform, hsame⟩ | ⟨reply, hperform, hcalled⟩
  · -- A failed call changes nothing and is no transition.
    have hmove : moveOf id author (.error e) = none := rfl
    rw [hperform, hsame]
    simp only [Except.map, hmove, Option.isSome_none, Bool.false_eq_true, ↓reduceIte,
      List.append_nil]
    exact h
  rcases hcalled.transition_or hdb id with
    ⟨issue, t, hstored, hplanned, hreply, -, hafter⟩ | hother
  · have hmove : moveOf id author (.ok reply) = some (author, t.move id) := by
      simp [moveOf, hreply, Transition.move]
    rw [hperform, hafter]
    simp only [Except.map, hmove, Option.isSome_some, ↓reduceIte]
    exact h.transitioned hstored hplanned
  · have hmove : moveOf id author (.ok reply) = none := by
      refine moveOf_eq_none fun _ move hok hmove => ?_
      rw [← Except.ok.inj hok] at hmove
      exact hother move hmove
    obtain ⟨told, htrail, hquiet⟩ := hcalled.trail_quiet hother
    rw [hperform]
    simp only [Except.map, hmove, Option.isSome_none, Bool.false_eq_true, ↓reduceIte,
      List.append_nil]
    cases hcalled.effect hdb id with
    | untouched hissue _ hhistory => exact h.of_quiet htrail hquiet hhistory (by rw [hissue])
    | created hnew hissue htodo _ hhistory =>
      -- An issue that was not there had no history, and its status counted as the first one.
      refine h.of_quiet htrail hquiet (hhistory.trans (history_eq_nil hdb hnew).symm) ?_
      rw [hissue, hnew]
      exact htodo
    | gated hstored hissue _ hhistory =>
      exact h.of_quiet htrail hquiet hhistory (by rw [hissue, hstored])
    | reset _ _ _ hissue _ hhistory => exact h.of_quiet htrail hquiet hhistory (by rw [hissue])
    | moved _ _ _ _ _ hreply => exact absurd rfl (hother _ hreply)

/-- After a run, a database is rooted. -/
theorem rooted_run (created : Int) (calls : List (Author × Operation)) :
    ((create created).run calls).2.skeleton.Rooted := by
  induction calls using List.reverseRecOn with
  | nil => exact rooted_create created
  | append_singleton calls call ih =>
    rw [run_concat]
    exact (grows_after ih call.1 call.2).1

/-- A new log is numbered. -/
theorem numbered_create (created : Int) : (create created).Numbered := by
  constructor <;> simp [create]

/-- In a new log, nothing is told. -/
theorem told_create (created : Int) (id : String) : (create created).Told id [] := by
  have htrail : (create created).trail id = [] := by simp [trail, audited, create]
  have hhistory : (create created).history id = [] := by simp [history, create]
  have hissue : (create created).storedIssue? id = none := by
    simp [storedIssue?, Row.lookup, create]
  constructor
  · rw [hhistory]
    rfl
  · rw [htrail, hhistory]
    rfl
  · rw [htrail, hissue]
    exact .none

/-- After a run of calls, the log is numbered. -/
theorem numbered_run (created : Int) (hcalls : ∀ call ∈ calls, call.2.isCall = true) :
    ((create created).run calls).2.Numbered := by
  induction calls using List.reverseRecOn with
  | nil => exact numbered_create created
  | append_singleton calls call ih =>
    obtain ⟨hbefore, hlast⟩ := List.forall_mem_append.1 hcalls
    have hdb := consistent_run (admitted_create created).toConsistent hbefore
    have hcall := hlast call (List.mem_singleton_self call)
    rw [run_concat]
    -- A call that fails leaves the log as it was.
    rcases after_cases hdb hcall call.1 with ⟨_, -, hsame⟩ | ⟨_, -, hcalled⟩
    · rw [hsame]
      exact ih hbefore
    · exact hcalled.numbered (ih hbefore)

/-- After a run of calls, the log tells the landings of every issue. -/
theorem told_run (created : Int) (id : String) (hcalls : ∀ call ∈ calls, call.2.isCall = true) :
    ((create created).run calls).2.Told id ((create created).landings id calls) := by
  induction calls using List.reverseRecOn with
  | nil => exact told_create created id
  | append_singleton calls call ih =>
    obtain ⟨hbefore, hlast⟩ := List.forall_mem_append.1 hcalls
    have hdb := consistent_run (admitted_create created).toConsistent hbefore
    rw [run_concat, landings_concat]
    exact (ih hbefore).after hdb (hlast call (List.mem_singleton_self call)) call.1

/-- After any run of calls from a new database, the events about each issue agree with its history,
with the positions to which its transitions led, and with its work status. -/
theorem auditTrail_of_run (created : Int) (calls : List (Author × Operation))
    (hcalls : ∀ call ∈ calls, call.2.isCall = true) :
    ∀ row ∈ ((create created).run calls).2.issues,
      AuditTrail ((create created).run calls).2 row.record
        ((create created).landings row.record.id calls) := by
  intro row hrow
  have hdb := consistent_run (admitted_create created).toConsistent hcalls
  have hnumbered := numbered_run created hcalls
  have htold := told_run created row.record.id hcalls
  have hchanges := htold.changes
  rw [storedIssue?_eq_some_of_mem hdb hrow] at hchanges
  refine ⟨hnumbered.known, hnumbered.audited row.record.id, ?_, htold.length_eq, htold.closings,
    hchanges⟩
  rw [List.pairwise_map]
  exact (rooted_run created calls).sorted.sublist List.filter_sublist

/-- The issue of the sample run has its audit trail. -/
theorem auditTrail_sampleRun :
    (∀ call ∈ sampleRun, call.2.isCall = true) ∧
      ∀ row ∈ ((create 0).run sampleRun).2.issues,
        AuditTrail ((create 0).run sampleRun).2 row.record
          ((create 0).landings row.record.id sampleRun) :=
  ⟨by decide, auditTrail_of_run 0 sampleRun (by decide)⟩

end Database

end ReviewPipeline
