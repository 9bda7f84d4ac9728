import Mathlib.Data.List.Basic
import ReviewPipeline.Proofs.Reopening

/-!
# Which Events Are Listed

The newest events about an entity are listed, up to a limit, and those of a foreign kind are passed
over. But the limit is applied to the rows before any of them is passed over, so an event of a
foreign kind still takes a place. What is listed are then the newest of the known events, one after
the other, only fewer than there could be. The list is as long as it could be iff no event of a
foreign kind is among the newest ones, or all known events are.

## Main definitions

* `Event.IsNewer`: the order in which events are listed;
* `AreNewest`: events are the newest ones of some events, as many as asked for;
* `Database.newerRows`: how many rows about an entity are newer than an event;
* `Database.ListsEvents`: what a list of events holds, and when it is as long as it could be.

## Main results

* `Database.nodup_eventIds`: the audit log numbers its events, whatever is done to a database;
* `Database.listsEvents_of_nodup`: what is listed of any audit log;
* `Database.not_newest_foreignRun`: a list that is shorter than it could be.
-/

namespace ReviewPipeline

/-! ### Beginnings of sorted lists -/

section Sorted

variable {α β : Type} {r : α → α → Prop} [DecidableRel r] {l : List α} {a : α} {n : Nat}

/-- In a sorted list, what stands before an element is counted by the order. -/
theorem countP_eq_length_of_pairwise {front back : List α} (hirrefl : ∀ a, ¬ r a a)
    (hasymm : ∀ a b, r a b → ¬ r b a) (h : (front ++ a :: back).Pairwise r) :
    (front ++ a :: back).countP (fun b => decide (r b a)) = front.length := by
  obtain ⟨-, hback, hfront⟩ := List.pairwise_append.1 h
  have hbefore : front.countP (fun b => decide (r b a)) = front.length :=
    List.countP_eq_length.2 fun b hb => decide_eq_true (hfront b hb a List.mem_cons_self)
  have hafter : (a :: back).countP (fun b => decide (r b a)) = 0 := by
    rw [List.countP_eq_zero]
    intro b hb
    rw [decide_eq_true_iff]
    rcases List.mem_cons.1 hb with rfl | hb
    · exact hirrefl b
    · exact hasymm a b ((List.pairwise_cons.1 hback).1 b hb)
  rw [List.countP_append, hbefore, hafter, Nat.add_zero]

/-- The first elements of a sorted list are those that few others come before. -/
theorem mem_take_iff_of_pairwise (hirrefl : ∀ a, ¬ r a a) (hasymm : ∀ a b, r a b → ¬ r b a)
    (h : l.Pairwise r) :
    a ∈ l.take n ↔ a ∈ l ∧ l.countP (fun b => decide (r b a)) < n := by
  constructor
  · intro hmem
    refine ⟨List.mem_of_mem_take hmem, ?_⟩
    obtain ⟨front, back, hsplit⟩ := List.append_of_mem hmem
    have hlist : l = front ++ a :: (back ++ l.drop n) := by
      rw [← List.cons_append, ← List.append_assoc, ← hsplit, List.take_append_drop]
    have hcount := countP_eq_length_of_pairwise hirrefl hasymm (hlist ▸ h)
    rw [← hlist] at hcount
    have hlength := congrArg List.length hsplit
    simp only [List.length_take, List.length_append, List.length_cons] at hlength
    omega
  · rintro ⟨hmem, hcount⟩
    obtain ⟨front, back, rfl⟩ := List.append_of_mem hmem
    rw [countP_eq_length_of_pairwise hirrefl hasymm h] at hcount
    rw [List.take_append, List.mem_append]
    obtain ⟨k, hk⟩ : ∃ k, n - front.length = k + 1 := ⟨n - front.length - 1, by omega⟩
    exact .inr (by rw [hk]; exact List.mem_cons_self)

end Sorted

/-! ### The order of events -/

/-- One event is newer than another: it was made later, or at the same time under a greater
number. -/
def Event.IsNewer (a b : Event) : Prop :=
  b.createdAt < a.createdAt ∨ a.createdAt = b.createdAt ∧ b.id < a.id

instance : DecidableRel Event.IsNewer := fun _ _ =>
  inferInstanceAs (Decidable (_ ∨ _))

/-- No event is newer than itself. -/
theorem Event.not_isNewer_self (a : Event) : ¬ a.IsNewer a := by
  simp [Event.IsNewer]

/-- Of two events, only one is newer. -/
theorem Event.IsNewer.asymm {a b : Event} (h : a.IsNewer b) : ¬ b.IsNewer a := by
  unfold Event.IsNewer at h ⊢
  omega

/-- The shown events are the newest `limit` ones of some events, or all if there are not so many,
the newest first. -/
structure AreNewest (events : List Event) (limit : Nat) (shown : List Event) : Prop where
  /-- Each is newer than those after it. -/
  newestFirst : shown.Pairwise Event.IsNewer
  /-- There are as many as asked for, unless there are not so many events. -/
  length_eq : shown.length = min limit events.length
  /-- Each event is shown as often as there is one, or left out; and those that are left out are
  older than all that are shown. -/
  left_out : ∃ rest, events.Perm (shown ++ rest) ∧ ∀ a ∈ shown, ∀ b ∈ rest, a.IsNewer b

variable {events shown sorted : List Event} {limit : Nat}

/-- The newest events are the beginning of the sorted ones. -/
theorem areNewest_take (hperm : sorted.Perm events) (hsorted : sorted.Pairwise Event.IsNewer)
    (limit : Nat) : AreNewest events limit (sorted.take limit) := by
  have hsplit := hsorted
  rw [← List.take_append_drop limit sorted] at hsplit
  obtain ⟨hshown, -, hrest⟩ := List.pairwise_append.1 hsplit
  refine ⟨hshown, ?_, sorted.drop limit, ?_, hrest⟩
  · rw [List.length_take, hperm.length_eq]
  · rw [List.take_append_drop]
    exact hperm.symm

/-- Events that are the newest ones in some number are so in every number that is theirs. -/
theorem AreNewest.iff_length (h : AreNewest events shown.length shown) :
    AreNewest events limit shown ↔ shown.length = min limit events.length :=
  ⟨AreNewest.length_eq, fun hlength => ⟨h.newestFirst, hlength, h.left_out⟩⟩

namespace Database

variable {db db' : Database} {entityType entityId : String} {event : Event} {author : Author}

/-! ### Numbers in the audit log -/

/-- The numbers in the audit log, and the last one that was given out. -/
def eventNumbers (db : Database) : List Int × Int :=
  (db.events.map (·.record.id), db.lastEventId)

/-- The audit log is numbered in the order of writing, whatever stands in its rows. -/
structure LogAscends (db : Database) : Prop where
  /-- Later rows have greater numbers. -/
  ascending : db.eventNumbers.1.Pairwise (· < ·)
  /-- No row has a number past the last one given out. -/
  given : ∀ id ∈ db.eventNumbers.1, id ≤ db.eventNumbers.2

/-- Whether a log ascends depends on its numbers only. -/
theorem LogAscends.congr (h : db.LogAscends) (hsame : db'.eventNumbers = db.eventNumbers) :
    db'.LogAscends :=
  ⟨hsame ▸ h.ascending, hsame ▸ h.given⟩

/-- A row that is appended gets the next number. -/
theorem LogAscends.appended (h : db.LogAscends)
    (hnew : db'.eventNumbers = (db.eventNumbers.1 ++ [db.lastEventId + 1], db.lastEventId + 1)) :
    db'.LogAscends := by
  have hgiven : ∀ id ∈ db.eventNumbers.1, id ≤ db.lastEventId := h.given
  constructor
  · rw [hnew, List.pairwise_append]
    refine ⟨h.ascending, List.pairwise_singleton _ _, fun id hid other hother => ?_⟩
    have := hgiven id hid
    rw [List.mem_singleton.1 hother]
    omega
  · rw [hnew]
    refine List.forall_mem_append.2 ⟨fun id hid => ?_, List.forall_mem_singleton.2 (Int.le_refl _)⟩
    have := hgiven id hid
    omega

/-- A statement appends one event, or none. -/
theorem LogAscends.statement {statement : Statement} (hdb : db.LogAscends)
    (h : statement.run db = .ok db') : db'.LogAscends := by
  cases statement with
  | insertProject p =>
    obtain ⟨-, -, -, rfl⟩ := insertProject_eq_ok_iff.1 h
    exact hdb.congr rfl
  | insertIssue issue =>
    obtain ⟨-, -, -, rfl⟩ := insertIssue_eq_ok h
    exact hdb.congr rfl
  | countIssue projectId now =>
    rw [countIssue_eq_ok h]
    exact hdb.congr rfl
  | insertStep step =>
    obtain ⟨-, -, -, -, rfl⟩ := insertStep_eq_ok h
    exact hdb.congr rfl
  | assignStep stepId agent now =>
    obtain ⟨-, rfl⟩ := assignStep_eq_ok_iff.1 h
    exact hdb.congr rfl
  | clearCursor issueId now =>
    obtain ⟨-, rfl⟩ := clearCursor_eq_ok_iff.1 h
    exact hdb.congr rfl
  | putGate issueId projectId gate now | moveCursor issueId projectId update now =>
    obtain ⟨-, -, rfl⟩ := putCursor_eq_ok_iff.1 h
    exact hdb.congr rfl
  | appendEntry draft =>
    obtain ⟨⟨entry, db'⟩, happend, rfl⟩ := map_eq_ok_iff.1 h
    obtain ⟨-, -, -, -, rfl⟩ := appendEntry_eq_ok_iff.1 happend
    exact hdb.congr rfl
  | setWorkStatus issueId status now =>
    obtain ⟨-, -, rfl⟩ := setWorkStatus_eq_ok_iff.1 h
    exact hdb.congr rfl
  | appendEvent actor now draft =>
    -- This is the one statement that touches the log.
    obtain ⟨-, -, hdone⟩ := bind_eq_ok_iff.1 h
    cases hdone
    exact hdb.appended (Prod.ext List.map_append rfl)

/-- A chain of statements keeps a log ascending. -/
theorem LogAscends.chain (hdb : db.LogAscends) (h : Chain db db') : db'.LogAscends := by
  induction h with
  | refl => exact hdb
  | tail _ hlast ih =>
    obtain ⟨statement, hstatement⟩ := hlast
    exact ih.statement hstatement

/-- Removing issues does not touch the log. -/
theorem eventNumbers_of_removeIssues {p : Issue → Bool} (h : db.removeIssues p = .ok db') :
    db'.eventNumbers = db.eventNumbers := by
  obtain ⟨-, cursors, rfl⟩ := removeIssues_eq_ok h
  rfl

/-- No strike touches the log. -/
theorem eventNumbers_of_strike {strike : Strike} (h : db.strike strike = .ok db') :
    db'.eventNumbers = db.eventNumbers := by
  cases strike with
  | projects p =>
    obtain ⟨db₁, hremove, hdone⟩ := bind_eq_ok_iff.1 h
    have hsame := eventNumbers_of_removeIssues hremove
    cases hdone
    exact hsame
  | issues p => exact eventNumbers_of_removeIssues h
  | steps p =>
    cases h
    rfl
  | entries p | rewrite p f =>
    obtain ⟨-, -, hdone⟩ := bind_eq_ok_iff.1 h
    cases hdone
    rfl

/-- No direct change gives a row of the audit log another number: the kind of an event is all of it
that can be changed. -/
theorem eventNumbers_of_rawWrite {w : RawWrite} {count : Nat}
    (h : db.rawWrite w = .ok (count, db')) : db'.eventNumbers = db.eventNumbers := by
  cases w with
  | deleteProject id | deleteIssue id =>
    obtain ⟨db₁, hremove, hdone⟩ := bind_eq_ok_iff.1 h
    have hsame := eventNumbers_of_removeIssues hremove
    cases hdone
    exact hsame
  | deleteHistory issueId | updateHistory issueId =>
    obtain ⟨-, -, hdone⟩ := bind_eq_ok_iff.1 h
    cases hdone
    rfl
  | clearShortId issueId | forceShortId issueId shortId =>
    rw [updateIssues_eq_ok h]
    rfl
  | setEventKind eventId word =>
    cases h
    -- A kind is a word beside the record, so that the number stays.
    refine Prod.ext (map_changed fun row => record_putWord Event.id ?_ row) rfl
    exact fun _ _ => rfl
  | setClosed column id word isChecked =>
    cases column with
    | workStatus =>
      obtain ⟨⟨count, db'⟩, hwrite, h⟩ := bind_eq_ok_iff.1 h
      obtain ⟨-, -, hdone⟩ := bind_eq_ok_iff.1 h
      cases hdone
      rw [updateIssues_eq_ok hwrite]
      rfl
    | stepKind =>
      obtain ⟨⟨count, db'⟩, hwrite, h⟩ := bind_eq_ok_iff.1 h
      obtain ⟨-, -, hdone⟩ := bind_eq_ok_iff.1 h
      cases hdone
      rw [updateSteps_eq_ok hwrite]
      rfl
    | gateStatus =>
      obtain ⟨-, -, hdone⟩ := bind_eq_ok_iff.1 h
      cases hdone
      rfl
  | deleteStep _ | block _ | unblock =>
    cases h
    rfl

/-- Whatever is done to a database keeps its log ascending. -/
theorem LogAscends.afterDeed (hdb : db.LogAscends) (deed : Deed) :
    (db.afterDeed deed).LogAscends := by
  cases deed with
  | strike strike =>
    rw [Database.afterDeed, carryOut]
    cases hstrike : db.strike strike with
    | error e => exact hdb
    | ok db' => exact hdb.congr (eventNumbers_of_strike hstrike)
  | call author op =>
    rw [afterDeed_call]
    by_cases hschema : op = .applySchema
    · subst hschema
      rw [after, perform]
      cases happly : db.applySchema author.stamp.now with
      | error e => exact hdb
      | ok db' =>
        obtain ⟨-, rfl⟩ := applySchema_eq_ok_iff.1 happly
        exact hdb.congr rfl
    by_cases hraw : ∃ w, op = .raw w
    · obtain ⟨w, rfl⟩ := hraw
      rw [after, perform]
      cases hwrite : db.rawWrite w with
      | error e => exact hdb
      | ok r => exact hdb.congr (eventNumbers_of_rawWrite hwrite)
    · exact hdb.chain (chain_after hschema fun w hop => hraw ⟨w, hop⟩)

/-- Deeds leave the log ascending. -/
theorem LogAscends.afterDeeds (hdb : db.LogAscends) (deeds : List Deed) :
    (db.afterDeeds deeds).LogAscends := by
  induction deeds generalizing db with
  | nil => exact hdb
  | cons deed deeds ih => exact ih (hdb.afterDeed deed)

/-- Whatever is done to a new database, no two rows of its audit log have the same number. -/
theorem nodup_eventIds (created : Int) (deeds : List Deed) :
    (((create created).afterDeeds deeds).events.map (·.record.id)).Nodup := by
  have hnew : (create created).LogAscends := ⟨.nil, nofun⟩
  exact (hnew.afterDeeds deeds).ascending.imp Int.ne_of_lt

/-! ### What is listed -/

/-- The rows of the audit log about an entity. -/
def rowsAbout (db : Database) (entityType entityId : String) : List (Row Event) :=
  db.events.filter fun row =>
    row.record.entityType == entityType && row.record.entityId == entityId

/-- The events of known kinds about an entity. -/
def knownEvents (db : Database) (entityType entityId : String) : List Event :=
  (db.rowsAbout entityType entityId).filterMap knownEvent?

/-- How many rows about an entity, of whatever kind, are newer than an event. -/
def newerRows (db : Database) (entityType entityId : String) (event : Event) : Nat :=
  (db.rowsAbout entityType entityId).countP fun row => decide (row.record.IsNewer event)

/-- What a list of events about an entity holds. -/
structure ListsEvents (db : Database) (entityType entityId : String) (limit : Nat)
    (shown : List Event) : Prop where
  /-- They are the newest of the known events about the entity, however many they are. -/
  newest : AreNewest (db.knownEvents entityType entityId) shown.length shown
  /-- A known event is listed iff fewer rows than the limit are newer, those of foreign kinds
  included. -/
  mem_iff : ∀ event, event ∈ shown ↔
    event ∈ db.knownEvents entityType entityId ∧ db.newerRows entityType entityId event < limit
  /-- As many are listed as could be iff, wherever fewer rows than the limit are newer than a row of
  a foreign kind, fewer than that are newer than any known event. -/
  complete_iff : AreNewest (db.knownEvents entityType entityId) limit shown ↔
    ∀ row ∈ db.rowsAbout entityType entityId, row.foreign ≠ none →
      db.newerRows entityType entityId row.record < limit →
        ∀ event ∈ db.knownEvents entityType entityId,
          db.newerRows entityType entityId event < limit

/-- An event is known if no foreign word stands in its row. -/
theorem knownEvent?_eq_some_iff {row : Row Event} :
    knownEvent? row = some event ↔ row.foreign = none ∧ row.record = event := by
  simp [knownEvent?]

/-- An event is unknown if its row holds a foreign word. -/
theorem knownEvent?_eq_none_iff {row : Row Event} :
    knownEvent? row = none ↔ row.foreign ≠ none := by
  simp [knownEvent?]

/-- Rows are sorted by time, and by number where times agree. -/
theorem isNoOlder_iff {a b : Row Event} : isNoOlder a b = true ↔
    b.record.createdAt < a.record.createdAt ∨
      a.record.createdAt = b.record.createdAt ∧ b.record.id ≤ a.record.id := by
  simp [isNoOlder]

/-- The rows about an entity, in the order in which they are listed. -/
def sortedRows (db : Database) (entityType entityId : String) : List (Row Event) :=
  (db.rowsAbout entityType entityId).mergeSort isNoOlder

/-- Sorting loses no row. -/
theorem sortedRows_perm (db : Database) (entityType entityId : String) :
    (db.sortedRows entityType entityId).Perm (db.rowsAbout entityType entityId) :=
  List.mergeSort_perm _ _

/-- Numbers tell any two rows apart, so that each row is newer than all after it. -/
theorem pairwise_sortedRows (hids : (db.events.map (·.record.id)).Nodup) :
    (db.sortedRows entityType entityId).Pairwise (·.record.IsNewer ·.record) := by
  have htrans : ∀ a b c : Row Event, isNoOlder a b → isNoOlder b c → isNoOlder a c := by
    intro a b c
    simp only [isNoOlder_iff]
    omega
  have htotal : ∀ a b : Row Event, (isNoOlder a b || isNoOlder b a) = true := by
    intro a b
    simp only [Bool.or_eq_true, isNoOlder_iff]
    omega
  have hsorted : (db.sortedRows entityType entityId).Pairwise fun a b => isNoOlder a b = true :=
    List.pairwise_mergeSort htrans htotal _
  have hdistinct : (db.sortedRows entityType entityId).Pairwise (·.record.id ≠ ·.record.id) := by
    refine (sortedRows_perm db entityType entityId).symm.pairwise ?_ fun h => h.symm
    exact (List.pairwise_map.1 hids).sublist List.filter_sublist
  refine (hsorted.and hdistinct).imp fun {a b} h => ?_
  obtain ⟨horder, hne⟩ := h
  rw [isNoOlder_iff] at horder
  unfold Event.IsNewer
  omega

/-- Of the sorted rows, the first ones are those that few others are newer than. -/
theorem mem_take_sortedRows_iff (hids : (db.events.map (·.record.id)).Nodup) {row : Row Event}
    {limit : Nat} : row ∈ (db.sortedRows entityType entityId).take limit ↔
      row ∈ db.rowsAbout entityType entityId ∧
        db.newerRows entityType entityId row.record < limit := by
  have hperm := sortedRows_perm db entityType entityId
  rw [mem_take_iff_of_pairwise (r := fun a b : Row Event => a.record.IsNewer b.record)
    (fun _ => Event.not_isNewer_self _) (fun _ _ => Event.IsNewer.asymm)
    (pairwise_sortedRows hids), hperm.mem_iff, hperm.countP_eq]
  rfl

/-- What is listed is what is known of the first rows. -/
theorem listEvents_eq (db : Database) (entityType entityId : String) (limit : Nat) :
    db.listEvents entityType entityId limit =
      ((db.sortedRows entityType entityId).take limit).filterMap knownEvent? :=
  rfl

/-- An event is listed if it is known and fewer rows than the limit are newer. -/
theorem mem_listEvents_iff (hids : (db.events.map (·.record.id)).Nodup) {limit : Nat} :
    event ∈ db.listEvents entityType entityId limit ↔
      event ∈ db.knownEvents entityType entityId ∧
        db.newerRows entityType entityId event < limit := by
  simp only [listEvents_eq, knownEvents, List.mem_filterMap, mem_take_sortedRows_iff hids,
    knownEvent?_eq_some_iff]
  constructor
  · rintro ⟨row, ⟨hrow, hnewer⟩, hknown, rfl⟩
    exact ⟨⟨row, hrow, hknown, rfl⟩, hnewer⟩
  · rintro ⟨⟨row, hrow, hknown, rfl⟩, hnewer⟩
    exact ⟨row, ⟨hrow, hnewer⟩, hknown, rfl⟩

/-- What is listed is a beginning of the known events, the newest first. -/
theorem newest_listEvents (hids : (db.events.map (·.record.id)).Nodup) (limit : Nat) :
    AreNewest (db.knownEvents entityType entityId)
      (db.listEvents entityType entityId limit).length
      (db.listEvents entityType entityId limit) := by
  have hperm : ((db.sortedRows entityType entityId).filterMap knownEvent?).Perm
      (db.knownEvents entityType entityId) := (sortedRows_perm db entityType entityId).filterMap _
  have hsorted : ((db.sortedRows entityType entityId).filterMap knownEvent?).Pairwise
      Event.IsNewer := by
    refine (pairwise_sortedRows hids).filterMap _ fun row row' h event hevent event' hevent' => ?_
    obtain ⟨-, rfl⟩ := knownEvent?_eq_some_iff.1 hevent
    obtain ⟨-, rfl⟩ := knownEvent?_eq_some_iff.1 hevent'
    exact h
  have hbeginning : db.listEvents entityType entityId limit <+:
      (db.sortedRows entityType entityId).filterMap knownEvent? :=
    (List.take_prefix limit _).filterMap _
  have hnewest := areNewest_take hperm hsorted (db.listEvents entityType entityId limit).length
  rwa [← List.prefix_iff_eq_take.1 hbeginning] at hnewest

/-- The known events that stand past the limit. -/
def pastLimit (db : Database) (entityType entityId : String) (limit : Nat) : List Event :=
  ((db.sortedRows entityType entityId).drop limit).filterMap knownEvent?

/-- What is listed and what is past the limit are all known events. -/
theorem perm_listEvents_append (db : Database) (entityType entityId : String) (limit : Nat) :
    (db.knownEvents entityType entityId).Perm
      (db.listEvents entityType entityId limit ++ db.pastLimit entityType entityId limit) := by
  rw [listEvents_eq, pastLimit, ← List.filterMap_append, List.take_append_drop]
  exact ((sortedRows_perm db entityType entityId).filterMap _).symm

/-- There are none past the limit iff fewer rows than the limit are newer than any known event. -/
theorem pastLimit_eq_nil_iff (hids : (db.events.map (·.record.id)).Nodup) {limit : Nat} :
    db.pastLimit entityType entityId limit = [] ↔
      ∀ event ∈ db.knownEvents entityType entityId,
        db.newerRows entityType entityId event < limit := by
  have hperm := perm_listEvents_append db entityType entityId limit
  constructor
  · intro hnil event hevent
    rw [hnil, List.append_nil] at hperm
    exact ((mem_listEvents_iff hids).1 (hperm.mem_iff.1 hevent)).2
  · intro hall
    rw [List.eq_nil_iff_forall_not_mem]
    intro event hpast
    have hknown := hperm.mem_iff.2 (List.mem_append_right _ hpast)
    have hlisted := (mem_listEvents_iff hids).2 ⟨hknown, hall event hknown⟩
    -- It would be newer than itself.
    obtain ⟨before, hbefore, hrecord⟩ := List.mem_filterMap.1 hlisted
    obtain ⟨after, hafter, hrecord'⟩ := List.mem_filterMap.1 hpast
    obtain ⟨-, rfl⟩ := knownEvent?_eq_some_iff.1 hrecord
    obtain ⟨-, hsame⟩ := knownEvent?_eq_some_iff.1 hrecord'
    have hsorted : (db.sortedRows entityType entityId).Pairwise (·.record.IsNewer ·.record) :=
      pairwise_sortedRows hids
    rw [← List.take_append_drop limit (db.sortedRows entityType entityId)] at hsorted
    have hnewer := (List.pairwise_append.1 hsorted).2.2 before hbefore after hafter
    rw [hsame] at hnewer
    exact Event.not_isNewer_self _ hnewer

/-- Fewer events are listed than rows were looked at iff one of these is of a foreign kind. -/
theorem length_listEvents_lt_iff (db : Database) (entityType entityId : String) (limit : Nat) :
    (db.listEvents entityType entityId limit).length <
        ((db.sortedRows entityType entityId).take limit).length ↔
      ∃ row ∈ (db.sortedRows entityType entityId).take limit, row.foreign ≠ none := by
  rw [listEvents_eq, List.length_filterMap_lt_length_iff_exists]
  simp only [knownEvent?_eq_none_iff, exists_prop]

/-- Events of foreign kinds take no place from known ones iff there are none among the newest rows,
or nothing is past the limit. -/
theorem length_listEvents_eq_iff (hids : (db.events.map (·.record.id)).Nodup) {limit : Nat} :
    (db.listEvents entityType entityId limit).length =
        min limit (db.knownEvents entityType entityId).length ↔
      ∀ row ∈ db.rowsAbout entityType entityId, row.foreign ≠ none →
        db.newerRows entityType entityId row.record < limit →
          db.pastLimit entityType entityId limit = [] := by
  have hlt := length_listEvents_lt_iff db entityType entityId limit
  have hknown := (perm_listEvents_append db entityType entityId limit).length_eq
  rw [List.length_append] at hknown
  have htake : ((db.sortedRows entityType entityId).take limit).length =
    min limit (db.sortedRows entityType entityId).length := List.length_take
  have hpast : (db.pastLimit entityType entityId limit).length ≤
      (db.sortedRows entityType entityId).length - limit := by
    rw [← List.length_drop]
    exact List.length_filterMap_le _ _
  have hshown : (db.listEvents entityType entityId limit).length ≤
      ((db.sortedRows entityType entityId).take limit).length := List.length_filterMap_le _ _
  -- What is left is about lengths: known events are those shown and those past the limit.
  simp only [← List.length_eq_zero_iff]
  constructor
  · intro heq row hrow hforeign hnewer
    have hshort := hlt.2 ⟨row, (mem_take_sortedRows_iff hids).2 ⟨hrow, hnewer⟩, hforeign⟩
    omega
  · intro hall
    by_cases hsome : ∃ row ∈ (db.sortedRows entityType entityId).take limit, row.foreign ≠ none
    · obtain ⟨row, hrow, hforeign⟩ := hsome
      obtain ⟨habout, hnewer⟩ := (mem_take_sortedRows_iff hids).1 hrow
      have hempty := hall row habout hforeign hnewer
      omega
    · have hfull := mt hlt.1 hsome
      omega

/-- What is listed of an audit log in which rows have numbers of their own: the newest of the known
events about the entity, but fewer than asked for where events of foreign kinds took their
places. -/
theorem listsEvents_of_nodup (hids : (db.events.map (·.record.id)).Nodup)
    (entityType entityId : String) (limit : Option Nat) :
    db.ListsEvents entityType entityId (limit.getD 100)
      (db.recentEvents entityType entityId limit) where
  newest := newest_listEvents hids _
  mem_iff _ := mem_listEvents_iff hids
  complete_iff := by
    simp only [← pastLimit_eq_nil_iff hids]
    exact (newest_listEvents hids _).iff_length.trans (length_listEvents_eq_iff hids)

/-- A project is created in this run, and a step is added to it; then the event about the step is
given a foreign kind. -/
def foreignRun : List Deed :=
  let author (n : Nat) : Author := ⟨"tester", ⟨1700000000000 + 1000 * n, n⟩⟩
  [ .call (author 1)
      (.createProject { Project.create (author 1).stamp "Docs" "ws" with issuePrefix := "DOCS" }),
    .call (author 2) (.addStep ⟨"proj_00000001-400", "draft", .agentWork, none, true, none⟩),
    .call (author 3) (.raw (.setEventKind 2 "step_archived")) ]

/-- After this run the newest known event is the one about the project, but nothing is listed under
a limit of one. -/
theorem not_newest_foreignRun :
    let db := (create 1700000000000).afterDeeds foreignRun
    let created : Event := ⟨1, "project", "proj_00000001-400", .projectCreated, "tester", none,
      none, none, 1700000001000⟩
    AreNewest (db.knownEvents "project" "proj_00000001-400") 1 [created] ∧
      db.recentEvents "project" "proj_00000001-400" (some 1) = [] ∧
      ¬ AreNewest (db.knownEvents "project" "proj_00000001-400") 1
        (db.recentEvents "project" "proj_00000001-400" (some 1)) := by
  intro db created
  have hids : (db.events.map (·.record.id)).Nodup := nodup_eventIds 1700000000000 foreignRun
  have hknown : db.knownEvents "project" "proj_00000001-400" = [created] := by decide +kernel
  have hnewer : db.newerRows "project" "proj_00000001-400" created = 1 := by decide +kernel
  have hshown : db.recentEvents "project" "proj_00000001-400" (some 1) = [] := by
    rw [List.eq_nil_iff_forall_not_mem]
    intro event hevent
    obtain ⟨hmem, hlimit⟩ := (mem_listEvents_iff hids).1 hevent
    rw [hknown, List.mem_singleton] at hmem
    rw [hmem, hnewer] at hlimit
    exact absurd hlimit (by decide)
  rw [hknown, hshown]
  refine ⟨areNewest_take (.refl _) (List.pairwise_singleton _ _) 1, rfl, fun h => ?_⟩
  exact absurd h.length_eq (by decide)

/-- Under a limit of two, the event about the project is listed after that run, and nothing else
could be. -/
theorem listsEvents_foreignRun :
    let db := (create 1700000000000).afterDeeds foreignRun
    let shown := db.recentEvents "project" "proj_00000001-400" (some 2)
    (db.events.map (·.record.id)).Nodup ∧ shown.length = 1 ∧
      db.ListsEvents "project" "proj_00000001-400" 2 shown ∧
      AreNewest (db.knownEvents "project" "proj_00000001-400") 2 shown := by
  intro db shown
  have hids : (db.events.map (·.record.id)).Nodup := nodup_eventIds 1700000000000 foreignRun
  have hlists := listsEvents_of_nodup hids "project" "proj_00000001-400" (some 2)
  have hnewest : AreNewest (db.knownEvents "project" "proj_00000001-400") 2 shown :=
    hlists.complete_iff.2 (by decide +kernel)
  have hlength : shown.length = 1 := by
    rw [hnewest.length_eq]
    decide +kernel
  exact ⟨hids, hlength, hlists, hnewest⟩

end Database

end ReviewPipeline
