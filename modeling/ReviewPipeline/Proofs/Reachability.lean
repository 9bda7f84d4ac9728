import ReviewPipeline.Proofs.Barrier
import ReviewPipeline.Proofs.Completion
import ReviewPipeline.Proofs.Rejection

/-!
# Which Steps an Issue Can Reach

While the stages of its project stay the same, an issue that was not started before is moved between
the first stage and the barrier: completions lead it on by one stage, rejections back by one. It can
only be brought to the end if the barrier is the last stage; otherwise every further completion at
the barrier is recorded and changes nothing else.

An issue is followed through a run by the replay of its history (`Followed`). Its pointer is where
the replay has come to, and no replay leads past the barrier (`within_of_replay`).

## Main definitions

* `IsAt`: the pointer of an issue is at a place of its catalog;
* `Completes`: a call completes a step of an issue and is not refused;
* `ReachSpec`: what can be reached, and by which calls.

## Main results

* `Followed.complete_ok`, `Followed.reject_ok`: from where which call leads where;
* `reach_spec`: an issue that was not started meets its specification.
-/

namespace ReviewPipeline

open Progression

/-- A cursor with a pointer knows when its issue was started. -/
def Cursor.IsStarted (c : Cursor) : Prop :=
  c.stepId.isSome → c.startedAt.isSome

/-- A planned transition sets the time of the first one, or does not need it. -/
theorem isStarted_apply {steps : List Step} {cursor : Cursor} {stamp : Stamp} {t : Transition}
    (h : Planned steps cursor stamp t) (hstarted : cursor.IsStarted) (now : Int) :
    (cursor.apply t.update now).IsStarted := by
  intro _
  cases h with
  | advanced | held | finished => simp [Cursor.apply]
  | rejected hpointer =>
    have hsome : cursor.startedAt.isSome := hstarted (by rw [hpointer]; rfl)
    simp [Cursor.apply, hsome]

namespace Database

variable {db : Database} {author other : Author} {op : Operation} {id projectId text : String}
  {issue found : Issue} {stages : List Stage} {calls more : List (Author × Operation)}
  {authors : List Author} {agent notes : Option String} {reason : String} {index : Nat}
  {mark : Mark}

/-- The pointer of an issue is at the place of its catalog with this index. -/
def IsAt (db : Database) (id projectId : String) (index : Nat) : Prop :=
  ∃ step, (db.storedCatalog projectId)[index]? = some step ∧ db.positionOf id = .atStep step.id

/-- A text is looked up to the issue with a full identifier. -/
def Finds (db : Database) (text id : String) : Prop :=
  ∃ found, db.issue text = .ok found ∧ found.id = id

/-- A call completes or rejects a step of an issue. -/
def Transits (id : String) (db : Database) (_author : Author) (op : Operation) : Prop :=
  ∃ text, db.Finds text id ∧
    ((∃ agent notes, op = .complete text agent notes) ∨
      ∃ agent reason, op = .reject text agent reason)

/-- A call completes a step of an issue. Its writes are not refused, if there are any. -/
structure Completes (id : String) (db : Database) (author : Author) (op : Operation) : Prop where
  /-- The call is a completion of the issue. -/
  call : ∃ text agent notes, op = .complete text agent notes ∧ db.Finds text id
  /-- While the issue is not completed, the call can write. -/
  writable : db.positionOf id ≠ .completed → db.Writable author

/-- Each of the authors can make a transition, one after the other. -/
structure Supplies (db : Database) (authors : List Author) : Prop where
  /-- Each of them can make the next one. -/
  writable : ∀ author ∈ authors, db.Writable author
  /-- No two of them use one identifier for the ledger entry. -/
  distinct : (authors.map fun author => author.stamp.identifier "hist").Nodup

/-- An issue was completed `count` times and is where it was. -/
structure Held (before after : Database) (id : String) (count : Nat) : Prop where
  /-- Of its cursor only the time of the last write has changed. -/
  cursor : ∃ now, after.storedCursor? id =
    (before.storedCursor? id).map fun cursor => { cursor with updatedAt := now }
  /-- So its position is the same. -/
  position : after.positionOf id = before.positionOf id
  /-- Each completion is recorded. -/
  history : ∃ entries, entries.length = count ∧ after.history id = before.history id ++ entries

/-- What can be reached from a database by an issue that was not started. -/
structure ReachSpec (db : Database) (issue : Issue) (stages : List Stage) : Prop where
  /-- The pointer never gets past the barrier. -/
  bounded : ∀ calls, Along (Undisturbed issue.id issue.projectId) db calls → ∀ index,
    (db.run calls).2.IsAt issue.id issue.projectId index → index ≤ barrier stages
  /-- A rejection past the first step, with a reason and not refused, leads one step back. -/
  back : ∀ calls, Along (Undisturbed issue.id issue.projectId) db calls → ∀ index,
    (db.run calls).2.IsAt issue.id issue.projectId (index + 1) →
      ∀ author text agent reason, (db.run calls).2.Finds text issue.id →
        (db.run calls).2.Writable author → Text.trim reason ≠ "" →
          ∃ rejection after, (db.run calls).2.perform author (.reject text agent reason) =
            .ok (.rejection rejection, after) ∧ after.IsAt issue.id issue.projectId index
  /-- The end can be reached iff the barrier is the last stage, given authors to reach it. -/
  ends : ∀ authors, authors.length = stages.length → db.Supplies authors →
    ((∃ calls, Along (Transits issue.id) db calls ∧
        (db.run calls).2.positionOf issue.id = .completed) ↔
      barrier stages + 1 = stages.length)
  /-- Completions succeed until the end, and are conflicts from then on. -/
  answers : ∀ calls, Along (Completes issue.id) db calls → ∀ k answer,
    (db.run calls).1[k]? = some answer →
      if barrier stages + 1 = stages.length ∧ stages.length ≤ k then
        answer = .error (.alreadyCompleted issue.id)
      else ∃ completion, answer = .ok (.completion completion)
  /-- They lead one step on each time, until the barrier, and from the last step to the end. -/
  forth : ∀ calls, Along (Completes issue.id) db calls → calls ≠ [] →
    if barrier stages + 1 = stages.length ∧ stages.length ≤ calls.length then
      (db.run calls).2.positionOf issue.id = .completed
    else
      (db.run calls).2.IsAt issue.id issue.projectId (min calls.length (barrier stages))
  /-- At a barrier before the last stage completions change nothing, but each is recorded. -/
  held : ∀ calls, Along (Undisturbed issue.id issue.projectId) db calls →
    (db.run calls).2.IsAt issue.id issue.projectId (barrier stages) →
      barrier stages + 1 < stages.length →
        ∀ more, Along (Completes issue.id) (db.run calls).2 more →
          Held (db.run calls).2 ((db.run calls).2.run more).2 issue.id more.length

/-! ### Following an issue -/

/-- What an undisturbed run keeps of an issue that was not started before. -/
structure Followed (db : Database) (id projectId : String) (stages : List Stage) : Prop where
  /-- The database is consistent. -/
  consistent : db.Consistent
  /-- Cursor and ledger agree. -/
  tracked : ∃ moves, Tracked db id projectId moves
  /-- The project has these stages. -/
  stages : db.stages projectId = stages
  /-- If there is a pointer, the time of the first transition is known. -/
  started : ∀ cursor, db.storedCursor? id = some cursor → cursor.IsStarted

/-- The cursor an issue is worked from is started where the stored one is. -/
theorem isStarted_cursorFor {now : Int}
    (h : ∀ cursor, db.storedCursor? issue.id = some cursor → cursor.IsStarted) :
    (db.cursorFor issue now).IsStarted := by
  unfold cursorFor
  cases hcursor : db.storedCursor? issue.id with
  | none => exact nofun
  | some cursor => exact h cursor hcursor

/-- A fresh issue follows its catalog. -/
theorem followed_of_isFresh (hdb : db.Consistent) (h : db.IsFresh issue) :
    Followed db issue.id issue.projectId (db.stages issue.projectId) := by
  have hnil : Along (Undisturbed issue.id issue.projectId) db [] :=
    along_undisturbed hdb _ _ (by simp)
  refine ⟨hdb, ⟨_, (tracked_run hdb h hnil).2⟩, rfl, fun cursor hcursor hpointer => ?_⟩
  -- A cursor with a pointer is at a step.
  obtain ⟨stepId, hstepId⟩ := Option.isSome_iff_exists.1 hpointer
  have hposition := h.position
  rw [positionOf, hcursor, Option.elim_some, Cursor.position, hstepId] at hposition
  cases hposition

/-- An undisturbed call keeps an issue followed. -/
theorem Followed.after (h : Followed db id projectId stages)
    (hcall : Undisturbed id projectId db author op) :
    Followed (db.after author op) id projectId stages := by
  obtain ⟨moves, htracked⟩ := h.tracked
  refine ⟨consistent_after h.consistent hcall.isCall, ⟨_, htracked.after h.consistent hcall⟩,
    hcall.stages.trans h.stages, fun cursor hcursor => ?_⟩
  -- A call that fails changes nothing; one that succeeds has one of five effects.
  rcases after_cases h.consistent hcall.isCall author with ⟨e, -, hsame⟩ | ⟨reply, -, hcalled⟩
  · rw [hsame] at hcursor
    exact h.started cursor hcursor
  · cases hcalled.effect h.consistent id with
    | untouched _ hafter => exact h.started cursor (hafter.symm.trans hcursor)
    | created _ _ _ hafter => cases hafter.symm.trans hcursor
    | gated hstored _ hafter =>
      obtain rfl := Option.some.inj (hafter.symm.trans hcursor)
      obtain rfl := id_of_storedIssue? hstored
      exact isStarted_cursorFor h.started
    | reset _ _ _ _ hafter =>
      obtain ⟨_, -, rfl⟩ := Option.map_eq_some_iff.1 (hafter.symm.trans hcursor)
      exact nofun
    | moved hstored hplanned _ hafter =>
      obtain rfl := Option.some.inj (hafter.symm.trans hcursor)
      obtain rfl := id_of_storedIssue? hstored
      exact isStarted_apply hplanned (isStarted_cursorFor h.started) _

/-- An undisturbed run keeps an issue followed. -/
theorem Followed.run (h : Followed db id projectId stages)
    (hcalls : Along (Undisturbed id projectId) db calls) :
    Followed (db.run calls).2 id projectId stages := by
  -- Each call is judged on the database that it meets, so the last one is split off.
  induction calls using List.reverseRecOn with
  | nil => exact h
  | append_singleton calls call ih =>
    obtain ⟨hbefore, hlast⟩ := along_concat.1 hcalls
    rw [run_concat]
    exact (ih hbefore).after hlast

/-- The issue that a text is looked up to has the project in which the issue is followed. -/
theorem Followed.projectId_eq (h : Followed db id projectId stages)
    (hfound : db.issue text = .ok found) (hid : found.id = id) : found.projectId = projectId := by
  obtain ⟨moves, ⟨stored, hstored, hproject⟩, -⟩ := h.tracked
  have hsame := storedIssue?_of_issue_eq_ok h.consistent hfound
  rw [hid, hstored] at hsame
  rw [← Option.some.inj hsame, hproject]

/-- The full identifier of a followed issue finds it. -/
theorem Followed.finds (h : Followed db id projectId stages) : db.Finds id id := by
  obtain ⟨moves, ⟨stored, hstored, -⟩, -⟩ := h.tracked
  exact ⟨stored, issue_eq_ok_of_stored h.consistent hstored, id_of_storedIssue? hstored⟩

/-! ### Places of a followed issue -/

section Places

variable (h : Followed db id projectId stages)

include h

theorem Followed.length_catalog : stages.length = (db.storedCatalog projectId).length := by
  rw [← h.stages, Database.stages, List.length_map]

/-- The stage at an index is that of the catalog's step there. -/
theorem Followed.getElem?_catalog :
    stages[index]? = (db.storedCatalog projectId)[index]?.map Step.stage := by
  rw [← h.stages, Database.stages, List.getElem?_map]

/-- The history of a followed issue leads to where the issue is. -/
theorem Followed.exists_mark :
    ∃ mark, replay stages (db.history id) = some mark ∧
      (mark.position stages = some (db.positionOf id) ∨
        (db.positionOf id = .notStarted ∧ mark = .atStage 0)) := by
  obtain ⟨moves, htracked⟩ := h.tracked
  have hposition := htracked.position
  rw [h.stages, replayedPosition] at hposition
  split at hposition
  · next hempty =>
    rw [hempty]
    exact ⟨.atStage 0, rfl, .inr ⟨(Option.some.inj hposition).symm, rfl⟩⟩
  · obtain ⟨mark, hmark, hsame⟩ := Option.bind_eq_some_iff.1 hposition
    exact ⟨mark, hmark, .inl hsame⟩

/-- A place of the replay is a place of the catalog. -/
theorem Followed.isAt_iff :
    (Mark.atStage index).position stages = some (db.positionOf id) ↔
      db.IsAt id projectId index := by
  rw [Mark.position, h.getElem?_catalog, Option.map_map, Option.map_eq_some_iff]
  exact exists_congr fun step => and_congr_right fun _ => eq_comm

/-- Where the pointer of a followed issue is, its history leads. -/
theorem Followed.replay_of_isAt (hat : db.IsAt id projectId index) :
    replay stages (db.history id) = some (.atStage index) := by
  obtain ⟨step, hstep, hposition⟩ := hat
  obtain ⟨mark, hmark, hsame | ⟨hsame, -⟩⟩ := h.exists_mark
  · cases mark with
    | ended => cases (Option.some.inj hsame).trans hposition
    | atStage i =>
      obtain ⟨step', hstep', hposition'⟩ := h.isAt_iff.1 hsame
      -- The catalog holds the step once.
      have hid : step'.id = step.id := Position.atStep.inj (hposition'.symm.trans hposition)
      rwa [index_unique (nodup_ids_storedCatalog h.consistent) hstep' hstep hid] at hmark
  · cases hsame.symm.trans hposition

/-- A completed issue has a ledger that replays to the end. -/
theorem Followed.replay_of_completed (hcompleted : db.positionOf id = .completed) :
    replay stages (db.history id) = some .ended := by
  obtain ⟨mark, hmark, hsame | ⟨hsame, -⟩⟩ := h.exists_mark
  · cases mark with
    | ended => exact hmark
    | atStage i =>
      obtain ⟨step, -, hposition⟩ := h.isAt_iff.1 hsame
      cases hcompleted.symm.trans hposition
  · cases hsame.symm.trans hcompleted

/-- The converse: where the ledger replays to the end, the issue is completed. -/
theorem Followed.completed_of_replay (hmark : replay stages (db.history id) = some .ended) :
    db.positionOf id = .completed := by
  obtain ⟨mark, hmark', hsame | ⟨-, rfl⟩⟩ := h.exists_mark
  · obtain rfl := Option.some.inj (hmark.symm.trans hmark')
    exact (Option.some.inj hsame).symm
  · cases Option.some.inj (hmark.symm.trans hmark')

/-- Where the history of a followed issue leads, a completion acts. -/
theorem Followed.exists_standsAt (hstages : stages ≠ [])
    (hmark : replay stages (db.history id) = some (.atStage index)) :
    ∃ step, StandsAt (db.storedCatalog projectId) (db.positionOf id) ⟨index, step⟩ := by
  obtain ⟨mark, hmark', hsame⟩ := h.exists_mark
  obtain rfl := Option.some.inj (hmark.symm.trans hmark')
  rcases hsame with hsame | ⟨hposition, hfirst⟩
  · obtain ⟨step, hstep, hposition⟩ := h.isAt_iff.1 hsame
    rw [hposition]
    exact ⟨step, .pointed hstep⟩
  · obtain rfl := Mark.atStage.inj hfirst
    rw [hposition]
    have hlength : 0 < (db.storedCatalog projectId).length := by
      rw [← h.length_catalog]
      exact List.length_pos_of_ne_nil hstages
    exact ⟨_, .first (List.getElem?_eq_getElem hlength)⟩

end Places

/-! ### Completions and rejections of a followed issue -/

/-- A completion of a followed issue is planned and written down, unless it is refused. -/
theorem Followed.complete_eq (h : Followed db id projectId stages) (hstages : stages ≠ [])
    (hfinds : db.Finds text id) (hwritable : db.Writable author)
    (hmark : replay stages (db.history id) = some (.atStage index)) (agent notes : Option String) :
    ∃ found step t, found.id = id ∧ found.projectId = projectId ∧
      StandsAt (db.storedCatalog projectId) (db.positionOf id) ⟨index, step⟩ ∧
      planCompletion (db.storedCatalog projectId) (db.cursorFor found author.stamp.now) agent notes
        author.stamp = .ok t ∧
      db.perform author (.complete text agent notes) =
        .ok (.completion (completionOf found t), db.transitioned author found t) := by
  obtain ⟨found, hfound, rfl⟩ := hfinds
  obtain rfl := h.projectId_eq hfound rfl
  obtain ⟨step, hstands⟩ := h.exists_standsAt hstages hmark
  obtain ⟨t, hplan, ⟨_, -, hblocked⟩ | ⟨hcomplete, -⟩⟩ :=
    complete_cases_of_standsAt h.consistent author agent notes hfound hstands
  · exact absurd hwritable hblocked
  · refine ⟨found, step, t, rfl, rfl, hstands, hplan, ?_⟩
    rw [perform, hcomplete]
    rfl

/-- A completion of a followed issue leads it on, as far as it can. -/
theorem Followed.complete_ok (h : Followed db id projectId stages) (hstages : stages ≠ [])
    (hfinds : db.Finds text id) (hwritable : db.Writable author)
    (hmark : replay stages (db.history id) = some (.atStage index)) (agent notes : Option String) :
    (∃ completion, db.perform author (.complete text agent notes) =
        .ok (.completion completion, db.after author (.complete text agent notes))) ∧
      (∃ entry, (db.after author (.complete text agent notes)).history id =
        db.history id ++ [entry]) ∧
      replay stages ((db.after author (.complete text agent notes)).history id) =
        some ((Mark.atStage index).next stages) ∧
      ((Mark.atStage index).next stages).position stages =
        some ((db.after author (.complete text agent notes)).positionOf id) := by
  have hafter : Followed (db.after author (.complete text agent notes)) id projectId stages :=
    h.after (undisturbed_of_isSteady h.consistent id projectId rfl)
  obtain ⟨found, step, t, rfl, rfl, -, hplan, hperform⟩ :=
    h.complete_eq hstages hfinds hwritable hmark agent notes
  have hsame : db.after author (.complete text agent notes) = db.transitioned author found t := by
    rw [Database.after, hperform]
  rw [hsame] at hafter ⊢
  have hhistory := history_transitioned db author found t found.id
  rw [if_pos ((planned_of_planCompletion hplan).1.entry_issueId.trans cursorFor_issueId)]
    at hhistory
  refine ⟨⟨_, hperform⟩, ⟨_, hhistory⟩, ?_⟩
  -- The entry is a completion, so the replay is led on by one place, and the pointer with it.
  obtain ⟨mark, hmark', hposition⟩ := hafter.exists_mark
  have hentry := hmark'
  rw [hhistory, replay_concat, hmark, Option.bind_some] at hentry
  have hnext : mark = (Mark.atStage index).next stages :=
    replayEntry_completed hentry (result_of_planCompletion hplan)
  rw [← hnext]
  refine ⟨hmark', ?_⟩
  rcases hposition with hposition | ⟨hposition, -⟩
  · exact hposition
  · -- An issue with a history was started.
    obtain ⟨moves, htracked⟩ := hafter.tracked
    have hstarted := htracked.position
    rw [hafter.stages, replayedPosition, if_neg (by simp [hhistory]), hmark', Option.bind_some]
      at hstarted
    exact hstarted

/-- A completion of a followed issue that is completed is a conflict. -/
theorem Followed.complete_error (h : Followed db id projectId stages) (hstages : stages ≠ [])
    (hfinds : db.Finds text id) (hcompleted : db.positionOf id = .completed) (author : Author)
    (agent notes : Option String) :
    db.perform author (.complete text agent notes) = .error (.alreadyCompleted id) := by
  obtain ⟨found, hfound, rfl⟩ := hfinds
  obtain rfl := h.projectId_eq hfound rfl
  have hsteps : ¬ (db.storedCatalog found.projectId).isEmpty = true := by
    intro hempty
    refine hstages (List.eq_nil_of_length_eq_zero ?_)
    rw [h.length_catalog, List.isEmpty_iff.1 hempty, List.length_nil]
  have hcurrent : ensureStarted (db.storedCatalog found.projectId)
      (db.cursorFor found author.stamp.now) = .error (.alreadyCompleted found.id) := by
    unfold ensureStarted
    rw [position_cursorFor, hcompleted, cursorFor_issueId]
  rw [perform, complete_eq_of_issue_ok h.consistent hfound, if_neg hsteps,
    planCompletion_eq_error_iff.2 hcurrent]
  rfl

/-- Nothing done holds an issue where it is. -/
theorem Held.refl (db : Database) (id : String) : Held db db id 0 := by
  refine ⟨?_, rfl, [], rfl, (List.append_nil _).symm⟩
  cases db.storedCursor? id with
  | none => exact ⟨0, rfl⟩
  | some cursor => exact ⟨cursor.updatedAt, rfl⟩

/-- Completions that hold an issue add up. -/
theorem Held.trans {before between after : Database} {m n : Nat} (h : Held before between id m)
    (h' : Held between after id n) : Held before after id (m + n) := by
  obtain ⟨_, hcursor⟩ := h.cursor
  obtain ⟨now, hcursor'⟩ := h'.cursor
  obtain ⟨entries, hlength, hhistory⟩ := h.history
  obtain ⟨entries', hlength', hhistory'⟩ := h'.history
  refine ⟨⟨now, ?_⟩, h'.position.trans h.position, entries ++ entries', ?_, ?_⟩
  · rw [hcursor', hcursor, Option.map_map]
    rfl
  · rw [List.length_append, hlength, hlength']
  · rw [hhistory', hhistory, List.append_assoc]

/-- A completion at a step that stops, and is not the last one, leaves the cursor as it is. -/
theorem apply_of_stops {steps : List Step} {cursor : Cursor} {stamp : Stamp} {place : Place}
    {t : Transition} (hcurrent : ensureStarted steps cursor = .ok place)
    (hplan : planCompletion steps cursor agent notes stamp = .ok t)
    (hstops : place.step.stage.stops = true) (hlast : place.index + 1 < steps.length)
    (hpointer : cursor.stepId = some place.step.id) (hstarted : cursor.IsStarted) (now : Int) :
    cursor.apply t.update now = { cursor with updatedAt := now } := by
  obtain ⟨hplanned, -⟩ := planned_of_planCompletion hplan
  have hresult := result_of_planCompletion hplan
  cases hplanned with
  | advanced hplace _ hmoves =>
    obtain rfl := Except.ok.inj (hcurrent.symm.trans hplace)
    have hpasses : place.step.stage.stops = false :=
      stops_eq_false_iff.2 ⟨hmoves.1, not_isHumanReview_iff.1 hmoves.2⟩
    cases hpasses.symm.trans hstops
  | held hplace =>
    obtain rfl := Except.ok.inj (hcurrent.symm.trans hplace)
    -- The pointer is written over itself, and both times stay as they are.
    have hsome : cursor.startedAt.isSome := hstarted (by rw [hpointer]; rfl)
    obtain ⟨time, htime⟩ := Option.isSome_iff_exists.1 hsome
    simp [Cursor.apply, htime, hpointer]
  | finished hplace hnext =>
    obtain rfl := Except.ok.inj (hcurrent.symm.trans hplace)
    have hend := List.getElem?_eq_none_iff.1 hnext
    omega
  | rejected => cases hresult

/-- At a barrier before the last stage a completion is recorded and changes nothing else. -/
theorem Followed.complete_held (h : Followed db id projectId stages)
    (hfinds : db.Finds text id) (hwritable : db.Writable author)
    (hat : db.IsAt id projectId (barrier stages)) (hlast : barrier stages + 1 < stages.length)
    (agent notes : Option String) :
    Held db (db.after author (.complete text agent notes)) id 1 := by
  have hstages : stages ≠ [] := List.ne_nil_of_length_pos (by omega)
  have hmark := h.replay_of_isAt hat
  obtain ⟨-, ⟨entry, hhistory⟩, -⟩ := h.complete_ok hstages hfinds hwritable hmark agent notes
  obtain ⟨found, step, t, rfl, rfl, hstands, hplan, hperform⟩ :=
    h.complete_eq hstages hfinds hwritable hmark agent notes
  obtain ⟨step', hstep, hposition⟩ := hat
  obtain rfl : step' = step := Option.some.inj (hstep.symm.trans hstands.getElem?)
  -- The step stops and is not the last one, and the stored cursor points to it.
  have hstops : step'.stage.stops = true := by
    refine stops_barrier hlast ?_
    rw [h.getElem?_catalog, hstep]
    rfl
  obtain ⟨cursor, hcursor, hpointer⟩ :=
    Option.bind_eq_some_iff.1 (positionOf_eq_atStep_iff.1 hposition)
  have hstored : db.cursorFor found author.stamp.now = cursor := by
    rw [cursorFor, hcursor]
    rfl
  rw [hstored] at hplan
  have hcurrent : ensureStarted (db.storedCatalog found.projectId) cursor =
      .ok ⟨barrier stages, step'⟩ := by
    rw [ensureStarted_eq_ok_iff (nodup_ids_storedCatalog h.consistent), ← hstored,
      position_cursorFor]
    exact hstands
  have happly := apply_of_stops hcurrent hplan hstops (h.length_catalog ▸ hlast) hpointer
    (h.started cursor hcursor) author.stamp.now
  have hafter : (db.after author (.complete text agent notes)).storedCursor? found.id =
      some { cursor with updatedAt := author.stamp.now } := by
    rw [Database.after, hperform]
    rw [storedCursor?_transitioned, if_pos rfl, hstored, happly]
  refine ⟨⟨author.stamp.now, ?_⟩, ?_, [entry], rfl, hhistory⟩
  · rw [hafter, hcursor]
    rfl
  · rw [positionOf, positionOf, hafter, hcursor]
    rfl

/-- A rejection of a followed issue past the first step leads it back by one. -/
theorem Followed.reject_ok (h : Followed db id projectId stages) (hstages : stages ≠ [])
    (hfinds : db.Finds text id) (hwritable : db.Writable author)
    (hreason : Text.trim reason ≠ "") (hat : db.IsAt id projectId (index + 1))
    (agent : Option String) :
    ∃ rejection after, db.perform author (.reject text agent reason) =
      .ok (.rejection rejection, after) ∧ after.IsAt id projectId index := by
  have hwithin : index + 1 ≤ barrier stages := within_of_replay hstages (h.replay_of_isAt hat)
  obtain ⟨found, hfound, rfl⟩ := hfinds
  obtain rfl := h.projectId_eq hfound rfl
  obtain ⟨current, hcurrent, hposition⟩ := hat
  -- The step before does not stop, so it is no person's and nothing is skipped.
  have hlt : index < (db.storedCatalog found.projectId).length := by
    have := (List.getElem?_eq_some_iff.1 hcurrent).1
    omega
  obtain ⟨step, hstep⟩ : ∃ step, (db.storedCatalog found.projectId)[index]? = some step :=
    ⟨_, List.getElem?_eq_getElem hlt⟩
  have hpasses : step.stage.stops = false := by
    refine stops_of_lt_barrier hwithin ?_
    rw [h.getElem?_catalog, hstep]
    rfl
  have hback : SendsBack (db.storedCatalog found.projectId) ⟨index + 1, current⟩ ⟨index, step⟩ :=
    ⟨hstep, Nat.lt_succ_self index, (stops_eq_false_iff.1 hpasses).2,
      fun j hj hj' => absurd hj' (Nat.not_lt_of_le hj)⟩
  rcases reject_cases_of_sendsBack h.consistent author agent hreason hfound
      (positionOf_eq_atStep_iff.1 hposition) hcurrent hback with
    ⟨_, -, hblocked⟩ | ⟨hreject, -⟩
  · exact absurd hwritable hblocked
  · have hperform := congrArg (answer Reply.rejection) hreject
    refine ⟨_, _, hperform, step, hstep, ?_⟩
    rw [positionOf, storedCursor?_transitioned, if_pos rfl, sentBack_apply]
    rfl

/-! ### Runs of completions -/

/-- A call that completes or rejects a step does not disturb the issue. -/
theorem Followed.undisturbed (h : Followed db id projectId stages)
    (hcall : Transits id db author op) : Undisturbed id projectId db author op := by
  refine undisturbed_of_isSteady h.consistent id projectId ?_
  obtain ⟨text, -, ⟨agent, notes, rfl⟩ | ⟨agent, reason, rfl⟩⟩ := hcall
  · rfl
  · rfl

/-- A completion of the issue is one of the calls that move it. -/
theorem Completes.transits (h : Completes id db author op) : Transits id db author op := by
  obtain ⟨text, agent, notes, rfl, hfinds⟩ := h.call
  exact ⟨text, hfinds, .inl ⟨agent, notes, rfl⟩⟩

/-- A run of completions and rejections keeps an issue followed. -/
theorem Followed.run_transits (h : Followed db id projectId stages)
    (hcalls : Along (Transits id) db calls) : Followed (db.run calls).2 id projectId stages := by
  induction calls using List.reverseRecOn with
  | nil => exact h
  | append_singleton calls call ih =>
    obtain ⟨hbefore, hlast⟩ := along_concat.1 hcalls
    rw [run_concat]
    exact (ih hbefore).after ((ih hbefore).undisturbed hlast)

/-- What completions lead to, call by call: the replay goes on by one place with each. -/
structure Completed (db : Database) (id projectId : String) (stages : List Stage)
    (calls : List (Author × Operation)) : Prop where
  /-- The issue is followed. -/
  followed : Followed (db.run calls).2 id projectId stages
  /-- The replay has gone on by one place with each call. -/
  replay : replay stages ((db.run calls).2.history id) =
    some ((Mark.next stages)^[calls.length] (.atStage 0))
  /-- If there was a call, the pointer is where the replay is. -/
  position : calls ≠ [] → ((Mark.next stages)^[calls.length] (.atStage 0)).position stages =
    some ((db.run calls).2.positionOf id)

/-- One more completion, by where the replay has come to. -/
theorem Completed.concat (h : Completed db id projectId stages calls) (hstages : stages ≠ [])
    (hcall : Completes id (db.run calls).2 author op) :
    Completed db id projectId stages (calls ++ [(author, op)]) ∧
      if (Mark.next stages)^[calls.length] (.atStage 0) = .ended then
        (db.run calls).2.perform author op = .error (.alreadyCompleted id)
      else
        ∃ completion, (db.run calls).2.perform author op =
          .ok (.completion completion, (db.run calls).2.after author op) := by
  have hafter := h.followed.after (h.followed.undisturbed hcall.transits)
  have hreplay := h.replay
  have hlength : (Mark.next stages)^[(calls ++ [(author, op)]).length] (.atStage 0) =
      ((Mark.next stages)^[calls.length] (.atStage 0)).next stages := by
    rw [List.length_append, List.length_singleton, Function.iterate_succ_apply']
  obtain ⟨text, agent, notes, rfl, hfinds⟩ := hcall.call
  cases hmark : (Mark.next stages)^[calls.length] (.atStage 0) with
  | ended =>
    -- The end stays, and the call is refused.
    rw [hmark] at hreplay hlength
    have hcompleted := h.followed.completed_of_replay hreplay
    have herror := h.followed.complete_error hstages hfinds hcompleted author agent notes
    have hsame : (db.run calls).2.after author (.complete text agent notes) = (db.run calls).2 := by
      rw [Database.after, herror]
    refine ⟨⟨?_, ?_, fun _ => ?_⟩, herror⟩
    · rw [run_concat]
      exact hafter
    · rw [run_concat, hlength, hsame]
      exact hreplay
    · rw [run_concat, hlength, hsame, hcompleted]
      rfl
  | atStage index =>
    rw [hmark] at hreplay hlength
    have hwritable : (db.run calls).2.Writable author := by
      refine hcall.writable fun hcompleted => ?_
      cases hreplay.symm.trans (h.followed.replay_of_completed hcompleted)
    obtain ⟨hperform, -, hnext, hposition⟩ :=
      h.followed.complete_ok hstages hfinds hwritable hreplay agent notes
    refine ⟨⟨?_, ?_, fun _ => ?_⟩, hperform⟩
    · rw [run_concat]
      exact hafter
    · rw [run_concat, hlength]
      exact hnext
    · rw [run_concat, hlength]
      exact hposition

/-- With each call of a run of completions from a fresh issue, the replay goes on by one place. -/
theorem completed_run (hdb : db.Consistent) (hfresh : db.IsFresh issue)
    (hstages : db.stages issue.projectId ≠ []) (hcalls : Along (Completes issue.id) db calls) :
    Completed db issue.id issue.projectId (db.stages issue.projectId) calls := by
  -- The invariant says how far the replay has come, besides that the issue is followed.
  induction calls using List.reverseRecOn with
  | nil =>
    refine ⟨followed_of_isFresh hdb hfresh, ?_, fun h => absurd rfl h⟩
    rw [Database.run, hfresh.history]
    rfl
  | append_singleton calls call ih =>
    obtain ⟨hbefore, hlast⟩ := along_concat.1 hcalls
    exact ((ih hbefore).concat hstages hlast).1

/-- The replay of completions is at the end from the last stage on, if it gets there. -/
theorem next_iterate_eq_ended_iff (hstages : stages ≠ []) (k : Nat) :
    (Mark.next stages)^[k] (.atStage 0) = .ended ↔
      barrier stages + 1 = stages.length ∧ stages.length ≤ k := by
  rw [Mark.next_iterate hstages]
  split <;> simp [*]

/-- The answers of completions: they succeed until the end, and are conflicts from then on. -/
theorem answers_of_completes (hdb : db.Consistent) (hfresh : db.IsFresh issue)
    (hstages : db.stages issue.projectId ≠ []) (hcalls : Along (Completes issue.id) db calls)
    (k : Nat) {answer : Except Error Reply} (hanswer : (db.run calls).1[k]? = some answer) :
    if barrier (db.stages issue.projectId) + 1 = (db.stages issue.projectId).length ∧
        (db.stages issue.projectId).length ≤ k then
      answer = .error (.alreadyCompleted issue.id)
    else ∃ completion, answer = .ok (.completion completion) := by
  induction calls using List.reverseRecOn with
  | nil => cases hanswer
  | append_singleton calls call ih =>
    obtain ⟨author, op⟩ := call
    obtain ⟨hbefore, hlast⟩ := along_concat.1 hcalls
    rw [run_concat] at hanswer
    -- An earlier answer is the same as before the last call.
    rcases Nat.lt_or_ge k (db.run calls).1.length with hk | hk
    · rw [List.getElem?_append_left hk] at hanswer
      exact ih hbefore hanswer
    · -- The answer is the one to the last call.
      rw [List.getElem?_append_right hk] at hanswer
      obtain ⟨hindex, hanswer⟩ := List.getElem?_eq_some_iff.1 hanswer
      obtain rfl : k = calls.length := by
        rw [List.length_singleton, length_run] at hindex
        rw [length_run] at hk
        omega
      have hstep := ((completed_run hdb hfresh hstages hbefore).concat hstages hlast).2
      rw [List.getElem_singleton] at hanswer
      -- The last answer depends on whether the replay had ended before it.
      simp only [next_iterate_eq_ended_iff hstages] at hstep
      subst hanswer
      split
      · next hended =>
        rw [if_pos hended] at hstep
        rw [hstep]
        rfl
      · next hgoes =>
        rw [if_neg hgoes] at hstep
        obtain ⟨completion, hstep⟩ := hstep
        rw [hstep]
        exact ⟨completion, rfl⟩

/-- Completions at a barrier before the last stage, however many, change nothing but the ledger. -/
theorem Followed.held_run (h : Followed db id projectId stages)
    (hat : db.IsAt id projectId (barrier stages)) (hlast : barrier stages + 1 < stages.length)
    (hcalls : Along (Completes id) db calls) :
    Followed (db.run calls).2 id projectId stages ∧ Held db (db.run calls).2 id calls.length := by
  induction calls using List.reverseRecOn with
  | nil => exact ⟨h, .refl db id⟩
  | append_singleton calls call ih =>
    obtain ⟨author, op⟩ := call
    obtain ⟨hbefore, hcall⟩ := along_concat.1 hcalls
    obtain ⟨hfollowed, hheld⟩ := ih hbefore
    -- The pointer is still at the barrier, so one more completion holds it there.
    have hstill : (db.run calls).2.IsAt id projectId (barrier stages) := by
      rw [← hfollowed.isAt_iff, hheld.position]
      exact h.isAt_iff.2 hat
    have hwritable : (db.run calls).2.Writable author := by
      refine hcall.writable fun hcompleted => ?_
      obtain ⟨step, -, hposition⟩ := hstill
      cases hcompleted.symm.trans hposition
    have hafter := hfollowed.after (hfollowed.undisturbed hcall.transits)
    obtain ⟨text, agent, notes, rfl, hfinds⟩ := hcall.call
    rw [run_concat, List.length_append, List.length_singleton]
    exact ⟨hafter, hheld.trans (hfollowed.complete_held hfinds hwritable hstill hlast agent notes)⟩

/-! ### Authors -/

/-- A completion by one author leaves another able to write, unless both use one identifier. -/
theorem Writable.after_complete (h : db.Writable author) (hdb : db.Consistent)
    (hne : other.stamp.identifier "hist" ≠ author.stamp.identifier "hist") :
    (db.after other (.complete text agent notes)).Writable author := by
  have hcall : (Operation.complete text agent notes).isCall = true := rfl
  rcases after_cases hdb hcall other with ⟨_, -, hsame⟩ | ⟨_, -, hcalled⟩
  · rwa [hsame]
  · generalize db.after other (.complete text agent notes) = after at hcalled
    cases hcalled with
    | complete _ hplan =>
      refine ⟨h.ledger, h.cursor, h.issue, h.event, fun entry hentry => ?_⟩
      rcases List.mem_append.1 hentry with hold | hnew
      · exact h.fresh entry hold
      · obtain ⟨-, place, -, hdraft⟩ := planned_of_planCompletion hplan
        rw [List.mem_singleton.1 hnew, hdraft]
        exact hne

/-- Each of the authors completes a step of an issue, one after the other. -/
def completionsBy (id : String) (authors : List Author) : List (Author × Operation) :=
  authors.map fun author => (author, .complete id none none)

theorem completionsBy_concat :
    completionsBy id (authors ++ [author]) =
      completionsBy id authors ++ [(author, .complete id none none)] := by
  rw [completionsBy, List.map_append, List.map_singleton, completionsBy]

/-- Completions by other authors leave an author able to write. -/
theorem Writable.run (h : db.Writable author) (hdb : db.Consistent)
    (hne : ∀ other ∈ authors, other.stamp.identifier "hist" ≠ author.stamp.identifier "hist") :
    (db.run (completionsBy id authors)).2.Writable author := by
  -- What keeps an author from writing is an entry under its identifier, and each of the others
  -- makes one under its own.
  induction authors using List.reverseRecOn with
  | nil => exact h
  | append_singleton authors other ih =>
    obtain ⟨hbefore, hlast⟩ := List.forall_mem_append.1 hne
    have hconsistent : (db.run (completionsBy id authors)).2.Consistent := by
      refine consistent_run hdb fun call hcall => ?_
      obtain ⟨_, -, rfl⟩ := List.mem_map.1 hcall
      rfl
    rw [completionsBy_concat, run_concat]
    exact (ih hbefore).after_complete hconsistent (hlast other (List.mem_singleton_self other))

/-- Authors that can make transitions one after the other can complete a followed issue. -/
theorem Followed.along_completionsBy (h : Followed db id projectId stages)
    (hauthors : db.Supplies authors) : Along (Completes id) db (completionsBy id authors) := by
  induction authors using List.reverseRecOn with
  | nil => exact fun made author op rest hcalls => by simp [completionsBy] at hcalls
  | append_singleton authors author ih =>
    obtain ⟨hwritable, hlast⟩ := List.forall_mem_append.1 hauthors.writable
    have hdistinct := hauthors.distinct
    rw [List.map_append, List.nodup_append] at hdistinct
    obtain ⟨hnodup, -, hother⟩ := hdistinct
    have hbefore := ih ⟨hwritable, hnodup⟩
    -- Completions are transitions, so the issue is still followed when its turn comes.
    have hfollowed : Followed (db.run (completionsBy id authors)).2 id projectId stages :=
      h.run_transits fun made author op rest hcalls => (hbefore made author op rest hcalls).transits
    rw [completionsBy_concat]
    refine along_concat.2 ⟨hbefore, ⟨id, none, none, rfl, hfollowed.finds⟩, fun _ => ?_⟩
    refine (hlast author (List.mem_singleton_self author)).run h.consistent fun other hmem => ?_
    exact hother _ (List.mem_map_of_mem hmem) _ (by simp)

/-! ### The specification -/

/-- An issue that was not started reaches the steps up to the barrier, and the end if the barrier is
the last step. -/
theorem reach_spec (db : Database) (hdb : db.Consistent) (issue : Issue) (hfresh : db.IsFresh issue)
    (hstages : db.stages issue.projectId ≠ []) :
    ReachSpec db issue (db.stages issue.projectId) := by
  have hfollowed := followed_of_isFresh hdb hfresh
  constructor
  · -- All parts are read off the place where the replay of the ledger has come to.
    intro calls hcalls index hat
    exact within_of_replay hstages ((hfollowed.run hcalls).replay_of_isAt hat)
  · intro calls hcalls index hat author text agent reason hfinds hwritable hreason
    exact (hfollowed.run hcalls).reject_ok hstages hfinds hwritable hreason hat agent
  · intro authors hlength hauthors
    constructor
    · -- The end is within what a history can lead to only if the barrier is the last stage.
      rintro ⟨calls, hcalls, hcompleted⟩
      exact within_of_replay hstages
        ((hfollowed.run_transits hcalls).replay_of_completed hcompleted)
    · intro hlast
      have hcalls := hfollowed.along_completionsBy hauthors
      refine ⟨completionsBy issue.id authors, fun made author op rest hsplit =>
        (hcalls made author op rest hsplit).transits, ?_⟩
      -- As many completions as there are stages carry the replay past the last one.
      have hrun := completed_run hdb hfresh hstages hcalls
      have hended := (next_iterate_eq_ended_iff hstages (completionsBy issue.id authors).length).2
        ⟨hlast, Nat.le_of_eq (by rw [completionsBy, List.length_map, hlength])⟩
      exact hrun.followed.completed_of_replay (hended ▸ hrun.replay)
  · intro calls hcalls k answer hanswer
    exact answers_of_completes hdb hfresh hstages hcalls k hanswer
  · intro calls hcalls hne
    -- How far the replay goes by itself is known, and the pointer goes along.
    have hrun := completed_run hdb hfresh hstages hcalls
    have hposition := hrun.position hne
    rw [Mark.next_iterate hstages] at hposition
    split
    · next hended =>
      rw [if_pos hended] at hposition
      exact (Option.some.inj hposition).symm
    · next hgoes =>
      rw [if_neg hgoes] at hposition
      exact hrun.followed.isAt_iff.1 hposition
  · intro calls hcalls hat hlast more hmore
    exact ((hfollowed.run hcalls).held_run hat hlast hmore).2

/-- A database to try the specification on: an issue that was not started, in a project whose second
of three steps waits for a person. -/
def reachSample : Database :=
  { rejectionSample with cursors := [] }

/-- The issue of the sample database never gets past its second step. -/
theorem reach_spec_reachSample :
    let issue : Issue := ⟨"issue", some "DOCS-1", "docs", "first", none, .review, 2, 2⟩
    reachSample.Consistent ∧ reachSample.IsFresh issue ∧ reachSample.stages "docs" ≠ [] ∧
      barrier (reachSample.stages "docs") = 1 ∧
      reachSample.Supplies [⟨"ada", ⟨7, 7⟩⟩, ⟨"ada", ⟨8, 8⟩⟩, ⟨"ada", ⟨9, 9⟩⟩] ∧
      ReachSpec reachSample issue (reachSample.stages "docs") := by
  intro issue
  have hdb : reachSample.Consistent := by
    constructor <;> simp [reachSample, rejectionSample]
  have hfresh : reachSample.IsFresh issue := ⟨by decide, by decide, by decide⟩
  -- Sorting does not compute by itself, so the catalog is found by simplification.
  have hcatalog : reachSample.stages "docs" =
      [⟨"draft", .agentWork, true⟩, ⟨"approve", .humanReview, true⟩,
        ⟨"publish", .agentWork, true⟩] := by
    simp [stages, storedCatalog, catalogRows, reachSample, rejectionSample, List.mergeSort,
      Step.stage]
  have hstages : reachSample.stages "docs" ≠ [] := by
    rw [hcatalog]
    decide
  refine ⟨hdb, hfresh, hstages, ?_, ?_, reach_spec reachSample hdb issue hfresh hstages⟩
  · rw [hcatalog]
    decide
  · refine ⟨fun author _ => ?_, by decide +kernel⟩
    constructor <;> simp [reachSample, rejectionSample]

end Database

end ReviewPipeline
