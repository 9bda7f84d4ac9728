import ReviewPipeline.Proofs.Runs
import ReviewPipeline.Proofs.Status

/-!
# The Ledger Determines the Cursor

While the stages of a project stay the same, the history of an issue can be replayed: it starts at
the first stage, and each entry says by its result alone where the next one stands. `replay` is
this reading of the ledger. It looks at no cursor, and it gives up on an entry that names another
step than the one it has come to.

## Main definitions

* `replay`, `replayedPosition`: the place to which a history leads, and the position it stands for;
* `movesOf`: the completions and rejections of an issue that succeed in a run, call by call;
* `Undisturbed`: a call keeps the stages of a project and does not clear the cursor of an issue;
* `Replays`: a view of an issue agrees with the replay of its history.

## Main results

* `replayedPosition_of_planned`: a planned transition keeps cursor and replay together;
* `replays_of_run`: after any undisturbed run, the history of an issue that was not started before
  holds one entry for each move, in order, and its replay is the position that the status shows.
-/

namespace ReviewPipeline

/-! ### Replaying a history -/

/-- Where a replay has come to. -/
inductive Mark where
  /-- It is at the stage with this index. -/
  | atStage (index : Nat)
  /-- The last stage was completed. -/
  | ended
  deriving DecidableEq, Repr

/-- The greatest index below `index` whose stage does not wait for a person. -/
def lastOpenBefore (stages : List Stage) (index : Nat) : Option Nat :=
  ((List.range index).filter fun j => stages[j]?.any fun stage => stage.kind ≠ .humanReview).max?

/-- Replay one entry. Nothing can follow the end, and an entry has to name the step it is at. -/
def replayEntry (stages : List Stage) (mark : Mark) (entry : LedgerEntry) : Option Mark :=
  match mark with
  | .ended => none
  | .atStage i =>
    match stages[i]? with
    | none => none
    | some stage =>
      if entry.stepId = stage.id then
        match entry.result with
        | .completed =>
          if i + 1 = stages.length then some .ended
          else if stage.autoAdvance ∧ stage.kind ≠ .humanReview then some (.atStage (i + 1))
          else some (.atStage i)
        | .rejected => (lastOpenBefore stages i).map .atStage
      else none

/-- Replay a history from the first stage on. -/
def replay (stages : List Stage) (entries : List LedgerEntry) : Option Mark :=
  entries.foldlM (replayEntry stages) (.atStage 0)

/-- The position that a place of the replay stands for. -/
def Mark.position (stages : List Stage) : Mark → Option Position
  | .atStage i => stages[i]?.map fun stage => .atStep stage.id
  | .ended => some .completed

/-- The position to which a history leads. Without any entry, nothing has been started. -/
def replayedPosition (stages : List Stage) (entries : List LedgerEntry) : Option Position :=
  if entries = [] then some .notStarted
  else (replay stages entries).bind (Mark.position stages)

variable {stages : List Stage} {entries : List LedgerEntry} {entry : LedgerEntry}
  {steps : List Step} {cursor : Cursor} {stamp : Stamp} {t : Transition} {place : Place}

/-- The replay of a history and one more entry. -/
theorem replay_concat :
    replay stages (entries ++ [entry]) =
      (replay stages entries).bind fun mark => replayEntry stages mark entry := by
  rw [replay, List.foldlM_append]
  refine congrArg _ (funext fun mark => ?_)
  exact bind_pure (replayEntry stages mark entry)

theorem replayedPosition_concat :
    replayedPosition stages (entries ++ [entry]) =
      (replay stages entries).bind fun mark =>
        (replayEntry stages mark entry).bind (Mark.position stages) := by
  rw [replayedPosition, if_neg (by simp), replay_concat, Option.bind_assoc]

/-- The search of a rejection finds the greatest open place. -/
theorem lastOpenBefore_eq {index target : Nat} (hindex : index < steps.length)
    (h : Progression.previousActionable steps index = some target) :
    lastOpenBefore (steps.map Step.stage) index = some target := by
  obtain ⟨hlt, hopen, hbetween⟩ := (Progression.previousActionable_eq_some_iff hindex).1 h
  -- A place is open if it holds a step and does not wait.
  have hiff : ∀ j, ((steps.map Step.stage)[j]?.any fun stage => stage.kind ≠ .humanReview) = true ↔
      ¬ Progression.Waits steps j := by
    intro j
    rw [Progression.not_waits_iff, List.getElem?_map]
    cases steps[j]? with
    | none => simp
    | some step => simp [Step.stage, not_isHumanReview_iff]
  rw [lastOpenBefore, List.max?_eq_some_iff]
  constructor
  · exact List.mem_filter.2 ⟨List.mem_range.2 hlt, (hiff target).2 hopen⟩
  · intro j hj
    obtain ⟨hj, hjopen⟩ := List.mem_filter.1 hj
    by_contra hgt
    exact (hiff j).1 hjopen (hbetween j (by omega) (List.mem_range.1 hj))

/-! ### Transitions -/

namespace Progression

/-- Where a transition acts, the replay of the history before it has come to. -/
theorem replay_eq_of_ensureStarted (hids : (steps.map (·.id)).Nodup)
    (hposition : replayedPosition (steps.map Step.stage) entries = some cursor.position)
    (hcurrent : ensureStarted steps cursor = .ok place) :
    replay (steps.map Step.stage) entries = some (.atStage place.index) ∧
      steps[place.index]? = some place.step := by
  unfold replayedPosition at hposition
  unfold ensureStarted at hcurrent
  split at hposition
  · next hempty =>
    -- Nothing has happened, so both are at the first step.
    subst hempty
    rw [← Option.some.inj hposition] at hcurrent
    cases steps with
    | nil => cases hcurrent
    | cons step steps =>
      cases hcurrent
      exact ⟨rfl, rfl⟩
  · obtain ⟨mark, hmark, hposition⟩ := Option.bind_eq_some_iff.1 hposition
    cases mark with
    | ended =>
      rw [← Option.some.inj hposition] at hcurrent
      cases hcurrent
    | atStage i =>
      obtain ⟨stage, hstage, hsame⟩ := Option.map_eq_some_iff.1 hposition
      rw [List.getElem?_map] at hstage
      obtain ⟨step, hstep, rfl⟩ := Option.map_eq_some_iff.1 hstage
      rw [← hsame] at hcurrent
      -- The pointer names one step, so the place located is the one replayed.
      obtain ⟨hplace, hid⟩ := (locate_eq_ok_iff hids).1 hcurrent
      have hindex : i = place.index := index_unique hids hstep hplace hid.symm
      exact ⟨hindex ▸ hmark, hplace⟩

/-- A planned transition keeps cursor and replay together: its entry leads the replay to where the
cursor is afterwards. -/
theorem replayedPosition_of_planned (hids : (steps.map (·.id)).Nodup)
    (h : Planned steps cursor stamp t)
    (hposition : replayedPosition (steps.map Step.stage) entries = some cursor.position)
    (now seq : Int) :
    replayedPosition (steps.map Step.stage) (entries ++ [t.entry.entry seq]) =
      some (cursor.apply t.update now).position := by
  rw [replayedPosition_concat]
  cases h with
  | @advanced place next _ _ hcurrent hnext hmoves =>
    -- There is a next stage, and this one is left by itself.
    obtain ⟨hmark, hplace⟩ := replay_eq_of_ensureStarted hids hposition hcurrent
    have hlast : place.index + 1 ≠ steps.length :=
      Nat.ne_of_lt (List.getElem?_eq_some_iff.1 hnext).1
    have hkind : place.step.kind ≠ .humanReview := not_isHumanReview_iff.1 hmoves.2
    simp [hmark, replayEntry, hplace, hnext, hlast, hmoves.1, hkind, draft, LedgerDraft.entry,
      Step.stage, Mark.position, Cursor.position, Cursor.apply]
  | @held place next _ _ hcurrent hnext hstays =>
    -- There is a next stage, but this one is a person's or is left by hand.
    obtain ⟨hmark, hplace⟩ := replay_eq_of_ensureStarted hids hposition hcurrent
    have hlast : place.index + 1 ≠ steps.length :=
      Nat.ne_of_lt (List.getElem?_eq_some_iff.1 hnext).1
    have hkind : ¬ (place.step.autoAdvance = true ∧ place.step.kind ≠ .humanReview) := by
      rw [← not_isHumanReview_iff]
      rcases hstays with h | h <;> simp [h]
    simp [hmark, replayEntry, hplace, hlast, hkind, draft, LedgerDraft.entry, Step.stage,
      Mark.position, Cursor.position, Cursor.apply]
  | @finished place _ _ hcurrent hnext =>
    obtain ⟨hmark, hplace⟩ := replay_eq_of_ensureStarted hids hposition hcurrent
    have hlast : place.index + 1 = steps.length :=
      Nat.le_antisymm (List.getElem?_eq_some_iff.1 hplace).1 (List.getElem?_eq_none_iff.1 hnext)
    -- The time of completion is set now, or it was before.
    obtain ⟨time, htime⟩ : ∃ time, cursor.completedAt.or (some stamp.now) = some time := by
      cases cursor.completedAt <;> simp
    simp [hmark, replayEntry, hplace, hlast, htime, draft, LedgerDraft.entry, Step.stage,
      Mark.position, Cursor.position, Cursor.apply]
  | @rejected stepId place target index _ _ hpointer hlocate hindex htarget =>
    -- A rejection needs a pointer, and so acts on the place a completion would act on.
    have hcurrent : ensureStarted steps cursor = .ok place := by
      unfold ensureStarted Cursor.position
      rw [hpointer]
      exact hlocate
    obtain ⟨hmark, hplace⟩ := replay_eq_of_ensureStarted hids hposition hcurrent
    have hopen := lastOpenBefore_eq (List.getElem?_eq_some_iff.1 hplace).1 hindex
    simp [hmark, replayEntry, hplace, hopen, htarget, draft, LedgerDraft.entry, Step.stage,
      Mark.position, Cursor.position, Cursor.apply]

end Progression

/-! ### Runs -/

namespace Database

open Progression

variable {db : Database} {author : Author} {op : Operation} {id projectId : String} {issue : Issue}
  {calls : List (Author × Operation)} {moves : List (Author × Move)}

/-- The move of an issue that a call made, if it succeeded and was one. -/
def moveOf (issueId : String) (author : Author) (answer : Except Error Reply) :
    Option (Author × Move) :=
  match answer with
  | .ok reply => (reply.move?.filter (·.issueId == issueId)).map fun move => (author, move)
  | .error _ => none

/-- The moves of an issue that the calls of a run made, in order, with the author of each. -/
def movesOf (issueId : String) (calls : List (Author × Operation))
    (answers : List (Except Error Reply)) : List (Author × Move) :=
  (calls.zip answers).filterMap fun made => moveOf issueId made.1.1 made.2

/-- An entry of the ledger records a move. -/
structure Records (made : Author × Move) (entry : LedgerEntry) : Prop where
  /-- The identifier is the one made for the call. -/
  id : entry.id = made.1.stamp.identifier "hist"
  /-- The entry is about the issue that moved. -/
  issueId : entry.issueId = made.2.issueId
  /-- It names the step that was current. -/
  stepId : entry.stepId = made.2.stepId
  /-- It says how that step ended. -/
  result : entry.result = made.2.result
  /-- Both of its times are that of the call. -/
  times : entry.startedAt = made.1.stamp.now ∧ entry.completedAt = made.1.stamp.now

/-- A call keeps the stages of a project and does not clear the cursor of an issue. -/
structure Undisturbed (issueId projectId : String) (db : Database) (author : Author)
    (op : Operation) : Prop where
  /-- It is one of those that callers have. -/
  isCall : op.isCall = true
  /-- The catalog stays fixed, up to who a step is assigned to. -/
  stages : (db.after author op).stages projectId = db.stages projectId
  /-- The issue is not the one that is reset. -/
  noReset : ∀ text issue, op = .resetPipeline text → db.issue text = .ok issue →
    issue.id ≠ issueId

/-- An issue is stored and has not been through any transition. -/
structure IsFresh (db : Database) (issue : Issue) : Prop where
  /-- The issue is stored. -/
  stored : db.storedIssue? issue.id = some issue
  /-- It has no history. -/
  history : db.history issue.id = []
  /-- It has not been started. -/
  position : db.positionOf issue.id = .notStarted

/-- A view agrees with the replay of its history, which consists of these moves. -/
structure Replays (moves : List (Author × Move)) (view : StatusView) : Prop where
  /-- There is one entry for each move, in order. -/
  entries : List.Forall₂ Records moves view.history
  /-- The history can be replayed, and it leads to the position shown. -/
  position : replayedPosition (view.steps.map Step.stage) view.history = some view.position

/-- Cursor and ledger of an issue agree, and its history consists of these moves. -/
structure Tracked (db : Database) (id projectId : String) (moves : List (Author × Move)) :
    Prop where
  /-- The issue is stored, in its project. -/
  stored : ∃ issue, db.storedIssue? id = some issue ∧ issue.projectId = projectId
  /-- There is one entry for each move, in order. -/
  entries : List.Forall₂ Records moves (db.history id)
  /-- The replay of the history leads to where the cursor is. -/
  position : replayedPosition (db.stages projectId) (db.history id) = some (db.positionOf id)

theorem moveOf_eq_none {answer : Except Error Reply}
    (h : ∀ reply move, answer = .ok reply → reply.move? = some move → move.issueId ≠ id) :
    moveOf id author answer = none := by
  cases answer with
  | error e => rfl
  | ok reply =>
    cases hmove : reply.move? with
    | none => simp [moveOf, hmove]
    | some move => simp [moveOf, hmove, h reply move rfl hmove]

/-- A planned transition is recorded by its entry. -/
theorem records_of_planned {steps : List Step} {cursor : Cursor} {t : Transition}
    (h : Planned steps cursor author.stamp t) (hid : cursor.issueId = id) (seq : Int) :
    Records (author, t.move id) (t.entry.entry seq) := by
  subst hid
  cases h <;> exact ⟨rfl, rfl, rfl, rfl, rfl, rfl⟩

/-- A call that leaves an issue alone, and its project's stages, leaves it tracked. -/
theorem Tracked.of_same {db' : Database} (h : Tracked db id projectId moves)
    (hissue : db'.storedIssue? id = db.storedIssue? id)
    (hhistory : db'.history id = db.history id)
    (hposition : db'.positionOf id = db.positionOf id)
    (hstages : db'.stages projectId = db.stages projectId) : Tracked db' id projectId moves := by
  refine ⟨hissue ▸ h.stored, hhistory ▸ h.entries, ?_⟩
  rw [hstages, hhistory, hposition]
  exact h.position

/-- An undisturbed call keeps an issue tracked, with one more move if it made one. -/
theorem Tracked.after (h : Tracked db id projectId moves) (hdb : db.Consistent)
    (hcall : Undisturbed id projectId db author op) :
    Tracked (db.after author op) id projectId
      (moves ++ (moveOf id author ((db.perform author op).map (·.1))).toList) := by
  rcases after_cases hdb hcall.isCall author with
    ⟨e, hperform, hsame⟩ | ⟨reply, hperform, hcalled⟩
  · -- A failed call changes nothing and is no move.
    rw [hsame, hperform]
    simpa [Except.map, moveOf] using h
  · have hstages := hcall.stages
    have hnone : (∀ move, reply.move? = some move → move.issueId ≠ id) →
        (moveOf id author ((db.perform author op).map (·.1))).toList = [] := by
      intro hother
      rw [hperform, moveOf_eq_none fun _ move hreply => by
        cases hreply
        exact hother move]
      rfl
    cases hcalled.effect hdb id with
    | untouched hissue hcursor hhistory hreply =>
      rw [hnone hreply, List.append_nil]
      exact h.of_same hissue hhistory (positionOf_eq hcursor) hstages
    | created hnew =>
      obtain ⟨issue, hstored, -⟩ := h.stored
      cases hnew.symm.trans hstored
    | @gated issue gate hstored hissue hcursor hhistory hreply =>
      rw [hnone (by simp [hreply]), List.append_nil]
      obtain rfl := id_of_storedIssue? hstored
      exact h.of_same (hissue.trans hstored.symm) hhistory (positionOf_gated hcursor) hstages
    | @reset text issue hop hnamed hid => exact absurd hid (hcall.noReset text issue hop hnamed)
    | @moved issue t hstored hplanned hissue hcursor hhistory hreply =>
      obtain rfl := id_of_storedIssue? hstored
      have hproject : issue.projectId = projectId := by
        obtain ⟨issue', hstored', hproject⟩ := h.stored
        rw [Option.some.inj (hstored.symm.trans hstored'), hproject]
      have hmove : moveOf issue.id author ((db.perform author op).map (·.1)) =
          some (author, t.move issue.id) := by
        simp [hperform, Except.map, moveOf, hreply, Transition.move]
      -- The call is the last move, its entry is the last one, and both lead to the same place.
      have hrecords := records_of_planned hplanned cursorFor_issueId (db.lastSeq + 1)
      have hbefore : replayedPosition ((db.storedCatalog issue.projectId).map Step.stage)
          (db.history issue.id) = some (db.cursorFor issue author.stamp.now).position := by
        rw [position_cursorFor, hproject]
        exact h.position
      have hposition := replayedPosition_of_planned (nodup_ids_storedCatalog hdb) hplanned hbefore
        author.stamp.now (db.lastSeq + 1)
      refine ⟨⟨_, hissue, by rw [Issue.marked_projectId, hproject]⟩, ?_, ?_⟩
      · rw [hmove, hhistory]
        exact List.rel_append h.entries (.cons hrecords .nil)
      · rw [hstages, hhistory, positionOf, hcursor, ← hproject]
        exact hposition

theorem movesOf_concat {answers : List (Except Error Reply)} {answer : Except Error Reply}
    (hlength : answers.length = calls.length) :
    movesOf id (calls ++ [(author, op)]) (answers ++ [answer]) =
      movesOf id calls answers ++ (moveOf id author answer).toList := by
  rw [movesOf, List.zip_append hlength.symm, List.filterMap_append]
  cases h : moveOf id author answer <;> simp [movesOf, h]

/-- No issue is disturbed by a call that neither adds a step nor clears a cursor. -/
theorem undisturbed_of_isSteady (hdb : db.Consistent) (id projectId : String)
    (hop : op.isSteady = true) : Undisturbed id projectId db author op := by
  have hcall := Operation.isCall_of_isResetFree (Operation.isResetFree_of_isSteady hop)
  refine ⟨hcall, ?_, ?_⟩
  · -- Only adding a step can change the stages of a project.
    rcases after_cases hdb hcall author with ⟨_, -, hsame⟩ | ⟨_, -, hcalled⟩
    · rw [hsame]
    · rcases hcalled.stages projectId with hsame | ⟨new, _, rfl, -⟩
      · exact hsame
      · cases hop
  · rintro text issue rfl
    cases hop

/-- No issue is disturbed by calls that neither add a step nor clear a cursor. -/
theorem along_undisturbed (hdb : db.Consistent) (id projectId : String)
    (hcalls : ∀ call ∈ calls, call.2.isSteady = true) :
    Along (Undisturbed id projectId) db calls := by
  induction calls using List.reverseRecOn with
  | nil => exact fun made author op rest h => by simp at h
  | append_singleton calls call ih =>
    obtain ⟨author, op⟩ := call
    obtain ⟨hbefore, hlast⟩ := List.forall_mem_append.1 hcalls
    have hop : op.isSteady = true := hlast (author, op) (List.mem_singleton_self _)
    have hconsistent := consistent_run hdb fun call hmem =>
      Operation.isCall_of_isResetFree (Operation.isResetFree_of_isSteady (hbefore call hmem))
    exact along_concat.2 ⟨ih hbefore, undisturbed_of_isSteady hconsistent id projectId hop⟩

/-- An undisturbed run tracks an issue that was not started before. -/
theorem tracked_run (hdb : db.Consistent) (hfresh : db.IsFresh issue)
    (hcalls : Along (Undisturbed issue.id issue.projectId) db calls) :
    (db.run calls).2.Consistent ∧
      Tracked (db.run calls).2 issue.id issue.projectId
        (movesOf issue.id calls (db.run calls).1) := by
  -- The invariant is that ledger and position are where the moves lead that were made so far.
  induction calls using List.reverseRecOn with
  | nil =>
    refine ⟨hdb, ⟨issue, hfresh.stored, rfl⟩, ?_, ?_⟩
    · rw [run, hfresh.history]
      exact .nil
    · rw [run, hfresh.history, hfresh.position]
      rfl
  | append_singleton calls call ih =>
    obtain ⟨author, op⟩ := call
    obtain ⟨hbefore, hlast⟩ := along_concat.1 hcalls
    obtain ⟨hconsistent, htracked⟩ := ih hbefore
    rw [run_concat, movesOf_concat length_run]
    exact ⟨consistent_after hconsistent hlast.isCall, htracked.after hconsistent hlast⟩

/-- After any run that keeps the stages of its project and never resets it, the history of an issue
that was not started before has one entry for each of its moves, in order; and the replay of this
history leads to the position that its status shows. -/
theorem replays_of_run (db : Database) (hdb : db.Consistent) (issue : Issue)
    (hfresh : db.IsFresh issue) (calls : List (Author × Operation))
    (hcalls : Along (Undisturbed issue.id issue.projectId) db calls) (now : Int) :
    ∃ view, (db.run calls).2.status issue.id now = .ok view ∧
      Replays (movesOf issue.id calls (db.run calls).1) view := by
  obtain ⟨hconsistent, htracked⟩ := tracked_run hdb hfresh hcalls
  obtain ⟨stored, hstored, hproject⟩ := htracked.stored
  have hid : stored.id = issue.id := id_of_storedIssue? hstored
  refine ⟨_, status_eq_ok hconsistent (issue_eq_ok_of_stored hconsistent hstored), ?_, ?_⟩
  · simpa [viewOf, hid] using htracked.entries
  · simpa [viewOf, hid, hproject, position_cursorFor, stages] using htracked.position

/-- The issue of the sample run replays after a completion, a rejection that fails and a signal of
the gate. -/
theorem replays_sampleRun :
    let db := ((create 0).run (sampleRun.take 3)).2
    let issue := Issue.create ⟨3, 3⟩ "docs" "DOCS-1" "first" none
    let author : Author := ⟨"ada", ⟨4, 4⟩⟩
    let calls := [(author, .complete "DOCS-1" none none), (author, .reject "DOCS-1" none "no"),
      (author, .recordGate "DOCS-1" .failed none)]
    db.Consistent ∧ db.IsFresh issue ∧ Along (Undisturbed issue.id issue.projectId) db calls ∧
      ∃ view, (db.run calls).2.status issue.id 9 = .ok view ∧
        Replays (movesOf issue.id calls (db.run calls).1) view := by
  intro db issue author calls
  have hdb : db.Consistent := consistent_run (admitted_create 0).toConsistent (by decide)
  have hfresh : db.IsFresh issue :=
    ⟨by decide +kernel, by decide +kernel, by decide +kernel⟩
  have hcalls : Along (Undisturbed issue.id issue.projectId) db calls :=
    along_undisturbed hdb issue.id issue.projectId (by decide)
  exact ⟨hdb, hfresh, hcalls, replays_of_run db hdb issue hfresh calls hcalls 9⟩

end Database

end ReviewPipeline
