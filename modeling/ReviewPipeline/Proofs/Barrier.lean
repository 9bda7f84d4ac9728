import Mathlib.Logic.Function.Iterate
import ReviewPipeline.Proofs.Replay

/-!
# How Far a Pipeline Can Be Walked

Completing a stage leads on only if the stage moves straight on and is no person's. So the first
stage before the last one that does neither stops every issue of the project: it is never left
forwards, and the stages after it are out of reach. `barrier` is its index; where no stage stops,
it is the index of the last stage.

This module speaks of replays alone, and so of the history of an issue (`replay`). What it says
about the calls of a run is in `ReviewPipeline.Proofs.Reachability`.

## Main definitions

* `barrier`: the index of the first stage that stops, or of the last one;
* `Mark.next`: where a completion leads from a place.

## Main results

* `within_of_replay`: no history leads past the barrier, and one leads to the end only if the
  barrier is the last stage;
* `next_iterate`: where completions lead from the first stage, however many they are.
-/

namespace ReviewPipeline

/-- Completing a stage that stops leads nowhere, unless it is the last one. -/
def Stage.stops (stage : Stage) : Bool :=
  stage.kind == .humanReview || !stage.autoAdvance

/-- The index of the first stage that stops and is not the last one, or else of the last one. -/
def barrier (stages : List Stage) : Nat :=
  stages.dropLast.findIdx Stage.stops

namespace Mark

/-- Where a completion leads. Nothing follows the end. -/
def next (stages : List Stage) : Mark → Mark
  | .atStage i =>
    if i + 1 = stages.length then .ended
    else if stages[i]?.any (!·.stops) then .atStage (i + 1)
    else .atStage i
  | .ended => .ended

/-- A place is not past the barrier. The end counts as past it unless it is at the last stage. -/
def Within (stages : List Stage) : Mark → Prop
  | .atStage i => i ≤ barrier stages
  | .ended => barrier stages + 1 = stages.length

end Mark

variable {stages : List Stage} {entries : List LedgerEntry} {entry : LedgerEntry} {i : Nat}
  {stage : Stage} {mark mark' : Mark}

/-- The stages that do not stop advance by themselves and are not for human review. -/
theorem stops_eq_false_iff :
    stage.stops = false ↔ stage.autoAdvance = true ∧ stage.kind ≠ .humanReview := by
  rw [Stage.stops, Bool.or_eq_false_iff, beq_eq_false_iff_ne, Bool.not_eq_false', and_comm]

/-! ### The barrier -/

/-- The barrier is one of the stages. -/
theorem barrier_lt (h : stages ≠ []) : barrier stages < stages.length := by
  have hle : barrier stages ≤ stages.dropLast.length := List.findIdx_le_length
  have hpos := List.length_pos_of_ne_nil h
  rw [List.length_dropLast] at hle
  omega

/-- Before the barrier no stage stops. -/
theorem stops_of_lt_barrier (hi : i < barrier stages) (hstage : stages[i]? = some stage) :
    stage.stops = false := by
  have hlt : i < stages.dropLast.length := Nat.lt_of_lt_of_le hi List.findIdx_le_length
  have hstage' : stages.dropLast[i] = stage := by
    rw [List.getElem_dropLast]
    exact (List.getElem?_eq_some_iff.1 hstage).2
  have hnot := List.not_of_lt_findIdx hi
  rw [hstage'] at hnot
  simpa using hnot

/-- A barrier that is not the last stage stops. -/
theorem stops_barrier (hlast : barrier stages + 1 < stages.length)
    (hstage : stages[barrier stages]? = some stage) : stage.stops = true := by
  have hlt : barrier stages < stages.dropLast.length := by
    rw [List.length_dropLast]
    omega
  have hfound : (stages.dropLast[barrier stages]).stops = true := List.findIdx_getElem
  rw [List.getElem_dropLast] at hfound
  rwa [(List.getElem?_eq_some_iff.1 hstage).2] at hfound

/-! ### Completions -/

namespace Mark

/-- Before the barrier, a completion goes to the next stage. -/
theorem next_of_lt (hi : i < barrier stages) : next stages (.atStage i) = .atStage (i + 1) := by
  have hne : stages ≠ [] := by
    rintro rfl
    exact Nat.not_lt_zero i hi
  have hlt : barrier stages < stages.length := barrier_lt hne
  have hstage : stages[i]? = some stages[i] := List.getElem?_eq_getElem (by omega)
  have hpasses : stages[i].stops = false := stops_of_lt_barrier hi hstage
  rw [next, if_neg (by omega), hstage, Option.any_some, hpasses]
  rfl

/-- At a barrier that is the last stage, a completion ends the course. -/
theorem next_barrier_of_last (hlast : barrier stages + 1 = stages.length) :
    next stages (.atStage (barrier stages)) = .ended :=
  if_pos hlast

/-- At a barrier in the middle, a completion stays. -/
theorem next_barrier_of_stops (hlast : barrier stages + 1 < stages.length) :
    next stages (.atStage (barrier stages)) = .atStage (barrier stages) := by
  have hstage : stages[barrier stages]? = some stages[barrier stages] :=
    List.getElem?_eq_getElem (by omega)
  have hstops := stops_barrier hlast hstage
  rw [next, if_neg (by omega), hstage, Option.any_some, hstops]
  rfl

/-- A completion does not lead past the barrier. -/
theorem Within.next (hstages : stages ≠ []) (h : mark.Within stages) :
    (mark.next stages).Within stages := by
  have hlt := barrier_lt hstages
  cases mark with
  | ended => exact h
  | atStage i =>
    -- The place is before the barrier, or it is the barrier, which is the last stage or stops.
    rcases Nat.lt_or_eq_of_le h with hi | rfl
    · rw [next_of_lt hi]
      exact hi
    · rcases Nat.lt_or_eq_of_le (Nat.succ_le_of_lt hlt) with hlast | hlast
      · rwa [next_barrier_of_stops hlast]
      · rw [next_barrier_of_last hlast]
        exact hlast

/-- Where completions lead from the first stage: one stage further each time, until the barrier.
From the last stage, one more of them leads to the end. -/
theorem next_iterate (hstages : stages ≠ []) (k : Nat) :
    (next stages)^[k] (.atStage 0) =
      if barrier stages + 1 = stages.length ∧ stages.length ≤ k then .ended
      else .atStage (min k (barrier stages)) := by
  have hlt := barrier_lt hstages
  induction k with
  | zero => rw [if_neg (by omega), Nat.zero_min, Function.iterate_zero_apply]
  | succ k ih =>
    rw [Function.iterate_succ_apply', ih]
    -- Three ways to go on: at the end, before the barrier, and at it.
    by_cases hended : barrier stages + 1 = stages.length ∧ stages.length ≤ k
    · rw [if_pos hended, if_pos (by omega)]
      rfl
    · rw [if_neg hended]
      rcases Nat.lt_or_ge k (barrier stages) with hk | hk
      · rw [Nat.min_eq_left (by omega), next_of_lt hk, if_neg (by omega),
          Nat.min_eq_left (by omega)]
      · rw [Nat.min_eq_right hk]
        by_cases hlast : barrier stages + 1 = stages.length
        · rw [next_barrier_of_last hlast, if_pos (by omega)]
        · rw [next_barrier_of_stops (by omega), if_neg (by omega), Nat.min_eq_right (by omega)]

end Mark

/-! ### Histories -/

/-- An entry that completes a step leads where a completion leads. -/
theorem replayEntry_completed (h : replayEntry stages mark entry = some mark')
    (hresult : entry.result = .completed) : mark' = mark.next stages := by
  cases mark with
  | ended => cases h
  | atStage i =>
    simp only [replayEntry, hresult] at h
    split at h
    · cases h
    · next stage hstage =>
      split at h
      · -- The entry completes the stage that the mark is at, as the stage of the entry is that one.
        rw [Mark.next, hstage]
        split at h
        · next hlast => rw [if_pos hlast, Option.some.inj h]
        · next hlast =>
          rw [if_neg hlast, Option.any_some]
          split at h
          · next hpasses =>
            rw [stops_eq_false_iff.2 hpasses]
            exact (Option.some.inj h).symm
          · next hstops =>
            rw [← stops_eq_false_iff, Bool.not_eq_false] at hstops
            rw [hstops]
            exact (Option.some.inj h).symm
      · cases h

/-- No entry leads past the barrier: a completion does not, and a rejection leads back. -/
theorem Mark.Within.replayEntry (hstages : stages ≠ []) (h : mark.Within stages)
    (hentry : replayEntry stages mark entry = some mark') : mark'.Within stages := by
  cases hresult : entry.result with
  | completed =>
    rw [replayEntry_completed hentry hresult]
    exact h.next hstages
  | rejected =>
    cases mark with
    | ended => cases hentry
    | atStage i =>
      simp only [ReviewPipeline.replayEntry, hresult] at hentry
      split at hentry
      · cases hentry
      · split at hentry
        · obtain ⟨target, htarget, rfl⟩ := Option.map_eq_some_iff.1 hentry
          have hmem := List.max?_mem htarget
          have hlt : target < i := List.mem_range.1 (List.mem_of_mem_filter hmem)
          exact Nat.le_trans (Nat.le_of_lt hlt) h
        · cases hentry

/-- No history leads past the barrier. -/
theorem within_of_replay (hstages : stages ≠ []) (h : replay stages entries = some mark) :
    mark.Within stages := by
  -- A replay goes from left to right, so it is the last entry that leads to the mark.
  induction entries using List.reverseRecOn generalizing mark with
  | nil =>
    obtain rfl := Option.some.inj h
    exact Nat.zero_le _
  | append_singleton entries entry ih =>
    rw [replay_concat] at h
    obtain ⟨before, hbefore, hentry⟩ := Option.bind_eq_some_iff.1 h
    exact (ih hbefore).replayEntry hstages hentry

end ReviewPipeline
