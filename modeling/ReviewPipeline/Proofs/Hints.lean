import ReviewPipeline.Proofs.Phrases
import ReviewPipeline.Proofs.Recognition
import ReviewPipeline.Proofs.Suggestions

/-!
# Hints on Recovery

An error carries a message, and the hint on how to recover is chosen by the phrases that occur in
it. The message holds a text from elsewhere, though: the text that was refused, or the identifier of
a step, an issue or a project. If a phrase that is looked for first occurs in that text, the hint is
the one for that phrase, and not the one for the cause of the error. This is the only way in which
the text matters: the frames around it never make up a phrase with a part of it.

## Main definitions

* `Choice`: the three kinds of words that are recognized in free text;
* `Cause`: why a text is refused, or an issue is not moved, with the error and the hint for it;
* `Cause.earlier`: the hints whose phrases are looked for before the cause's own one;
* `Database.Setback`: a cause stands in the way of moving an issue;
* `CommandLine.FailsBefore`: a command fails before it looks at its word.

## Main results

* `hint_error`: the hint that is shown for a cause;
* `hint_error_eq_iff`: when that is the hint for the cause;
* `Database.setback_of_complete`, `Database.setback_of_reject`: every error of a completion or a
  rejection has a cause;
* `CommandLine.error?_of_rejects`: every command with a refused word fails for it;
* `CommandLine.hints_by_phrase`: all of it together;
* `CommandLine.not_own_hint_stepType`: a refused gate status that gets the hint about step types.
-/

namespace ReviewPipeline

open Text

/-! ### Kinds of words -/

/-- The kinds of words that are recognized in free text on the command line. -/
inductive Choice where
  /-- The kind of a step, when it is added. -/
  | stepType
  /-- The signal of the gate. -/
  | gateStatus
  /-- The work status by which issues are listed. -/
  | workStatus
  deriving DecidableEq, Repr

namespace Choice

/-- What the values are called in messages. -/
def label : Choice → String
  | stepType => StepKind.vocabulary.label
  | gateStatus => GateStatus.vocabulary.label
  | workStatus => WorkStatus.vocabulary.label

/-- The stored words. -/
def words : Choice → List String
  | stepType => StepKind.vocabulary.words
  | gateStatus => GateStatus.vocabulary.words
  | workStatus => WorkStatus.vocabulary.words

/-- All accepted words. -/
def accepted : Choice → List String
  | stepType => StepKind.vocabulary.accepted
  | gateStatus => GateStatus.vocabulary.accepted
  | workStatus => WorkStatus.vocabulary.accepted

/-- A text is refused: in the form in which it is looked up it is no accepted word. -/
def Rejects (choice : Choice) (input : String) : Prop :=
  Vocabulary.key input ∉ choice.accepted

instance (choice : Choice) (input : String) : Decidable (choice.Rejects input) :=
  inferInstanceAs (Decidable (¬ _))

/-- The hint for a refused text: the valid values, for step types with some of the synonyms. -/
def listing : Choice → String
  | stepType =>
    "Valid step types: " ++ ", ".intercalate stepType.words ++ ". Synonyms: "
      ++ ", ".intercalate (["work", "review", "approval"].map fun synonym =>
        synonym ++ "→" ++ StepKind.vocabulary.shown synonym)
  | gateStatus => "Valid gate statuses: " ++ ", ".intercalate gateStatus.words
  | workStatus => "Valid work statuses: " ++ ", ".intercalate workStatus.words

/-- The hints that are looked for before that of a kind. -/
def earlier : Choice → HintTable
  | stepType => []
  | gateStatus => [([stepType.label], stepType.listing)]
  | workStatus =>
    [([stepType.label], stepType.listing), ([gateStatus.label], gateStatus.listing)]

/-- What stands around a refused text in the message about it. -/
def frame (choice : Choice) (suggestion : Option String) : Frame where
  before := "unknown " ++ choice.label ++ " '"
  after := "'" ++
    match suggestion with
    | some word => " (did you mean '" ++ word ++ "'?)"
    | none => ""

end Choice

/-! ### Causes -/

/-- How to recover from a rejection that can lead nowhere. -/
def landingHint : String :=
  "Rejection needs an earlier non-human-review step to land on."

/-- How to recover where the catalog was changed. -/
def catalogHint : String :=
  "The step catalog changed under this issue. "
    ++ "Inspect with `pipectl pipeline status <issue>` or reset it."

/-- How to recover from any other conflict. -/
def lookAgainHint : String :=
  "Re-read `pipectl pipeline status <issue>` and retry."

/-- How to recover where there is no step. -/
def addStepsHint : String :=
  "Add steps first: pipectl step add <name> --project <project> --type agent_work"

/-- How to recover where no step is current. -/
def advanceFirstHint : String :=
  "Advance the issue before rejecting it."

/-- The hints for conflicts, in the order in which their phrases are looked for. -/
def conflictHints : HintTable :=
  [(["first step", "actionable"], landingHint), (["catalog"], catalogHint)]

/-- The hints for failed validations. -/
def validationHints : HintTable :=
  [(["no pipeline steps"], addStepsHint), (["no current step"], advanceFirstHint)]

/-- The hints for unacceptable arguments. -/
def argumentHints : HintTable :=
  [Choice.stepType, .gateStatus, .workStatus].map fun choice => ([choice.label], choice.listing)

/-- The hint for a conflict is the first whose phrase occurs, or else to look again. -/
theorem conflictHint_eq (text : String) :
    some (Error.conflictHint text) = (firstHint conflictHints text).or (some lookAgainHint) := by
  simp only [Error.conflictHint, conflictHints, firstHint_cons, firstHint_nil, List.any_cons,
    List.any_nil, Bool.or_false]
  split
  · rfl
  · split <;> rfl

/-- The hint for a failed validation is the first whose phrase occurs. -/
theorem validationHint_eq (text : String) :
    Error.validationHint text = firstHint validationHints text := by
  simp only [Error.validationHint, validationHints, firstHint_cons, firstHint_nil, List.any_cons,
    List.any_nil, Bool.or_false]
  rfl

/-- The hint for an argument is the first whose phrase occurs. -/
theorem argumentHint_eq (text : String) :
    Error.argumentHint text = firstHint argumentHints text := by
  simp only [Error.argumentHint, argumentHints, List.map_cons, List.map_nil, firstHint_cons,
    firstHint_nil, List.any_cons, List.any_nil, Bool.or_false]
  rfl

/-- Why a text is refused, or an issue is not moved. -/
inductive Cause where
  /-- A text names no value of its kind. A stored word may be suggested for it. -/
  | unrecognized (choice : Choice) (input : String) (suggestion : Option String)
      (known : ∀ word ∈ suggestion, word ∈ choice.words)
  /-- There is nothing before the first step. -/
  | firstStep (stepId : String)
  /-- All steps before this one wait for a person. -/
  | noActionableStep (stepId : String)
  /-- The pointer names a step outside the catalog. -/
  | staleStep (stepId : String)
  /-- The last step of the issue's pipeline is already completed. -/
  | alreadyCompleted (issueId : String)
  /-- The project has no steps to go through. -/
  | emptyCatalog (projectId : String)
  /-- The issue is at no step that could be rejected. -/
  | noCurrentStep (issueId : String)
  /-- A rejection was given without a reason. -/
  | blankReason
  /-- Several issues share the short identifier. -/
  | ambiguous (shortId : String)
  /-- No issue has this identifier. -/
  | unknownIssue (id : String)
  /-- The database refused. -/
  | refused (fault : Fault)

namespace Cause

/-- The error that tells of a cause. -/
def error : Cause → Error
  | unrecognized choice input suggestion _ => .unknownChoice choice.label input suggestion
  | firstStep stepId => .firstStepRejected stepId
  | noActionableStep stepId => .noActionableStep stepId
  | staleStep stepId => .stalePointer stepId
  | alreadyCompleted issueId => .alreadyCompleted issueId
  | emptyCatalog projectId => .noPipelineSteps projectId
  | noCurrentStep issueId => .noCurrentStep issueId
  | blankReason => .blankReason
  | ambiguous shortId => .ambiguousShortId shortId
  | unknownIssue id => .issueNotFound id
  | refused fault => .database fault

/-- The hint for a cause, if there is one. -/
def prescribed : Cause → Option String
  | unrecognized choice _ _ _ => some choice.listing
  | firstStep _ | noActionableStep _ => some landingHint
  | staleStep _ => some catalogHint
  | alreadyCompleted _ => some lookAgainHint
  | emptyCatalog _ => some addStepsHint
  | noCurrentStep _ => some advanceFirstHint
  | unknownIssue id =>
    some ("No issue with ID '" ++ id
      ++ "'. Use `pipectl issue list --project <project>` to see available issues.")
  | blankReason | ambiguous _ | refused _ => none

/-- The text from elsewhere in the message. -/
def named : Cause → String
  | unrecognized _ input _ _ => input
  | firstStep id | noActionableStep id | staleStep id | alreadyCompleted id | emptyCatalog id
  | noCurrentStep id | ambiguous id | unknownIssue id => id
  | blankReason | refused _ => ""

/-- The hints whose phrases are looked for in the message before the cause's own one, or before it
is settled that there is none. -/
def earlier : Cause → HintTable
  | unrecognized choice _ _ _ => choice.earlier
  | firstStep _ | noActionableStep _ | emptyCatalog _ => []
  | staleStep _ => [(["first step", "actionable"], landingHint)]
  | alreadyCompleted _ => conflictHints
  | noCurrentStep _ => [(["no pipeline steps"], addStepsHint)]
  | blankReason | ambiguous _ => validationHints
  | unknownIssue _ | refused _ => []

/-- The phrases for which the cause's own hint is given. -/
def own : Cause → List String
  | unrecognized choice _ _ _ => [choice.label]
  | firstStep _ | noActionableStep _ => ["first step", "actionable"]
  | staleStep _ => ["catalog"]
  | emptyCatalog _ => ["no pipeline steps"]
  | noCurrentStep _ => ["no current step"]
  | alreadyCompleted _ | blankReason | ambiguous _ | unknownIssue _ | refused _ => []

/-- What stands around the text from elsewhere in the message. -/
def frame : Cause → Frame
  | unrecognized choice _ suggestion _ => choice.frame suggestion
  | firstStep _ => ⟨"cannot reject the first step (", ")"⟩
  | noActionableStep _ => ⟨"no previous actionable step before ", ""⟩
  | staleStep _ => ⟨"current step ", " is not in the project's step catalog"⟩
  | alreadyCompleted _ => ⟨"pipeline for issue ", " is already completed"⟩
  | emptyCatalog _ => ⟨"project ", " has no pipeline steps"⟩
  | noCurrentStep _ => ⟨"issue ", " has no current step to reject"⟩
  | blankReason => ⟨"rejection reason must not be empty", ""⟩
  | ambiguous _ => ⟨"short ID ", " matches more than one issue; use the full issue ID"⟩
  | unknownIssue _ | refused _ => ⟨"", ""⟩

/-- The hints that are looked for in the message. -/
def table : Cause → HintTable
  | unrecognized _ _ _ _ => argumentHints
  | firstStep _ | noActionableStep _ | staleStep _ | alreadyCompleted _ => conflictHints
  | emptyCatalog _ | noCurrentStep _ | blankReason | ambiguous _ => validationHints
  | unknownIssue _ | refused _ => []

/-- The hint if none of them is found. -/
def otherwise : Cause → Option String
  | firstStep _ | noActionableStep _ | staleStep _ | alreadyCompleted _ => some lookAgainHint
  | unrecognized _ _ _ _ | emptyCatalog _ | noCurrentStep _ | blankReason | ambiguous _ => none
  | unknownIssue id => (unknownIssue id).prescribed
  | refused _ => none

end Cause

/-! ### The hint for a cause -/

/-- The message about a refused text, as a text in its frame. -/
theorem unknownChoice_eq (choice : Choice) (input : String) (suggestion : Option String) :
    Error.unknownChoice choice.label input suggestion =
      .invalidArgument ((choice.frame suggestion).fill input) := by
  cases suggestion <;> simp [Error.unknownChoice, Choice.frame, Frame.fill, String.append_assoc]

/-- The frame around a refused text says of which kind it is, and of no kind that is looked for
before, whatever is suggested. -/
theorem choice_frame (choice : Choice) :
    ∀ suggestion ∈ none :: choice.words.map some,
      (∀ row ∈ choice.earlier, ∀ phrase ∈ row.1, (choice.frame suggestion).Ignores phrase) ∧
        (choice.frame suggestion).Mentions choice.label := by
  cases choice <;> decide +kernel

/-- A suggestion is one of the words, or there is none. -/
theorem mem_suggestions {choice : Choice} {suggestion : Option String}
    (known : ∀ word ∈ suggestion, word ∈ choice.words) :
    suggestion ∈ none :: choice.words.map some := by
  cases suggestion with
  | none => exact List.mem_cons_self
  | some word => exact List.mem_cons_of_mem _ (List.mem_map_of_mem (known word rfl))

/-- The frame of a message has no part in the phrases that are looked for before the cause's own. -/
theorem ignores_frame (cause : Cause) :
    ∀ row ∈ cause.earlier, ∀ phrase ∈ row.1, cause.frame.Ignores phrase := by
  cases cause with
  | unrecognized choice input suggestion known =>
    exact (choice_frame choice suggestion (mem_suggestions known)).1
  | _ =>
    dsimp only [Cause.earlier, Cause.frame]
    decide +kernel

/-- Where a cause has phrases of its own, the frame of the message mentions one of them. -/
theorem mentions_frame (cause : Cause) (h : cause.own ≠ []) :
    ∃ phrase ∈ cause.own, cause.frame.Mentions phrase := by
  cases cause with
  | unrecognized choice input suggestion known =>
    exact ⟨_, List.mem_singleton_self _,
      (choice_frame choice suggestion (mem_suggestions known)).2⟩
  | alreadyCompleted | blankReason | ambiguous | unknownIssue | refused => exact absurd rfl h
  | _ =>
    dsimp only [Cause.own, Cause.frame]
    decide +kernel

/-- The hint for an error is looked for in its message. -/
theorem hint_eq_firstHint (cause : Cause) :
    cause.error.hint =
      (firstHint cause.table (cause.frame.fill cause.named)).or cause.otherwise := by
  cases cause with
  | unrecognized choice input suggestion known =>
    rw [Cause.error, unknownChoice_eq]
    exact (argumentHint_eq _).trans Option.or_none.symm
  | firstStep | staleStep | alreadyCompleted => exact conflictHint_eq _
  | noActionableStep stepId =>
    have hfill : (Cause.noActionableStep stepId).frame.fill stepId =
        "no previous actionable step before " ++ stepId := by simp [Cause.frame, Frame.fill]
    rw [Cause.named, hfill]
    exact conflictHint_eq _
  | emptyCatalog | noCurrentStep | blankReason | ambiguous =>
    exact (validationHint_eq _).trans Option.or_none.symm
  | unknownIssue | refused => rfl

/-- The hint for a cause stands in the table, after those that are looked for before it; or it is
the one for messages in which nothing is found. -/
theorem prescribed_cases (cause : Cause) :
    (cause.own ≠ [] ∧ ∃ hint later, cause.prescribed = some hint ∧
        cause.table = cause.earlier ++ (cause.own, hint) :: later) ∨
      cause.table = cause.earlier ∧ cause.prescribed = cause.otherwise := by
  cases cause with
  | unrecognized choice input suggestion known =>
    cases choice <;> exact .inl ⟨List.cons_ne_nil _ _, _, _, rfl, rfl⟩
  | firstStep | noActionableStep | staleStep | emptyCatalog | noCurrentStep =>
    exact .inl ⟨List.cons_ne_nil _ _, _, _, rfl, rfl⟩
  | alreadyCompleted | blankReason | ambiguous | unknownIssue | refused => exact .inr ⟨rfl, rfl⟩

/-- The hint that is shown for a cause is the first one whose phrase occurs in the text from
elsewhere, of those that are looked for before the cause's own; and the cause's own one if there is
none of them. -/
theorem hint_error (cause : Cause) :
    cause.error.hint = (firstHint cause.earlier cause.named).or cause.prescribed := by
  rw [hint_eq_firstHint]
  rcases prescribed_cases cause with ⟨hown, hint, later, hprescribed, htable⟩ | ⟨htable, hsame⟩
  · have hmentions := mentions_frame cause hown
    rw [firstHint_fill htable (ignores_frame cause) hmentions, hprescribed, Option.or_assoc]
    rfl
  · rw [htable, firstHint_of_ignores (ignores_frame cause), hsame]

/-- No cause has the hint of a row that is looked for before its own. -/
theorem prescribed_ne_earlier (cause : Cause) :
    ∀ row ∈ cause.earlier, some row.2 ≠ cause.prescribed := by
  cases cause with
  | unrecognized choice =>
    dsimp only [Cause.earlier, Cause.prescribed]
    cases choice <;> decide +kernel
  | unknownIssue => exact nofun
  | _ =>
    dsimp only [Cause.earlier, Cause.prescribed]
    decide +kernel

/-- The hint that is shown is the one for the cause iff none of the phrases that are looked for
before occurs in the text from elsewhere. -/
theorem hint_error_eq_iff (cause : Cause) :
    cause.error.hint = cause.prescribed ↔
      ∀ row ∈ cause.earlier, ∀ phrase ∈ row.1, occursIn phrase cause.named = false := by
  rw [hint_error, ← firstHint_eq_none_iff]
  cases hfirst : firstHint cause.earlier cause.named with
  | none => exact iff_of_true rfl rfl
  | some hint =>
    obtain ⟨row, hrow, rfl⟩ := exists_row_of_firstHint hfirst
    exact iff_of_false (prescribed_ne_earlier cause row hrow) nofun

/-! ### What stands in the way of a transition -/

namespace Database

variable {db : Database} {author : Author} {id reason : String} {agent notes : Option String}
  {now : Int} {e : Error}

/-- A cause stands in the way of completing or rejecting the current step of an issue. -/
inductive Setback (db : Database) (id : String) (now : Int) : Cause → Prop
  /-- No issue is called so. -/
  | unknownIssue (hissue : db.issue? id = .ok none) : Setback db id now (.unknownIssue id)
  /-- Several issues are. -/
  | ambiguous (hissues : 1 < (db.withShortId id).length) : Setback db id now (.ambiguous id)
  /-- The database cannot be read, or refuses a write. -/
  | refused (fault : Fault) : Setback db id now (.refused fault)
  /-- There is no step to go through. -/
  | emptyCatalog {s : Situation} (hs : db.situation id now = .ok s) (hsteps : s.steps = []) :
      Setback db id now (.emptyCatalog s.issue.projectId)
  /-- The pointer names no step of the catalog. -/
  | staleStep {s : Situation} {stepId : String} (hs : db.situation id now = .ok s)
      (hpointer : s.cursor.stepId = some stepId) (hmissing : ∀ step ∈ s.steps, step.id ≠ stepId) :
      Setback db id now (.staleStep stepId)
  /-- The last step is completed. -/
  | alreadyCompleted {s : Situation} (hs : db.situation id now = .ok s)
      (hposition : s.cursor.position = .completed) :
      Setback db id now (.alreadyCompleted s.cursor.issueId)
  /-- There is no pointer. -/
  | noCurrentStep {s : Situation} (hs : db.situation id now = .ok s)
      (hpointer : s.cursor.stepId = none) : Setback db id now (.noCurrentStep s.cursor.issueId)
  /-- The pointer names the first step. -/
  | firstStep {s : Situation} {step : Step} (hs : db.situation id now = .ok s)
      (hpointer : s.cursor.stepId = some step.id) (hstep : s.steps[0]? = some step) :
      Setback db id now (.firstStep step.id)
  /-- All steps before the one that the pointer names wait for a person. -/
  | noActionableStep {s : Situation} {place : Place} (hs : db.situation id now = .ok s)
      (hpointer : s.cursor.stepId = some place.step.id)
      (hplace : s.steps[place.index]? = some place.step)
      (hwaits : ∀ j < place.index, Progression.Waits s.steps j) :
      Setback db id now (.noActionableStep place.step.id)

/-- An error tells of a cause that stands in the way. -/
def IsSetback (db : Database) (id : String) (now : Int) (e : Error) : Prop :=
  ∃ cause, db.Setback id now cause ∧ e = cause.error

/-- A fault of the database is a setback. -/
theorem isSetback_of_fault (h : ∃ fault, e = .database fault) : db.IsSetback id now e := by
  obtain ⟨fault, rfl⟩ := h
  exact ⟨_, .refused fault, rfl⟩

/-! #### Reading -/

/-- A row is not read only for a fault. -/
theorem exists_fault_of_read {α : Type} {row : Row α} {column : Nat}
    (h : row.read column = .error e) : ∃ fault, e = .database fault := by
  unfold Row.read at h
  split at h
  · cases h
  · cases h
    exact ⟨_, rfl⟩

/-- Reading several rows fails only with a fault of the database. -/
theorem exists_fault_of_mapM_read {α : Type} {rows : List (Row α)} {column : Nat}
    (h : rows.mapM (Row.read column) = .error e) : ∃ fault, e = .database fault := by
  induction rows with
  | nil => cases h
  | cons row rows ih =>
    rw [List.mapM_cons] at h
    rcases bind_eq_error_iff.1 h with h | ⟨_, -, h⟩
    · exact exists_fault_of_read h
    · rcases bind_eq_error_iff.1 h with h | ⟨_, -, h⟩
      · exact ih h
      · cases h

/-- An issue that is not found is a setback. -/
theorem isSetback_of_issue (h : db.issue id = .error e) : db.IsSetback id now e := by
  unfold issue at h
  split at h
  · next hissue =>
    cases h
    unfold issue? at hissue
    split at hissue
    · exact isSetback_of_fault (exists_fault_of_read (map_eq_error_iff.1 hissue))
    · split at hissue
      · next hread =>
        cases hissue
        exact isSetback_of_fault (exists_fault_of_mapM_read hread)
      · cases hissue
      · cases hissue
      · next issues hnil hsingle hread =>
        -- Neither none nor one of the first two rows was read.
        cases hissue
        refine ⟨_, .ambiguous ?_, rfl⟩
        have hlength := congrArg List.length (Row.mapM_read_eq_ok_iff.1 hread).2
        rw [List.length_map, List.length_take] at hlength
        match issues with
        | [] => exact absurd rfl hnil
        | [issue] => exact absurd rfl (hsingle issue)
        | _ :: _ :: _ =>
          simp only [List.length_cons] at hlength
          omega
  · next hissue =>
    cases h
    exact ⟨_, .unknownIssue hissue, rfl⟩
  · cases h

/-- Not to find out where an issue stands is a setback. -/
theorem isSetback_of_situation (h : db.situation id now = .error e) : db.IsSetback id now e := by
  rcases bind_eq_error_iff.1 h with h | ⟨issue, -, h⟩
  · exact isSetback_of_issue h
  rcases bind_eq_error_iff.1 h with h | ⟨steps, -, h⟩
  · exact isSetback_of_fault (exists_fault_of_mapM_read h)
  rcases bind_eq_error_iff.1 h with h | ⟨cursor, -, h⟩
  · refine isSetback_of_fault ?_
    have hcursor := map_eq_error_iff.1 h
    unfold cursor? at hcursor
    split at hcursor
    · cases hcursor
    · exact exists_fault_of_read (map_eq_error_iff.1 hcursor)
  · cases h

/-- The issue of a situation is there. -/
theorem hasIssue_of_situation {s : Situation} (h : db.situation id now = .ok s) :
    db.hasIssue s.issue.id = true := by
  obtain ⟨issue, hissue, h⟩ := bind_eq_ok_iff.1 h
  obtain ⟨steps, -, h⟩ := bind_eq_ok_iff.1 h
  obtain ⟨cursor, -, h⟩ := bind_eq_ok_iff.1 h
  cases h
  unfold Database.issue at hissue
  split at hissue
  · cases hissue
  · cases hissue
  · next found hfound =>
    cases hissue
    obtain ⟨row, hrow, hrecord, -⟩ := issue?_eq_some hfound
    exact List.any_eq_true.2 ⟨row, hrow, by simp [hrecord]⟩

/-! #### Planning -/

variable {s : Situation} {stamp : Stamp}

/-- A step that is not located is a setback. -/
theorem isSetback_of_locate {stepId : String} (hs : db.situation id now = .ok s)
    (hpointer : s.cursor.stepId = some stepId)
    (h : Progression.locate s.steps stepId = .error e) : db.IsSetback id now e := by
  obtain ⟨rfl, hmissing⟩ := Progression.locate_eq_error_iff.1 h
  exact ⟨_, .staleStep hs hpointer hmissing, rfl⟩

/-- What a completion cannot be planned for is a setback. -/
theorem isSetback_of_planCompletion (hs : db.situation id now = .ok s) (hsteps : s.steps ≠ [])
    (h : Progression.planCompletion s.steps s.cursor agent notes stamp = .error e) :
    db.IsSetback id now e := by
  have hstarted := Progression.planCompletion_eq_error_iff.1 h
  unfold Progression.ensureStarted at hstarted
  cases hposition : s.cursor.position with
  | notStarted =>
    rw [hposition] at hstarted
    -- An issue that has not started fails only without steps.
    cases hlist : s.steps with
    | nil => exact absurd hlist hsteps
    | cons step steps =>
      rw [hlist] at hstarted
      cases hstarted
  | atStep stepId =>
    rw [hposition] at hstarted
    -- The position points where the cursor does.
    refine isSetback_of_locate hs ?_ hstarted
    unfold Cursor.position at hposition
    split at hposition
    · next hpointer =>
      cases hposition
      exact hpointer
    · cases hposition
    · cases hposition
  | completed =>
    rw [hposition] at hstarted
    cases hstarted
    exact ⟨_, .alreadyCompleted hs hposition, rfl⟩

/-- What a rejection cannot be planned for is a setback, or the reason is blank. -/
theorem isSetback_of_planRejection (hs : db.situation id now = .ok s)
    (h : Progression.planRejection s.steps s.cursor agent reason stamp = .error e) :
    db.IsSetback id now e := by
  unfold Progression.planRejection at h
  split at h
  · next hpointer =>
    cases h
    exact ⟨_, .noCurrentStep hs hpointer, rfl⟩
  next stepId hpointer =>
  split at h
  · next hlocate =>
    cases h
    exact isSetback_of_locate hs hpointer hlocate
  next place hlocate =>
  obtain ⟨hplace, rfl⟩ := Progression.getElem?_of_locate hlocate
  split at h
  · next hfirst =>
    cases h
    exact ⟨_, .firstStep hs hpointer (hfirst ▸ hplace), rfl⟩
  split at h
  · next hnone =>
    cases h
    refine ⟨_, .noActionableStep hs hpointer hplace ?_, rfl⟩
    have hlt : place.index < s.steps.length := (List.getElem?_eq_some_iff.1 hplace).1
    rw [← Progression.lastActionable_eq_none_iff]
    have hmin : min place.index s.steps.length = place.index := Nat.min_eq_left (by omega)
    rw [Progression.previousActionable, hmin] at hnone
    cases hsearch : Progression.lastActionable s.steps place.index with
    | none => rfl
    | some i =>
      -- A place that was found holds a step.
      have hi := (Progression.lastActionable_eq_some_iff.1 hsearch).1
      rw [hsearch, Option.bind_some, List.getElem?_eq_none_iff] at hnone
      omega
  · cases h

/-- Every error of a completion tells of a cause that stands in the way. -/
theorem setback_of_complete (h : db.complete author id agent notes = .error e) :
    db.IsSetback id author.stamp.now e := by
  rcases bind_eq_error_iff.1 h with h | ⟨s, hs, h⟩
  · exact isSetback_of_situation h
  by_cases hsteps : s.steps = []
  · rw [if_pos (List.isEmpty_iff.2 hsteps)] at h
    cases h
    exact ⟨_, .emptyCatalog hs hsteps, rfl⟩
  · rw [if_neg (mt List.isEmpty_iff.1 hsteps)] at h
    rcases bind_eq_error_iff.1 h with h | ⟨t, -, h⟩
    · exact isSetback_of_planCompletion hs hsteps h
    rcases bind_eq_error_iff.1 h with h | ⟨_, -, h⟩
    · exact isSetback_of_fault (applyTransition_eq_error (hasIssue_of_situation hs) h)
    · cases h

/-- Every error of a rejection is that there is no reason, or tells of a cause that stands in the
way. -/
theorem setback_of_reject (h : db.reject author id agent reason = .error e) :
    Text.nonBlank (some reason) = none ∧ e = Cause.blankReason.error ∨
      db.IsSetback id author.stamp.now e := by
  unfold reject at h
  split at h
  · next hreason =>
    cases h
    exact .inl ⟨hreason, rfl⟩
  right
  rcases bind_eq_error_iff.1 h with h | ⟨s, hs, h⟩
  · exact isSetback_of_situation h
  rcases bind_eq_error_iff.1 h with h | ⟨t, ht, h⟩
  · exact isSetback_of_planRejection hs h
  rcases bind_eq_error_iff.1 h with h | ⟨_, -, h⟩
  · exact isSetback_of_fault (applyTransition_eq_error (hasIssue_of_situation hs) h)
  · -- A plan for a rejection does reject.
    obtain ⟨-, -, target, -, houtcome⟩ := Progression.planned_of_planRejection ht
    rw [houtcome] at h
    cases h

end Database

/-! ### Commands with a word -/

namespace CommandLine

variable {env : Environment} {stamp : Stamp} {screen : Screen} {arguments : List String}
  {inv : Invocation} {files : Files} {choice : Choice} {input : String} {e : Error}

/-- A refused text is told of, with a stored word as the suggestion, if there is one. -/
theorem choose_of_not_mem {α : Type} {v : Vocabulary α} (hv : v.WellFormed)
    (h : Vocabulary.key input ∉ v.accepted) :
    ∃ suggestion, (∀ word ∈ suggestion, word ∈ v.words) ∧
      choose v input = .error (.unknownChoice v.label input suggestion) := by
  have hrefused : v.normalize input =
      .error ⟨input, v.nearestIn? v.accepted (Vocabulary.key input)⟩ :=
    Vocabulary.normalizeIn_of_not_mem h
  refine ⟨_, fun word hword => ?_, by rw [choose, hrefused]⟩
  obtain ⟨-, -, -, a, -, rfl⟩ :=
    (hv.suggests_nearestIn? (.refl _) (Vocabulary.key input)).nearest word hword
  exact hv.mem_words.2 ⟨a, rfl⟩

/-- The word of a command that has to be recognized, and of which kind it should be. -/
def Command.word? : Command → Option (Choice × String)
  | .step (.add _ _ stepType _ _ _) => some (.stepType, stepType)
  | .issue (.list _ (some status) _) => some (.workStatus, status)
  | .recordGate _ status _ => some (.gateStatus, status)
  | _ => none

/-- A command with a word fails before the word is looked at. A gate signal is looked at first of
all. -/
inductive FailsBefore (env : Environment) (stamp : Stamp) (inv : Invocation) (files : Files) :
    Error → Prop
  /-- The database cannot be opened. -/
  | opening {e : Error} (hword : ∀ input, inv.command.word? ≠ some (.gateStatus, input))
      (hopen : (openExisting env stamp.now inv files).1 = .error e) :
      FailsBefore env stamp inv files e
  /-- The project whose issues are to be listed does not pass the check on the workspace. -/
  | project {opened : Opened} {project : String} {status : Option String} {limit : Nat} {e : Error}
      (hopen : (openExisting env stamp.now inv files).1 = .ok opened)
      (hcommand : inv.command = .issue (.list project status limit))
      (hproject :
        (contextOf env stamp inv files).scopedProject opened.database project = .error e) :
      FailsBefore env stamp inv files e

/-- A command fails for a refused text, or before that is looked at. -/
def FailsFor (env : Environment) (stamp : Stamp) (inv : Invocation) (files : Files)
    (choice : Choice) (input : String) (e : Error) : Prop :=
  (∃ suggestion known, e = (Cause.unrecognized choice input suggestion known).error) ∨
    FailsBefore env stamp inv files e

/-- Work with a database that is not opened fails as opening it does. -/
theorem withDatabase_of_not_opened
    {work : Context → Database → Except Error (Answer × Database)}
    (h : (openExisting env stamp.now inv files).1 = .error e) :
    (withDatabase env stamp inv files work).1 = .error e := by
  unfold withDatabase
  rcases hresult : openExisting env stamp.now inv files with ⟨result, next⟩
  rw [hresult] at h
  obtain rfl : result = .error e := h
  rfl

/-- A command with a word that is rejected fails for that word, or before it is looked at. -/
theorem execute_of_rejects (hword : inv.command.word? = some (choice, input))
    (hrejects : choice.Rejects input) :
    ∃ e, (execute env stamp inv files).1 = .error e ∧
      FailsFor env stamp inv files choice input e := by
  unfold execute
  obtain ⟨command, database, actor, workspace⟩ := inv
  cases command with
  | init | version | completions | project | pipeline => cases hword
  | step command =>
    cases command with
    | list | restaff => cases hword
    | add name project stepType agent autoAdvance number =>
      cases hword
      obtain ⟨suggestion, known, hchoose⟩ := choose_of_not_mem StepKind.wellFormed hrejects
      -- The word is looked at after the database is open.
      rcases hopen : (openExisting env stamp.now _ files).1 with e | opened
      · exact ⟨e, withDatabase_of_not_opened hopen, .inr (.opening nofun hopen)⟩
      · refine ⟨_, withDatabase_eq_error hopen ?_, .inl ⟨suggestion, known, rfl⟩⟩
        simp only [StepCommand.execute, hchoose]
        rfl
  | issue command =>
    cases command with
    | create | inspect => cases hword
    | list project status limit =>
      cases status with
      | none => cases hword
      | some word =>
        cases hword
        obtain ⟨suggestion, known, hchoose⟩ := choose_of_not_mem WorkStatus.wellFormed hrejects
        rcases hopen : (openExisting env stamp.now _ files).1 with e | opened
        · exact ⟨e, withDatabase_of_not_opened hopen, .inr (.opening nofun hopen)⟩
        -- Here the project is looked up first, and its failure goes before that of the word.
        rcases hproject : (contextOf env stamp _ files).scopedProject opened.database project with
          e | p
        · refine ⟨e, withDatabase_eq_error hopen ?_, .inr (.project hopen rfl hproject)⟩
          simp only [IssueCommand.execute, hproject]
          rfl
        · refine ⟨_, withDatabase_eq_error hopen ?_, .inl ⟨suggestion, known, rfl⟩⟩
          simp only [IssueCommand.execute, hproject, hchoose]
          rfl
  | recordGate issue word error =>
    -- The word for the gate is looked at before the database is open.
    cases hword
    obtain ⟨suggestion, known, hchoose⟩ := choose_of_not_mem GateStatus.wellFormed hrejects
    refine ⟨_, ?_, .inl ⟨suggestion, known, rfl⟩⟩
    simp only [hchoose]
    rfl

/-- Every command with a refused word fails for it, or before it is looked at. -/
theorem error?_of_rejects (hread : read env arguments = .ok inv)
    (hword : inv.command.word? = some (choice, input)) (hrejects : choice.Rejects input) :
    ∃ e, (run env stamp screen arguments files).1.error? = some e ∧
      FailsFor env stamp inv files choice input e := by
  obtain ⟨e, hfails, hfor⟩ := execute_of_rejects hword hrejects
  rw [run, hread]
  exact ⟨e, error?_runInvocation hfails, hfor⟩

/-- The hint for an error is found by phrases in its message, so it is the one for the cause unless
the text from elsewhere holds a phrase that is looked for before. This is how it is with every
cause, and these are the causes for which a command with a refused word fails, and a completion or
a rejection does. -/
theorem hints_by_phrase (cause : Cause) (env : Environment) (stamp : Stamp) (screen : Screen)
    (arguments : List String) (files : Files) (db : Database) (author : Author) (id : String)
    (agent : Option String) :
    (cause.error.hint = (firstHint cause.earlier cause.named).or cause.prescribed ∧
      (cause.error.hint = cause.prescribed ↔
        ∀ row ∈ cause.earlier, ∀ phrase ∈ row.1, occursIn phrase cause.named = false)) ∧
    (∀ inv choice input, read env arguments = .ok inv →
      inv.command.word? = some (choice, input) → choice.Rejects input →
      ∃ e, (run env stamp screen arguments files).1.error? = some e ∧
        FailsFor env stamp inv files choice input e) ∧
    (∀ notes e, db.complete author id agent notes = .error e →
      db.IsSetback id author.stamp.now e) ∧
    ∀ reason e, db.reject author id agent reason = .error e →
      Text.nonBlank (some reason) = none ∧ e = Cause.blankReason.error ∨
        db.IsSetback id author.stamp.now e :=
  ⟨⟨hint_error cause, hint_error_eq_iff cause⟩,
    fun _ _ _ hread hword hrejects => error?_of_rejects hread hword hrejects,
    fun _ _ => Database.setback_of_complete, fun _ _ => Database.setback_of_reject⟩

/-- A gate status that is refused gets the hint about step types if it reads so; and a stale pointer
the one about rejections, if the step that it names is called so. -/
theorem not_own_hint_stepType :
    let ended := (run {} ⟨1000, 1⟩ ⟨false, false⟩ ["gate", "record", "X", "step type"] {}).1
    let stale := Progression.planCompletion
      [⟨"draft", "docs", 1, "Draft", .agentWork, none, true, 1, 1⟩]
      ⟨"first", "docs", some "the first step", some 1, none, {}, 1⟩ none none ⟨2, 2⟩
    Choice.gateStatus.Rejects "step type" ∧
      ended.error? = some (.unknownChoice "gate status" "step type" none) ∧
      ended.error?.bind Error.hint = some Choice.stepType.listing ∧
      some Choice.stepType.listing ≠ some Choice.gateStatus.listing ∧
      stale.map (·.fromStepId) = .error (Cause.staleStep "the first step").error ∧
      (Cause.staleStep "the first step").error.hint = some landingHint ∧
      some landingHint ≠ (Cause.staleStep "the first step").prescribed := by
  decide +kernel

/-- The cause of a refused gate status that reads like the name of another kind of words. -/
def misread : Cause :=
  .unrecognized .gateStatus "step type" none (by simp)

/-- A project of one issue and no steps. -/
def stepless : Database where
  projects := [⟨"docs", "Docs", "ws", none, none, 2, 1, 1⟩]
  issues := [{ record := ⟨"first", none, "docs", "First", none, .todo, 1, 1⟩ }]

/-- The refused gate status fails for its own cause, with the hint about step types. Where there are
no steps, a completion and a rejection fail each for a cause of their own, with the hint for it. -/
theorem hints_by_phrase_gateRun :
    let inv : Invocation :=
      ⟨.recordGate "X" "step type" none, none, none, none, false, false, false⟩
    let line := run {} ⟨1000, 1⟩ ⟨false, false⟩ ["gate", "record", "X", "step type"] {}
    read {} ["gate", "record", "X", "step type"] = .ok inv ∧
      inv.command.word? = some (.gateStatus, "step type") ∧
      Choice.gateStatus.Rejects "step type" ∧
      (∃ e, line.1.error? = some e ∧ FailsFor {} ⟨1000, 1⟩ inv {} .gateStatus "step type" e) ∧
      misread.error.hint = some Choice.stepType.listing ∧
      stepless.complete ⟨"ada", ⟨5, 5⟩⟩ "first" none none =
        .error (Cause.emptyCatalog "docs").error ∧
      stepless.IsSetback "first" 5 (Cause.emptyCatalog "docs").error ∧
      (Cause.emptyCatalog "docs").error.hint = some addStepsHint ∧
      stepless.reject ⟨"ada", ⟨5, 5⟩⟩ "first" none "unclear" =
        .error (Cause.noCurrentStep "first").error ∧
      stepless.IsSetback "first" 5 (Cause.noCurrentStep "first").error ∧
      (Cause.noCurrentStep "first").error.hint = some advanceFirstHint := by
  intro inv line
  -- The general statement is used three times, at the causes of the three failures.
  let ada : Author := ⟨"ada", ⟨5, 5⟩⟩
  have hall (cause : Cause) :=
    hints_by_phrase cause {} ⟨1000, 1⟩ ⟨false, false⟩ ["gate", "record", "X", "step type"] {}
      stepless ada "first" none
  obtain ⟨⟨hrefused, -⟩, hfails, hcompletion, hrejection⟩ := hall misread
  have hread : read {} ["gate", "record", "X", "step type"] = .ok inv := by decide +kernel
  have hrejects : Choice.gateStatus.Rejects "step type" := by decide +kernel
  let issue : Issue := ⟨"first", none, "docs", "First", none, .todo, 1, 1⟩
  have hissue : stepless.issue "first" = .ok issue := by decide +kernel
  -- Sorting does not compute by itself, but there is nothing to sort.
  have hcatalog : stepless.catalog "docs" = .ok [] := by
    have hrows : stepless.catalogRows "docs" = [] := List.mergeSort_nil
    rw [Database.catalog, hrows]
    rfl
  have hcursor : stepless.cursorOrFresh issue 5 = .ok (.notStarted "first" "docs" 5) := by
    decide +kernel
  have hsituation : stepless.situation "first" 5 =
      .ok ⟨issue, [], .notStarted "first" "docs" 5⟩ :=
    bind_eq_ok_iff.2 ⟨_, hissue, bind_eq_ok_iff.2 ⟨_, hcatalog,
      bind_eq_ok_iff.2 ⟨_, hcursor, rfl⟩⟩⟩
  have hcomplete : stepless.complete ⟨"ada", ⟨5, 5⟩⟩ "first" none none =
      .error (Cause.emptyCatalog "docs").error := by
    rw [Database.complete, hsituation]
    rfl
  have hreason : Text.nonBlank (some "unclear") = some "unclear" := by decide +kernel
  have hreject : stepless.reject ⟨"ada", ⟨5, 5⟩⟩ "first" none "unclear" =
      .error (Cause.noCurrentStep "first").error := by
    rw [Database.reject, hreason, hsituation]
    rfl
  refine ⟨hread, rfl, hrejects, hfails inv _ _ hread rfl hrejects, ?_, hcomplete,
    hcompletion none _ hcomplete, (hall _).1.2.2 (List.forall_mem_nil _), hreject, ?_,
    (hall _).1.1.trans ?_⟩
  · rw [hrefused]
    decide +kernel
  · refine (hrejection "unclear" _ hreject).resolve_left fun h => ?_
    rw [hreason] at h
    cases h.1
  · decide +kernel

end CommandLine

end ReviewPipeline
