import ReviewPipeline.Proofs.ShortIds
import ReviewPipeline.Proofs.Trimming

/-!
# Tidy Records

Names, titles, agents, errors and reasons are stored trimmed, and never empty; prefixes are stored
in upper case. Some of these texts are put in order by the command that brings them, others where
they are written, and agents where they act. `Operation.IsTidy` says what a call has to bring, and
a call that brings it leaves all stored records tidy, if they were.

## Main definitions

* `IsUpperPrefix`: a text of digits and upper-case letters of ASCII;
* `Rows.Tidy`: all stored records are tidy, kind by kind;
* `Operation.IsTidy`: a call brings tidy texts.

## Main results

* `Text.isAsciiLower_of_mem_upperCase`: no lower-case letter of ASCII is left in upper case;
* `Database.Called.tidy`: tidy calls keep all records tidy.
-/

namespace ReviewPipeline

/-! ### Upper case -/

namespace Text

variable {c d : Char} {text : String}

/-- Whether a character is a lower-case letter of ASCII. -/
def isAsciiLower (c : Char) : Bool :=
  'a' ≤ c && c ≤ 'z'

/-- Whether a character is a digit or an upper-case letter of ASCII. -/
def isUpperOrDigit (c : Char) : Bool :=
  ('0' ≤ c && c ≤ '9') || ('A' ≤ c && c ≤ 'Z')

/-- The small letters of ASCII are a range. -/
theorem isAsciiLower_iff : isAsciiLower c = true ↔ 97 ≤ c.toNat ∧ c.toNat ≤ 122 := by
  simp only [isAsciiLower, Bool.and_eq_true, decide_eq_true_eq]
  exact Iff.rfl

/-- Capital letters and digits are letters and digits. -/
theorem isAsciiAlphanumeric_of_isUpperOrDigit (h : isUpperOrDigit c = true) :
    isAsciiAlphanumeric c = true :=
  Bool.or_eq_true_iff.2 (.inl h)

/-- A letter or digit that is not small is a capital letter or a digit. -/
theorem isUpperOrDigit_of_not_lower (h : isAsciiAlphanumeric c = true)
    (hlower : isAsciiLower c = false) : isUpperOrDigit c = true := by
  rw [isAsciiAlphanumeric, ← isAsciiLower, hlower, Bool.or_false] at h
  exact h

/-- The upper case of a letter or digit of ASCII. -/
theorem isUpperOrDigit_asciiUpper (h : isAsciiAlphanumeric c = true) :
    isUpperOrDigit (asciiUpper c) = true := by
  unfold asciiUpper
  split
  · next hlower =>
    -- There are few letters in lower case, and each goes to one in upper case.
    have hletters : ∀ n < 123, 97 ≤ n → isUpperOrDigit (Char.ofNat (n - 32)) = true := by decide
    have hfirst : 97 ≤ c.toNat := hlower.1
    have hlast : c.toNat ≤ 122 := hlower.2
    exact hletters c.toNat (by omega) hfirst
  · next hlower => exact isUpperOrDigit_of_not_lower h (by simpa [isAsciiLower] using hlower)

/-- A run of the case table leads past the lower-case letters of ASCII, or to places below them. -/
theorem upperRuns_avoid : ∀ run ∈ upperRuns,
    122 < (run.first : Int) + run.shift ∨ (run.last : Int) + run.shift < 97 := by
  decide +kernel

/-- No letter in upper case is expanded to a small one of ASCII. -/
theorem upperExpansions_avoid : ∀ expansion ∈ upperExpansions, ∀ point ∈ expansion.2,
    isAsciiLower (Char.ofNat point) = false := by
  decide +kernel

/-- Outside of their range there is no small letter. -/
theorem isAsciiLower_ofNat_eq_false {n : Nat} (h : n < 97 ∨ 122 < n) :
    isAsciiLower (Char.ofNat n) = false := by
  by_cases hvalid : n.isValidChar
  · have hn : (Char.ofNat n).toNat = n := by
      rw [Char.ofNat, dif_pos hvalid]
      rfl
    rw [Bool.eq_false_iff, ne_eq, isAsciiLower_iff, hn]
    omega
  · rw [Char.ofNat, dif_neg hvalid]
    decide

/-- No run leads to a lower-case letter of ASCII. -/
theorem isAsciiLower_of_send? {run : CaseRun} (hrun : run ∈ upperRuns) {m n : Nat}
    (h : run.send? m = some n) : isAsciiLower (Char.ofNat n) = false := by
  unfold CaseRun.send? at h
  split at h
  · next hm =>
    obtain ⟨hfirst, hlast, -⟩ := hm
    have hsent : (m + run.shift : Int).toNat = n := Option.some.inj h
    refine isAsciiLower_ofNat_eq_false ?_
    rcases upperRuns_avoid run hrun with hpast | hbelow <;> omega
  · cases h

/-- The lower-case letters of ASCII are in the first run, so they do not stay. -/
theorem isAsciiLower_of_forall_send? (h : ∀ run ∈ upperRuns, run.send? c.toNat = none) :
    isAsciiLower c = false := by
  have hletters := h ⟨0x61, 0x7A, 1, -32⟩ List.mem_cons_self
  rw [CaseRun.send?] at hletters
  rw [Bool.eq_false_iff, ne_eq, isAsciiLower_iff]
  rintro ⟨hfirst, hlast⟩
  rw [if_pos ⟨hfirst, hlast, Nat.mod_one _⟩] at hletters
  cases hletters

/-- The upper case of a character holds no lower-case letter of ASCII. -/
theorem isAsciiLower_of_mem_mapCase (h : d ∈ mapCase upperRuns upperExpansions c) :
    isAsciiLower d = false := by
  unfold mapCase at h
  split at h
  · -- The character has an expansion, and none of these holds a lower-case letter.
    next points hpoints =>
    obtain ⟨point, hpoint, rfl⟩ := List.mem_map.1 h
    obtain ⟨before, after, hsplit, -⟩ := List.lookup_eq_some_iff.1 hpoints
    have hmem : (c.toNat, points) ∈ upperExpansions := by
      rw [hsplit]
      exact List.mem_append_right before List.mem_cons_self
    exact upperExpansions_avoid _ hmem point hpoint
  · split at h
    · -- The character is sent to another one, or it is none that would be.
      next n hsent =>
      rw [List.mem_singleton.1 h]
      obtain ⟨run, hrun, hsent⟩ := List.exists_of_findSome?_eq_some hsent
      exact isAsciiLower_of_send? hrun hsent
    · next hnone =>
      rw [List.mem_singleton.1 h]
      exact isAsciiLower_of_forall_send? (List.findSome?_eq_none_iff.1 hnone)

/-- A text in upper case has no small letter of ASCII. -/
theorem isAsciiLower_of_mem_upperCase : ∀ c ∈ (upperCase text).toList, isAsciiLower c = false := by
  intro c hc
  rw [upperCase, String.toList_ofList] at hc
  obtain ⟨d, -, hmem⟩ := List.mem_flatMap.1 hc
  exact isAsciiLower_of_mem_mapCase hmem

end Text

/-- A text of digits and upper-case letters of ASCII, and at least one. -/
def IsUpperPrefix (text : String) : Prop :=
  text ≠ "" ∧ ∀ c ∈ text.toList, Text.isUpperOrDigit c = true

namespace IsUpperPrefix

variable {text : String}

/-- A prefix in upper case is a prefix. -/
theorem isIssuePrefix (h : IsUpperPrefix text) : IsIssuePrefix text :=
  ⟨h.1, fun c hc => Text.isAsciiAlphanumeric_of_isUpperOrDigit (h.2 c hc)⟩

/-- With a number behind it, it still is one. -/
theorem append_showNat (h : IsUpperPrefix text) (n : Nat) :
    IsUpperPrefix (text ++ Text.showNat n) := by
  constructor
  · intro hempty
    exact h.1 (String.append_eq_empty_iff.1 hempty).1
  · rw [String.toList_append, Text.showNat, String.toList_ofList]
    exact List.forall_mem_append.2 ⟨h.2, Text.forall_mem_decimal (by decide) n⟩

/-- A derived prefix is in upper case. -/
theorem derivedPrefix (name : String) : IsUpperPrefix (Project.derivedPrefix name) := by
  unfold Project.derivedPrefix
  extract_lets kept
  split
  · have hletters : "PIPE".toList.all Text.isUpperOrDigit = true := by decide
    exact ⟨by decide, List.all_eq_true.1 hletters⟩
  · next hkept =>
    refine ⟨by simpa using hkept, ?_⟩
    rw [String.toList_ofList]
    intro c hc
    obtain ⟨d, hd, rfl⟩ := List.mem_map.1 hc
    exact Text.isUpperOrDigit_asciiUpper (List.mem_filter.1 (List.mem_of_mem_take hd)).2

/-- What was put in upper case is a prefix if it is of letters and digits. -/
theorem of_upperCase (hempty : Text.upperCase text ≠ "")
    (hletters : ∀ c ∈ (Text.upperCase text).toList, Text.isAsciiAlphanumeric c = true) :
    IsUpperPrefix (Text.upperCase text) :=
  ⟨hempty, fun c hc => Text.isUpperOrDigit_of_not_lower (hletters c hc)
    (Text.isAsciiLower_of_mem_upperCase c hc)⟩

end IsUpperPrefix

/-! ### Tidy records -/

/-- The name of a project is tidy, and its prefix is one of digits and upper-case letters. -/
structure Project.IsTidy (p : Project) : Prop where
  /-- The name. -/
  name : Text.IsTidy p.name
  /-- The prefix, which is always there. -/
  issuePrefix : ∃ text, p.issuePrefix = some text ∧ IsUpperPrefix text

/-- The name of a step and its assignee are tidy. -/
structure Step.IsTidy (step : Step) : Prop where
  /-- The name. -/
  name : Text.IsTidy step.name
  /-- The assignee, if there is one. -/
  assignee : Text.IsTidyOption step.assignee

/-- The agent of a ledger entry is tidy, and so are the notes of a rejection, which are always
there. -/
structure LedgerEntry.IsTidy (entry : LedgerEntry) : Prop where
  /-- The agent, if there is one. -/
  agent : Text.IsTidyOption entry.agentId
  /-- The reason of a rejection. -/
  reason : entry.result = .rejected → ∃ reason, entry.notes = some reason ∧ Text.IsTidy reason

/-- All stored records are tidy. -/
structure Rows.Tidy (rows : Rows) : Prop where
  /-- The projects, with their names and prefixes. -/
  projects : ∀ p ∈ rows.projects, p.IsTidy
  /-- The issues, with their titles. -/
  issues : ∀ row ∈ rows.issues, Text.IsTidy row.record.title
  /-- The steps, with their names and assignees. -/
  steps : ∀ row ∈ rows.steps, row.record.IsTidy
  /-- The cursors, with the errors of the gate. -/
  cursors : ∀ row ∈ rows.cursors, Text.IsTidyOption row.record.gate.error
  /-- The ledger, with its agents and the reasons of rejections. -/
  ledger : ∀ entry ∈ rows.ledger, entry.IsTidy

/-- A call brings tidy texts, as far as they are stored as they come. -/
def Operation.IsTidy : Operation → Prop
  | .createProject p => p.IsTidy
  | .createIssue _ title _ => Text.IsTidy title
  | .addStep new => Text.IsTidyOption new.assignee
  | .restaffStep _ agent => Text.IsTidyOption agent
  | .recordGate _ _ error => Text.IsTidyOption error
  | _ => True

/-! ### Calls keep records tidy -/

/-- Whoever acts on a step is named tidily, or not at all. -/
theorem isTidyOption_effectiveAgent (named : Option String) (step : Step) :
    Text.IsTidyOption (Progression.effectiveAgent named step) := by
  intro agent hagent
  rw [Progression.effectiveAgent, Option.or_eq_some_iff] at hagent
  rcases hagent with hnamed | ⟨-, hassigned⟩
  · exact Text.isTidyOption_nonBlank named agent hnamed
  · exact Text.isTidyOption_nonBlank step.assignee agent hassigned

/-- What is recorded of a completion is tidy, whoever is named for it and whatever is noted. -/
theorem isTidy_of_planCompletion {steps : List Step} {cursor : Cursor} {agent notes : Option String}
    {stamp : Stamp} {t : Transition}
    (h : Progression.planCompletion steps cursor agent notes stamp = .ok t) (seq : Int) :
    (t.entry.entry seq).IsTidy := by
  obtain ⟨-, place, -, hentry⟩ := Progression.planned_of_planCompletion h
  rw [hentry]
  exact ⟨isTidyOption_effectiveAgent agent place.step, nofun⟩

/-- A rejection for a tidy reason makes a tidy entry. -/
theorem isTidy_of_planRejection {steps : List Step} {cursor : Cursor} {agent : Option String}
    {reason : String} {stamp : Stamp} {t : Transition} (hreason : Text.IsTidy reason)
    (h : Progression.planRejection steps cursor agent reason stamp = .ok t) (seq : Int) :
    (t.entry.entry seq).IsTidy := by
  obtain ⟨-, place, target, hentry, -⟩ := Progression.planned_of_planRejection h
  rw [hentry]
  exact ⟨isTidyOption_effectiveAgent agent place, fun _ => ⟨reason, rfl, hreason⟩⟩

namespace Database

variable {db db' : Database} {author : Author} {op : Operation} {reply : Reply}

/-- A row of a cursor that was written over or inserted is one of the rows before, or its record is
one of theirs, changed, or the one inserted. -/
theorem mem_cursorsWith {fresh : Cursor} {update : Row Cursor → Row Cursor} {row : Row Cursor}
    (h : row ∈ db.cursorsWith fresh update) :
    row ∈ db.cursors ∨ row.record = fresh ∨ ∃ old ∈ db.cursors, row = update old := by
  unfold cursorsWith at h
  split at h
  · rcases Row.mem_changeAt h with ⟨hrow, -⟩ | ⟨old, hold, -, hrow⟩
    · exact .inl hrow
    · exact .inr (.inr ⟨old, hold, hrow⟩)
  · rcases List.mem_append.1 h with hrow | hrow
    · exact .inl hrow
    · exact .inr (.inl (List.mem_singleton.1 hrow ▸ rfl))

/-- A written cursor has a tidy error, if the one that is written is tidy, or the old one stays. -/
theorem tidy_cursorsWith {fresh : Cursor} {update : Row Cursor → Row Cursor}
    (h : ∀ row ∈ db.cursors, Text.IsTidyOption row.record.gate.error)
    (hfresh : Text.IsTidyOption fresh.gate.error)
    (hupdate : ∀ row, Text.IsTidyOption row.record.gate.error →
      Text.IsTidyOption (update row).record.gate.error) :
    ∀ row ∈ db.cursorsWith fresh update, Text.IsTidyOption row.record.gate.error := by
  intro row hrow
  rcases mem_cursorsWith hrow with hrow | hrow | ⟨old, hold, rfl⟩
  · exact h row hrow
  · rw [hrow]
    exact hfresh
  · exact hupdate old (h old hold)

/-- Rows of which every one is changed, or stays, keep what both keep. -/
theorem forall_mem_map_ite {α : Type} {P : α → Prop} {p : α → Bool} {f : α → α} {rows : List α}
    (h : ∀ row ∈ rows, P row) (hf : ∀ row, P row → P (f row)) :
    ∀ row ∈ rows.map (fun row => if p row then f row else row), P row := by
  rintro _ hrow
  obtain ⟨old, hold, rfl⟩ := List.mem_map.1 hrow
  split
  · exact hf old (h old hold)
  · exact h old hold

/-- A transition adds a tidy entry to the ledger and leaves titles and errors alone. -/
theorem tidy_transitioned (h : db.rows.Tidy) {issue : Issue} {t : Transition}
    (hentry : (t.entry.entry (db.lastSeq + 1)).IsTidy) :
    (db.transitioned author issue t).rows.Tidy where
  projects := h.projects
  issues := by
    show ∀ row ∈ db.issuesAfter issue.id t.workStatus author.stamp.now, Text.IsTidy row.record.title
    cases t.workStatus with
    | none => exact h.issues
    | some status => exact forall_mem_map_ite h.issues fun _ htitle => htitle
  steps := h.steps
  cursors := tidy_cursorsWith h.cursors Text.isTidyOption_none fun _ herror => herror
  ledger := List.forall_mem_append.2 ⟨h.ledger, List.forall_mem_singleton.2 hentry⟩

/-- A call that brings tidy texts keeps all records tidy. -/
theorem Called.tidy (h : Called db author op reply db') (hop : op.IsTidy) (hdb : db.rows.Tidy) :
    db'.rows.Tidy := by
  cases h with
  | createProject =>
    exact { hdb with
      projects := List.forall_mem_append.2 ⟨hdb.projects, List.forall_mem_singleton.2 hop⟩ }
  | createIssue hproject hissue =>
    subst hissue
    exact { hdb with
      projects := forall_mem_map_ite hdb.projects fun _ hp => ⟨hp.name, hp.issuePrefix⟩
      issues := List.forall_mem_append.2 ⟨hdb.issues, List.forall_mem_singleton.2 hop⟩ }
  | addStep hname hproject hstep =>
    subst hstep
    have hnew := Text.isTidy_trim hname
    exact { hdb with
      steps := List.forall_mem_append.2 ⟨hdb.steps, List.forall_mem_singleton.2 ⟨hnew, hop⟩⟩ }
  | restaffStep =>
    exact { hdb with steps := forall_mem_map_ite hdb.steps fun _ hstep => ⟨hstep.name, hop⟩ }
  | recordGate hissue hgate =>
    subst hgate
    -- Whether the row is inserted or written over, its error is the one that comes in.
    exact { hdb with cursors := tidy_cursorsWith hdb.cursors hop fun _ _ => hop }
  | resetPipeline =>
    exact { hdb with cursors := forall_mem_map_ite hdb.cursors fun _ herror => herror }
  | complete hissue hplan => exact tidy_transitioned hdb (isTidy_of_planCompletion hplan _)
  | reject hreason hissue hplan =>
    have htidy := Text.isTidyOption_nonBlank _ _ hreason
    exact tidy_transitioned hdb (isTidy_of_planRejection htidy hplan _)

end Database

end ReviewPipeline
