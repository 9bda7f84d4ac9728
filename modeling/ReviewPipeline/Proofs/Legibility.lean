import ReviewPipeline.Proofs.Register

/-!
# What Was Written Can Be Read

A reader refuses a row that holds what it does not know: a word outside its vocabulary, or a number
of a project outside 32 bits. Operations write known words only, so after any run of them, single
writes and batches included, everything but a project is read as it is stored. The number of a
project's next issue is counted up without a look at its size, and so there is one way to make a row
that cannot be read any more: to create an issue under the greatest number that fits.

## Main definitions

* `Database.Legible`: everything but the projects is read as it is stored;
* `Operation.StartsInRange`: an operation that enters a project starts its count in 32 bits;
* `IsCountedOut`: the number of a project's next issue is the first that does not fit any more;
* `Database.CountsOut`: an operation creates an issue of a project under the last number that fits.

## Main results

* `Database.legible_of_run`: after a run, readers answer what is stored, but for the projects that
  were counted out, and these are the ones of which the run created the last issue.
-/

namespace ReviewPipeline

/-- An operation that enters a project starts the count of its issues at a number of 32 bits. -/
def Operation.StartsInRange : Operation → Prop
  | .createProject p => Database.fitsInt32 p.nextIssueNumber = true
  | _ => True

/-- The number of the next issue is the first one past 32 bits. -/
def Project.IsCountedOut (p : Project) : Prop :=
  p.nextIssueNumber = 2147483648

instance : DecidablePred Project.IsCountedOut := fun p =>
  inferInstanceAs (Decidable (p.nextIssueNumber = 2147483648))

namespace Database

variable {db db' : Database} {author : Author} {op : Operation} {reply : Reply} {p q : Project}
  {id : String} {calls : List (Author × Operation)}

/-- Everything but the projects is read as it is stored. -/
structure Legible (db : Database) : Prop where
  /-- A step is found by its identifier. -/
  steps : ∀ row ∈ db.steps, db.step? row.record.id = .ok (some row.record)
  /-- A look-up of a step answers. -/
  step : ∀ id, ∃ answer, db.step? id = .ok answer
  /-- The catalog of a project holds its steps. -/
  catalog : ∀ projectId, db.catalog projectId = .ok (db.storedCatalog projectId)
  /-- An issue is found by its full identifier. -/
  issues : ∀ row ∈ db.issues, db.issue? row.record.id = .ok (some row.record)
  /-- A look-up of an issue answers, or finds two with the short identifier. -/
  issue : ∀ id, (∃ answer, db.issue? id = .ok answer) ∨ db.issue? id = .error (.ambiguousShortId id)
  /-- The issues of a project are listed. -/
  listIssues : ∀ projectId status limit, ∃ answer, db.listIssues projectId status limit = .ok answer
  /-- The cursor of an issue is the stored one. -/
  cursor : ∀ issueId, db.cursor? issueId = .ok (db.storedCursor? issueId)
  /-- No event is passed over. -/
  events : ∀ row ∈ db.events, knownEvent? row = some row.record

/-- The projects of a workspace, or of all, the last changed first, at most `limit` of them. -/
def newestProjects (db : Database) (workspace : Option String) (limit : Nat) : List Project :=
  ((db.projects.filter fun p => workspace.all (p.workspaceId == ·)).mergeSort
    fun a b => decide (b.updatedAt ≤ a.updatedAt)).take limit

/-- Projects are read as they are stored, but for those that were counted out: the reader fails on
each of these, alone and in a list, and on no others. -/
structure ReadsProjects (db : Database) : Prop where
  /-- A project is read iff it was not counted out. -/
  project : ∀ p ∈ db.projects, db.project? p.id =
    if p.IsCountedOut then .error (.database (.outOfRange 5 2147483648)) else .ok (some p)
  /-- A project that is not there is not found. -/
  none : ∀ id, (∀ p ∈ db.projects, p.id ≠ id) → db.project? id = .ok none
  /-- Projects are listed iff none of those on the list was counted out. -/
  list : ∀ workspace limit, db.listProjects workspace limit =
    if ∃ p ∈ db.newestProjects workspace limit, p.IsCountedOut then
      .error (.database (.outOfRange 5 2147483648))
    else .ok (db.newestProjects workspace limit)

/-- An operation creates an issue of a project, under the last number that fits into 32 bits. -/
def CountsOut (id : String) (db : Database) (author : Author) (op : Operation) : Prop :=
  ∃ title description p r, op = .createIssue id title description ∧ db.project id = .ok p ∧
    p.nextIssueNumber = 2147483647 ∧ db.perform author op = .ok r

/-- The words are known, and numbers of projects are at most one too great. -/
structure InRange (db : Database) : Prop extends Consistent db where
  /-- The number of a project's next issue fits, or it is the first that does not. -/
  numbers : ∀ p ∈ db.projects, fitsInt32 p.nextIssueNumber = true ∨ p.IsCountedOut
  /-- The kinds of events are known ones. -/
  eventWords : ∀ row ∈ db.events, row.foreign = none

/-! ### Reading -/

/-- The numbers that fit are those from -2³¹ to 2³¹ - 1. -/
theorem fitsInt32_iff {n : Int} : fitsInt32 n = true ↔ -2147483648 ≤ n ∧ n ≤ 2147483647 := by
  simp [fitsInt32]

/-- A stored step is read back under its identifier. -/
theorem step?_of_mem (hdb : db.Consistent) {row : Row Step} (hrow : row ∈ db.steps) :
    db.step? row.record.id = .ok (some row.record) := by
  unfold step?
  cases hfind : db.steps.find? fun other => other.record.id == row.record.id with
  | none => exact absurd (beq_self_eq_true _) (List.find?_eq_none.1 hfind row hrow)
  | some other =>
    have hid : other.record.id = row.record.id := by simpa using List.find?_some hfind
    obtain rfl := List.inj_on_of_nodup_map hdb.stepIds (List.mem_of_find?_eq_some hfind) hrow hid
    simp [readStep, Row.read_eq_ok (hdb.stepWords other hrow), Except.map]

/-- Reading a step never fails. -/
theorem step?_eq_ok (hdb : db.Consistent) (id : String) : ∃ answer, db.step? id = .ok answer := by
  unfold step?
  cases hfind : db.steps.find? fun row => row.record.id == id with
  | none => exact ⟨none, rfl⟩
  | some row =>
    have hword := hdb.stepWords row (List.mem_of_find?_eq_some hfind)
    exact ⟨some row.record, by simp [readStep, Row.read_eq_ok hword, Except.map]⟩

/-- Reading an issue fails only by a short identifier that several have. -/
theorem issue?_eq_ok_or_ambiguous (hdb : db.Consistent) (id : String) :
    (∃ answer, db.issue? id = .ok answer) ∨ db.issue? id = .error (.ambiguousShortId id) := by
  rw [issue?_eq hdb]
  split
  · exact .inl ⟨_, rfl⟩
  · exact .inl ⟨_, rfl⟩
  · exact .inl ⟨_, rfl⟩
  · exact .inr rfl

/-- Listing issues never fails. -/
theorem listIssues_eq_ok (hdb : db.Consistent) (projectId : String) (status : Option WorkStatus)
    (limit : Nat) : ∃ answer, db.listIssues projectId status limit = .ok answer := by
  refine ⟨_, Row.mapM_read_eq_ok fun row hrow => hdb.issueWords row ?_⟩
  have hchosen := List.mem_of_mem_take hrow
  rw [List.mem_mergeSort] at hchosen
  exact List.mem_of_mem_filter hchosen

/-- A database whose counters are in range is legible. -/
theorem InRange.legible (h : db.InRange) : db.Legible where
  steps _ hrow := step?_of_mem h.toConsistent hrow
  step := step?_eq_ok h.toConsistent
  catalog _ := catalog_eq_ok h.toConsistent
  issues _ hrow := issue?_id h.toConsistent hrow
  issue := issue?_eq_ok_or_ambiguous h.toConsistent
  listIssues := listIssues_eq_ok h.toConsistent
  cursor _ := cursor?_eq_ok h.toConsistent
  events row hrow := by simp [knownEvent?, h.eventWords row hrow]

/-- What reading a project comes to: its counter fits, or it is the first that does not. -/
theorem readProject_eq (h : fitsInt32 p.nextIssueNumber = true ∨ p.IsCountedOut) :
    readProject p =
      if p.IsCountedOut then .error (.database (.outOfRange 5 2147483648)) else .ok p := by
  unfold readProject
  rcases h with hfits | hout
  · have hin : ¬ p.IsCountedOut := by
      intro hout
      rw [hout] at hfits
      cases hfits
    rw [if_pos hfits, if_neg hin]
  · rw [hout, if_pos hout]
    rfl

/-- Projects are read one by one, up to the first that cannot be read. -/
theorem mapM_readProject_eq {ps : List Project}
    (h : ∀ p ∈ ps, fitsInt32 p.nextIssueNumber = true ∨ p.IsCountedOut) :
    ps.mapM readProject =
      if ∃ p ∈ ps, p.IsCountedOut then .error (.database (.outOfRange 5 2147483648))
      else .ok ps := by
  -- All projects that cannot be read fail with the same error, so it does not matter which is
  -- first.
  induction ps with
  | nil => rfl
  | cons p ps ih =>
    obtain ⟨hp, hps⟩ := List.forall_mem_cons.1 h
    rw [List.mapM_cons, readProject_eq hp, ih hps]
    by_cases hout : p.IsCountedOut
    · have hsome : ∃ q ∈ p :: ps, q.IsCountedOut := ⟨p, List.mem_cons_self, hout⟩
      rw [if_pos hout, if_pos hsome]
      rfl
    · -- The rest decides, as this project can be read.
      have hiff : (∃ q ∈ p :: ps, q.IsCountedOut) ↔ ∃ q ∈ ps, q.IsCountedOut := by
        simp [hout]
      rw [if_neg hout]
      simp only [hiff]
      split <;> rfl

/-- With all counters in range, every project is read. -/
theorem InRange.readsProjects (h : db.InRange) : db.ReadsProjects where
  project p hp := by
    rw [project?_eq h.toConsistent hp, readProject_eq (h.numbers p hp)]
    split <;> rfl
  none _ hnone := project?_eq_none hnone
  list workspace limit := by
    refine mapM_readProject_eq fun p hp => h.numbers p ?_
    have hchosen := List.mem_of_mem_take hp
    rw [List.mem_mergeSort] at hchosen
    exact List.mem_of_mem_filter hchosen

/-! ### Counting -/

/-- A new database has its counters in range. -/
theorem inRange_create (now : Int) : (create now).InRange :=
  { (admitted_create now).toConsistent with
    numbers := by simp [create]
    eventWords := by simp [create] }

/-- An operation keeps the numbers of projects at most one too great. -/
theorem InRange.registered (h : db.InRange) (hentered : Registered db author op db')
    (hstarts : op.StartsInRange) (hdb : db'.Consistent) : db'.InRange where
  toConsistent := hdb
  numbers := by
    cases hentered with
    | project _ _ hsame =>
      rw [hsame.projects]
      exact List.forall_mem_append.2 ⟨h.numbers, List.forall_mem_singleton.2 (.inl hstarts)⟩
    | @issue _ _ _ p _ _ hproject _ _ _ hsame =>
      obtain ⟨hp, -, hfits⟩ := (project_eq_ok_iff h.toConsistent).1 hproject
      rw [hsame.projects]
      intro q hq
      rcases (mem_projectsCounted h.toConsistent hp).1 hq with ⟨hold, -⟩ | rfl
      · exact h.numbers q hold
      · -- The project could be read before, so its number is at most one too great now.
        rw [fitsInt32_iff] at hfits
        rw [fitsInt32_iff, Project.IsCountedOut, counted_nextIssueNumber]
        omega
    | neither _ hsame => exact hsame.projects ▸ h.numbers
  eventWords := by
    cases hentered with
    | project _ _ hsame | issue _ _ _ _ hsame | neither _ hsame =>
      exact hsame.eventWords h.eventWords

/-- A project is counted out once an issue is created under the last number, and stays so. -/
theorem countedOut_after (h : db.InRange) (hregular : op.isRegular = true)
    (hstarts : op.StartsInRange) (author : Author) (id : String) :
    (∃ p ∈ (db.after author op).projects, p.id = id ∧ p.IsCountedOut) ↔
      (∃ p ∈ db.projects, p.id = id ∧ p.IsCountedOut) ∨ CountsOut id db author op := by
  have hdb := h.toConsistent
  rcases registered_cases hdb hregular author with ⟨e, herror, hafter⟩ | ⟨reply, hdone, hentered⟩
  · have hnone : ¬ CountsOut id db author op := by
      -- What fails counts nobody out.
      rintro ⟨_, _, _, _, -, -, -, hok⟩
      cases herror.symm.trans hok
    simp [hafter, hnone]
  · cases hentered with
    | @project p _ _ _ hsame =>
      have hnone : ¬ CountsOut id db author (.createProject p) := by
        rintro ⟨_, _, _, _, hop, -⟩
        cases hop
      -- A project that starts in range is not counted out by being created.
      have hfits : ¬ p.IsCountedOut := by
        intro hout
        rw [Operation.StartsInRange, hout] at hstarts
        cases hstarts
      simp [hsame.projects, hnone, hfits, or_and_right, exists_or]
    | @issue projectId title description p _ _ hproject _ _ _ hsame =>
      obtain ⟨hp, rfl, hfits⟩ := (project_eq_ok_iff hdb).1 hproject
      simp only [hsame.projects, mem_projectsCounted hdb hp]
      constructor
      · rintro ⟨q, ⟨hq, -⟩ | rfl, rfl, hout⟩
        · exact .inl ⟨q, hq, rfl, hout⟩
        · -- It was this issue that took the counter past the last number.
          have hlast : p.nextIssueNumber = 2147483647 := by
            simp only [Project.IsCountedOut, counted_nextIssueNumber] at hout
            omega
          exact .inr ⟨_, _, _, _, rfl, hproject, hlast, hdone⟩
      · rintro (⟨q, hq, rfl, hout⟩ | ⟨_, _, q, _, hop, hread, hlast, -⟩)
        · -- It is another project, for this one can still be read.
          refine ⟨q, .inl ⟨hq, fun hsame => ?_⟩, rfl, hout⟩
          obtain rfl := List.inj_on_of_nodup_map hdb.projectIds hq hp hsame
          rw [hout] at hfits
          cases hfits
        · cases hop
          obtain rfl : p = q := Except.ok.inj (hproject.symm.trans hread)
          refine ⟨_, .inr rfl, rfl, ?_⟩
          simp [Project.IsCountedOut, hlast]
    | neither hop hsame =>
      have hnone : ¬ CountsOut id db author op := by
        rintro ⟨_, _, _, _, rfl, -⟩
        cases hop
      simp [hsame.projects, hnone]

/-- A regular operation leaves the counters in range, if those of projects it creates are. -/
theorem InRange.after (h : db.InRange) (hregular : op.isRegular = true)
    (hstarts : op.StartsInRange) (author : Author) : (db.after author op).InRange := by
  have hafter := consistent_after_of_regular h.toConsistent hregular author
  rcases registered_cases h.toConsistent hregular author with ⟨_, -, hsame⟩ | ⟨_, -, hentered⟩
  · rwa [hsame]
  · exact h.registered hentered hstarts hafter

/-- After a run, a project is counted out iff the run created an issue of it under the last
number. -/
theorem countedOut_run (h : db.InRange)
    (hcalls : ∀ call ∈ calls, call.2.isRegular = true ∧ call.2.StartsInRange) (id : String) :
    (db.run calls).2.InRange ∧
      ((∃ p ∈ (db.run calls).2.projects, p.id = id ∧ p.IsCountedOut) ↔
        (∃ p ∈ db.projects, p.id = id ∧ p.IsCountedOut) ∨
          ¬ Along (fun db author op => ¬ CountsOut id db author op) db calls) := by
  -- Whether a call counts a project out depends on the database it meets, so the last call is split
  -- off.
  induction calls using List.reverseRecOn with
  | nil => simp [run, Along, h]
  | append_singleton calls call ih =>
    obtain ⟨hbefore, hlast⟩ := List.forall_mem_append.1 hcalls
    obtain ⟨hregular, hstarts⟩ := hlast call (List.mem_singleton_self call)
    obtain ⟨hrange, hout⟩ := ih hbefore
    obtain ⟨author, op⟩ := call
    rw [run_concat]
    refine ⟨hrange.after hregular hstarts author, ?_⟩
    rw [along_concat, not_and_or, not_not, ← or_assoc, ← hout]
    exact countedOut_after hrange hregular hstarts author id

/-- After any run from a new database of operations that are no direct changes of tables, everything
that was written can be read, but for projects that were counted out; and a project is counted out
iff at some moment of the run an issue of it was created under the last number that fits. -/
theorem legible_of_run (created : Int) (calls : List (Author × Operation))
    (hcalls : ∀ call ∈ calls, call.2.isRegular = true ∧ call.2.StartsInRange) :
    ((create created).run calls).2.Legible ∧ ((create created).run calls).2.ReadsProjects ∧
      ∀ id, (∃ p ∈ ((create created).run calls).2.projects, p.id = id ∧ p.IsCountedOut) ↔
        ¬ Along (fun db author op => ¬ CountsOut id db author op) (create created) calls := by
  have hrun := countedOut_run (inRange_create created) hcalls
  have hrange : ((create created).run calls).2.InRange := (hrun "").1
  refine ⟨hrange.legible, hrange.readsProjects, fun id => ?_⟩
  rw [(hrun id).2]
  simp [create]

/-- A project whose next number is the last that fits, and an issue of it. -/
def lastNumberRun : List (Author × Operation) :=
  let author (n : Nat) : Author := ⟨"tester", ⟨1700000000000 + 1000 * n, n⟩⟩
  [ (author 1, .createProject
      { Project.create (author 1).stamp "Docs" "ws" with nextIssueNumber := 2147483647 }),
    (author 2, .createIssue "proj_00000001-400" "last" none) ]

/-- Both operations of this run succeed, and then the project cannot be read. -/
theorem not_readable_lastNumberRun :
    (∀ call ∈ lastNumberRun, call.2.isRegular = true ∧ call.2.StartsInRange) ∧
      (((create 1700000000000).run lastNumberRun).1.all fun answer => answer.isOk) = true ∧
      ((create 1700000000000).run lastNumberRun).2.project? "proj_00000001-400" =
        .error (.database (.outOfRange 5 2147483648)) := by
  refine ⟨?_, by decide +kernel, by decide +kernel⟩
  simp [lastNumberRun, Operation.isRegular, Operation.StartsInRange, fitsInt32]

/-- All of this run but the project can be read. -/
theorem legible_lastNumberRun :
    (∀ call ∈ lastNumberRun, call.2.isRegular = true ∧ call.2.StartsInRange) ∧
      ((create 1700000000000).run lastNumberRun).2.Legible ∧
      ((create 1700000000000).run lastNumberRun).2.ReadsProjects ∧
      ¬ Along (fun db author op => ¬ CountsOut "proj_00000001-400" db author op)
        (create 1700000000000) lastNumberRun := by
  have hcalls : ∀ call ∈ lastNumberRun, call.2.isRegular = true ∧ call.2.StartsInRange := by
    simp [lastNumberRun, Operation.isRegular, Operation.StartsInRange, fitsInt32]
  obtain ⟨hlegible, hprojects, hout⟩ := legible_of_run 1700000000000 lastNumberRun hcalls
  exact ⟨hcalls, hlegible, hprojects, (hout "proj_00000001-400").1 (by decide +kernel)⟩

end Database

end ReviewPipeline
