import ReviewPipeline.Proofs.References

/-!
# History Is Append-Only

Whatever is done to a database, operations of all kinds and direct changes to its tables alike, a
ledger entry that is there stays there as it is, and so do its issue and the project of that issue.
Removing them is refused as a whole: no part of what would have gone with them is gone.

## Main definitions

* `Deed`, `Database.afterDeeds`: what is done to a database, and what comes of it;
* `AppendOnly`: between two moments history has only grown;
* `Guarded`: what history refers to cannot be removed.

## Main results

* `history_append_only`: both hold at all moments of every run.
-/

namespace ReviewPipeline

/-- Something that is done to a database: an operation, or a removal of rows by a condition. -/
inductive Deed where
  /-- An operation, which may be a direct change to a table. -/
  | call (author : Author) (op : Operation)
  /-- A removal of all rows that satisfy a condition, or a change of ledger entries that do. -/
  | strike (strike : Strike)

namespace Database

variable {db db' : Database} {author : Author} {op : Operation}

/-- Carry out a deed. -/
def carryOut (db : Database) : Deed → Except Error Database
  | .call author op => (db.perform author op).map (·.2)
  | .strike strike => db.strike strike

/-- The database after a deed, which is the same database if the deed fails. -/
def afterDeed (db : Database) (deed : Deed) : Database :=
  match db.carryOut deed with
  | .ok db => db
  | .error _ => db

/-- The database after deeds, one after the other. -/
def afterDeeds (db : Database) (deeds : List Deed) : Database :=
  deeds.foldl afterDeed db

/-! ### What one deed keeps -/

/-- Applying the schema leaves the issues and the ledger as they are. -/
theorem skeleton_applySchema {now : Int} (h : db.applySchema now = .ok db') :
    db'.skeleton = db.skeleton := by
  obtain ⟨-, rfl⟩ := applySchema_eq_ok_iff.1 h
  rfl

/-- An operation keeps references and the order of the ledger, and the ledger only grows. -/
theorem grows_after (hdb : db.skeleton.Rooted) (author : Author) (op : Operation) :
    (db.after author op).skeleton.Rooted ∧ db.skeleton.Extends (db.after author op).skeleton := by
  -- A single write is a step, and what is no single write is a chain of statements.
  have hstep : db.skeleton.Step (db.after author op).skeleton →
      (db.after author op).skeleton.Rooted ∧
        db.skeleton.Extends (db.after author op).skeleton :=
    fun hstep => ⟨hstep.rooted hdb, hstep.extends⟩
  by_cases hschema : op = .applySchema
  · subst hschema
    refine hstep ?_
    rw [after, perform]
    cases happly : db.applySchema author.stamp.now with
    | error e => exact .same
    | ok db' => exact step_of_skeleton_eq (skeleton_applySchema happly)
  by_cases hraw : ∃ w, op = .raw w
  · obtain ⟨w, rfl⟩ := hraw
    refine hstep ?_
    rw [after, perform]
    cases hwrite : db.rawWrite w with
    | error e => exact .same
    | ok r => exact step_of_rawWrite hdb hwrite
  · exact grows_of_chain (chain_after hschema fun w hop => hraw ⟨w, hop⟩) hdb

/-- The deed of a call is the call. -/
theorem afterDeed_call : db.afterDeed (.call author op) = db.after author op := by
  rw [afterDeed, carryOut, after]
  cases db.perform author op <;> rfl

/-- A single deed only extends the ledger. -/
theorem grows_afterDeed (hdb : db.skeleton.Rooted) (deed : Deed) :
    (db.afterDeed deed).skeleton.Rooted ∧ db.skeleton.Extends (db.afterDeed deed).skeleton := by
  cases deed with
  | call author op =>
    rw [afterDeed_call]
    exact grows_after hdb author op
  | strike strike =>
    rw [afterDeed, carryOut]
    cases hstrike : db.strike strike with
    | error e => exact ⟨hdb, .refl _⟩
    | ok db' =>
      have hstep := step_of_strike hdb hstrike
      exact ⟨hstep.rooted hdb, hstep.extends⟩

/-- A run of deeds keeps references and the order of the ledger, and the ledger only grows. -/
theorem grows_afterDeeds (hdb : db.skeleton.Rooted) (deeds : List Deed) :
    (db.afterDeeds deeds).skeleton.Rooted ∧
      db.skeleton.Extends (db.afterDeeds deeds).skeleton := by
  -- References are part of the invariant: without them a deletion could take entries along.
  induction deeds generalizing db with
  | nil => exact ⟨hdb, .refl _⟩
  | cons deed deeds ih =>
    obtain ⟨hnext, hextends⟩ := grows_afterDeed hdb deed
    obtain ⟨hlast, hmore⟩ := ih hnext
    exact ⟨hlast, hextends.trans hmore⟩

/-! ### What that says about histories -/

/-- Between two moments the history of every issue has only grown. -/
structure AppendOnly (db db' : Database) : Prop where
  /-- No entry was removed or changed, and new ones stand after the old ones. -/
  ledger : db.ledger <+: db'.ledger
  /-- The same holds of the history of each issue, and new entries have greater numbers. -/
  history : ∀ issueId, ∃ added, db'.history issueId = db.history issueId ++ added ∧
    ∀ new ∈ added, ∀ old ∈ db.ledger, old.seq < new.seq
  /-- The issue of every entry was there and is there still, in the same project, which was there
  and is there still. -/
  present : ∀ entry ∈ db.ledger, ∃ row ∈ db.issues, ∃ row' ∈ db'.issues,
    row.record.id = entry.issueId ∧ row'.record.id = entry.issueId ∧
      row'.record.projectId = row.record.projectId ∧
      db.hasProject row.record.projectId = true ∧ db'.hasProject row.record.projectId = true

/-- A ledger that is extended keeps its history. -/
theorem appendOnly_of_extends (hdb : db.skeleton.Rooted) (hdb' : db'.skeleton.Rooted)
    (h : db.skeleton.Extends db'.skeleton) : AppendOnly db db' := by
  refine ⟨h.ledger, fun issueId => ?_, fun entry hentry => ?_⟩
  · obtain ⟨added, hledger⟩ : ∃ added, db.ledger ++ added = db'.ledger := h.ledger
    refine ⟨added.filter fun entry => entry.issueId == issueId, ?_, ?_⟩
    · rw [history, history, ← hledger, List.filter_append]
    · intro new hnew old hold
      have hsorted : (db.ledger ++ added).Pairwise (·.seq < ·.seq) := hledger ▸ hdb'.sorted
      exact (List.pairwise_append.1 hsorted).2.2 old hold new (List.mem_of_mem_filter hnew)
  · obtain ⟨projectId, hissue⟩ := hdb.entries entry hentry
    -- Both databases hold the key of the issue, and each is rooted.
    have hissue' := h.issues _ hissue ⟨entry, hentry, rfl⟩
    have hproject := mem_skeleton_projects.1 (hdb.issues _ hissue)
    have hproject' := mem_skeleton_projects.1 (hdb'.issues _ hissue')
    obtain ⟨row, hrow, hkey⟩ := List.mem_map.1 hissue
    obtain ⟨row', hrow', hkey'⟩ := List.mem_map.1 hissue'
    obtain ⟨hid, rfl⟩ := Prod.mk.inj hkey
    obtain ⟨hid', hsame⟩ := Prod.mk.inj hkey'
    exact ⟨row, hrow, row', hrow', hid, hid', hsame, hproject, hproject'⟩

/-- A deed fails with an error and changes nothing at all. -/
def Refuses (db : Database) (deed : Deed) (e : Error) : Prop :=
  db.carryOut deed = .error e ∧ db.afterDeed deed = db

/-- A deed that fails is refused. -/
theorem refuses_of_carryOut {deed : Deed} {e : Error} (h : db.carryOut deed = .error e) :
    db.Refuses deed e :=
  ⟨h, by rw [afterDeed, h]⟩

/-- A direct write that fails is refused. -/
theorem refuses_raw {w : RawWrite} {e : Error} (h : (db.rawWrite w).map (·.2) = .error e)
    (author : Author) : db.Refuses (.call author (.raw w)) e := by
  refine refuses_of_carryOut ?_
  rw [carryOut, perform]
  rw [map_eq_error_iff.1 h]
  rfl

/-- What history refers to cannot be removed, nor can history be changed. -/
structure Guarded (db : Database) : Prop where
  /-- Issues are not removed if one of them has history. -/
  issues : ∀ (p : Issue → Bool), ∀ row ∈ db.issues, p row.record = true →
    db.hasHistory row.record.id = true →
    db.Refuses (.strike (.issues p)) (.database .missingReference)
  /-- Projects are not removed if an issue of one of them has history. -/
  projects : ∀ (p : Project → Bool), ∀ q ∈ db.projects, p q = true →
    ∀ row ∈ db.issues, row.record.projectId = q.id → db.hasHistory row.record.id = true →
    db.Refuses (.strike (.projects p)) (.database .missingReference)
  /-- Ledger entries are neither removed nor changed. -/
  entries : ∀ (p : LedgerEntry → Bool) (f : LedgerEntry → LedgerEntry), ∀ entry ∈ db.ledger,
    p entry = true →
    db.Refuses (.strike (.entries p)) (.database .appendOnly) ∧
      db.Refuses (.strike (.rewrite p f)) (.database .appendOnly)
  /-- The same by name: an issue with history. -/
  issue : ∀ author id, db.hasHistory id = true →
    db.Refuses (.call author (.raw (.deleteIssue id))) (.database .missingReference)
  /-- A project with such an issue. -/
  project : ∀ author, ∀ row ∈ db.issues, db.hasHistory row.record.id = true →
    db.Refuses (.call author (.raw (.deleteProject row.record.projectId)))
      (.database .missingReference)
  /-- The entries of an issue. -/
  history : ∀ author id, db.hasHistory id = true →
    db.Refuses (.call author (.raw (.deleteHistory id))) (.database .appendOnly) ∧
      db.Refuses (.call author (.raw (.updateHistory id))) (.database .appendOnly)

/-- The rows of a rooted database are guarded by the foreign keys. -/
theorem guarded_of_rooted (hdb : db.skeleton.Rooted) : db.Guarded := by
  constructor
  · intro p row hrow hp hhistory
    exact refuses_of_carryOut (removeIssues_eq_error hrow hp hhistory)
  · intro p q hq hp row hrow hproject hhistory
    exact refuses_of_carryOut (strike_projects_eq_error hq hp hrow hproject hhistory)
  · intro p f entry hentry hp
    obtain ⟨hremove, hchange⟩ := strike_entries_eq_error hentry hp f
    exact ⟨refuses_of_carryOut hremove, refuses_of_carryOut hchange⟩
  · intro author id hhistory
    obtain ⟨entry, hentry, rfl⟩ := hasHistory_iff.1 hhistory
    -- An issue with history is there, so there is a row to be refused.
    obtain ⟨projectId, hissue⟩ := hdb.entries entry hentry
    obtain ⟨row, hrow, hkey⟩ := List.mem_map.1 hissue
    have hid : row.record.id = entry.issueId := congrArg Prod.fst hkey
    refine refuses_raw (rawWrite_deleteIssue.trans ?_) author
    exact removeIssues_eq_error (p := fun issue => issue.id == entry.issueId) hrow
      (beq_iff_eq.2 hid) (hid ▸ hhistory)
  · intro author row hrow hhistory
    -- The issue belongs to a project, which is the one to be removed.
    have hproject := mem_skeleton_projects.1 (hdb.issues _ (List.mem_map_of_mem hrow))
    obtain ⟨q, hq, hid⟩ := List.any_eq_true.1 hproject
    refine refuses_raw ((rawWrite_deleteProject hdb).trans ?_) author
    exact strike_projects_eq_error hq hid hrow (beq_iff_eq.1 hid).symm hhistory
  · intro author id hhistory
    obtain ⟨entry, hentry, hid⟩ := hasHistory_iff.1 hhistory
    have hrefused := strike_entries_eq_error (p := fun entry => entry.issueId == id) hentry
      (beq_iff_eq.2 hid) fun entry => entry
    have htouch : (db.touchHistory id).map (·.2) = .error (.database .appendOnly) :=
      rawWrite_touchHistory.trans hrefused.1
    exact ⟨refuses_raw (w := .deleteHistory id) htouch author,
      refuses_raw (w := .updateHistory id) htouch author⟩

/-! ### At all moments of a run -/

/-- From every moment of a run of operations, direct changes and removals to every later one,
history has only grown, and at every moment what it refers to is guarded. -/
theorem history_append_only (now : Int) (deeds more : List Deed) :
    AppendOnly ((create now).afterDeeds deeds) (((create now).afterDeeds deeds).afterDeeds more) ∧
      ((create now).afterDeeds deeds).Guarded := by
  obtain ⟨hdb, -⟩ := grows_afterDeeds (rooted_create now) deeds
  obtain ⟨hdb', hextends⟩ := grows_afterDeeds hdb more
  exact ⟨appendOnly_of_extends hdb hdb' hextends, guarded_of_rooted hdb⟩

/-- A run to try the statement on: an issue gets an entry in the ledger, next to an issue that does
not. -/
def ledgerRun : List Deed :=
  let author (n : Nat) : Author := ⟨"ada", ⟨n, n⟩⟩
  [ .call (author 1) (.createProject ⟨"docs", "Docs", "home", none, some "DOCS", 1, 1, 1⟩),
    .call (author 2) (.createIssue "docs" "first" none),
    .call (author 3) (.createIssue "docs" "second" none),
    .call (author 4) (.write (.appendEntry
      ⟨"entry", "issue_00000002-400", "draft", none, 4, .completed, none⟩)) ]

/-- Deeds to go on with: the first issue gets another entry, its history and all issues are to be
removed, which is refused, and the second issue is removed. -/
def laterRun : List Deed :=
  let author (n : Nat) : Author := ⟨"bob", ⟨n, n⟩⟩
  [ .call (author 5) (.write (.appendEntry
      ⟨"another", "issue_00000002-400", "draft", none, 5, .rejected, some "again"⟩)),
    .call (author 6) (.raw (.deleteHistory "issue_00000002-400")),
    .strike (.issues fun _ => true),
    .strike (.issues (·.title == "second")) ]

/-- After the sample run the project stays, whoever removes it, and so does its first issue, while
the second one can be removed. The later deeds add an entry behind the one that is there, and change
nothing else about history. -/
theorem history_append_only_ledgerRun :
    let db := (create 0).afterDeeds ledgerRun
    let ids := db.issues.map (·.record.id)
    let author : Author := ⟨"bob", ⟨9, 9⟩⟩
    ids.map db.hasHistory = [true, false] ∧
      db.Refuses (.call author (.raw (.deleteProject "docs"))) (.database .missingReference) ∧
      db.Refuses (.strike (.issues fun _ => true)) (.database .missingReference) ∧
      (db.afterDeed (.strike (.issues (·.title == "second")))).issues.length = 1 ∧
      AppendOnly db (db.afterDeeds laterRun) ∧
      (db.afterDeeds laterRun).issues.map (·.record.id) = ["issue_00000002-400"] ∧
      db.ledger.map (·.id) = ["entry"] ∧
      (db.afterDeeds laterRun).ledger.map (·.id) = ["entry", "another"] := by
  intro db ids author
  obtain ⟨hgrown, hguarded⟩ := history_append_only 0 ledgerRun laterRun
  let row : Row Issue :=
    { record := ⟨"issue_00000002-400", some "DOCS-1", "docs", "first", none, .todo, 2, 2⟩ }
  have hrow : row ∈ db.issues := by decide +kernel
  have hhistory : db.hasHistory row.record.id = true := by decide +kernel
  exact ⟨by decide +kernel, hguarded.project author row hrow hhistory,
    hguarded.issues _ row hrow rfl hhistory, by decide +kernel, hgrown, by decide +kernel,
    by decide +kernel, by decide +kernel⟩

end Database

end ReviewPipeline
