import ReviewPipeline.Database.Basic

/-!
# Reading the Database

Look-ups and lists over the tables. Reading fails where a row holds what its reader does not
know: a foreign word, or an issue number outside 32 bits.
-/

namespace ReviewPipeline.Database

/-! ## Projects -/

/-- Whether a number fits into a signed 32-bit integer. -/
def fitsInt32 (n : Int) : Bool :=
  -2147483648 ≤ n && n ≤ 2147483647

/-- Whether a number fits into a signed 64-bit integer. -/
def fitsInt64 (n : Int) : Bool :=
  -9223372036854775808 ≤ n && n ≤ 9223372036854775807

/-- Read a project; its issue number has to fit into 32 bits. -/
def readProject (p : Project) : Except Error Project :=
  if fitsInt32 p.nextIssueNumber then .ok p
  else .error (.database (.outOfRange 5 p.nextIssueNumber))

/-- The project with this identifier, if there is one. -/
def project? (db : Database) (id : String) : Except Error (Option Project) :=
  match db.projects.find? fun p => p.id == id with
  | none => .ok none
  | some p => (readProject p).map some

/-- The project with this identifier; it is an error if there is none. -/
def project (db : Database) (id : String) : Except Error Project :=
  match db.project? id with
  | .error e => .error e
  | .ok none => .error (.projectNotFound id)
  | .ok (some p) => .ok p

/-- The projects of a workspace, or of all, the last changed first, at most `limit` of them. -/
def listProjects (db : Database) (workspace : Option String) (limit : Nat) :
    Except Error (List Project) :=
  let chosen := db.projects.filter fun p => workspace.all (p.workspaceId == ·)
  let newestFirst := chosen.mergeSort fun a b => decide (b.updatedAt ≤ a.updatedAt)
  (newestFirst.take limit).mapM readProject

/-- The project whose issues are numbered under this prefix. -/
def prefixOwner? (db : Database) (issuePrefix : String) : Option String :=
  (db.projects.find? fun p => p.issuePrefix == some issuePrefix).map (·.id)

/-- The prefixes to try for a base, from the `n`-th on: the base itself, then the base with 2, 3,
and so on. -/
def prefixCandidate (base : String) (n : Nat) : String :=
  if n = 0 then base else base ++ Text.showNat (n + 1)

/-- The first candidate from the `n`-th on that no project owns, among the next `tries`. -/
def firstFreePrefix (db : Database) (base : String) : (tries n : Nat) → String
  | 0, n => prefixCandidate base n
  | tries + 1, n =>
    if (db.prefixOwner? (prefixCandidate base n)).isNone then prefixCandidate base n
    else firstFreePrefix db base tries (n + 1)

/-- The first prefix made from a base that no project owns. There are more candidates than
projects, so one of the first is free. -/
def freePrefix (db : Database) (base : String) : String :=
  firstFreePrefix db base db.projects.length 0

/-! ## Issues -/

/-- Read an issue. -/
def readIssue (row : Row Issue) : Except Error Issue := row.read 5

/-- The issues that have this short identifier. -/
def withShortId (db : Database) (shortId : String) : List (Row Issue) :=
  db.issues.filter fun row => row.record.shortId == some shortId

/-- The issue with this full identifier or, failing that, with this short identifier. -/
def issue? (db : Database) (id : String) : Except Error (Option Issue) :=
  match db.issues.find? fun row => row.record.id == id with
  | some row => (readIssue row).map some
  | none =>
    match ((db.withShortId id).take 2).mapM readIssue with
    | .error e => .error e
    | .ok [] => .ok none
    | .ok [issue] => .ok (some issue)
    | .ok _ => .error (.ambiguousShortId id)

/-- The issue that an identifier names; it is an error if there is none. -/
def issue (db : Database) (id : String) : Except Error Issue :=
  match db.issue? id with
  | .error e => .error e
  | .ok none => .error (.issueNotFound id)
  | .ok (some issue) => .ok issue

/-- Whether a row belongs to a project and, if one is asked for, has a work status. -/
def isListed (projectId : String) (status : Option WorkStatus) (row : Row Issue) : Bool :=
  row.record.projectId == projectId
    && status.all fun s => row.foreign.isNone && row.record.workStatus == s

/-- The issues of a project, the oldest first, at most `limit` of them. -/
def listIssues (db : Database) (projectId : String) (status : Option WorkStatus)
    (limit : Nat) : Except Error (List Issue) :=
  let chosen := db.issues.filter (isListed projectId status)
  let oldestFirst := chosen.mergeSort fun a b => decide (a.record.createdAt ≤ b.record.createdAt)
  (oldestFirst.take limit).mapM readIssue

/-- All short identifiers of issues. -/
def shortIds (db : Database) : List String :=
  db.issues.filterMap (·.record.shortId)

/-! ## Steps -/

/-- Read a step. -/
def readStep (row : Row Step) : Except Error Step := row.read 4

/-- The step with this identifier, if there is one. -/
def step? (db : Database) (id : String) : Except Error (Option Step) :=
  match db.steps.find? fun row => row.record.id == id with
  | none => .ok none
  | some row => (readStep row).map some

/-- The step with this identifier; it is an error if there is none. -/
def step (db : Database) (id : String) : Except Error Step :=
  match db.step? id with
  | .error e => .error e
  | .ok none => .error (.stepNotFound id)
  | .ok (some step) => .ok step

/-- The rows of a project's steps, in the order of their numbers. -/
def catalogRows (db : Database) (projectId : String) : List (Row Step) :=
  (db.steps.filter fun row => row.record.projectId == projectId).mergeSort
    fun a b => decide (a.record.number ≤ b.record.number)

/-- The catalog of a project: its steps in the order of their numbers. -/
def catalog (db : Database) (projectId : String) : Except Error (List Step) :=
  (db.catalogRows projectId).mapM readStep

/-! ## Cursors, ledger and audit log -/

/-- Read a cursor. -/
def readCursor (row : Row Cursor) : Except Error Cursor := row.read 5

/-- The cursor of an issue, if it has one. -/
def cursor? (db : Database) (issueId : String) : Except Error (Option Cursor) :=
  match db.cursors.find? fun row => row.record.issueId == issueId with
  | none => .ok none
  | some row => (readCursor row).map some

/-- The cursor of an issue; an issue without one was never started. -/
def cursorOrFresh (db : Database) (issue : Issue) (now : Int) : Except Error Cursor :=
  (db.cursor? issue.id).map fun cursor =>
    cursor.getD (Cursor.notStarted issue.id issue.projectId now)

/-- The ledger entries of an issue, in the order in which they were written. -/
def history (db : Database) (issueId : String) : List LedgerEntry :=
  db.ledger.filter fun entry => entry.issueId == issueId

/-- Whether one event comes no later than another in a list with the newest first. -/
def isNoOlder (a b : Row Event) : Bool :=
  b.record.createdAt < a.record.createdAt
    || (a.record.createdAt == b.record.createdAt && decide (b.record.id ≤ a.record.id))

/-- The event of a row, unless a foreign word stands in it. -/
def knownEvent? (row : Row Event) : Option Event :=
  if row.foreign.isNone then some row.record else none

/-- The newest `limit` events about an entity, without those of a foreign kind among them. -/
def listEvents (db : Database) (entityType entityId : String) (limit : Nat) : List Event :=
  let chosen := db.events.filter fun row =>
    row.record.entityType == entityType && row.record.entityId == entityId
  ((chosen.mergeSort isNoOlder).take limit).filterMap knownEvent?

/-- How many events are listed where no number is asked for. -/
def defaultEventLimit : Nat := 100

/-- The newest events about an entity, as many as asked for. -/
def recentEvents (db : Database) (entityType entityId : String) (limit : Option Nat) :
    List Event :=
  db.listEvents entityType entityId (limit.getD defaultEventLimit)

end ReviewPipeline.Database
