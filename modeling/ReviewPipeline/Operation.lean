import ReviewPipeline.Database.Raw
import ReviewPipeline.Database.Schema
import ReviewPipeline.Transitions

/-!
# Operations as Data

Everything that can be done to a database, as one type, with one function that does it. A run is
a list of operations, each with its author; a failed operation leaves the database as it was.
-/

namespace ReviewPipeline

/-- Something that can be done to a database. -/
inductive Operation where
  /-- Create a project. -/
  | createProject (project : Project)
  /-- Create an issue. -/
  | createIssue (projectId title : String) (description : Option String)
  /-- Add a step to a catalog. -/
  | addStep (new : Database.NewStep)
  /-- Assign a step to another agent, or to none. -/
  | restaffStep (stepId : String) (agent : Option String)
  /-- Record a signal of the context gate. -/
  | recordGate (issueId : String) (status : GateStatus) (error : Option String)
  /-- Clear an issue's place in its pipeline. -/
  | resetPipeline (issueId : String)
  /-- Complete the current step of an issue. -/
  | complete (issueId : String) (agent notes : Option String)
  /-- Reject the current step of an issue. -/
  | reject (issueId : String) (agent : Option String) (reason : String)
  /-- Carry out one write without a change of its own; a noted event is lost. -/
  | write (write : Database.SingleWrite)
  /-- Carry out several writes as one change. -/
  | batch (writes : List Database.SingleWrite) (failure : Option String)
  /-- Bring the database to the current schema. -/
  | applySchema
  /-- Change a table directly. -/
  | raw (write : RawWrite)
  deriving Repr

/-- What an operation answers. -/
inductive Reply where
  /-- Nothing but that it was done. -/
  | done
  /-- A project. -/
  | project (project : Project)
  /-- An issue. -/
  | issue (issue : Issue)
  /-- A step. -/
  | step (step : Step)
  /-- A cursor. -/
  | cursor (cursor : Cursor)
  /-- A completion. -/
  | completion (completion : Completion)
  /-- A rejection. -/
  | rejection (rejection : Rejection)
  /-- A ledger entry, if the write appended one. -/
  | entry (entry : Option LedgerEntry)
  /-- The ledger entries of a batch, write by write. -/
  | entries (entries : List (Option LedgerEntry))
  /-- How many rows were changed. -/
  | rows (count : Nat)
  deriving DecidableEq, Repr

namespace Database

/-- Turn the result of a specific operation into a reply. -/
def answer {α : Type} (reply : α → Reply) (result : Except Error (α × Database)) :
    Except Error (Reply × Database) :=
  result.map fun r => (reply r.1, r.2)

/-- Carry out an operation. -/
def perform (db : Database) (author : Author) : Operation → Except Error (Reply × Database)
  | .createProject p => answer (fun () => .project p) (db.createProject author p)
  | .createIssue projectId title description =>
    answer .issue (db.createIssue author projectId title description)
  | .addStep new => answer .step (db.addStep author new)
  | .restaffStep stepId agent => answer .step (db.restaffStep author stepId agent)
  | .recordGate issueId status error => answer .cursor (db.recordGate author issueId status error)
  | .resetPipeline issueId => answer (fun () => .done) (db.resetPipeline author issueId)
  | .complete issueId agent notes => answer .completion (db.complete author issueId agent notes)
  | .reject issueId agent reason => answer .rejection (db.reject author issueId agent reason)
  | .write write =>
    (db.singleWrite author.stamp.now write).map fun change => (.entry change.result, change.db)
  | .batch writes failure => answer .entries (db.batch author writes failure)
  | .applySchema => (db.applySchema author.stamp.now).map fun db => (.done, db)
  | .raw write => answer .rows (db.rawWrite write)

/-- The database after an operation, which is the same database if the operation fails. -/
def after (db : Database) (author : Author) (op : Operation) : Database :=
  match db.perform author op with
  | .ok (_, db) => db
  | .error _ => db

/-- The answers of a run, with the database after it. -/
def run (db : Database) : List (Author × Operation) → List (Except Error Reply) × Database
  | [] => ([], db)
  | (author, op) :: rest =>
    let (answers, final) := (db.after author op).run rest
    ((db.perform author op).map (·.1) :: answers, final)

end Database

end ReviewPipeline
