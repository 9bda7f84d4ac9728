import ReviewPipeline.Audit
import ReviewPipeline.Cursor
import ReviewPipeline.Error
import ReviewPipeline.Issue
import ReviewPipeline.Ledger
import ReviewPipeline.Project
import ReviewPipeline.Step

/-!
# The Database

A database is a value: one list of rows for each kind of record, in the order in which the rows
were inserted, and the counters that number the ledger and the audit log. A write is a function
from a database to a new one or an error, so a failed write cannot leave anything behind.

Most tables have one column whose text comes from a closed vocabulary. Such a column can hold a
foreign word, put there by other means than the operations of this library; reading the row then
fails, or, for an audit event, passes over it.
-/

namespace ReviewPipeline

/-- A stored record. -/
structure Row (α : Type) where
  /-- The record as it is read while no foreign word stands in it. -/
  record : α
  /-- The word that stands in the closed column, if it is none of its vocabulary. -/
  foreign : Option String := none
  deriving DecidableEq, Repr

namespace Row

variable {α : Type}

/-- Read a row; a foreign word is reported with the place of its column in the result. -/
def read (column : Nat) (row : Row α) : Except Error α :=
  match row.foreign with
  | none => .ok row.record
  | some word => .error (.database (.unknownWord column word))

/-- Change the record of a row. -/
def modify (row : Row α) (f : α → α) : Row α :=
  { row with record := f row.record }

end Row

/-- The kinds of writes that can be blocked. -/
inductive WriteKind where
  /-- A cursor is inserted, or written over in an attempt to insert it. -/
  | cursorPut
  /-- Cursors are cleared, whether there is one to be cleared or not. -/
  | cursorClear
  /-- An issue is changed. -/
  | issueUpdate
  /-- An issue is inserted. -/
  | issueInsert
  /-- A project is inserted. -/
  | projectInsert
  /-- A project is changed. -/
  | projectUpdate
  /-- A step is inserted. -/
  | stepInsert
  /-- A step is changed. -/
  | stepUpdate
  /-- A ledger entry is inserted. -/
  | ledgerInsert
  /-- An audit event is inserted. -/
  | eventInsert
  deriving DecidableEq, Repr

/-- A database. -/
structure Database where
  /-- The projects. -/
  projects : List Project := []
  /-- The issues; the closed column is the work status. -/
  issues : List (Row Issue) := []
  /-- The steps; the closed column is the kind. -/
  steps : List (Row Step) := []
  /-- The cursors, at most one for an issue; the closed column is the gate status. -/
  cursors : List (Row Cursor) := []
  /-- The ledger of transitions. -/
  ledger : List LedgerEntry := []
  /-- The audit log; the closed column is the kind of event. -/
  events : List (Row Event) := []
  /-- The number of the last ledger entry. -/
  lastSeq : Int := 0
  /-- The number of the last audit event. -/
  lastEventId : Int := 0
  /-- The versions of the schema that were applied, with the time of each. -/
  versions : List (String × Int) := []
  /-- Whether short identifiers of issues are kept unique. -/
  uniqueShortIds : Bool := false
  /-- The kind of write that currently fails. -/
  blocked : Option WriteKind := none
  deriving DecidableEq, Repr

namespace Database

/-- Refuse a kind of write that is blocked. -/
def permit (db : Database) (kind : WriteKind) : Except Error Unit :=
  if db.blocked = some kind then .error (.database .blocked) else .ok ()

/-- Refuse a write that would break a constraint. -/
def require (holds : Bool) (fault : Fault) : Except Error Unit :=
  if holds then .ok () else .error (.database fault)

/-- Whether the short identifiers of the issues are pairwise distinct. -/
def hasDistinctShortIds (db : Database) : Bool :=
  decide (db.issues.filterMap (·.record.shortId)).Nodup

end Database

end ReviewPipeline
