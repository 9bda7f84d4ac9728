import ReviewPipeline.Database.Basic

/-!
# Applying the Schema

Opening a database brings it to the current schema: short identifiers are unique from then on,
and the versions that were not applied yet are recorded with the time. A database that already is
at the current schema stays as it is.
-/

namespace ReviewPipeline.Database

/-- The number of the current schema. -/
def schemaVersion : Nat := 1

/-- The versions of the current schema, in the order in which they are applied. -/
def currentVersions : List String := ["001_history_no_delete", "v1"]

/-- Record a version as applied, unless it already is. -/
def recordVersion (now : Int) (versions : List (String × Int)) (version : String) :
    List (String × Int) :=
  if versions.any (·.1 == version) then versions else versions ++ [(version, now)]

/-- Bring a database to the current schema. It fails, and changes nothing, on a database in which
two issues share a short identifier. -/
def applySchema (db : Database) (now : Int) : Except Error Database :=
  match require (db.uniqueShortIds || db.hasDistinctShortIds) (.notUnique "issues.short_id") with
  | .error e => .error e
  | .ok () =>
    .ok
      { db with
        uniqueShortIds := true
        versions := currentVersions.foldl (recordVersion now) db.versions }

/-- A new database, made at a time. -/
def create (now : Int) : Database where
  uniqueShortIds := true
  versions := currentVersions.map fun version => (version, now)

/-- A new database is what the schema makes of one without any table. -/
theorem applySchema_empty (now : Int) : applySchema {} now = .ok (create now) := rfl

/-- The applied versions with their times, ordered by version. -/
def appliedVersions (db : Database) : List (String × Int) :=
  db.versions.mergeSort fun a b => decide (a.1 ≤ b.1)

end ReviewPipeline.Database
