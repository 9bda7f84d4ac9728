import ReviewPipeline.Encoding

/-!
# Databases as Documents

The record in which a database stands in its file: a list for each table, the two counters, and the
state of the schema. The first member says what the document is, so that no
other text is taken for a database. Rows keep their order and their foreign words; the number of a
project's next issue may be past 32 bits here, since only reading the project refuses it.
-/

namespace ReviewPipeline

open Json

namespace Row

variable {α : Type}

/-- The names of the fields, in the order in which they are written. -/
def fieldNames : List String := ["record", "foreign"]

/-- A row as a record. -/
def toJson (encode : α → Json) (row : Row α) : Json :=
  .obj [("record", encode row.record), ("foreign", ofText? row.foreign)]

/-- Read a row from a record. -/
def ofJson? (decode : Json → Option α) (value : Json) : Option (Row α) := do
  let fields ← value.fields? fieldNames
  return {
    record := ← fields.required "record" decode
    foreign := ← fields.optional "foreign" text? }

end Row

namespace WriteKind

/-- The word of a kind of write. -/
def word : WriteKind → String
  | cursorPut => "cursor_put"
  | cursorClear => "cursor_clear"
  | issueUpdate => "issue_update"
  | issueInsert => "issue_insert"
  | projectInsert => "project_insert"
  | projectUpdate => "project_update"
  | stepInsert => "step_insert"
  | stepUpdate => "step_update"
  | ledgerInsert => "ledger_insert"
  | eventInsert => "event_insert"

/-- The words of kinds of writes; there are no synonyms. -/
def vocabulary : Vocabulary WriteKind where
  label := "kind of write"
  values :=
    [cursorPut, cursorClear, issueUpdate, issueInsert, projectInsert, projectUpdate, stepInsert,
      stepUpdate, ledgerInsert, eventInsert]
  word := word
  synonyms := []

end WriteKind

namespace Database

/-- What the document of a database says that it is. -/
def documentMark : String := "review pipeline database"

/-- The names of the fields of a document, in the order in which they are written. -/
def fieldNames : List String :=
  ["document", "projects", "issues", "steps", "cursors", "ledger", "events", "last_seq",
    "last_event_id", "versions", "unique_short_ids", "blocked"]

/-- A version of the schema with the time at which it was applied. -/
def versionToJson (version : String × Int) : Json :=
  .arr [.str version.1, .int version.2]

/-- Read a version of the schema. -/
def versionOfJson? : Json → Option (String × Int)
  | .arr [.str version, .int time] => some (version, time)
  | _ => none

/-- A database as a document. -/
def toJson (db : Database) : Json :=
  .obj
    [("document", .str documentMark),
      ("projects", .arr (db.projects.map Project.toJson)),
      ("issues", .arr (db.issues.map (Row.toJson Issue.toJson))),
      ("steps", .arr (db.steps.map (Row.toJson Step.toJson))),
      ("cursors", .arr (db.cursors.map (Row.toJson Cursor.toJson))),
      ("ledger", .arr (db.ledger.map LedgerEntry.toJson)),
      ("events", .arr (db.events.map (Row.toJson Event.toJson))),
      ("last_seq", .int db.lastSeq),
      ("last_event_id", .int db.lastEventId),
      ("versions", .arr (db.versions.map versionToJson)),
      ("unique_short_ids", .bool db.uniqueShortIds),
      ("blocked", ofText? (db.blocked.map WriteKind.word))]

/-- Read a database from a document. -/
def ofJson? (value : Json) : Option Database := do
  let fields ← value.fields? fieldNames
  let mark ← fields.required "document" text?
  if mark != documentMark then
    none
  return {
    projects := ← fields.required "projects" (list? (Project.ofJsonWith? int64?))
    issues := ← fields.required "issues" (list? (Row.ofJson? Issue.ofJson?))
    steps := ← fields.required "steps" (list? (Row.ofJson? Step.ofJson?))
    cursors := ← fields.required "cursors" (list? (Row.ofJson? Cursor.ofJson?))
    ledger := ← fields.required "ledger" (list? LedgerEntry.ofJson?)
    events := ← fields.required "events" (list? (Row.ofJson? Event.ofJson?))
    lastSeq := ← fields.required "last_seq" int64?
    lastEventId := ← fields.required "last_event_id" int64?
    versions := ← fields.required "versions" (list? versionOfJson?)
    uniqueShortIds := ← fields.required "unique_short_ids" truth?
    blocked := ← fields.optional "blocked" (word? WriteKind.vocabulary) }

end Database

end ReviewPipeline
